import Mathlib.Data.List.Induction
import ShellDebugger.Proofs.Host.PlainSystem
import ShellDebugger.Proofs.Session.LiveShell

/-!
# Chronicles of a driver

All that is seen of a driver's life, in order: the calls that are answered, the exits of children as
they are published, and the operations that return. From a chronicle alone one can tell what the
driver is: this is its outlook. A chronicle leads to a driver if the driver's operations make its
calls and every question for an exit is answered with what has been published.
-/

namespace ShellDebugger

open Plan

inductive Chronicle.Entry where
  | answered (event : Event)
  /-- The exit of a child is published. -/
  | published (child : ChildId) (exit : Exit)
  | returned (operation : Operation) (answer : Operation.Answer)

abbrev Chronicle := List Chronicle.Entry

namespace Chronicle

def calls (h : Chronicle) : List Event :=
  h.filterMap fun
    | .answered event => some event
    | _ => none

/-- The operations that returned, with their answers. -/
def returns (h : Chronicle) : List (Operation × Operation.Answer) :=
  h.filterMap fun
    | .returned operation answer => some (operation, answer)
    | _ => none

/-! ## The exits of children -/

/-- What is known of the exit of a child after an entry. The first exit that is published counts,
and nothing is known of a child that has just been spawned. -/
def Entry.learn (child : ChildId) (known : Option Exit) : Entry → Option Exit
  | .answered event => if child ∈ spawnedBy event then none else known
  | .published child' exit => if child' = child then known.or (some exit) else known
  | .returned .. => known

/-- The exit of a child that has been published since the child was spawned, if any. -/
def published (h : Chronicle) (child : ChildId) : Option Exit :=
  h.foldl (Entry.learn child) none

/-- Every question for the exit of a child is answered with what has been published. -/
def IsCoherent (h : Chronicle) : Prop :=
  ∀ (before : Chronicle) (child : ChildId) (answer : Option Exit) (after : Chronicle),
    h = before ++ .answered ⟨.exitOf child, answer⟩ :: after → answer = before.published child

/-! ## The outlook -/

/-- The answer of a start, if the operation was one. -/
def startAnswer : Operation × Operation.Answer → Option Operation.Answer
  | (.start, answer) | (.reload, answer) => some answer
  | _ => none

def isLoad : Operation × Operation.Answer → Bool
  | (.load _, .done) => true
  | _ => false

def wasClosed (h : Chronicle) : Bool :=
  h.returns.any (·.1 == .close)

def wasLoaded (h : Chronicle) : Bool :=
  h.returns.any isLoad

/-- What the latest start answered, if there was one. -/
def latestStart (h : Chronicle) : Option Operation.Answer :=
  (h.returns.filterMap startAnswer).getLast?

def shell (h : Chronicle) : Option ChildId :=
  (spawned h.calls).getLast?

def outlook (h : Chronicle) : DriverState :=
  if h.wasClosed then .closed
  else if h.latestStart = some .done then
    match h.shell.bind h.published with
    | some exit => .exited exit
    | none => .running
  else if h.wasLoaded then .loaded
  else .unloaded

/-! ## Chronicles that lead to drivers -/

/-- How the chronicle of a driver goes on: exits are published at any time, also in the middle of an
operation, and operations are performed one after another. -/
inductive Leads (h₀ : Chronicle) (d₀ : Driver) : Chronicle → Driver → Prop
  | refl : Leads h₀ d₀ h₀ d₀
  | published {h : Chronicle} {d : Driver} (child : ChildId) (exit : Exit) :
      Leads h₀ d₀ h d → Leads h₀ d₀ (h ++ [.published child exit]) d
  | performed {h h' : Chronicle} {d d' : Driver} {operation : Operation}
      {answer : Operation.Answer} :
      Leads h₀ d₀ h d → h'.returns = [] → Runs (d.perform operation) h'.calls (answer, d') →
      (h ++ h').IsCoherent → Leads h₀ d₀ (h ++ h' ++ [.returned operation answer]) d'

variable {h h' first rest : Chronicle} {child : ChildId} {exit : Exit}

/-! ## Chronicles that go on -/

theorem calls_append (first rest : Chronicle) : calls (first ++ rest) = calls first ++ calls rest :=
  List.filterMap_append

/-- A chronicle with one call is what is before the call, the call, and what is after it. -/
theorem calls_eq_singleton {event : Event} (hcalls : h.calls = [event]) :
    ∃ before after, h = before ++ .answered event :: after ∧ calls before = [] ∧
      calls after = [] := by
  obtain ⟨before, entry, after, rfl, hbefore, hentry, hafter⟩ :=
    List.filterMap_eq_cons_iff.mp hcalls
  cases entry with
  | answered event' =>
    cases hentry
    exact ⟨before, after, rfl, List.filterMap_eq_nil_iff.mpr hbefore, hafter⟩
  | published | returned => cases hentry

/-- A chronicle can be cut where its calls are cut. -/
theorem exists_append_of_calls {before after : List Event} (hcalls : h.calls = before ++ after) :
    ∃ first rest, h = first ++ rest ∧ calls first = before ∧ calls rest = after := by
  obtain ⟨first, rest, rfl, hfirst, hrest⟩ := List.filterMap_eq_append_iff.mp hcalls
  exact ⟨first, rest, rfl, hfirst, hrest⟩

theorem returns_append (first rest : Chronicle) :
    returns (first ++ rest) = returns first ++ returns rest :=
  List.filterMap_append

theorem published_append (first rest : Chronicle) (child : ChildId) :
    published (first ++ rest) child = rest.foldl (Entry.learn child) (first.published child) :=
  List.foldl_append

theorem wasClosed_append (first rest : Chronicle) :
    wasClosed (first ++ rest) = (first.wasClosed || rest.wasClosed) := by
  rw [wasClosed, returns_append, List.any_append]
  rfl

theorem wasLoaded_append (first rest : Chronicle) :
    wasLoaded (first ++ rest) = (first.wasLoaded || rest.wasLoaded) := by
  rw [wasLoaded, returns_append, List.any_append]
  rfl

theorem latestStart_append (first rest : Chronicle) :
    latestStart (first ++ rest) = rest.latestStart.or first.latestStart := by
  rw [latestStart, returns_append, List.filterMap_append, List.getLast?_append]
  rfl

theorem shell_append (first rest : Chronicle) :
    shell (first ++ rest) = rest.shell.or first.shell := by
  rw [shell, calls_append, spawned_append, List.getLast?_append]
  rfl

/-! An operation that has not returned changes nothing but the shell and what is published. -/

theorem wasClosed_append_of_returns (hreturns : h'.returns = []) :
    (h ++ h').wasClosed = h.wasClosed := by
  rw [wasClosed, returns_append, hreturns, List.append_nil, wasClosed]

theorem wasLoaded_append_of_returns (hreturns : h'.returns = []) :
    (h ++ h').wasLoaded = h.wasLoaded := by
  rw [wasLoaded, returns_append, hreturns, List.append_nil, wasLoaded]

theorem latestStart_append_of_returns (hreturns : h'.returns = []) :
    (h ++ h').latestStart = h.latestStart := by
  rw [latestStart, returns_append, hreturns, List.append_nil, latestStart]

theorem shell_append_of_spawned (hspawned : spawned h'.calls = []) :
    (h ++ h').shell = h.shell := by
  rw [shell, calls_append, spawned_append, hspawned, List.append_nil, shell]

/-! What the return of an operation changes. -/

section Returned

variable (h : Chronicle) (operation : Operation) (answer : Operation.Answer)

theorem wasClosed_returned :
    wasClosed (h ++ [.returned operation answer]) = (h.wasClosed || operation == .close) := by
  rw [wasClosed_append]
  exact congrArg (h.wasClosed || ·) (Bool.or_false _)

theorem wasLoaded_returned :
    wasLoaded (h ++ [.returned operation answer]) =
      (h.wasLoaded || isLoad (operation, answer)) := by
  rw [wasLoaded_append]
  exact congrArg (h.wasLoaded || ·) (Bool.or_false _)

theorem latestStart_returned :
    latestStart (h ++ [.returned operation answer]) =
      (startAnswer (operation, answer)).or h.latestStart := by
  rw [latestStart_append]
  congr 1
  change (List.filterMap startAnswer [(operation, answer)]).getLast? = _
  cases hanswer : startAnswer (operation, answer) <;> simp [hanswer]

theorem shell_returned : shell (h ++ [.returned operation answer]) = h.shell :=
  shell_append_of_spawned rfl

theorem published_returned (child : ChildId) :
    published (h ++ [.returned operation answer]) child = h.published child :=
  published_append h _ child

end Returned

theorem IsCoherent.of_append (h : IsCoherent (first ++ rest)) : first.IsCoherent := by
  rintro before child answer after rfl
  refine h before child answer (after ++ rest) ?_
  rw [List.append_assoc, List.cons_append]

/-- An exit that is published stays as long as no child is spawned. -/
theorem published_append_of_spawned (hpublished : h.published child = some exit)
    (hspawned : spawned h'.calls = []) : (h ++ h').published child = some exit := by
  rw [published_append]
  generalize h.published child = known at hpublished ⊢
  subst hpublished
  induction h' with
  | nil => rfl
  | cons entry rest ih =>
    cases entry with
    | answered event =>
      rw [show calls (.answered event :: rest) = event :: calls rest from rfl, spawned,
        List.flatMap_cons, List.append_eq_nil_iff] at hspawned
      simpa [Entry.learn, hspawned.1] using ih hspawned.2
    | published child' exit' => simpa [Entry.learn] using ih hspawned
    | returned operation answer => simpa [Entry.learn] using ih hspawned

/-- An exit that is known after some entries was known before them, or one of them publishes it. -/
theorem known_or_mem_of_foldl_learn {known : Option Exit}
    (hknown : rest.foldl (Entry.learn child) known = some exit) :
    known = some exit ∨ .published child exit ∈ rest := by
  induction rest generalizing known with
  | nil => exact .inl hknown
  | cons entry rest ih =>
    rcases ih hknown with hlearned | hmem
    · cases entry with
      | answered event =>
        by_cases hspawned : child ∈ spawnedBy event
        · cases (if_pos hspawned).symm.trans hlearned
        · exact .inl ((if_neg hspawned).symm.trans hlearned)
      | published child' exit' =>
        by_cases hchild : child' = child
        · subst hchild
          rcases Option.or_eq_some_iff.mp ((if_pos rfl).symm.trans hlearned) with hold | ⟨-, hnew⟩
          · exact .inl hold
          · obtain rfl := Option.some.inj hnew
            exact .inr List.mem_cons_self
        · exact .inl ((if_neg hchild).symm.trans hlearned)
      | returned operation answer => exact .inl hlearned
    · exact .inr (List.mem_cons_of_mem entry hmem)

/-- No operation returns that ends a session. -/
def KeepsSession (h : Chronicle) : Prop :=
  ∀ result ∈ h.returns, result.1.endsSession = false

theorem keepsSession_append_iff :
    KeepsSession (first ++ rest) ↔ first.KeepsSession ∧ rest.KeepsSession := by
  unfold KeepsSession
  rw [returns_append]
  exact List.forall_mem_append

theorem KeepsSession.wasClosed (hkeeps : h.KeepsSession) : h.wasClosed = false := by
  refine List.any_eq_false.mpr fun result hresult hclose ↦ ?_
  have hends := hkeeps result hresult
  rw [eq_of_beq hclose] at hends
  cases hends

theorem KeepsSession.latestStart (hkeeps : h.KeepsSession) : h.latestStart = none := by
  rw [Chronicle.latestStart, List.getLast?_eq_none_iff, List.filterMap_eq_nil_iff]
  rintro ⟨operation, answer⟩ hresult
  have hends := hkeeps _ hresult
  cases operation <;> first | rfl | cases hends

theorem KeepsSession.of_returns (hreturns : h.returns = []) : h.KeepsSession := by
  unfold KeepsSession
  rw [hreturns]
  exact fun _ ↦ nofun

theorem outlook_eq_exited_iff :
    h.outlook = .exited exit ↔
      h.wasClosed = false ∧ h.latestStart = some .done ∧ h.shell.bind h.published = some exit := by
  unfold outlook
  cases h.wasClosed with
  | true => simp
  | false =>
    by_cases hstart : h.latestStart = some .done
    · cases h.shell.bind h.published <;> simp [hstart]
    · cases h.wasLoaded <;> simp [hstart]

/-- A shell that has exited stays so as long as the session is kept. -/
theorem outlook_append_of_keepsSession (houtlook : h.outlook = .exited exit)
    (hkeeps : h'.KeepsSession) (hspawned : spawned h'.calls = []) :
    (h ++ h').outlook = .exited exit := by
  obtain ⟨hclosed, hstart, hexit⟩ := outlook_eq_exited_iff.mp houtlook
  obtain ⟨child, hshell, hpublished⟩ := Option.bind_eq_some_iff.mp hexit
  refine outlook_eq_exited_iff.mpr ⟨?_, ?_, ?_⟩
  · rw [wasClosed_append, hclosed, hkeeps.wasClosed, Bool.or_false]
  · rw [latestStart_append, hkeeps.latestStart, Option.none_or, hstart]
  · rw [shell_append, shell, hspawned, List.getLast?_nil, Option.none_or, hshell, Option.bind_some]
    exact published_append_of_spawned hpublished hspawned

/-! ## Coherence -/

theorem isCoherent_nil : IsCoherent [] := by
  intro before child answer after heq
  exact absurd heq.symm (List.append_ne_nil_of_right_ne_nil before (List.cons_ne_nil _ after))

/-- A chronicle stays coherent with an entry that, if it answers a question for an exit, answers
with what is published. -/
theorem IsCoherent.concat {entry : Entry} (hcoherent : h.IsCoherent)
    (hentry : ∀ child answer, entry = .answered ⟨.exitOf child, answer⟩ →
      answer = h.published child) : IsCoherent (h ++ [entry]) := by
  intro before child answer after heq
  rcases List.eq_nil_or_concat after with rfl | ⟨after, last, rfl⟩
  · obtain ⟨rfl, hlast⟩ := List.append_inj' heq rfl
    exact hentry child answer (List.singleton_inj.mp hlast)
  · have hconcat : h ++ [entry] =
        (before ++ .answered ⟨.exitOf child, answer⟩ :: after) ++ [last] := by
      simpa using heq
    exact hcoherent before child answer after (List.append_inj' hconcat rfl).1

/-- A chronicle stays coherent as long as no question for an exit is asked. -/
theorem IsCoherent.append (hcoherent : h.IsCoherent)
    (hnone : ∀ child answer, ⟨.exitOf child, answer⟩ ∉ calls h') : IsCoherent (h ++ h') := by
  induction h' using List.reverseRecOn with
  | nil => rwa [List.append_nil]
  | append_singleton h' entry ih =>
    rw [← List.append_assoc]
    refine (ih fun child answer hmem ↦ hnone child answer ?_).concat fun child answer heq ↦ ?_
    · rw [calls_append]
      exact List.mem_append_left _ hmem
    · subst heq
      refine absurd ?_ (hnone child answer)
      rw [calls_append]
      exact List.mem_append_right _ List.mem_cons_self

theorem Leads.isCoherent {h₀ : Chronicle} {d₀ d : Driver} (hleads : Leads h₀ d₀ h d)
    (hcoherent : h₀.IsCoherent) : h.IsCoherent := by
  induction hleads with
  | refl => exact hcoherent
  | published child exit _ ih => exact ih.concat fun _ _ heq ↦ nomatch heq
  | performed _ _ _ hperformed _ => exact hperformed.concat fun _ _ heq ↦ nomatch heq

/-! ## Calls alone -/

/-- The calls of a trace as a chronicle in which nothing else is seen. -/
def ofTrace (trace : List Event) : Chronicle :=
  trace.map .answered

theorem calls_ofTrace (trace : List Event) : (ofTrace trace).calls = trace := by
  unfold calls ofTrace
  rw [List.filterMap_map]
  exact List.filterMap_some

theorem returns_ofTrace (trace : List Event) : (ofTrace trace).returns = [] := by
  unfold returns ofTrace
  rw [List.filterMap_map]
  exact List.filterMap_eq_nil_iff.mpr fun _ _ ↦ rfl

theorem published_ofTrace (trace : List Event) (child : ChildId) :
    (ofTrace trace).published child = none := by
  induction trace with
  | nil => rfl
  | cons event rest ih =>
    have hlearn : Entry.learn child none (.answered event) = none := ite_self none
    rw [published, ofTrace, List.map_cons, List.foldl_cons, hlearn]
    exact ih

/-- Calls that spawn nothing change nothing of what a driver is. -/
theorem outlook_append_ofTrace {trace : List Event} (hspawned : spawned trace = []) :
    outlook (h ++ ofTrace trace) = h.outlook := by
  have hreturns := returns_ofTrace trace
  have hpublished (child : ChildId) :
      published (h ++ ofTrace trace) child = h.published child := by
    rw [published_append]
    induction trace with
    | nil => rfl
    | cons event rest ih =>
      obtain ⟨hevent, hrest⟩ := List.append_eq_nil_iff.mp hspawned
      have hlearn : Entry.learn child (h.published child) (.answered event) =
          h.published child := by
        simp [Entry.learn, hevent]
      rw [ofTrace, List.map_cons, List.foldl_cons, hlearn]
      exact ih hrest (returns_ofTrace rest)
  unfold outlook
  rw [wasClosed_append_of_returns hreturns, latestStart_append_of_returns hreturns,
    wasLoaded_append_of_returns hreturns, shell_append_of_spawned (by rwa [calls_ofTrace]),
    funext hpublished]

/-! ## On plain systems -/

/-- On a plain system no shell exits before it is waited for. -/
theorem isCoherent_ofTrace {trace : List Event}
    (hnone : ∀ child answer, ⟨.exitOf child, answer⟩ ∈ trace → answer = none) :
    IsCoherent (ofTrace trace) := by
  intro before child answer after heq
  obtain ⟨first, rest, rfl, rfl, hrest⟩ := List.map_eq_append_iff.mp heq
  obtain ⟨event, last, rfl, hevent, -⟩ := List.map_eq_cons_iff.mp hrest
  cases hevent
  rw [hnone child answer (List.mem_append_right _ List.mem_cons_self)]
  exact (published_ofTrace first child).symm

theorem isCoherent_ofTrace_plain {α : Type} (system : PlainSystem) (plan : Plan α) :
    IsCoherent (ofTrace (system.trace plan)) :=
  isCoherent_ofTrace fun _ _ hevent ↦ system.answer_of_mem_trace hevent

/-- What an operation on a plain system does to a driver. -/
theorem leads_plain (system : PlainSystem) (d : Driver) (operation : Operation) :
    Leads [] d (ofTrace (system.trace (d.perform operation)) ++
        [.returned operation (system.result (d.perform operation)).1])
      (system.result (d.perform operation)).2 := by
  refine Leads.performed .refl (returns_ofTrace _) ?_ (isCoherent_ofTrace_plain system _)
  have hrun := system.runs (d.perform operation)
  rwa [← calls_ofTrace (system.trace _)] at hrun

end Chronicle
end ShellDebugger
