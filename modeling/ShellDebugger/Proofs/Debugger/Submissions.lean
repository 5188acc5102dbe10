import ShellDebugger.Proofs.Command.Parsing
import ShellDebugger.Proofs.Debugger.Listing
import ShellDebugger.Proofs.Session.LiveShell
import ShellDebugger.Proofs.Session.StartOutcome
import ShellDebugger.Proofs.Text.Fields

/-!
# Submissions

What commands hand to the shell. Words are handed over as one line, and a run hands over the lines
of the source one after another, up to the first that is refused. A driver refuses a text without a
shell, if the shell has exited, and if the shell's queue is closed; it takes every other text. From
how it answers one text follows, by induction, how it answers a number of them.
-/

namespace ShellDebugger

open Plan

namespace Driver

variable {d d' : Driver} {child : ChildId} {text : String} {texts : List String}
  {trace : List Event}

/-! ## One text -/

/-- A driver has a shell, and nothing is known of an exit of it. -/
def IsLive (d : Driver) (child : ChildId) : Prop :=
  ∃ session, d.session = some session ∧ session.child.id = child ∧ session.child.exit = none

/-- What is asked when a live shell takes a text. -/
def acceptance (child : ChildId) (text : String) : List Event :=
  [⟨.exitOf child, (none : Option Exit)⟩, ⟨.send child text, true⟩]

/-- What is asked when a live shell takes a number of texts. -/
def handing (child : ChildId) (texts : List String) : List Event :=
  texts.flatMap (acceptance child)

/-- How a driver refuses a text: what it asks, the reason that it gives, and the driver that knows
what was seen of the shell. -/
inductive Refuses (d : Driver) (text : String) : List Event → SessionError → Driver → Prop
  | vacant : d.session = none → Refuses d text [] .notRunning d
  | knownExit {session : Session} {exit : Exit} :
      d.session = some session → session.child.exit = some exit →
      Refuses d text [] (.shellExited exit) d
  | seenExit {session : Session} (exit : Exit) :
      d.session = some session → session.child.exit = none →
      Refuses d text [⟨.exitOf session.child.id, some exit⟩] (.shellExited exit)
        (d.seeing session (some exit))
  | closedQueue {child : ChildId} : d.IsLive child →
      Refuses d text [⟨.exitOf child, (none : Option Exit)⟩, ⟨.send child text, false⟩] .notRunning
        d

theorem enqueue_of_knownExit {session : Session} {exit : Exit}
    (hsession : d.session = some session) (hexit : session.child.exit = some exit)
    (text : String) : d.enqueue text = pure (.error (.shellExited exit), d) := by
  obtain ⟨pipe, id, executable, streams, known⟩ := session
  obtain rfl : known = some exit := hexit
  simp only [enqueue, observe, recipient, hsession, Child.observe, pure_bind]
  rw [← hsession]

/-- A driver that knows of no exit asks for it, and sends the text if there is none. -/
theorem enqueue_of_unknownExit {session : Session} (hsession : d.session = some session)
    (hlive : session.child.exit = none) (text : String) :
    d.enqueue text = (do
      let answer : Option Exit ← Plan.call (.exitOf session.child.id)
      match answer with
      | some exit => return (.error (.shellExited exit), d.seeing session (some exit))
      | none =>
        let accepted : Bool ← Plan.call (.send session.child.id text)
        return (if accepted then .ok () else .error .notRunning, d)) := by
  obtain ⟨pipe, id, executable, streams, known⟩ := session
  obtain rfl : known = none := hlive
  simp only [enqueue, observe, hsession, Child.observe, bind_assoc, pure_bind]
  congr 1
  funext answer
  cases answer with
  | some exit => rfl
  | none =>
    simp only [recipient]
    rw [← hsession]

/-- A live shell is found live, and then takes the text or does not. -/
theorem IsLive.runs_enqueue (h : d.IsLive child) (text : String) (accepted : Bool) :
    Runs (d.enqueue text) [⟨.exitOf child, (none : Option Exit)⟩, ⟨.send child text, accepted⟩]
      (if accepted then .ok () else .error .notRunning, d) := by
  obtain ⟨session, hsession, rfl, hexit⟩ := h
  rw [enqueue_of_unknownExit hsession hexit]
  exact runs_call_bind_iff.mpr
    ⟨none, _, runs_call_bind_iff.mpr ⟨accepted, [], .done _, rfl⟩, rfl⟩

theorem Refuses.runs_enqueue {e : SessionError} (h : Refuses d text trace e d') :
    Runs (d.enqueue text) trace (.error e, d') := by
  cases h with
  | vacant hsession =>
    rw [enqueue_of_vacant hsession]
    exact .done _
  | knownExit hsession hexit =>
    rw [enqueue_of_knownExit hsession hexit]
    exact .done _
  | seenExit exit hsession hexit =>
    rw [enqueue_of_unknownExit hsession hexit]
    exact runs_call_bind_iff.mpr ⟨some exit, [], .done _, rfl⟩
  | closedQueue hlive => exact hlive.runs_enqueue text false

/-- A text is taken if the shell is live and takes it, and refused otherwise. -/
theorem runs_enqueue_iff {result : Except SessionError Unit} :
    Runs (d.enqueue text) trace (result, d') ↔
      (∃ child, d.IsLive child ∧ trace = acceptance child text ∧ result = .ok () ∧ d' = d) ∨
        ∃ e, Refuses d text trace e d' ∧ result = .error e := by
  constructor
  · intro hrun
    cases hsession : d.session with
    | none =>
      rw [enqueue_of_vacant hsession] at hrun
      obtain ⟨rfl, hresult⟩ := runs_pure_iff.mp hrun
      cases hresult
      exact .inr ⟨_, .vacant hsession, rfl⟩
    | some session =>
      cases hexit : session.child.exit with
      | some exit =>
        rw [enqueue_of_knownExit hsession hexit] at hrun
        obtain ⟨rfl, hresult⟩ := runs_pure_iff.mp hrun
        cases hresult
        exact .inr ⟨_, .knownExit hsession hexit, rfl⟩
      | none =>
        have hlive : d.IsLive session.child.id := ⟨session, hsession, rfl, hexit⟩
        rw [enqueue_of_unknownExit hsession hexit] at hrun
        obtain ⟨answer, rest, hrest, rfl⟩ := runs_call_bind_iff.mp hrun
        cases answer with
        | some exit =>
          obtain ⟨rfl, hresult⟩ := runs_pure_iff.mp hrest
          cases hresult
          exact .inr ⟨_, .seenExit exit hsession hexit, rfl⟩
        | none =>
          obtain ⟨accepted, rest, hlast, rfl⟩ := runs_call_bind_iff.mp hrest
          obtain ⟨rfl, hresult⟩ := runs_pure_iff.mp hlast
          cases hresult
          cases accepted with
          | true => exact .inl ⟨_, hlive, rfl, rfl, rfl⟩
          | false => exact .inr ⟨_, .closedQueue hlive, rfl⟩
  · rintro (⟨child, hlive, rfl, rfl, rfl⟩ | ⟨e, hrefused, rfl⟩)
    · exact hlive.runs_enqueue text true
    · exact hrefused.runs_enqueue

theorem IsLive.eq {child' : ChildId} (h : d.IsLive child) (h' : d.IsLive child') :
    child' = child := by
  obtain ⟨session, hsession, rfl, -⟩ := h
  obtain ⟨session', hsession', rfl, -⟩ := h'
  cases hsession.symm.trans hsession'
  rfl

/-- The shell that takes texts is the one that is live. -/
theorem IsLive.handing_eq {child' : ChildId} (h : d.IsLive child)
    (h' : texts ≠ [] → d.IsLive child') : handing child' texts = handing child texts := by
  by_cases hnil : texts = []
  · rw [hnil]
    rfl
  · rw [h.eq (h' hnil)]

/-! ## Texts one after another -/

/-- How a driver answers texts that are submitted one after another: a live shell takes all of them,
or those before the first that is refused. -/
inductive Submits (d : Driver) :
    List String → List Event → Except SessionError Unit → Driver → Prop
  | all {child : ChildId} {texts : List String} :
      (texts ≠ [] → d.IsLive child) → Submits d texts (handing child texts) (.ok ()) d
  | upTo {child : ChildId} {taken : List String} {text : String} {left : List String}
      {refusal : List Event} {e : SessionError} {d' : Driver} :
      (taken ≠ [] → d.IsLive child) → Refuses d text refusal e d' →
      Submits d (taken ++ text :: left) (handing child taken ++ refusal) (.error e) d'

variable {result : Except SessionError Unit}

theorem submits_nil_iff :
    Submits d [] trace result d' ↔ trace = [] ∧ result = .ok () ∧ d' = d := by
  constructor
  · intro h
    generalize htexts : ([] : List String) = texts at h
    cases h with
    | all hlive =>
      subst htexts
      exact ⟨rfl, rfl, rfl⟩
    | @upTo _ taken => cases taken <;> cases htexts
  · rintro ⟨rfl, rfl, rfl⟩
    exact @Submits.all _ 0 _ fun h ↦ absurd rfl h

/-- The first text is taken and the others are submitted after it, or it is refused. -/
theorem submits_cons_iff :
    Submits d (text :: texts) trace result d' ↔
      (∃ child rest, d.IsLive child ∧ trace = acceptance child text ++ rest ∧
        Submits d texts rest result d') ∨
      ∃ e, Refuses d text trace e d' ∧ result = .error e := by
  constructor
  · intro h
    generalize hall : text :: texts = all at h
    cases h with
    | @all child _ hlive =>
      subst hall
      have hlive := hlive (List.cons_ne_nil text texts)
      exact .inl ⟨child, handing child texts, hlive, rfl, .all fun _ ↦ hlive⟩
    | @upTo child taken first left refusal e d' hlive hrefused =>
      cases taken with
      | nil =>
        cases hall
        exact .inr ⟨e, hrefused, rfl⟩
      | cons first taken =>
        cases hall
        have hlive := hlive (List.cons_ne_nil text taken)
        refine .inl ⟨child, handing child taken ++ refusal, hlive, ?_,
          .upTo (fun _ ↦ hlive) hrefused⟩
        rw [← List.append_assoc]
        rfl
  · rintro (⟨child, rest, hlive, rfl, h⟩ | ⟨e, hrefused, rfl⟩)
    · cases h with
      | @all child' _ hlive' =>
        rw [hlive.handing_eq hlive']
        exact .all fun _ ↦ hlive
      | @upTo child' taken _ left refusal e _ hlive' hrefused =>
        rw [hlive.handing_eq hlive', ← List.append_assoc]
        exact @Submits.upTo _ child (text :: taken) _ _ _ _ _ (fun _ ↦ hlive) hrefused
    · exact @Submits.upTo _ 0 [] _ _ _ _ _ (fun h ↦ absurd rfl h) hrefused

/-- The loop over lines submits each of them with a line feed at its end. -/
theorem runs_submitLines_iff {lines : List String} :
    Runs (Debugger.submitLines d lines) trace (result, d') ↔
      Submits d (lines.map terminated) trace result d' := by
  induction lines generalizing trace with
  | nil => rw [Debugger.submitLines, runs_pure_iff, List.map_nil, submits_nil_iff, Prod.mk.injEq]
  | cons line lines ih =>
    rw [Debugger.submitLines, runs_bind_iff, List.map_cons, submits_cons_iff]
    constructor
    · rintro ⟨first, ⟨answer, driver⟩, rest, hline, hrest, rfl⟩
      rcases runs_enqueue_iff.mp hline with
        ⟨child, hlive, rfl, rfl, rfl⟩ | ⟨e, hrefused, rfl⟩
      · exact .inl ⟨child, rest, hlive, rfl, ih.mp hrest⟩
      · obtain ⟨rfl, hresult⟩ := runs_pure_iff.mp hrest
        cases hresult
        rw [List.append_nil]
        exact .inr ⟨e, hrefused, rfl⟩
    · rintro (⟨child, rest, hlive, rfl, hrest⟩ | ⟨e, hrefused, rfl⟩)
      · exact ⟨_, (.ok (), d), rest,
          runs_enqueue_iff.mpr (.inl ⟨child, hlive, rfl, rfl, rfl⟩), ih.mpr hrest, rfl⟩
      · exact ⟨trace, (.error e, d'), [], runs_enqueue_iff.mpr (.inr ⟨e, hrefused, rfl⟩),
          .done _, (List.append_nil trace).symm⟩

/-- The lines that words make: one, or none if there are no words. -/
def linesOfWords (words : List String) : List String :=
  if words = [] then [] else [" ".intercalate words ++ "\n"]

/-- Words are submitted as one line. -/
theorem runs_submit_iff {words : List String} :
    Runs (d.submit words) trace (result, d') ↔
      Submits d (linesOfWords words) trace result d' := by
  cases words with
  | nil =>
    rw [linesOfWords, if_pos rfl, submits_nil_iff, ← Prod.mk.injEq]
    exact runs_pure_iff
  | cons word words =>
    rw [linesOfWords, if_neg (List.cons_ne_nil word words), submits_cons_iff]
    change Runs (d.enqueue (lineOfWords (word :: words))) trace (result, d') ↔ _
    rw [runs_enqueue_iff]
    refine or_congr_left ⟨?_, ?_⟩
    · rintro ⟨child, hlive, rfl, rfl, rfl⟩
      exact ⟨child, [], hlive, rfl, submits_nil_iff.mpr ⟨rfl, rfl, rfl⟩⟩
    · rintro ⟨child, rest, hlive, rfl, h⟩
      obtain ⟨rfl, rfl, rfl⟩ := submits_nil_iff.mp h
      exact ⟨child, hlive, rfl, rfl, rfl⟩

/-! ## What is handed over -/

/-- The text that an event tries to hand over, if any, whether or not it is taken. -/
def triedBy : Event → Option String
  | ⟨.send _ text, _⟩ => some text
  | _ => none

def tried (trace : List Event) : List String :=
  trace.filterMap triedBy

theorem tried_append (first rest : List Event) :
    tried (first ++ rest) = tried first ++ tried rest :=
  List.filterMap_append

@[simp] theorem handed_handing (child : ChildId) (texts : List String) :
    Debugger.handed (handing child texts) = texts.map (child, ·) := by
  induction texts with
  | nil => rfl
  | cons text texts ih => exact congrArg ((child, text) :: ·) ih

@[simp] theorem tried_handing (child : ChildId) (texts : List String) :
    tried (handing child texts) = texts := by
  induction texts with
  | nil => rfl
  | cons text texts ih => exact congrArg (text :: ·) ih

/-- A text that is refused is not handed over, and no other is tried. -/
theorem Refuses.tried_eq {e : SessionError} (h : Refuses d text trace e d') :
    Debugger.handed trace = [] ∧ (tried trace = [] ∨ tried trace = [text]) := by
  cases h with
  | vacant | knownExit | seenExit => exact ⟨rfl, .inl rfl⟩
  | closedQueue => exact ⟨rfl, .inr rfl⟩

/-- Texts that are submitted are handed over in order to the live shell, all of them or exactly
those before the first that is refused, and none is tried after that. -/
theorem Submits.handed_eq (h : Submits d texts trace result d') :
    (result = .ok () ∧ d' = d ∧ ∃ child, (texts ≠ [] → d.IsLive child) ∧
      trace = handing child texts ∧ Debugger.handed trace = texts.map (child, ·) ∧
      tried trace = texts) ∨
    ∃ taken text left refusal e child, texts = taken ++ text :: left ∧
      Refuses d text refusal e d' ∧ result = .error e ∧ (taken ≠ [] → d.IsLive child) ∧
      trace = handing child taken ++ refusal ∧ Debugger.handed trace = taken.map (child, ·) ∧
      (tried trace = taken ∨ tried trace = taken ++ [text]) := by
  cases h with
  | @all child texts hlive =>
    exact .inl ⟨rfl, rfl, child, hlive, rfl, handed_handing child texts,
      tried_handing child texts⟩
  | @upTo child taken text left refusal e _ hlive hrefused =>
    obtain ⟨hhanded, htried⟩ := hrefused.tried_eq
    refine .inr ⟨taken, text, left, refusal, e, child, rfl, hrefused, rfl, hlive, rfl, ?_, ?_⟩
    · rw [Debugger.handed_append, hhanded, handed_handing, List.append_nil]
    · rw [tried_append, tried_handing]
      rcases htried with htried | htried
      · exact .inl (by rw [htried, List.append_nil])
      · exact .inr (by rw [htried])

end Driver

/-! ## Lines with one line feed -/

theorem newline_notMem_intercalate {words : List String}
    (hwords : ∀ word ∈ words, '\n' ∉ word.toList) : '\n' ∉ (" ".intercalate words).toList := by
  rw [String.toList_intercalate]
  induction words with
  | nil => exact List.not_mem_nil
  | cons word words ih =>
    obtain ⟨hword, hrest⟩ := List.forall_mem_cons.mp hwords
    cases words with
    | nil => simpa using hword
    | cons next words =>
      have hblank : '\n' ∉ " ".toList := by decide
      rw [List.map_cons, List.intercalate_cons_of_ne_nil (by simp)]
      simp only [List.mem_append, not_or]
      exact ⟨⟨hword, hblank⟩, ih hrest⟩

/-- A text without line feeds that gets one at its end has one. -/
theorem count_newline_append {text : String} (h : '\n' ∉ text.toList) :
    (text ++ "\n").toList.count '\n' = 1 := by
  rw [String.toList_append, List.count_append, List.count_eq_zero.mpr h]
  rfl

/-- A line is read as words to be sent if they stand behind the name of the command. -/
theorem Command.parse_eq_send_iff {line : String} {words : List String} :
    parse line = some (.send words) ↔ fields line = "do" :: words := by
  rw [parse_eq_some_iff]
  constructor
  · rintro ⟨name, arguments, hfields, ⟨⟩⟩
    exact hfields
  · intro hfields
    exact ⟨"do", words, hfields, .send words⟩

theorem newline_notMem_of_mem_fields {line word : String} (hword : word ∈ fields line) :
    '\n' ∉ word.toList := by
  obtain ⟨chars, hchars, rfl⟩ := List.mem_map.mp hword
  intro hmem
  rw [String.toList_ofList] at hmem
  have hspace := Fields.isUnspaced_of_mem_ofChars hchars '\n' hmem
  cases hspace

/-! ## Commands that submit -/

namespace Debugger

variable {d : Debugger} {output : Output} {trace : List Event}
  {result : Except CommandError Flow × Debugger × Output}

/-- A command ends as its submission of texts to the driver does. -/
def EndsAs (d : Debugger) (output : Output) (texts : List String) (trace : List Event)
    (result : Except CommandError Flow × Debugger × Output) : Prop :=
  ∃ submitted driver, d.driver.Submits texts trace submitted driver ∧
    result = ((submitted.mapError CommandError.session).map fun _ ↦ .goOn,
      { d with driver := driver }, output)

theorem runs_send_iff {words : List String} :
    Runs (d.execute (.send words) output) trace result ↔
      d.EndsAs output (Driver.linesOfWords words) trace result := by
  unfold execute EndsAs
  rw [runs_bind_pure_iff]
  constructor
  · rintro ⟨⟨submitted, driver⟩, hrun, rfl⟩
    exact ⟨submitted, driver, Driver.runs_submit_iff.mp hrun, rfl⟩
  · rintro ⟨submitted, driver, hsubmits, rfl⟩
    exact ⟨(submitted, driver), Driver.runs_submit_iff.mpr hsubmits, rfl⟩

/-- The lines of a content, each with a line feed at its end. -/
def linesOfContent (content : Bytes) : List String :=
  (Lines.ofContent content).map (· ++ "\n")

theorem map_terminated_ofContent (content : Bytes) :
    (Lines.ofContent content).map Driver.terminated = linesOfContent content := by
  apply List.map_congr_left
  intro line hline
  exact Driver.terminated_eq (Lines.newline_notMem_ofContent hline)

/-- With a source, its lines are submitted once they are read. -/
theorem runs_runSource_iff {path : Path} (hsource : d.driver.source = some path)
    {ran : Except CommandError Unit × Debugger} :
    Runs d.runSource trace ran ↔
      (∃ content rest submitted driver, trace = ⟨.read path, Except.ok content⟩ :: rest ∧
        d.driver.Submits (linesOfContent content) rest submitted driver ∧
        ran = d.withDriver (submitted, driver)) ∨
      ∃ cause, trace = [⟨.read path, Except.error cause⟩] ∧
        ran = (.error (.source (.io cause)), d) := by
  unfold runSource
  rw [hsource]
  constructor
  · intro hrun
    obtain ⟨answer, rest, hrest, rfl⟩ := runs_call_bind_iff.mp hrun
    cases answer with
    | error cause =>
      obtain ⟨rfl, rfl⟩ := runs_pure_iff.mp hrest
      exact .inr ⟨cause, rfl, rfl⟩
    | ok content =>
      obtain ⟨⟨submitted, driver⟩, hlines, rfl⟩ := runs_bind_pure_iff.mp hrest
      rw [Driver.runs_submitLines_iff, map_terminated_ofContent] at hlines
      exact .inl ⟨content, rest, submitted, driver, rfl, hlines, rfl⟩
  · rintro (⟨content, rest, submitted, driver, rfl, hlines, rfl⟩ | ⟨cause, rfl, rfl⟩)
    · rw [← map_terminated_ofContent, ← Driver.runs_submitLines_iff] at hlines
      exact runs_call_bind_iff.mpr ⟨.ok content, rest,
        runs_bind_pure_iff.mpr ⟨(submitted, driver), hlines, rfl⟩, rfl⟩
    · exact runs_call_bind_iff.mpr ⟨.error cause, [], .done _, rfl⟩

theorem runs_run_iff {path : Path} (hsource : d.driver.source = some path) :
    Runs (d.execute .run output) trace result ↔
      (∃ content rest, trace = ⟨.read path, Except.ok content⟩ :: rest ∧
        d.EndsAs output (linesOfContent content) rest result) ∨
      ∃ cause, trace = [⟨.read path, Except.error cause⟩] ∧
        result = (.error (.source (.io cause)), d, output) := by
  unfold execute
  rw [runs_bind_pure_iff]
  constructor
  · rintro ⟨ran, hrun, rfl⟩
    rcases (runs_runSource_iff hsource).mp hrun with
      ⟨content, rest, submitted, driver, rfl, hlines, rfl⟩ | ⟨cause, rfl, rfl⟩
    · exact .inl ⟨content, rest, rfl, submitted, driver, hlines, rfl⟩
    · exact .inr ⟨cause, rfl, rfl⟩
  · rintro (⟨content, rest, rfl, submitted, driver, hlines, rfl⟩ | ⟨cause, rfl, rfl⟩)
    · exact ⟨_, (runs_runSource_iff hsource).mpr
        (.inl ⟨content, rest, submitted, driver, rfl, hlines, rfl⟩), rfl⟩
    · exact ⟨_, (runs_runSource_iff hsource).mpr (.inr ⟨cause, rfl, rfl⟩), rfl⟩

/-- Without a source there is nothing to run. -/
theorem runs_run_of_none (hsource : d.driver.source = none) :
    Runs (d.execute .run output) trace result ↔
      trace = [] ∧ result = (.error (.source .notLoaded), d, output) := by
  have hrun : d.runSource = pure (.error (.source .notLoaded), d) := by
    unfold runSource
    rw [hsource]
  unfold execute
  simp only [hrun, pure_bind]
  exact runs_pure_iff

/-- A live shell that takes every text gets all of them. -/
theorem endsAs_handing {child : ChildId} (hlive : d.driver.IsLive child) (texts : List String) :
    d.EndsAs output texts (Driver.handing child texts) (.ok .goOn, d, output) :=
  ⟨.ok (), d.driver, .all fun _ ↦ hlive, rfl⟩

theorem newline_once_of_mem_linesOfWords {line : String} {words : List String}
    (hparse : Command.parse line = some (.send words)) :
    ∀ text ∈ Driver.linesOfWords words, text.toList.count '\n' = 1 := by
  intro text htext
  have hfields := Command.parse_eq_send_iff.mp hparse
  have hwords : ∀ word ∈ words, '\n' ∉ word.toList := by
    intro word hword
    apply newline_notMem_of_mem_fields
    rw [hfields]
    exact List.mem_cons_of_mem _ hword
  rw [Driver.linesOfWords] at htext
  split at htext
  · cases htext
  · rw [List.mem_singleton.mp htext]
    exact count_newline_append (newline_notMem_intercalate hwords)

theorem newline_once_of_mem_linesOfContent {content : Bytes} :
    ∀ text ∈ linesOfContent content, text.toList.count '\n' = 1 := by
  intro text htext
  obtain ⟨line, hline, rfl⟩ := List.mem_map.mp htext
  exact count_newline_append (Lines.newline_notMem_ofContent hline)

/-- The words of an operator's line are submitted as one line, with single spaces between them, or
not at all if there are none; a run submits the lines of the source, if it can be read. Each
submitted text has exactly one line feed. All of them are handed over in order to the live shell, or
exactly those before the first that is refused, whose reason the command then gives; none is tried
after that. -/
theorem run_and_send_hand_over (d : Debugger) (output : Output) :
    (∀ line words, Command.parse line = some (.send words) →
      (∀ text ∈ Driver.linesOfWords words, text.toList.count '\n' = 1) ∧
      ∀ trace result, Runs (d.execute (.send words) output) trace result ↔
        d.EndsAs output (Driver.linesOfWords words) trace result) ∧
    (∀ path, d.driver.source = some path → ∀ trace result,
      Runs (d.execute .run output) trace result ↔
        (∃ content rest, trace = ⟨.read path, Except.ok content⟩ :: rest ∧
          d.EndsAs output (linesOfContent content) rest result) ∨
        ∃ cause, trace = [⟨.read path, Except.error cause⟩] ∧
          result = (.error (.source (.io cause)), d, output)) ∧
    (d.driver.source = none → ∀ trace result, Runs (d.execute .run output) trace result ↔
      trace = [] ∧ result = (.error (.source .notLoaded), d, output)) ∧
    (∀ content, ∀ text ∈ linesOfContent content, text.toList.count '\n' = 1) ∧
    (∀ texts child, d.driver.IsLive child →
      d.EndsAs output texts (Driver.handing child texts) (.ok .goOn, d, output)) ∧
    ∀ texts trace result, d.EndsAs output texts trace result →
      (result = (.ok .goOn, d, output) ∧ ∃ child, (texts ≠ [] → d.driver.IsLive child) ∧
        trace = Driver.handing child texts ∧ handed trace = texts.map (child, ·) ∧
        Driver.tried trace = texts) ∨
      ∃ taken text left refusal e driver child, texts = taken ++ text :: left ∧
        d.driver.Refuses text refusal e driver ∧
        result = (.error (.session e), { d with driver := driver }, output) ∧
        (taken ≠ [] → d.driver.IsLive child) ∧ trace = Driver.handing child taken ++ refusal ∧
        handed trace = taken.map (child, ·) ∧
        (Driver.tried trace = taken ∨ Driver.tried trace = taken ++ [text]) := by
  refine ⟨fun line words hparse ↦
      ⟨newline_once_of_mem_linesOfWords hparse, fun _ _ ↦ runs_send_iff⟩,
    fun path hsource _ _ ↦ runs_run_iff hsource, fun hsource _ _ ↦ runs_run_of_none hsource,
    fun _ ↦ newline_once_of_mem_linesOfContent, fun texts _ hlive ↦ endsAs_handing hlive texts, ?_⟩
  rintro texts trace result ⟨submitted, driver, hsubmits, rfl⟩
  rcases hsubmits.handed_eq with ⟨rfl, rfl, child, hlive, htrace⟩ |
    ⟨taken, text, left, refusal, e, child, htexts, hrefused, rfl, hlive, htrace⟩
  · exact .inl ⟨rfl, child, hlive, htrace⟩
  · exact .inr ⟨taken, text, left, refusal, e, driver, child, htexts, hrefused, rfl, hlive, htrace⟩

/-- Two words are sent as one line, and of a source of three lines the second is refused. -/
theorem run_and_send_hand_over_second_refused :
    let d := startedOn ⟨[0x63]⟩
    let output : Output := ⟨.unlimited, .unlimited⟩
    let content : Bytes := [0x61, 0x0A, 0x62, 0x0D, 0x0A, 0x63]
    Command.parse " do  echo\thi " = some (.send ["echo", "hi"]) ∧
      Runs (d.execute (.send ["echo", "hi"]) output) (Driver.acceptance 0 "echo hi\n")
        (.ok .goOn, d, output) ∧
      Runs (d.execute .run output)
        (⟨.read ⟨[0x63]⟩, Except.ok content⟩ :: (Driver.acceptance 0 "a\n" ++
          [⟨.exitOf 0, (none : Option Exit)⟩, ⟨.send 0 "b\n", false⟩]))
        (.error (.session .notRunning), d, output) := by
  intro d output content
  have hparse : Command.parse " do  echo\thi " = some (.send ["echo", "hi"]) := by decide
  have hlive : d.driver.IsLive 0 := ⟨_, rfl, rfl, rfl⟩
  obtain ⟨hsend, hrun, -, -, htaken, -⟩ := run_and_send_hand_over d output
  refine ⟨hparse, ((hsend _ _ hparse).2 _ _).mpr (htaken ["echo hi\n"] 0 hlive), ?_⟩
  have hlines : linesOfContent content = ["a\n"] ++ "b\n" :: ["c\n"] := by decide
  refine (hrun ⟨[0x63]⟩ rfl _ _).mpr (.inl ⟨content, _, rfl, .error .notRunning, d.driver, ?_, rfl⟩)
  rw [hlines]
  exact .upTo (fun _ ↦ hlive) (.closedQueue hlive)

end Debugger

end ShellDebugger
