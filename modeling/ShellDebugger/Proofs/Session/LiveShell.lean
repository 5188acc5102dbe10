import ShellDebugger.Proofs.Session.Holdings
import ShellDebugger.Proofs.Session.Source

/-!
# The shell of a driver

Which shell a driver is left with by its operations, and what is seen of it. A start that succeeds
leaves the shell that was spawned last, and nothing else spawns one. To say what it is, and to hand
over a line, a driver looks whether its shell has exited; what it answers follows from what it is
then seen to be.
-/

namespace ShellDebugger

open Plan

/-! ## Which shell an operation leaves -/

section Shell

variable {past : List Event} {d : Driver}

/-- The child was spawned last, and nothing is known of its end. -/
def IsLatest (child : Child) (past : List Event) : Prop :=
  (spawned past).getLast? = some child.id ∧ child.exit = none

theorem ensures_call_spawned {c : Call} (hidle : ∀ answer, spawnedBy ⟨c, answer⟩ = []) :
    Ensures .any (Plan.call c) past fun _ past' ↦ spawned past' = spawned past := by
  intro answer _
  refine ⟨trivial, ?_⟩
  change spawned (past ++ [⟨c, answer⟩]) = spawned past
  rw [spawned_append, show spawned [⟨c, answer⟩] = [] by simp [spawned, hidle answer],
    List.append_nil]

theorem IsLatest.ensures_call {child : Child} (h : IsLatest child past) {c : Call}
    (hidle : ∀ answer, spawnedBy ⟨c, answer⟩ = []) :
    Ensures .any (Plan.call c) past fun _ past' ↦ IsLatest child past' :=
  (ensures_call_spawned hidle).mono fun _ past' hspawned ↦ by
    unfold IsLatest
    rwa [hspawned]

theorem IsLatest.ensures_startRelay {child : Child} (h : IsLatest child past) (d : Driver)
    (stream : Stream) :
    Ensures .any (d.startRelay child stream) past fun child' past' ↦ IsLatest child' past' := by
  have htaken : IsLatest (child.take stream).2 past := h
  unfold Driver.startRelay
  split
  · dsimp only
    split
    · exact (htaken.ensures_call fun _ ↦ rfl).bind fun _ _ h ↦ h
    · exact htaken
  · exact h

theorem IsLatest.ensures_startRelays {child : Child} (h : IsLatest child past) (d : Driver) :
    Ensures .any (d.startRelays child) past fun child' past' ↦ IsLatest child' past' :=
  (h.ensures_startRelay d .stdout).bind fun _ _ h ↦ h.ensures_startRelay d .stderr

/-- The shell of a session that was started is the child that was spawned last. -/
theorem ensures_startSession_latest (d : Driver) :
    Ensures .any d.startSession past fun result past' ↦
      ∀ session, result = .ok session → IsLatest session.child past' := by
  unfold Driver.startSession
  refine ensures_any_bind fun made past ↦ ?_
  cases made with
  | error e => exact fun _ ↦ nofun
  | ok pipe =>
    refine ensures_bind_iff.mpr (ensures_bind_iff.mpr fun answer _ ↦ ⟨trivial, ?_⟩)
    cases answer with
    | error cause => exact ensures_any_bind fun _ _ _ ↦ nofun
    | ok id =>
      have hlatest : IsLatest ⟨id, d.settings.shell, d.sinks, none⟩
          (past ++ [⟨.spawn d.settings.shell [pipe.path.octets] d.sinks, .ok id⟩]) := by
        refine ⟨?_, rfl⟩
        rw [spawned_append]
        exact List.getLast?_concat
      refine (hlatest.ensures_startRelays d).bind fun child past hlatest ↦ ?_
      refine (hlatest.ensures_call fun _ ↦ rfl).bind fun polls past hlatest ↦ ?_
      split
      · refine (hlatest.ensures_call fun _ ↦ rfl).bind fun _ _ hlatest ↦ ?_
        rintro session ⟨⟩
        exact hlatest
      · exact ensures_any_bind fun _ _ ↦ ensures_any_bind fun _ _ _ ↦ nofun

/-- A start of a driver that is not closed leaves the new session, or none. -/
theorem ensures_start_session (hopen : d.closed = false) :
    Ensures .any d.start past fun result past' ↦
      match result with
      | (.ok _, d') => ∃ session, d' = { d with session := some session } ∧
          IsLatest session.child past'
      | (.error _, d') => d' = { d with session := none } := by
  unfold Driver.start
  rw [if_neg (by rw [hopen]; exact Bool.false_ne_true)]
  refine (Driver.ensures_withoutSession_eq d).bind fun d' past hd' ↦ ?_
  subst hd'
  refine (ensures_startSession_latest _).bind fun result past hlatest ↦ ?_
  cases result with
  | ok session => exact ⟨session, rfl, hlatest session rfl⟩
  | error e => rfl

theorem ensures_checkSource_spawned (path : Path) :
    Ensures .any (Driver.checkSource path) past fun _ past' ↦ spawned past' = spawned past := by
  unfold Driver.checkSource
  refine (ensures_call_spawned fun _ ↦ rfl).bind fun answer past' h ↦ ?_
  split
  · exact h
  · exact h
  · split <;> exact h

/-- A load spawns nothing. -/
theorem ensures_load_spawned (d : Driver) (path : Path) :
    Ensures .any (d.load path) past fun _ past' ↦ spawned past' = spawned past := by
  unfold Driver.load
  cases d.closed with
  | true => rfl
  | false =>
    refine (ensures_checkSource_spawned path).bind fun checked _ h ↦ ?_
    cases checked <;> exact h

end Shell

/-! ## What a look at the shell shows -/

section Look

variable {d d' : Driver} {trace : List Event}

/-- There is nothing new to be seen of the shell: there is none, or its exit has been seen. -/
def Driver.HasSeenAll (d : Driver) : Prop :=
  ∀ session, d.session = some session → session.child.exit ≠ none

/-- The driver with what was seen of its session's child. -/
def Driver.seeing (d : Driver) (session : Session) (seen : Option Exit) : Driver :=
  { d with session := some { session with child := { session.child with exit := seen } } }

/-- A driver asks for the exit of its shell, unless it has seen it. -/
theorem runs_driver_observe (hrun : Runs d.observe trace d') :
    (d.HasSeenAll ∧ trace = [] ∧ d' = d) ∨
      ∃ session answer, d.session = some session ∧
        trace = [⟨.exitOf session.child.id, answer⟩] ∧ d' = d.seeing session answer := by
  unfold Driver.observe at hrun
  cases hsession : d.session with
  | none =>
    rw [hsession] at hrun
    cases hrun
    refine .inl ⟨fun session hsome ↦ ?_, rfl, rfl⟩
    cases hsession.symm.trans hsome
  | some session =>
    rw [hsession] at hrun
    unfold Child.observe at hrun
    cases hexit : session.child.exit with
    | some exit =>
      simp only [hexit] at hrun
      cases hrun
      refine .inl ⟨fun session' hsome ↦ ?_, rfl, ?_⟩
      · cases hsession.symm.trans hsome
        rw [hexit]
        exact nofun
      · rw [← hsession]
    | none =>
      simp only [hexit] at hrun
      cases hrun with
      | ask answer hrun =>
        cases hrun
        exact .inr ⟨session, answer, rfl, rfl, rfl⟩

/-- A look can always be taken, whatever is published. -/
theorem exists_runs_observe (d : Driver) (published : ChildId → Option Exit) :
    ∃ trace d', Runs d.observe trace d' ∧
      (trace = [] ∨ ∃ child, trace = [⟨.exitOf child, published child⟩]) := by
  unfold Driver.observe
  cases d.session with
  | none => exact ⟨[], d, .done d, .inl rfl⟩
  | some session =>
    unfold Child.observe
    dsimp only
    cases session.child.exit with
    | some exit => exact ⟨[], _, .done _, .inl rfl⟩
    | none =>
      let id := session.child.id
      refine ⟨_, d.seeing session (published id), ?_, .inr ⟨id, rfl⟩⟩
      exact @Runs.ask _ (.exitOf id) _ (published id) _ _ (.done _)

/-- A driver says what it is after it has looked at its shell, unless it is closed. -/
theorem runs_status_iff {result : DriverState × Driver} :
    Runs d.status trace result ↔
      ∃ d', Runs (if d.closed then pure d else d.observe) trace d' ∧ result = (d'.state, d') := by
  rw [← runs_bind_pure_iff]
  unfold Driver.status
  cases d.closed <;> rfl

/-- Who gets a line follows from what the driver is. -/
theorem Driver.recipient_eq (d : Driver) (hvacant : d.closed = true → d.session = none) :
    match d.state with
    | .running => ∃ child, d.recipient = .ok child
    | .exited exit => d.recipient = .error (.shellExited exit)
    | .unloaded | .loaded | .closed => d.recipient = .error .notRunning := by
  unfold state recipient
  cases hclosed : d.closed with
  | true =>
    rw [hvacant hclosed]
    rfl
  | false =>
    cases hsession : d.session with
    | none => cases d.source <;> rfl
    | some session =>
      cases hexit : session.child.exit with
      | some exit =>
        simp only [hexit]
        rfl
      | none =>
        simp only [hexit]
        exact ⟨session.child.id, rfl⟩

/-- How a driver that is seen to be in a state answers a line, and that a line that is not taken
does not get into a queue. -/
structure AnswersLine (state : DriverState) (result : Except SessionError Unit)
    (trace : List Event) : Prop where
  exited : ∀ exit, result = .error (.shellExited exit) ↔ state = .exited exit
  idle : state = .unloaded ∨ state = .loaded ∨ state = .closed → result = .error .notRunning
  running : result = .ok () → state = .running
  refused : ∀ e, result = .error e → ∀ child line,
    (⟨.send child line, (true : Bool)⟩ : Event) ∉ trace

/-- To hand over a line is to look at the shell and then, if it runs, to send the line. -/
theorem runs_enqueue {line : String} {result : Except SessionError Unit × Driver}
    (hrun : Runs (d.enqueue line) trace result) :
    ∃ look rest, trace = look ++ rest ∧ Runs d.observe look result.2 ∧ spawned rest = [] ∧
      ((∃ e, result.2.recipient = .error e ∧ result.1 = .error e ∧ rest = []) ∨
        ∃ (child : ChildId) (accepted : Bool), result.2.recipient = .ok child ∧
          rest = [⟨.send child line, accepted⟩] ∧
          result.1 = if accepted then .ok () else .error .notRunning) := by
  unfold Driver.enqueue at hrun
  obtain ⟨look, d₁, rest, hlook, hrest, rfl⟩ := runs_bind_iff.mp hrun
  cases hrecipient : d₁.recipient with
  | error e =>
    simp only [hrecipient] at hrest
    obtain ⟨rfl, rfl⟩ := runs_pure_iff.mp hrest
    exact ⟨look, [], rfl, hlook, rfl, .inl ⟨e, hrecipient, rfl, rfl⟩⟩
  | ok child =>
    simp only [hrecipient] at hrest
    cases hrest with
    | ask accepted hrest =>
      cases hrest
      exact ⟨look, _, rfl, hlook, rfl, .inr ⟨child, accepted, hrecipient, rfl, rfl⟩⟩

/-- What a driver answers to a line follows from what it is when it looks at its shell. -/
theorem answersLine_of_runs_enqueue {line : String} {result : Except SessionError Unit × Driver}
    (hrun : Runs (d.enqueue line) trace result)
    (hvacant : result.2.closed = true → result.2.session = none) :
    AnswersLine result.2.state result.1 trace := by
  obtain ⟨look, rest, rfl, hlook, -, hrest⟩ := runs_enqueue hrun
  have hrecipient := result.2.recipient_eq hvacant
  have hlooked (child : ChildId) (line : String) :
      (⟨.send child line, (true : Bool)⟩ : Event) ∉ look := by
    rcases runs_driver_observe hlook with ⟨-, rfl, -⟩ | ⟨_, _, -, rfl, -⟩
    · exact List.not_mem_nil
    · exact fun hmem ↦ nomatch congrArg Event.call (List.mem_singleton.mp hmem)
  rcases hrest with ⟨e, hrefused, hanswer, rfl⟩ | ⟨child, accepted, hsent, rfl, hanswer⟩
  · rw [hanswer]
    rw [hrefused] at hrecipient
    rw [List.append_nil]
    exact {
      exited := fun exit ↦ by cases hstate : result.2.state <;> simp_all
      idle := by rintro (hstate | hstate | hstate) <;> simp_all
      running := nofun
      refused := fun _ _ ↦ hlooked }
  · rw [hsent] at hrecipient
    have hstate : result.2.state = .running := by
      cases hstate : result.2.state <;> simp_all
    rw [hstate, hanswer]
    cases accepted with
    | false =>
      exact {
        exited := fun exit ↦ ⟨nofun, nofun⟩
        idle := fun _ ↦ rfl
        running := nofun
        refused := fun _ _ child' line' hmem ↦ by
          rcases List.mem_append.mp hmem with hmem | hmem
          · exact hlooked child' line' hmem
          · cases List.mem_singleton.mp hmem }
    | true =>
      exact {
        exited := fun exit ↦ ⟨nofun, nofun⟩
        idle := by rintro (h | h | h) <;> cases h
        running := fun _ ↦ rfl
        refused := nofun }

end Look

/-! ## Operations that keep the session -/

/-- Whether an operation ends the session that is there. -/
def Operation.endsSession : Operation → Bool
  | .start | .reload | .close => true
  | _ => false

section Keeping

variable {d d' : Driver} {trace : List Event}

theorem spawned_of_runs_observe (hrun : Runs d.observe trace d') : spawned trace = [] := by
  rcases runs_driver_observe hrun with ⟨-, rfl, -⟩ | ⟨_, _, -, rfl, -⟩ <;> rfl

theorem spawned_of_runs_enqueue {line : String} {result : Except SessionError Unit × Driver}
    (hrun : Runs (d.enqueue line) trace result) : spawned trace = [] := by
  obtain ⟨look, rest, rfl, hlook, hrest, -⟩ := runs_enqueue hrun
  rw [spawned_append, spawned_of_runs_observe hlook, hrest, List.append_nil]

theorem spawned_of_runs_status {result : DriverState × Driver}
    (hrun : Runs d.status trace result) : spawned trace = [] := by
  obtain ⟨d', hlook, -⟩ := runs_status_iff.mp hrun
  split at hlook
  · rw [(runs_pure_iff.mp hlook).1]
    rfl
  · exact spawned_of_runs_observe hlook

/-- An operation that does not end the session spawns nothing. -/
theorem spawned_of_runs_perform {operation : Operation} {result : Operation.Answer × Driver}
    (hkeeps : operation.endsSession = false) (hrun : Runs (d.perform operation) trace result) :
    spawned trace = [] := by
  obtain ⟨answer, d'⟩ := result
  cases operation with
  | load path =>
    obtain ⟨result, hdone, -⟩ := runs_bind_pure_iff.mp hrun
    exact (ensures_load_spawned d path).of_runs_nil hdone fun _ _ ↦ trivial
  | submit words =>
    obtain ⟨result, hdone, -⟩ := runs_bind_pure_iff.mp hrun
    unfold Driver.submit at hdone
    split at hdone
    · rw [(runs_pure_iff.mp hdone).1]
      rfl
    · exact spawned_of_runs_enqueue hdone
  | submitLine line =>
    obtain ⟨result, hdone, -⟩ := runs_bind_pure_iff.mp hrun
    exact spawned_of_runs_enqueue hdone
  | status =>
    obtain ⟨result, hdone, -⟩ := runs_bind_pure_iff.mp hrun
    exact spawned_of_runs_status hdone
  | start | reload | close => cases hkeeps

end Keeping

end ShellDebugger
