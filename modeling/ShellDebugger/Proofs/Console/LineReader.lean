import Mathlib.Data.List.GetD
import ShellDebugger.Console.LineReader
import ShellDebugger.Proofs.Schedule
import ShellDebugger.Proofs.Stream.Outflow

/-!
# What the loop reads

An editor that was built answers each request with one outcome, and the loop asks for the next line
only when it has got the one before, so that under every schedule the loop gets what the editor
produced, first produced first, and at most one answer is outstanding. An editor that cannot be
built does not wait for a request: its one outcome waits in the channel while it lets go of the
requests. If the loop asks for the first time only after that, nobody hears it, and it takes the
lines to have ended; the reason of the failure is lost.
-/

namespace ShellDebugger.Console.LineReader

open Schedule

/-! ## What an action comes to -/

/-- What an action of either party comes to. -/
inductive Moves (r : LineReader) : LineReader → Prop
  /-- The editor cannot be built. -/
  | breaks {reason : String} :
      r.editor = .building → r.defect = some reason → Moves r (r.produce (.failed reason) false)
  | builds : r.editor = .building → r.defect = none → Moves r { r with editor := .listening }
  /-- The editor takes a request. -/
  | hears : r.editor = .listening → r.requests ≠ 0 →
      Moves r { r with editor := .prompting, requests := r.requests - 1 }
  | prompts : r.editor = .prompting →
      Moves r ({ r with operator := r.operator.tail }.produce (r.operator.headD .ended) true)
  | answers {outcome : Reading} {goesOn : Bool} :
      r.editor = .answering outcome goesOn → r.outcomes.items.length < r.outcomes.capacity →
      Moves r { r with
        editor := if goesOn then .listening else .leaving
        outcomes := { r.outcomes with items := r.outcomes.items ++ [outcome] } }
  /-- The loop takes no outcomes any more. -/
  | fails {outcome : Reading} {goesOn : Bool} :
      r.editor = .answering outcome goesOn → r.outcomes.receiving = false →
      Moves r { r with editor := .leaving }
  | leaves : r.editor = .leaving →
      Moves r { r with editor := .ended, requests := 0, outcomes := r.outcomes.dropSender }
  /-- The loop gets what it asked for. -/
  | gets {reading : Reading} {rest : List Reading} :
      r.asking = true → r.outcomes.items = reading :: rest →
      Moves r ({ r with outcomes := { r.outcomes with items := rest } }.give reading)
  /-- The loop finds that nothing will come. -/
  | misses : r.asking = true → r.outcomes.items = [] → r.outcomes.senders = 0 →
      Moves r (r.give .ended)
  | asks : r.asking = false → r.editor ≠ .ended →
      Moves r { r with asking := true, requests := r.requests + 1 }
  /-- Nobody hears the loop. -/
  | shouts : r.asking = false → r.editor = .ended → Moves r (r.give .ended)

variable {r r' : LineReader} {party : Party} {defect : Option String} {operator : List Reading}

theorem moves_of_edit (hact : r.edit = some r') : r.Moves r' := by
  unfold edit at hact
  split at hact
  · next heditor =>
    split at hact
    · next hdefect =>
      cases hact
      exact .breaks heditor hdefect
    · next hdefect =>
      cases hact
      exact .builds heditor hdefect
  · next heditor =>
    split at hact
    · cases hact
    · next hrequests =>
      cases hact
      exact .hears heditor hrequests
  · next heditor =>
    cases hact
    exact .prompts heditor
  · next heditor =>
    split at hact
    · next hsend =>
      cases hact
      obtain ⟨-, hroom, rfl⟩ := Channel.send_eq_accepted_iff.mp hsend
      exact .answers heditor hroom
    · cases hact
    · next hsend =>
      cases hact
      exact .fails heditor (Channel.receiving_of_send_eq_refused hsend)
  · next heditor =>
    cases hact
    exact .leaves heditor
  · cases hact

theorem moves_of_ask (hact : r.ask = some r') : r.Moves r' := by
  unfold ask at hact
  cases hasking : r.asking with
  | true =>
    cases hitems : r.outcomes.items with
    | nil =>
      by_cases hsenders : r.outcomes.senders = 0
      · simp only [hasking, Channel.receive, hitems, hsenders, if_true] at hact
        cases hact
        exact .misses hasking hitems hsenders
      · simp [hasking, Channel.receive, hitems, hsenders] at hact
    | cons reading rest =>
      simp only [hasking, Channel.receive, hitems, if_true] at hact
      cases hact
      exact .gets hasking hitems
  | false =>
    rw [hasking, if_neg Bool.false_ne_true] at hact
    split at hact
    · next heditor =>
      cases hact
      exact .shouts hasking heditor
    · next heditor =>
      cases hact
      exact .asks hasking heditor

theorem moves_of_act (hact : act party r = some r') : r.Moves r' := by
  cases party with
  | editor => exact moves_of_edit hact
  | loop => exact moves_of_ask hact

/-! ## What every action keeps -/

/-- Whether the editor goes on for as long as it is asked. -/
def staysOn (r : LineReader) : Bool :=
  match r.editor with
  | .building => r.defect.isNone
  | .listening | .prompting => true
  | .answering _ goesOn => goesOn
  | .leaving | .ended => false

def atHand (r : LineReader) : List Reading :=
  match r.editor with
  | .answering outcome _ => [outcome]
  | .building | .listening | .prompting | .leaving | .ended => []

/-- The outcomes that were produced and not got yet. -/
def underway (r : LineReader) : List Reading :=
  r.outcomes.items ++ r.atHand

def outstanding (r : LineReader) : Nat :=
  r.requests + (if r.editor = .prompting then 1 else 0) + r.underway.length

/-- The outcomes that the editor is going to have at hand, after which the lines have ended. -/
def ahead (r : LineReader) : List Reading :=
  match r.editor with
  | .building =>
    match r.defect with
    | some reason => [.failed reason]
    | none => r.operator
  | .listening | .prompting => r.operator
  | .answering _ goesOn => if goesOn then r.operator else []
  | .leaving | .ended => []

/-- The loop waits for an answer to its one request, and what was produced it got or will get. -/
def IsServed (r : LineReader) : Prop :=
  r.outstanding = (if r.asking then 1 else 0) ∧ r.produced = r.returned ++ r.underway

/-- How the channels stand, and that an editor that goes on serves the loop. -/
structure Stands (r : LineReader) : Prop where
  receiving : r.outcomes.receiving = true
  roomy : 1 ≤ r.outcomes.capacity
  sole : r.outcomes.senders = if r.editor = .ended then 0 else 1
  served : r.staysOn = true → r.IsServed

theorem stands_ofOperator (defect : Option String) (operator : List Reading) :
    (ofOperator defect operator).Stands where
  receiving := rfl
  roomy := Nat.le_refl 1
  sole := rfl
  served _ := ⟨rfl, rfl⟩

theorem Stands.editor_eq_ended (h : r.Stands) (hclosed : r.outcomes.senders = 0) :
    r.editor = .ended := by
  by_contra hrunning
  rw [h.sole, if_neg hrunning] at hclosed
  cases hclosed

/-- An editor goes on as it was built. -/
theorem Stands.staysOn_eq (h : r.Stands) (hmoves : r.Moves r') : r'.staysOn = r.staysOn := by
  cases hmoves with
  | breaks heditor hdefect | builds heditor hdefect => simp [staysOn, produce, heditor, hdefect]
  | hears heditor | prompts heditor | leaves heditor => simp [staysOn, produce, heditor]
  | @answers _ goesOn heditor => cases goesOn <;> simp [staysOn, heditor]
  | fails _ hreceiving => simp [h.receiving] at hreceiving
  | gets | misses | asks | shouts => rfl

/-- A request is first waiting, then a prompt, and then an outcome, which goes from the hand of the
editor through the channel to the loop. -/
theorem Stands.isServed_of_moves (h : r.Stands) (hmoves : r.Moves r') (hstays : r.staysOn = true) :
    r'.IsServed := by
  obtain ⟨hcounted, hbooked⟩ := h.served hstays
  cases hmoves with
  | breaks heditor hdefect => simp [staysOn, heditor, hdefect] at hstays
  | builds heditor =>
    simpa [IsServed, outstanding, underway, atHand, heditor] using And.intro hcounted hbooked
  | hears heditor hrequests =>
    refine ⟨Eq.trans ?_ hcounted, by simpa [underway, atHand, heditor] using hbooked⟩
    simp only [outstanding, underway, atHand, heditor, reduceCtorEq, if_true, if_false]
    omega
  | prompts heditor =>
    refine ⟨Eq.trans ?_ hcounted, by simp [underway, atHand, produce, heditor, hbooked]⟩
    simp only [outstanding, underway, atHand, produce, heditor, reduceCtorEq, if_true, if_false,
      List.append_nil, List.length_append, List.length_singleton]
    omega
  | answers heditor =>
    obtain rfl : _ = true := by simpa [staysOn, heditor] using hstays
    simpa [IsServed, outstanding, underway, atHand, heditor] using And.intro hcounted hbooked
  | fails _ hreceiving => simp [h.receiving] at hreceiving
  | leaves heditor => simp [staysOn, heditor] at hstays
  | gets hasking hitems =>
    rw [hasking, outstanding, underway, hitems, List.cons_append, List.length_cons] at hcounted
    rw [underway, hitems] at hbooked
    exact ⟨Nat.succ.inj hcounted, hbooked.trans (by simp [give, underway, atHand])⟩
  | misses _ _ hsenders => simp [staysOn, h.editor_eq_ended hsenders] at hstays
  | asks hasking =>
    rw [hasking, outstanding, if_neg Bool.false_ne_true] at hcounted
    refine ⟨?_, hbooked⟩
    change r.requests + 1 + (if r.editor = .prompting then 1 else 0) + r.underway.length = 1
    omega
  | shouts _ heditor => simp [staysOn, heditor] at hstays

theorem Stands.of_moves (h : r.Stands) (hmoves : r.Moves r') : r'.Stands where
  receiving := by cases hmoves <;> exact h.receiving
  roomy := by cases hmoves <;> exact h.roomy
  sole := by
    have hsole := h.sole
    cases hmoves with
    | breaks heditor | builds heditor | hears heditor | prompts heditor | fails heditor =>
      simpa [produce, heditor] using hsole
    | @answers _ goesOn heditor => cases goesOn <;> simpa [heditor] using hsole
    | leaves heditor => simp [Channel.dropSender, hsole, heditor]
    | gets | misses | asks | shouts => exact hsole
  served hstays := h.isServed_of_moves hmoves (h.staysOn_eq hmoves ▸ hstays)

theorem Stands.play (h : r.Stands) (schedule : List Party) :
    (Schedule.play act r schedule).Stands ∧
      (Schedule.play act r schedule).staysOn = r.staysOn := by
  refine play_invariant (P := fun s : LineReader ↦ s.Stands ∧ s.staysOn = r.staysOn) ?_ ⟨h, rfl⟩
    schedule
  rintro party s s' ⟨hstands, hstays⟩ hact
  have hmoves := moves_of_act hact
  exact ⟨hstands.of_moves hmoves, (hstands.staysOn_eq hmoves).trans hstays⟩

/-! ## What the loop gets -/

/-- What the loop gets next if it is heard, after which the lines have ended. -/
def owed (r : LineReader) : List Reading :=
  r.underway ++ r.ahead

/-- Either an action leaves it at what is owed, though an operator who has no more lines may be
asked for one; or the loop gets what is owed first; or it gets no answer, from an editor that has
ended. -/
theorem Stands.owed_cases (h : r.Stands) (hmoves : r.Moves r') :
    (r'.returned = r.returned ∧ (r.asking = true → r'.asking = true) ∧
        (r'.owed = r.owed ∨ r.staysOn = true ∧ r'.owed = r.owed ++ [.ended])) ∨
      (∃ reading, r.asking = true ∧ r.owed = reading :: r'.owed ∧
        r'.returned = r.returned ++ [reading]) ∨
      (r.editor = .ended ∧ (r.asking = true → r.owed = []) ∧ r'.owed = r.owed ∧
        r'.returned = r.returned ++ [.ended]) := by
  cases hmoves with
  | breaks heditor hdefect | builds heditor hdefect =>
    exact .inl ⟨rfl, id, .inl (by simp [owed, underway, atHand, ahead, produce, heditor, hdefect])⟩
  | hears heditor => exact .inl ⟨rfl, id, .inl (by simp [owed, underway, atHand, ahead, heditor])⟩
  | prompts heditor =>
    refine .inl ⟨rfl, id, ?_⟩
    cases hoperator : r.operator with
    | nil =>
      exact .inr ⟨by simp [staysOn, heditor],
        by simp [owed, underway, atHand, ahead, produce, heditor, hoperator]⟩
    | cons reading rest =>
      exact .inl (by simp [owed, underway, atHand, ahead, produce, heditor, hoperator])
  | @answers _ goesOn heditor =>
    refine .inl ⟨rfl, id, .inl ?_⟩
    cases goesOn <;> simp [owed, underway, atHand, ahead, heditor]
  | fails _ hreceiving => simp [h.receiving] at hreceiving
  | leaves heditor =>
    exact .inl ⟨rfl, id,
      .inl (by simp [owed, underway, atHand, ahead, heditor, Channel.dropSender])⟩
  | gets hasking hitems =>
    exact .inr (.inl ⟨_, hasking, by rw [owed, underway, hitems]; rfl, rfl⟩)
  | misses _ hitems hsenders =>
    have heditor := h.editor_eq_ended hsenders
    exact .inr (.inr ⟨heditor, fun _ ↦ by simp [owed, underway, atHand, ahead, hitems, heditor],
      rfl, rfl⟩)
  | asks => exact .inl ⟨rfl, fun _ ↦ rfl, .inl rfl⟩
  | shouts hasking heditor =>
    refine .inr (.inr ⟨heditor, fun htrue ↦ ?_, rfl, rfl⟩)
    rw [hasking] at htrue
    cases htrue

/-- What a line that the loop asks for is going to be, if the loop is heard. -/
def promised (r : LineReader) (k : Nat) : Reading :=
  (r.returned ++ r.owed).getD k .ended

/-- An editor that does not go on owes one outcome at most, and the loop waits for that. -/
def IsAwaited (r : LineReader) : Prop :=
  r.staysOn = false → r.owed.length ≤ 1 ∧ (r.asking = true ∨ r.owed = [])

/-- That the lines have ended need not be said. -/
theorem getD_append_ended (readings : List Reading) (k : Nat) :
    (readings ++ [Reading.ended]).getD k .ended = readings.getD k .ended := by
  rcases lt_or_ge k readings.length with hlt | hge
  · rw [List.getD_append _ _ _ _ hlt]
  · rw [List.getD_append_right _ _ _ _ hge, List.getD_eq_default _ _ hge]
    cases k - readings.length <;> rfl

theorem Stands.isAwaited_of_moves (h : r.Stands) (hawaited : r.IsAwaited) (hmoves : r.Moves r') :
    r'.IsAwaited := by
  intro hstays
  rw [h.staysOn_eq hmoves] at hstays
  obtain ⟨hlength, hasking⟩ := hawaited hstays
  rcases h.owed_cases hmoves with ⟨-, hasks, howed | ⟨hstays', -⟩⟩ | ⟨reading, -, howed, -⟩ |
    ⟨-, hnone, howed, -⟩
  · rw [howed]
    exact ⟨hlength, hasking.imp_left hasks⟩
  · rw [hstays] at hstays'
    cases hstays'
  · have hnil : r'.owed = [] := by simpa [howed] using hlength
    simp [hnil]
  · have hnil : r.owed = [] := hasking.elim hnone id
    simp [howed, hnil]

/-- Every line that the loop asks for is what it was promised. -/
theorem Stands.promised_eq (h : r.Stands) (hawaited : r.IsAwaited) (hmoves : r.Moves r') :
    r'.promised = r.promised := by
  funext k
  rcases h.owed_cases hmoves with ⟨hreturned, -, howed | ⟨-, howed⟩⟩ |
    ⟨reading, -, howed, hreturned⟩ | ⟨hended, hnone, howed, hreturned⟩
  · rw [promised, promised, hreturned, howed]
  · rw [promised, promised, hreturned, howed, ← List.append_assoc, getD_append_ended]
  · rw [promised, promised, hreturned, howed, List.append_assoc, List.singleton_append]
  · obtain ⟨-, hasking⟩ := hawaited (by rw [staysOn, hended])
    have hnil : r.owed = [] := hasking.elim hnone id
    rw [promised, promised, hreturned, howed, hnil, List.append_nil, List.append_nil,
      getD_append_ended]

/-- The loop gets the lines that it was promised. -/
structure Keeps (r : LineReader) (lines : Nat → Reading) : Prop where
  stands : r.Stands
  awaited : r.IsAwaited
  promised : r.promised = lines

variable {lines : Nat → Reading}

theorem Keeps.act (h : r.Keeps lines) (hact : LineReader.act party r = some r') :
    r'.Keeps lines where
  stands := h.stands.of_moves (moves_of_act hact)
  awaited := h.stands.isAwaited_of_moves h.awaited (moves_of_act hact)
  promised := (h.stands.promised_eq h.awaited (moves_of_act hact)).trans h.promised

theorem Keeps.play (h : r.Keeps lines) (schedule : List Party) :
    (Schedule.play LineReader.act r schedule).Keeps lines :=
  play_invariant (fun _ _ _ h hact ↦ Keeps.act h hact) h schedule

theorem Keeps.eq_of_returned (h : r.Keeps lines) {k : Nat} {reading : Reading}
    (hreturned : r.returned[k]? = some reading) : reading = lines k := by
  have hlt : k < r.returned.length := (List.getElem?_eq_some_iff.mp hreturned).1
  rw [← h.promised, LineReader.promised, List.getD_append _ _ _ _ hlt,
    List.getD_eq_getElem?_getD, hreturned]
  rfl

/-! ## An editor that was built -/

theorem keeps_ofOperator (operator : List Reading) :
    (ofOperator none operator).Keeps fun k ↦ operator.getD k .ended where
  stands := stands_ofOperator none operator
  awaited := nofun
  promised := rfl

/-- The loop gets what the operator gives, line by line as the editor produced it, and asks for one
line at a time. -/
theorem every_schedule_returns_produced (operator : List Reading) (schedule : List Party) :
    let r := play act (ofOperator none operator) schedule
    r.returned <+: r.produced ∧ r.outstanding = (if r.asking then 1 else 0) ∧
      ∀ k reading, r.returned[k]? = some reading → reading = operator.getD k .ended := by
  intro r
  have hkeeps : r.Keeps fun k ↦ operator.getD k .ended := (keeps_ofOperator operator).play schedule
  have hstays : r.staysOn = true := ((stands_ofOperator none operator).play schedule).2
  obtain ⟨hcounted, hbooked⟩ := hkeeps.stands.served hstays
  refine ⟨?_, hcounted, fun k reading ↦ hkeeps.eq_of_returned⟩
  rw [hbooked]
  exact List.prefix_append ..

/-! ## An editor that cannot be built -/

/-- The loop has not had a turn yet, and the reason of the failure is owed to it. -/
structure IsUnasked (r : LineReader) (reason : String) : Prop where
  stands : r.Stands
  staysOn : r.staysOn = false
  asking : r.asking = false
  returned : r.returned = []
  owed : r.owed = [.failed reason]

variable {reason : String}

theorem isUnasked_ofOperator (reason : String) (operator : List Reading) :
    (ofOperator (some reason) operator).IsUnasked reason :=
  ⟨stands_ofOperator _ _, rfl, rfl, rfl, rfl⟩

/-- The editor does nothing to what the loop knows. -/
theorem frame_of_edit (hact : r.edit = some r') :
    r'.asking = r.asking ∧ r'.returned = r.returned := by
  unfold edit at hact
  repeat' split at hact
  all_goals cases hact
  all_goals exact ⟨rfl, rfl⟩

theorem IsUnasked.edit (h : r.IsUnasked reason) (hact : r.edit = some r') :
    r'.IsUnasked reason := by
  obtain ⟨hasking, hreturned⟩ := frame_of_edit hact
  have hmoves := moves_of_edit hact
  refine ⟨h.stands.of_moves hmoves, (h.stands.staysOn_eq hmoves).trans h.staysOn,
    hasking.trans h.asking, hreturned.trans h.returned, ?_⟩
  rcases h.stands.owed_cases hmoves with ⟨-, -, howed | ⟨hstays, -⟩⟩ | ⟨-, hasks, -⟩ |
    ⟨hended, -⟩
  · exact howed.trans h.owed
  · rw [h.staysOn] at hstays
    cases hstays
  · rw [h.asking] at hasks
    cases hasks
  · rw [LineReader.edit, hended] at hact
    cases hact

theorem IsUnasked.play (h : r.IsUnasked reason) {before : List Party} (hbefore : .loop ∉ before) :
    (Schedule.play act r before).IsUnasked reason := by
  induction before generalizing r with
  | nil => exact h
  | cons party rest ih =>
    obtain ⟨hparty, hrest⟩ := List.ne_and_not_mem_of_not_mem_cons hbefore
    refine ih ?_ hrest
    unfold turn
    cases party with
    | loop => exact absurd rfl hparty
    | editor =>
      cases hact : act .editor r with
      | none => exact h
      | some r' => exact h.edit hact

/-- Once the loop asks, it waits for the failure. -/
theorem IsUnasked.keeps (h : r.IsUnasked reason) (heditor : r.editor ≠ .ended) :
    (turn act r .loop).Keeps fun k ↦ [Reading.failed reason].getD k .ended := by
  have hmoves : r.Moves { r with asking := true, requests := r.requests + 1 } :=
    .asks h.asking heditor
  have hturn : turn act r .loop = { r with asking := true, requests := r.requests + 1 } := by
    simp only [turn, act, ask, h.asking, heditor, Bool.false_eq_true, if_false, Option.getD_some]
  rw [hturn]
  refine ⟨h.stands.of_moves hmoves, fun _ ↦ ⟨?_, .inl rfl⟩, ?_⟩
  · exact Nat.le_of_eq (congrArg List.length h.owed)
  · funext k
    exact congrArg (·.getD k .ended) (congrArg₂ (· ++ ·) h.returned h.owed)

/-- Nobody hears the loop, which has only got that the lines have ended. -/
def IsUnheard (r : LineReader) : Prop :=
  r.editor = .ended ∧ r.asking = false ∧ ∀ reading ∈ r.returned, reading = .ended

theorem IsUnheard.act (h : r.IsUnheard) (hact : LineReader.act party r = some r') :
    r'.IsUnheard := by
  obtain ⟨hended, hasking, hreturned⟩ := h
  cases party with
  | editor =>
    rw [LineReader.act, edit, hended] at hact
    cases hact
  | loop =>
    simp only [LineReader.act, ask, hasking, hended, Bool.false_eq_true, if_false, if_true] at hact
    cases hact
    refine ⟨hended, rfl, fun reading hreading ↦ ?_⟩
    rcases List.mem_append.mp hreading with hbefore | hlast
    · exact hreturned reading hbefore
    · exact List.mem_singleton.mp hlast

theorem IsUnheard.play (h : r.IsUnheard) (schedule : List Party) :
    (Schedule.play LineReader.act r schedule).IsUnheard :=
  play_invariant (fun _ _ _ h hact ↦ IsUnheard.act h hact) h schedule

/-- The loop gets the failure first if it asks for a line before the editor has ended, and otherwise
never; after that the lines have ended. -/
theorem returned_of_defect (reason : String) (operator : List Reading) {before : List Party}
    (hbefore : .loop ∉ before) (rest : List Party) {k : Nat} {reading : Reading}
    (hreturned : (play act (ofOperator (some reason) operator)
      (before ++ .loop :: rest)).returned[k]? = some reading) :
    reading = if k = 0 ∧ (play act (ofOperator (some reason) operator) before).editor ≠ .ended
      then .failed reason else .ended := by
  have hunasked := (isUnasked_ofOperator reason operator).play hbefore
  rw [play_append] at hreturned
  by_cases heditor : (play act (ofOperator (some reason) operator) before).editor = .ended
  · have hunheard : IsUnheard (play act (ofOperator (some reason) operator) before) :=
      ⟨heditor, hunasked.asking, by simp [hunasked.returned]⟩
    rw [if_neg fun hboth ↦ hboth.2 heditor]
    exact (hunheard.play (.loop :: rest)).2.2 reading (List.mem_of_getElem? hreturned)
  · have hreading := ((hunasked.keeps heditor).play rest).eq_of_returned hreturned
    cases k with
    | zero => rwa [if_pos ⟨rfl, heditor⟩]
    | succ k => rwa [if_neg fun hboth ↦ Nat.succ_ne_zero k hboth.1]

/-- So not every outcome that the editor produces is returned: one that cannot be built may have
ended before the loop asks for a line. -/
theorem not_every_schedule_returns_produced :
    ¬ ∀ (defect : Option String) (operator : List Reading) (schedule : List Party),
      let r := play act (ofOperator defect operator) schedule
      r.returned <+: r.produced := by
  intro hall
  have hlost := hall (some "no terminal") [] [.editor, .editor, .editor, .loop]
  revert hlost
  decide

/-! ## Every line comes -/

theorem waits_of_edit_eq_none (hedit : r.edit = none) :
    r.editor = .ended ∨ (r.editor = .listening ∧ r.requests = 0) ∨
      ∃ outcome goesOn, r.editor = .answering outcome goesOn ∧ r.outcomes.send outcome = .full := by
  unfold edit at hedit
  split at hedit
  · split at hedit <;> cases hedit
  · next heditor =>
    split at hedit
    · next hnone => exact .inr (.inl ⟨heditor, hnone⟩)
    · cases hedit
  · cases hedit
  · next heditor =>
    split at hedit
    · cases hedit
    · next hfull => exact .inr (.inr ⟨_, _, heditor, hfull⟩)
    · cases hedit
  · cases hedit
  · next heditor => exact .inl heditor

theorem waits_of_ask_eq_none (hask : r.ask = none) :
    r.asking = true ∧ r.outcomes.items = [] ∧ r.outcomes.senders ≠ 0 := by
  unfold ask Channel.receive at hask
  cases hasking : r.asking with
  | false =>
    rw [hasking, if_neg Bool.false_ne_true] at hask
    split at hask <;> cases hask
  | true =>
    cases hitems : r.outcomes.items with
    | cons reading rest => simp [hasking, hitems] at hask
    | nil =>
      refine ⟨rfl, rfl, fun hclosed ↦ ?_⟩
      simp [hasking, hitems, hclosed] at hask

/-- The loop can ask for a line, or get one, or the editor has something to do. -/
theorem Stands.not_isOver (h : r.Stands) : ¬ IsOver act r := by
  intro hover
  obtain ⟨hasking, hitems, hopen⟩ := waits_of_ask_eq_none (hover .loop)
  rcases waits_of_edit_eq_none (hover .editor) with hended | ⟨hlistening, hrequests⟩ |
    ⟨outcome, goesOn, -, hfull⟩
  · exact hopen (by rw [h.sole, if_pos hended])
  · obtain ⟨hcounted, -⟩ := h.served (by rw [staysOn, hlistening])
    simp [outstanding, underway, atHand, hlistening, hrequests, hitems, hasking] at hcounted
  · have hroom : r.outcomes.items.length < r.outcomes.capacity := by
      rw [hitems]
      exact h.roomy
    rw [Channel.send_eq_accepted_iff.mpr ⟨h.receiving, hroom, rfl⟩] at hfull
    cases hfull

/-- How far the editor is from waiting or from its end. -/
def Editor.distance : Editor → Nat
  | .listening | .ended => 0
  | .leaving => 1
  | .answering _ true => 2
  | .answering _ false | .prompting => 3
  | .building => 4

/-- A bound on the actions that are left until the loop has got a number of lines. -/
def remaining (count : Nat) (r : LineReader) : Nat :=
  6 * (count - r.returned.length) + 4 * r.requests + r.editor.distance + r.outcomes.items.length +
    5 * (!r.asking).toNat

theorem lowers_remaining (count : Nat) :
    Lowers (actUntil (fun r : LineReader ↦ count ≤ r.returned.length) act) (remaining count) := by
  intro party r r' hact
  unfold actUntil at hact
  split at hact
  · cases hact
  · next hless =>
    cases moves_of_act hact with
    | breaks heditor | builds heditor | hears heditor | prompts heditor =>
      simp only [remaining, produce, heditor, Editor.distance]
      omega
    | @answers _ goesOn heditor =>
      cases goesOn <;> simp only [remaining, heditor, Editor.distance, List.length_append,
        List.length_singleton, Bool.false_eq_true, if_true, if_false] <;> omega
    | @fails _ goesOn heditor =>
      cases goesOn <;> simp only [remaining, heditor, Editor.distance] <;> omega
    | leaves heditor =>
      simp only [remaining, Channel.dropSender, heditor, Editor.distance]
      omega
    | gets hasking hitems =>
      simp only [remaining, give, hasking, hitems, List.length_append, List.length_cons,
        List.length_nil, Bool.not_true, Bool.not_false, Bool.toNat_true, Bool.toNat_false]
      omega
    | misses hasking | asks hasking | shouts hasking =>
      simp only [remaining, give, hasking, List.length_append, List.length_singleton,
        Bool.not_true, Bool.not_false, Bool.toNat_true, Bool.toNat_false]
      omega

/-- Every line that the loop asks for comes, if the editor and the loop have their turns again and
again. -/
theorem every_request_answered (defect : Option String) (operator : List Reading)
    {turns : Nat → Party} (hfair : IsFair turns) (count : Nat) :
    ∃ n, count ≤ (playFirst act (ofOperator defect operator) turns n).returned.length :=
  (lowers_remaining count).exists_goal hfair fun schedule hover ↦
    absurd hover ((stands_ofOperator defect operator).play schedule).1.not_isOver

end ShellDebugger.Console.LineReader
