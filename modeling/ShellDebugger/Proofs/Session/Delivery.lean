import ShellDebugger.Proofs.Host.PlanRuns
import ShellDebugger.Proofs.Stream.Scribe
import ShellDebugger.Session.Traffic

/-!
# Delivery of lines

Whatever the order in which submitters, feeders, shells and those who start and close sessions act,
the script of each session gets the lines that were sent to that session, in the order in which they
were sent, and nothing else. A session that was torn down has got all of them, unless writing
failed.
-/

namespace ShellDebugger.Traffic

/-! ## Submitters -/

/-- The line that an event sends, if any, accepted or not, with the child that it is for. -/
def askedBy : Plan.Event → Option (ChildId × Bytes)
  | ⟨.send child line, _⟩ => some (child, Utf8.encode line)
  | _ => none

def asked (trace : List Plan.Event) : List (ChildId × Bytes) :=
  trace.filterMap askedBy

theorem asked_append_one (past : List Plan.Event) (event : Plan.Event) :
    asked (past ++ [event]) = asked past ++ (askedBy event).toList := by
  rw [asked, List.filterMap_append]
  cases hevent : askedBy event <;> simp [asked, hevent]

theorem ensures_observe_asked (d : Driver) (past : List Plan.Event) :
    Plan.Ensures .any d.observe past fun _ past' ↦ asked past' = asked past := by
  unfold Driver.observe Child.observe
  cases d.session with
  | none => rfl
  | some session =>
    cases hexit : session.child.exit with
    | some exit =>
      simp only [hexit]
      rfl
    | none =>
      simp only [hexit]
      refine Plan.ensures_bind_iff.mpr fun answer _ ↦ ⟨trivial, ?_⟩
      change asked (past ++ [⟨.exitOf session.child.id, answer⟩]) = asked past
      rw [asked_append_one]
      exact List.append_nil _

/-- A driver that is asked to submit a line sends it to the child for which a submitter would take a
sender, or to nobody if there is none. -/
theorem asked_enqueue_eq_lookUp {d d' : Driver} {line : String} {trace : List Plan.Event}
    {result : Except SessionError Unit} (hrun : Plan.Runs (d.enqueue line) trace (result, d'))
    (lanes : List Lane) :
    asked trace = ((Traffic.mk d' lanes .free []).lookUp line).elim [] (·.underWay) := by
  have hensures : Plan.Ensures .any (d.enqueue line) [] fun result past ↦
      asked past = ((Traffic.mk result.2 lanes .free []).lookUp line).elim [] (·.underWay) := by
    unfold Driver.enqueue
    refine (ensures_observe_asked d []).bind fun d' past hpast ↦ ?_
    cases hrecipient : d'.recipient with
    | error e =>
      change asked past = _
      rw [hpast]
      simp [Traffic.lookUp, hrecipient, asked]
    | ok child =>
      refine Plan.ensures_bind_iff.mpr fun accepted _ ↦ ⟨trivial, ?_⟩
      change asked (past ++ [⟨.send child line, accepted⟩]) = _
      rw [asked_append_one, hpast]
      simp [Traffic.lookUp, hrecipient, asked, askedBy, mapLines, update]
  exact hensures.of_runs_nil hrun fun _ _ ↦ trivial

/-! ## Parties that need the lock -/

section Locks

variable {t t' : Traffic}

theorem act_starter_eq_some_iff :
    act .starter t = some t' ↔
      t.lock = .free ∧ t.driver.closed = false ∧ t.detach true = t' := by
  cases hlock : t.lock with
  | free => simp [act, hlock]
  | tearing | starting => simp [act, hlock]

theorem act_closer_eq_some_iff :
    act .closer t = some t' ↔
      t.lock = .free ∧ detach { t with driver := { t.driver with closed := true } } false = t' := by
  cases hlock : t.lock with
  | free => simp [act, hlock]
  | tearing | starting => simp [act, hlock]

theorem act_opener_eq_some_iff {opened : Option (ScriptPipe × Writer)} :
    act (.opener opened) t = some t' ↔ t.lock = .starting ∧ t.settle opened = t' := by
  cases hlock : t.lock with
  | starting => simp [act, hlock]
  | free | tearing => simp [act, hlock]

end Locks

/-! ## What is seen of a schedule -/

/-- The line that a party's turn puts into a channel, if any, with the child that it is for. -/
def sentAt (t : Traffic) : Party → List (ChildId × Bytes)
  | .sender index =>
    match t.underWay[index]? with
    | none => []
    | some (child, line) =>
      match t.lanes[child]? with
      | none => []
      | some lane =>
        match lane.lines.send line with
        | .accepted _ => [(child, line)]
        | _ => []
  | _ => []

/-- The child whose feeder fails in a party's turn, if any. -/
def failingAt (t : Traffic) : Party → List ChildId
  | .feeder child => if (t.lanes[child]?).any (·.feeder.isFailing) then [child] else []
  | _ => []

/-- The lines that are sent under a schedule and accepted, in order. -/
def sent (t : Traffic) : List Party → List (ChildId × Bytes)
  | [] => []
  | party :: rest => t.sentAt party ++ (Schedule.turn act t party).sent rest

/-- The children whose feeders fail to write or to flush under a schedule. -/
def failing (t : Traffic) : List Party → List ChildId
  | [] => []
  | party :: rest => t.failingAt party ++ (Schedule.turn act t party).failing rest

/-- The lines of a record that are for one child. -/
def linesFor (child : ChildId) (record : List (ChildId × Bytes)) : List Bytes :=
  (record.filter (·.1 == child)).map (·.2)

variable {child : ChildId} {record : List (ChildId × Bytes)} {failed : List ChildId}

theorem linesFor_append_self (child : ChildId) (record : List (ChildId × Bytes)) (line : Bytes) :
    linesFor child (record ++ [(child, line)]) = linesFor child record ++ [line] := by
  simp [linesFor]

theorem linesFor_append_of_ne {other : ChildId} (hne : other ≠ child)
    (record : List (ChildId × Bytes)) (line : Bytes) :
    linesFor other (record ++ [(child, line)]) = linesFor other record := by
  simp [linesFor, Ne.symm hne]

/-! ## Books of all lanes -/

/-- A lane agrees with what is on record for its child. -/
def Agrees (lines : List Bytes) (failed : Bool) : Option Lane → Prop
  | none => lines = [] ∧ failed = false
  | some lane => lane.accepted = lines ∧ lane.feeder.Books lane.lines lines failed

/-- All lanes agree with the record, and of children that are not there nothing is on record. -/
def Keeps (lanes : List Lane) (record : List (ChildId × Bytes)) (failed : List ChildId) : Prop :=
  ∀ child, Agrees (linesFor child record) (failed.contains child) lanes[child]?

variable {lanes : List Lane}

/-- A lane is changed, and the record with it, if need be. -/
theorem Keeps.modify {record' : List (ChildId × Bytes)} {failed' : List ChildId} {f : Lane → Lane}
    {lane : Lane} (h : Keeps lanes record failed) (hlane : lanes[child]? = some lane)
    (hrecord : ∀ other, other ≠ child → linesFor other record' = linesFor other record)
    (hfailed : ∀ other, other ≠ child → failed'.contains other = failed.contains other)
    (hagrees : Agrees (linesFor child record') (failed'.contains child) (some (f lane))) :
    Keeps (lanes.modify child f) record' failed' := by
  intro other
  rw [List.getElem?_modify]
  by_cases heq : child = other
  · subst heq
    rw [hlane]
    simpa using hagrees
  · have hother := h other
    rw [hrecord other (Ne.symm heq), hfailed other (Ne.symm heq)]
    simpa [heq] using hother

/-- A change of a lane that its books do not see. -/
theorem Keeps.modify_same {f : Lane → Lane} (h : Keeps lanes record failed) (child : ChildId)
    (hsame : ∀ lane lines failed, Agrees lines failed (some lane) →
      Agrees lines failed (some (f lane))) :
    Keeps (lanes.modify child f) record failed := by
  intro other
  have hother := h other
  rw [List.getElem?_modify]
  cases hlane : lanes[other]? with
  | none => rwa [hlane] at hother
  | some lane =>
    rw [hlane] at hother
    by_cases heq : child = other
    · simpa [heq] using hsame lane _ _ hother
    · simpa [heq] using hother

/-- The books do not see who holds senders. -/
theorem Keeps.mapSenders (h : Keeps lanes record failed) (child : ChildId) (f : Nat → Nat) :
    Keeps (lanes.modify child fun lane ↦
      { lane with lines := { lane.lines with senders := f lane.lines.senders } }) record failed :=
  h.modify_same child fun _ _ _ hagrees ↦ ⟨hagrees.1, hagrees.2.of_senders _⟩

variable {t : Traffic}

theorem Keeps.lookUp (h : Keeps t.lanes record failed) (line : String) :
    Keeps ((t.lookUp line).getD t).lanes record failed := by
  unfold Traffic.lookUp
  split
  · exact h.mapSenders _ (· + 1)
  · exact h

theorem Keeps.change (h : Keeps t.lanes record failed) (child : ChildId) (writer : Writer) :
    Keeps (t.change child writer).lanes record failed :=
  h.modify_same child fun _ _ _ hagrees ↦ ⟨hagrees.1, hagrees.2.of_taken rfl⟩

theorem Keeps.detach (h : Keeps t.lanes record failed) (restart : Bool) :
    Keeps (t.detach restart).lanes record failed := by
  unfold Traffic.detach
  split
  · exact h.mapSenders _ (· - 1)
  · exact h

theorem Keeps.settle (h : Keeps t.lanes record failed) (opened : Option (ScriptPipe × Writer)) :
    Keeps (t.settle opened).lanes record failed := by
  cases opened with
  | none => exact h
  | some opened =>
    obtain ⟨pipe, writer⟩ := opened
    intro child
    have hchild := h child
    rcases Nat.lt_trichotomy child t.lanes.length with hlt | rfl | hgt
    · simpa [Traffic.settle, List.getElem?_append_left hlt] using hchild
    · rw [List.getElem?_eq_none (Nat.le_refl _)] at hchild
      obtain ⟨hlines, hfailed⟩ := hchild
      rw [hlines, hfailed]
      simpa [Traffic.settle] using ⟨rfl, Scribe.books_ofWriter rfl _⟩
    · rw [List.getElem?_eq_none (Nat.le_of_lt hgt)] at hchild
      have hlength : (t.settle (some (pipe, writer))).lanes.length ≤ child := by
        simpa [Traffic.settle] using Nat.succ_le_of_lt hgt
      rwa [List.getElem?_eq_none hlength]

/-- A line that is accepted goes on record and into its channel. -/
theorem Keeps.send (h : Keeps t.lanes record failed) (index : Nat) :
    Keeps ((t.send index).getD t).lanes (record ++ t.sentAt (.sender index)) failed := by
  cases hentry : t.underWay[index]? with
  | none => simpa [Traffic.send, sentAt, hentry] using h
  | some entry =>
    obtain ⟨child, line⟩ := entry
    cases hlane : t.lanes[child]? with
    | none => simpa [Traffic.send, sentAt, hentry, hlane] using h
    | some lane =>
      have hagrees := h child
      rw [hlane] at hagrees
      cases hsend : lane.lines.send line with
      | accepted lines =>
        simp only [Traffic.send, sentAt, hentry, hlane, hsend, Option.bind_eq_bind,
          Option.bind_some, Option.getD_some]
        refine h.modify hlane (fun other hne ↦ linesFor_append_of_ne hne record line)
          (fun _ _ ↦ rfl) ?_
        rw [linesFor_append_self]
        exact ⟨by rw [hagrees.1], (hagrees.2.send hsend).of_senders _⟩
      | full => simpa [Traffic.send, sentAt, hentry, hlane, hsend] using h
      | refused =>
        simp only [Traffic.send, sentAt, hentry, hlane, hsend, Option.bind_eq_bind,
          Option.bind_some, Option.getD_some, List.append_nil]
        exact h.mapSenders child (· - 1)

/-- A feeder that acts keeps its books, and if it fails that goes on record. -/
theorem Keeps.feed (h : Keeps t.lanes record failed) (child : ChildId) :
    Keeps ((t.feed child).getD t).lanes record (failed ++ t.failingAt (.feeder child)) := by
  cases hlane : t.lanes[child]? with
  | none => simpa [Traffic.feed, failingAt, hlane] using h
  | some lane =>
    have hagrees := h child
    rw [hlane] at hagrees
    cases hstep : lane.feeder.step lane.lines with
    | none =>
      have hfailing := Scribe.not_isFailing_of_step_eq_none hstep
      simpa [Traffic.feed, failingAt, hlane, hstep, hfailing] using h
    | some next =>
      obtain ⟨feeder, lines⟩ := next
      simp only [Traffic.feed, failingAt, hlane, hstep, Option.bind_eq_bind, Option.bind_some,
        Option.any_some]
      refine h.modify hlane (fun _ _ ↦ rfl) (fun other hne ↦ ?_) ?_
      · split <;> simp [hne]
      · have hcontains : (failed ++ if lane.feeder.isFailing then [child] else []).contains child =
            (failed.contains child || lane.feeder.isFailing) := by
          cases lane.feeder.isFailing <;> simp
        rw [hcontains]
        exact ⟨hagrees.1, hagrees.2.step hstep⟩

theorem lanes_publish {t' : Traffic} {exit : Exit} (hact : t.publish exit = some t') :
    t'.lanes = t.lanes := by
  unfold publish at hact
  split at hact
  · split at hact <;> cases hact
    rfl
  · cases hact

theorem lanes_proceed {t' : Traffic} (hact : t.proceed = some t') : t'.lanes = t.lanes := by
  unfold proceed at hact
  split at hact
  · split at hact <;> cases hact
    rfl
  · cases hact

/-- In a turn that sends nothing and fails nothing, only an action can change the lanes. -/
theorem Keeps.turn_of_act (h : Keeps t.lanes record failed) {party : Party}
    (hact : ∀ t', act party t = some t' → Keeps t'.lanes record failed) :
    Keeps ((act party t).getD t).lanes record failed := by
  cases hsome : act party t with
  | none => exact h
  | some t' => exact hact t' hsome

/-- Whatever a party does in its turn, the lanes agree with what is then on record. -/
theorem Keeps.turn (h : Keeps t.lanes record failed) (party : Party) :
    Keeps (Schedule.turn act t party).lanes (record ++ t.sentAt party)
      (failed ++ t.failingAt party) := by
  unfold Schedule.turn
  cases party with
  | submitter line => simpa [act, sentAt, failingAt] using h.lookUp line
  | sender index => simpa [act, failingAt] using h.send index
  | feeder child => simpa [act, sentAt] using h.feed child
  | script child writer => simpa [act, sentAt, failingAt] using h.change child writer
  | shell exit =>
    simp only [sentAt, failingAt, List.append_nil]
    refine h.turn_of_act fun t' hact ↦ ?_
    rwa [lanes_publish hact]
  | starter =>
    simp only [sentAt, failingAt, List.append_nil]
    refine h.turn_of_act fun t' hact ↦ ?_
    obtain ⟨-, -, rfl⟩ := act_starter_eq_some_iff.mp hact
    exact h.detach true
  | closer =>
    simp only [sentAt, failingAt, List.append_nil]
    refine h.turn_of_act fun t' hact ↦ ?_
    obtain ⟨-, rfl⟩ := act_closer_eq_some_iff.mp hact
    have hclosing :
        Keeps { t with driver := { t.driver with closed := true } }.lanes record failed := h
    exact hclosing.detach false
  | holder =>
    simp only [sentAt, failingAt, List.append_nil]
    refine h.turn_of_act fun t' hact ↦ ?_
    rwa [lanes_proceed hact]
  | opener opened =>
    simp only [sentAt, failingAt, List.append_nil]
    refine h.turn_of_act fun t' hact ↦ ?_
    obtain ⟨-, rfl⟩ := act_opener_eq_some_iff.mp hact
    exact h.settle opened

theorem Keeps.play (h : Keeps t.lanes record failed) (schedule : List Party) :
    Keeps (Schedule.play act t schedule).lanes (record ++ t.sent schedule)
      (failed ++ t.failing schedule) := by
  induction schedule generalizing t record failed with
  | nil => simpa [sent, failing] using h
  | cons party rest ih =>
    -- What the first turn adds stands before what the others add.
    have hrest := ih (h.turn party)
    rw [List.append_assoc, List.append_assoc] at hrest
    exact hrest

/-! ## Feeders that have not ended -/

/-- The child is that of the driver's session, or somebody waits for its feeder. -/
def Holds (t : Traffic) (child : ChildId) : Prop :=
  (∃ session, t.driver.session = some session ∧ session.child.id = child) ∨
    ∃ restart, t.lock = .tearing child restart

/-- No feeder is forgotten before it has ended, and while the lock is held there is no session. -/
structure Attended (t : Traffic) : Prop where
  locked : t.lock = .free ∨ t.driver.session = none
  ended : ∀ child lane, t.lanes[child]? = some lane → lane.feeder.phase = .ended ∨ t.Holds child

/-- A change of one lane after which a feeder that had ended still has ended. -/
theorem Attended.update (h : t.Attended) {f : Lane → Lane} {underWay : List (ChildId × Bytes)}
    (hended : ∀ lane, t.lanes[child]? = some lane → lane.feeder.phase = .ended →
      (f lane).feeder.phase = .ended) :
    Attended { t with lanes := t.lanes.modify child f, underWay := underWay } := by
  refine ⟨h.locked, fun other lane hlane ↦ ?_⟩
  rw [List.getElem?_modify] at hlane
  obtain ⟨lane', hlane', heq⟩ := Option.map_eq_some_iff.mp hlane
  refine (h.ended other lane' hlane').imp_left fun hphase ↦ ?_
  split at heq
  · next hchild =>
    subst hchild
    rw [← heq]
    exact hended lane' hlane' hphase
  · rwa [← heq]

theorem attended_ofDriver (settings : SessionSettings) (processId : Nat) (sinks : PerStream Bool) :
    (ofDriver (.ofSettings settings processId sinks)).Attended :=
  ⟨.inl rfl, fun _ _ hlane ↦ nomatch hlane⟩

/-- A feeder that nobody waits for and that is not the driver's has ended. -/
theorem Attended.ended_of_unheld {lane : Lane} (h : t.Attended)
    (hlane : t.lanes[child]? = some lane) (hsession : t.driver.session = none)
    (hlock : ∀ restart, t.lock ≠ .tearing child restart) :
    lane.feeder.phase = .ended := by
  rcases h.ended child lane hlane with hphase | ⟨session, hsome, -⟩ | ⟨restart, htearing⟩
  · exact hphase
  · rw [hsession] at hsome
    cases hsome
  · exact absurd htearing (hlock restart)

theorem Attended.session_eq_none (h : t.Attended) (hlock : t.lock ≠ .free) :
    t.driver.session = none :=
  h.locked.resolve_left hlock

/-- The end of a feeder ends the wait for it. -/
theorem Attended.proceed {t' : Traffic} (h : t.Attended) (hact : t.proceed = some t') :
    t'.Attended := by
  unfold Traffic.proceed at hact
  split at hact
  · next child restart hlock =>
    split at hact
    · next hall =>
      cases hact
      have hsession : t.driver.session = none := h.session_eq_none (by rw [hlock]; exact nofun)
      refine ⟨.inr hsession, fun other lane hlane ↦ .inl ?_⟩
      by_cases hother : other = child
      · subst hother
        rw [hlane] at hall
        exact beq_iff_eq.mp hall
      · refine h.ended_of_unheld hlane hsession fun restart' htearing ↦ ?_
        rw [hlock] at htearing
        cases htearing
        exact hother rfl
    · cases hact
  · cases hact

theorem Attended.publish {t' : Traffic} {exit : Exit} (h : t.Attended)
    (hact : t.publish exit = some t') : t'.Attended := by
  unfold Traffic.publish at hact
  split at hact
  · next session hsession =>
    split at hact
    · cases hact
      refine ⟨?_, fun child lane hlane ↦ ?_⟩
      · rcases h.locked with hfree | hnone
        · exact .inl hfree
        · rw [hsession] at hnone
          cases hnone
      · rcases h.ended child lane hlane with hphase | ⟨session', hsome, hid⟩ | htearing
        · exact .inl hphase
        · rw [hsession] at hsome
          cases hsome
          exact .inr (.inl ⟨_, rfl, hid⟩)
        · exact .inr (.inr htearing)
    · cases hact
  · cases hact

/-- Who lets go of a session waits for its feeder. -/
theorem Attended.detach (h : t.Attended) (hlock : t.lock = .free) (restart : Bool) :
    (t.detach restart).Attended := by
  have hnobody : ∀ child restart', t.lock ≠ .tearing child restart' := by
    rw [hlock]
    exact fun _ _ ↦ nofun
  unfold Traffic.detach
  split
  · next session hsession =>
    refine ⟨.inr rfl, fun child lane hlane ↦ ?_⟩
    have hkept : (t.mapLines session.child.id Channel.dropSender).Attended :=
      h.update fun _ _ hphase ↦ hphase
    rcases hkept.ended child lane hlane with hphase | ⟨session', hsome, hid⟩ | ⟨restart', htearing⟩
    · exact .inl hphase
    · cases hsession.symm.trans hsome
      subst hid
      exact .inr (.inr ⟨restart, rfl⟩)
    · exact absurd htearing (hnobody child restart')
  · next hsession =>
    exact ⟨.inr hsession, fun child lane hlane ↦
      .inl (h.ended_of_unheld hlane hsession (hnobody child))⟩

/-- The feeder of a new session is the driver's. -/
theorem Attended.settle (h : t.Attended) (hlock : t.lock = .starting)
    (opened : Option (ScriptPipe × Writer)) : (t.settle opened).Attended := by
  have hsession : t.driver.session = none := h.session_eq_none (by rw [hlock]; exact nofun)
  have hended : ∀ (child : ChildId) (lane : Lane), t.lanes[child]? = some lane →
      lane.feeder.phase = .ended := by
    intro child lane hlane
    refine h.ended_of_unheld hlane hsession ?_
    rw [hlock]
    exact fun _ ↦ nofun
  cases opened with
  | none => exact ⟨.inl rfl, fun child lane hlane ↦ .inl (hended child lane hlane)⟩
  | some opened =>
    refine ⟨.inl rfl, fun child lane hlane ↦ ?_⟩
    rcases Nat.lt_or_ge child t.lanes.length with hold | hnew
    · rw [Traffic.settle, List.getElem?_append_left hold] at hlane
      exact .inl (hended child lane hlane)
    · refine .inr (.inl ⟨_, rfl, ?_⟩)
      have hlt : child < t.lanes.length + 1 := by
        have hlength := (List.getElem?_eq_some_iff.mp hlane).1
        simpa [Traffic.settle] using hlength
      exact Nat.le_antisymm hnew (Nat.le_of_lt_succ hlt)

theorem Attended.lookUp {t' : Traffic} {line : String} (h : t.Attended)
    (hact : t.lookUp line = some t') : t'.Attended := by
  unfold Traffic.lookUp at hact
  split at hact
  · cases hact
    exact h.update fun _ _ hphase ↦ hphase
  · cases hact

theorem Attended.send {t' : Traffic} {index : Nat} (h : t.Attended)
    (hact : t.send index = some t') : t'.Attended := by
  simp only [Traffic.send, Option.bind_eq_bind] at hact
  obtain ⟨⟨child, line⟩, -, hact⟩ := Option.bind_eq_some_iff.mp hact
  obtain ⟨lane, -, hact⟩ := Option.bind_eq_some_iff.mp hact
  dsimp only at hact
  split at hact
  · cases hact
    exact h.update fun _ _ hphase ↦ hphase
  · cases hact
  · cases hact
    exact h.update fun _ _ hphase ↦ hphase

/-- A feeder that has ended does not act. -/
theorem Attended.feed {t' : Traffic} (h : t.Attended) (hact : t.feed child = some t') :
    t'.Attended := by
  simp only [Traffic.feed, Option.bind_eq_bind] at hact
  obtain ⟨lane, hlane, hact⟩ := Option.bind_eq_some_iff.mp hact
  obtain ⟨⟨feeder, lines⟩, hstep, hact⟩ := Option.bind_eq_some_iff.mp hact
  cases hact
  refine h.update fun lane' hlane' hphase ↦ ?_
  cases hlane.symm.trans hlane'
  simp only [Scribe.step, hphase] at hstep
  cases hstep

/-- No action of a party leaves a feeder unattended. -/
theorem Attended.act {t' : Traffic} {party : Party} (h : t.Attended)
    (hact : Traffic.act party t = some t') : t'.Attended := by
  cases party with
  | submitter line => exact h.lookUp hact
  | sender index => exact h.send hact
  | feeder child => exact h.feed hact
  | script child writer =>
    cases hact
    exact h.update fun _ _ hphase ↦ hphase
  | shell exit => exact h.publish hact
  | starter =>
    obtain ⟨hlock, -, rfl⟩ := act_starter_eq_some_iff.mp hact
    exact h.detach hlock true
  | closer =>
    obtain ⟨hlock, rfl⟩ := act_closer_eq_some_iff.mp hact
    have hclosing : Attended { t with driver := { t.driver with closed := true } } :=
      ⟨h.locked, h.ended⟩
    exact hclosing.detach hlock false
  | holder => exact h.proceed hact
  | opener opened =>
    obtain ⟨hlock, rfl⟩ := act_opener_eq_some_iff.mp hact
    exact h.settle hlock opened

/-- The feeder of a session that was torn down has ended. -/
theorem Attended.ended_of_isTornDown {lane : Lane} (h : t.Attended)
    (hlane : t.lanes[child]? = some lane) (htorn : t.isTornDown child = true) :
    lane.feeder.phase = .ended := by
  simp only [isTornDown, Bool.and_eq_true, bne_iff_ne, ne_eq] at htorn
  obtain ⟨⟨⟨-, hsession⟩, hrestarting⟩, hclosing⟩ := htorn
  refine (h.ended child lane hlane).resolve_right ?_
  rintro (⟨session, hsome, hid⟩ | ⟨restart, htearing⟩)
  · rw [hsome] at hsession
    simp [hid] at hsession
  · cases restart
    · exact hclosing htearing
    · exact hrestarting htearing

/-! ## Delivery -/

/-- Under every schedule, what a child's channel took are the lines that were sent to that child, in
the order in which they were sent, and what is written to its script is a prefix of these. If the
session of the child was torn down and its feeder never failed to write or to flush, then all of
them are written in full, and each is counted once. -/
theorem written_prefix_sent (settings : SessionSettings) (processId : Nat) (sinks : PerStream Bool)
    (schedule : List Party) (child : ChildId) :
    let start := ofDriver (.ofSettings settings processId sinks)
    let t := Schedule.play act start schedule
    let lines := linesFor child (start.sent schedule)
    t.accepted child = lines.flatten ∧ t.written child <+: lines.flatten ∧
      (t.isTornDown child = true → child ∉ start.failing schedule →
        t.written child = lines.flatten ∧ t.linesWritten child = lines.length) := by
  intro start t lines
  have hkeeps : Keeps start.lanes [] [] := fun _ ↦ ⟨rfl, rfl⟩
  have hattended : t.Attended := Schedule.play_invariant
    (fun _ _ _ h hact ↦ Attended.act h hact) (attended_ofDriver settings processId sinks) schedule
  have hagrees : Agrees lines ((start.failing schedule).contains child) t.lanes[child]? :=
    hkeeps.play schedule child
  unfold accepted written linesWritten
  cases hlane : t.lanes[child]? with
  | none =>
    rw [hlane] at hagrees
    refine ⟨?_, List.nil_prefix, fun htorn _ ↦ ?_⟩
    · rw [hagrees.1]
      rfl
    · simp [isTornDown, hlane] at htorn
  | some lane =>
    rw [hlane] at hagrees
    refine ⟨congrArg List.flatten hagrees.1, hagrees.2.taken_prefix_flatten, ?_⟩
    intro htorn hfailing
    have hbooks : lane.feeder.Books lane.lines lines false := by
      rw [← List.contains_iff_mem, Bool.not_eq_true] at hfailing
      rw [← hfailing]
      exact hagrees.2
    exact hbooks.complete (hattended.ended_of_isTornDown hlane htorn)

/-- A line whose submitter took its sender before the session was closed is written all the same. -/
theorem written_prefix_sent_across_close :
    let start := ofDriver (.ofSettings ⟨⟨[0x61]⟩, ⟨[0x62]⟩, 1, ⟨0⟩, none⟩ 0 ⟨false, false⟩)
    let schedule : List Party :=
      [.starter, .opener (some (⟨⟨[0x63]⟩, false⟩, .unlimited)), .submitter "a\n", .closer,
        .sender 0, .feeder 0, .feeder 0, .feeder 0, .feeder 0, .feeder 0, .holder]
    let t := Schedule.play act start schedule
    t.isTornDown 0 = true ∧ t.written 0 = [0x61, 0x0A] ∧ t.linesWritten 0 = 1 := by
  intro start schedule t
  have htorn : t.isTornDown 0 = true := by decide
  have hfailing : 0 ∉ start.failing schedule := by decide
  have hsent : linesFor 0 (start.sent schedule) = [[0x61, 0x0A]] := by decide
  obtain ⟨-, -, hcomplete⟩ :=
    written_prefix_sent ⟨⟨[0x61]⟩, ⟨[0x62]⟩, 1, ⟨0⟩, none⟩ 0 ⟨false, false⟩ schedule 0
  obtain ⟨hwritten, hcounted⟩ := hcomplete htorn hfailing
  rw [hsent] at hwritten hcounted
  exact ⟨htorn, hwritten, hcounted⟩

end ShellDebugger.Traffic
