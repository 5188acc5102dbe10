import ShellDebugger.Machine.Pipes
import ShellDebugger.Proofs.Host.FileTree
import ShellDebugger.Proofs.Session.PipeNames

/-!
# Names and removals of script pipes

What a process does to the directories that it shares with others. Each attempt to make a pipe draws
a number, and no number is drawn twice before the counter has gone round, so no two pipes get the
same path. A pipe is made only where nothing stands, and its file is removed once.
-/

namespace ShellDebugger.Pipes

/-! ## What is seen of a run -/

def draws (trace : List Plan.Event) : Nat :=
  trace.countP fun event ↦
    match event.call with
    | .drawNumber => true
    | _ => false

/-- The paths of the files that are to be removed in a trace. -/
def unlinked (trace : List Plan.Event) : List Path :=
  trace.filterMap fun event ↦
    match event.call with
    | .unlink path => some path
    | _ => none

theorem draws_append (trace rest : List Plan.Event) :
    draws (trace ++ rest) = draws trace + draws rest :=
  List.countP_append

theorem unlinked_append (trace rest : List Plan.Event) :
    unlinked (trace ++ rest) = unlinked trace ++ unlinked rest :=
  List.filterMap_append

variable {s : Pipes}

def paths (s : Pipes) : List Path :=
  s.made.map (·.path)

theorem paths_concat (m : Machine) (made : List ScriptPipe) (pipe : ScriptPipe) :
    paths ⟨m, made ++ [pipe]⟩ = paths ⟨m, made⟩ ++ [pipe.path] :=
  List.map_append

def removedPaths (s : Pipes) : List Path :=
  (s.made.filter (·.removed)).map (·.path)

/-- The pipe whose file the process is to remove in an action. -/
def leaving (s : Pipes) : Action → Option ScriptPipe
  | .remove index | .drop index => s.made[index]?.filter (!·.removed)
  | .create _ | .install .. | .discard _ => none

/-! ## Making a pipe -/

/-- The machine on which some numbers were drawn. -/
def afterDraws (m : Machine) (drawn : Nat) : Machine :=
  { m with nextNumber := m.nextNumber + .ofNat drawn }

/-- What the process has after it tried to make a pipe in a directory, when some numbers are drawn
for it: what it had, on a machine of which nothing but the counter has changed, or one pipe more, of
the number drawn last, where nothing stood. -/
inductive Extended (s : Pipes) (directory : Path) : Nat → Pipes → Prop
  | none (drawn : Nat) : Extended s directory drawn ⟨afterDraws s.machine drawn, s.made⟩
  | one (drawn : Nat) {path : Path} {place : Place}
      (hpath : path = ScriptPipe.pathOf directory s.machine.processId
        (s.machine.nextNumber + .ofNat drawn))
      (hresolve : s.machine.files.resolve false path = .ok place)
      (hfree : s.machine.files.node? place = Option.none) :
      Extended s directory (drawn + 1)
        ⟨{ afterDraws s.machine (drawn + 1) with
            files := s.machine.files.put place (.pipe ScriptPipe.mode 0) },
          s.made ++ [⟨path, false⟩]⟩

/-- Carried out on the machine `m`, a plan that is begun when some numbers are drawn comes to trying
to make a pipe, and removes nothing. -/
def Extends (s : Pipes) (directory : Path) (drawn : Nat)
    (plan : Plan (Except SessionError ScriptPipe)) (m : Machine) : Prop :=
  Extended s directory (drawn + draws (plan.traceWith Machine.answer m))
      (s.keep (m.carryOut plan)).2 ∧
    unlinked (plan.traceWith Machine.answer m) = []

section Extends

variable {directory path : Path} {m : Machine} {drawn : Nat}

theorem Extends.draw {plan : UInt64 → Plan (Except SessionError ScriptPipe)}
    (h : Extends s directory (drawn + 1) (plan (s.machine.nextNumber + .ofNat drawn))
      (afterDraws s.machine (drawn + 1))) :
    Extends s directory drawn (Plan.call .drawNumber >>= plan) (afterDraws s.machine drawn) := by
  let m := afterDraws s.machine drawn
  have hsucc : afterDraws s.machine (drawn + 1) = { m with nextNumber := m.nextNumber + 1 } := by
    rw [afterDraws, UInt64.ofNat_add, ← UInt64.add_assoc]
    rfl
  rw [hsucc] at h
  obtain ⟨hextended, hunlinked⟩ := h
  have hdraws : draws ((Plan.call .drawNumber >>= plan).traceWith Machine.answer m) =
      draws ((plan (s.machine.nextNumber + .ofNat drawn)).traceWith Machine.answer
        { m with nextNumber := m.nextNumber + 1 }) + 1 := List.countP_cons_of_pos rfl
  rw [Extends, hdraws, ← Nat.add_assoc, Nat.add_right_comm]
  exact ⟨hextended, hunlinked⟩

theorem Extends.makePipe {plan : Except IoError Unit → Plan (Except SessionError ScriptPipe)}
    (h : Extends s directory drawn (plan (m.changeFiles (m.files.makePipe path 0o600)).2)
      (m.changeFiles (m.files.makePipe path 0o600)).1) :
    Extends s directory drawn (Plan.call (.makePipe path) >>= plan) m :=
  h

theorem extends_tryNames (s : Pipes) (directory last : Path) (tries drawn : Nat) :
    Extends s directory drawn (ScriptPipe.tryNames directory s.machine.processId last tries)
      (afterDraws s.machine drawn) := by
  induction tries generalizing drawn last with
  | zero => exact ⟨.none drawn, rfl⟩
  | succ tries ih =>
    rw [ScriptPipe.tryNames]
    apply Extends.draw
    apply Extends.makePipe
    let path := ScriptPipe.pathOf directory s.machine.processId
      (s.machine.nextNumber + .ofNat drawn)
    have hfiles : (afterDraws s.machine (drawn + 1)).files.makePipe path 0o600 =
        s.machine.files.makePipe path 0o600 := rfl
    rw [hfiles]
    cases hmake : s.machine.files.makePipe path 0o600 with
    | ok files =>
      obtain ⟨place, hresolve, hfree, rfl⟩ := FileTree.makePipe_eq_ok_iff.mp hmake
      exact ⟨.one drawn rfl hresolve hfree, rfl⟩
    | error cause =>
      have hfailed (e : SessionError) : Extends s directory (drawn + 1) (pure (.error e))
          (afterDraws s.machine (drawn + 1)) := ⟨.none (drawn + 1), rfl⟩
      cases cause with
      | refused errno =>
        by_cases htaken : errno = .nameTaken
        · subst htaken
          exact ih _ _
        · dsimp only [Machine.changeFiles]
          rw [if_neg htaken]
          exact hfailed _
      | _ => exact hfailed _

end Extends

theorem extends_createIn (s : Pipes) (directory : Path) :
    Extends s directory 0 (ScriptPipe.createIn directory s.machine.processId) s.machine := by
  have hzero : afterDraws s.machine 0 = s.machine := by
    rw [afterDraws, show s.machine.nextNumber + .ofNat 0 = _ from UInt64.add_zero _]
  have h := extends_tryNames s directory ⟨[]⟩ ScriptPipe.attempts 0
  rwa [hzero] at h

theorem extended_act_create (s : Pipes) (directory : Path) :
    Extended s directory (draws (s.calls (.create directory))) (s.act (.create directory)) := by
  have h := (extends_createIn s directory).1
  rw [Nat.zero_add] at h
  exact h

theorem unlinked_calls_create (s : Pipes) (directory : Path) :
    unlinked (s.calls (.create directory)) = [] :=
  (extends_createIn s directory).2

/-- What stood before is still there. -/
theorem Extended.node?_eq {directory : Path} {drawn : Nat} {s' : Pipes}
    (h : Extended s directory drawn s') {place : Place} {node : Node}
    (hnode : s.machine.files.node? place = some node) :
    s'.machine.files.node? place = some node := by
  cases h with
  | none => exact hnode
  | @one before path free hpath hresolve hfree =>
    have hne : place ≠ free := by
      rintro rfl
      rw [hfree] at hnode
      cases hnode
    dsimp only
    rw [FileTree.node?_put hfree, if_neg hne, hnode]

/-! ## Removing a pipe -/

theorem changeFiles_processId (m : Machine) (change : Except IoError FileTree) :
    (m.changeFiles change).1.processId = m.processId := by
  cases change <;> rfl

theorem changeFiles_nextNumber (m : Machine) (change : Except IoError FileTree) :
    (m.changeFiles change).1.nextNumber = m.nextNumber := by
  cases change <;> rfl

/-- What the process has after it removed the file of a pipe, or of none: the file is asked to be
removed, and the pipe is marked. -/
inductive Reduced (s : Pipes) : Option ScriptPipe → Pipes → Prop
  | none : Reduced s none s
  | one {before after : List ScriptPipe} {pipe : ScriptPipe}
      (hmade : s.made = before ++ pipe :: after) (hlive : pipe.removed = false) :
      Reduced s (some pipe)
        ⟨(s.machine.changeFiles (s.machine.files.unlink pipe.path)).1,
          before ++ { pipe with removed := true } :: after⟩

theorem removeFile_of_leaving_eq_none {index : Nat} (h : s.leaving (.drop index) = none) :
    s.removeFile index = s ∧ s.removalCalls index = [] := by
  rw [removeFile, removalCalls]
  cases hpipe : s.made[index]? with
  | none => exact ⟨rfl, rfl⟩
  | some pipe =>
    rw [leaving, hpipe, Option.filter_eq_none_iff] at h
    have hremoved : pipe.removed = true := by simpa using h pipe rfl
    dsimp only
    rw [ScriptPipe.remove, if_pos hremoved]
    have hset : s.made.set index pipe = s.made := by
      obtain ⟨hindex, rfl⟩ := List.getElem?_eq_some_iff.mp hpipe
      exact List.set_getElem_self hindex
    exact ⟨congrArg (Pipes.mk s.machine) hset, rfl⟩

theorem removeFile_of_leaving_eq_some {index : Nat} {pipe : ScriptPipe}
    (h : s.leaving (.drop index) = some pipe) :
    Reduced s (some pipe) (s.removeFile index) ∧
      (∃ answer, s.removalCalls index = [⟨.unlink pipe.path, answer⟩]) ∧
      (s.removeFile index).leaving (.drop index) = none := by
  rw [leaving, Option.filter_eq_some_iff] at h
  obtain ⟨hpipe, hlive⟩ := h
  have hlive : pipe.removed = false := by simpa using hlive
  obtain ⟨hindex, hget⟩ := List.getElem?_eq_some_iff.mp hpipe
  have hmade : s.made = s.made.take index ++ pipe :: s.made.drop (index + 1) := by
    rw [← hget, List.getElem_cons_drop, List.take_append_drop]
  have hset : s.made.set index { pipe with removed := true } =
      s.made.take index ++ { pipe with removed := true } :: s.made.drop (index + 1) := by
    rw [List.set_eq_take_append_cons_drop, if_pos hindex]
  have hremove : s.removeFile index =
      ⟨(s.machine.changeFiles (s.machine.files.unlink pipe.path)).1,
        s.made.set index { pipe with removed := true }⟩ := by
    rw [removeFile, hpipe]
    dsimp only
    rw [ScriptPipe.remove, hlive, if_neg Bool.false_ne_true]
    rfl
  refine ⟨?_, ?_, ?_⟩
  · rw [hremove, hset]
    exact .one hmade hlive
  · rw [removalCalls, hpipe]
    dsimp only
    rw [ScriptPipe.remove, hlive, if_neg Bool.false_ne_true]
    exact ⟨_, rfl⟩
  · rw [hremove, leaving, List.getElem?_set_self hindex]
    rfl

/-- A pipe that was removed is dropped without a call. -/
theorem remove_eq_drop (s : Pipes) (index : Nat) :
    s.act (.remove index) = s.act (.drop index) ∧
      s.calls (.remove index) = s.calls (.drop index) := by
  rw [act, act, calls, calls]
  have hnone : (s.removeFile index).leaving (.drop index) = none := by
    cases hleaving : s.leaving (.drop index) with
    | none => rwa [(removeFile_of_leaving_eq_none hleaving).1]
    | some pipe => exact (removeFile_of_leaving_eq_some hleaving).2.2
  obtain ⟨hsame, hsilent⟩ := removeFile_of_leaving_eq_none hnone
  rw [hsame, hsilent, List.append_nil]
  exact ⟨rfl, rfl⟩

theorem reduced_act_drop (s : Pipes) (index : Nat) :
    Reduced s (s.leaving (.drop index)) (s.act (.drop index)) := by
  rw [act]
  cases hleaving : s.leaving (.drop index) with
  | none =>
    rw [(removeFile_of_leaving_eq_none hleaving).1]
    exact .none
  | some pipe => exact (removeFile_of_leaving_eq_some hleaving).1

theorem draws_calls_drop (s : Pipes) (index : Nat) : draws (s.calls (.drop index)) = 0 := by
  rw [calls]
  cases hleaving : s.leaving (.drop index) with
  | none =>
    rw [(removeFile_of_leaving_eq_none hleaving).2]
    rfl
  | some pipe =>
    obtain ⟨-, ⟨answer, hcalls⟩, -⟩ := removeFile_of_leaving_eq_some hleaving
    rw [hcalls]
    rfl

theorem unlinked_calls_drop (s : Pipes) (index : Nat) :
    unlinked (s.calls (.drop index)) = (s.leaving (.drop index)).toList.map (·.path) := by
  rw [calls]
  cases hleaving : s.leaving (.drop index) with
  | none =>
    rw [(removeFile_of_leaving_eq_none hleaving).2]
    rfl
  | some pipe =>
    obtain ⟨-, ⟨answer, hcalls⟩, -⟩ := removeFile_of_leaving_eq_some hleaving
    rw [hcalls]
    rfl

/-! ## Paths -/

/-- The paths of all pipes are made of different numbers that have been drawn since the process
began at the number `start`. -/
structure IsNumbered (start : UInt64) (processId drawn : Nat) (s : Pipes) : Prop where
  processId_eq : s.machine.processId = processId
  nextNumber_eq : s.machine.nextNumber = start + .ofNat drawn
  number : ∀ path ∈ s.paths, ∃ directory number, number < drawn ∧
    path = ScriptPipe.pathOf directory processId (start + .ofNat number)
  nodup : s.paths.Nodup

section IsNumbered

variable {start : UInt64} {processId drawn : Nat}

theorem ofNat_injective {a b : Nat} (ha : a < 2 ^ 64) (hb : b < 2 ^ 64)
    (h : start + UInt64.ofNat a = start + .ofNat b) : a = b := by
  have hvalue := congrArg UInt64.toNat ((UInt64.add_right_inj start).mp h)
  rwa [UInt64.toNat_ofNat_of_lt' ha, UInt64.toNat_ofNat_of_lt' hb] at hvalue

/-- Only the machine's counter and the paths of the pipes matter. -/
theorem IsNumbered.congr (h : IsNumbered start processId drawn s) {s' : Pipes}
    (hprocess : s'.machine.processId = s.machine.processId)
    (hnext : s'.machine.nextNumber = s.machine.nextNumber) (hpaths : s'.paths = s.paths) :
    IsNumbered start processId drawn s' where
  processId_eq := hprocess.trans h.processId_eq
  nextNumber_eq := hnext.trans h.nextNumber_eq
  number := hpaths ▸ h.number
  nodup := hpaths ▸ h.nodup

theorem IsNumbered.extended (h : IsNumbered start processId drawn s) {directory : Path}
    {more : Nat} {s' : Pipes} (hextended : Extended s directory more s')
    (hbound : drawn + more ≤ 2 ^ 64) : IsNumbered start processId (drawn + more) s' := by
  have hnext : s.machine.nextNumber + .ofNat more = start + .ofNat (drawn + more) := by
    rw [h.nextNumber_eq, UInt64.ofNat_add, UInt64.add_assoc]
  have hold (path : Path) (hpath : path ∈ s.paths) : ∃ directory number, number < drawn + more ∧
      path = ScriptPipe.pathOf directory processId (start + .ofNat number) := by
    obtain ⟨directory, number, hlt, heq⟩ := h.number path hpath
    exact ⟨directory, number, Nat.lt_add_right more hlt, heq⟩
  cases hextended with
  | none => exact ⟨h.processId_eq, hnext, hold, h.nodup⟩
  | @one before path place hpath hresolve hfree =>
    have hnew : path = ScriptPipe.pathOf directory processId (start + .ofNat (drawn + before)) := by
      rw [hpath, h.processId_eq, h.nextNumber_eq, UInt64.ofNat_add, UInt64.add_assoc]
    refine ⟨h.processId_eq, hnext, ?_, ?_⟩
    · rw [paths_concat]
      intro path' hpath'
      rcases List.mem_append.mp hpath' with hmem | hmem
      · exact hold path' hmem
      · rw [List.mem_singleton.mp hmem]
        exact ⟨directory, drawn + before, by omega, hnew⟩
    · rw [paths_concat]
      refine List.nodup_append'.mpr ⟨h.nodup, List.nodup_singleton _, ?_⟩
      rw [List.disjoint_singleton]
      intro hmem
      obtain ⟨directory', number, hlt, heq⟩ := h.number path hmem
      have hnumber := ScriptPipe.number_eq_of_pathOf_eq processId (heq.symm.trans hnew)
      have := ofNat_injective (by omega) (by omega) hnumber
      omega

theorem IsNumbered.reduced (h : IsNumbered start processId drawn s) {pipe : Option ScriptPipe}
    {s' : Pipes} (hreduced : Reduced s pipe s') : IsNumbered start processId drawn s' := by
  cases hreduced with
  | none => exact h
  | @one before after pipe hmade hlive =>
    refine h.congr (changeFiles_processId _ _) (changeFiles_nextNumber _ _) ?_
    rw [paths, paths, hmade, List.map_append, List.map_append, List.map_cons, List.map_cons]

theorem IsNumbered.act (h : IsNumbered start processId drawn s) (action : Action)
    (hbound : drawn + draws (s.calls action) ≤ 2 ^ 64) :
    IsNumbered start processId (drawn + draws (s.calls action)) (s.act action) := by
  have hdrop (index : Nat) : IsNumbered start processId (drawn + draws (s.calls (.drop index)))
      (s.act (.drop index)) := by
    rw [draws_calls_drop]
    exact h.reduced (reduced_act_drop s index)
  cases action with
  | create directory => exact h.extended (extended_act_create s directory) hbound
  | remove index =>
    obtain ⟨hact, hcalls⟩ := remove_eq_drop s index
    rw [hact, hcalls]
    exact hdrop index
  | drop index => exact hdrop index
  | install path node => exact h.congr rfl rfl rfl
  | discard path => exact h.congr rfl rfl rfl

theorem IsNumbered.run (h : IsNumbered start processId drawn s) (actions : List Action)
    (hbound : drawn + draws (s.callsOf actions) ≤ 2 ^ 64) :
    IsNumbered start processId (drawn + draws (s.callsOf actions)) (s.run actions) := by
  induction actions generalizing s drawn with
  | nil => exact h
  | cons action rest ih =>
    rw [callsOf, draws_append, ← Nat.add_assoc] at hbound ⊢
    exact ih (h.act action (by omega)) hbound

end IsNumbered

/-! ## Removals -/

theorem unlinked_calls (s : Pipes) (action : Action) :
    unlinked (s.calls action) = (s.leaving action).toList.map (·.path) := by
  cases action with
  | create directory => exact unlinked_calls_create s directory
  | remove index =>
    rw [(remove_eq_drop s index).2]
    exact unlinked_calls_drop s index
  | drop index => exact unlinked_calls_drop s index
  | install path node => rfl
  | discard path => rfl

theorem perm_removedPaths_act (s : Pipes) (action : Action) :
    (unlinked (s.calls action) ++ s.removedPaths).Perm (s.act action).removedPaths := by
  have hdrop (index : Nat) : (unlinked (s.calls (.drop index)) ++ s.removedPaths).Perm
      (s.act (.drop index)).removedPaths := by
    rw [unlinked_calls_drop]
    have hreduced := reduced_act_drop s index
    generalize s.leaving (.drop index) = pipe at hreduced ⊢
    generalize s.act (.drop index) = s' at hreduced ⊢
    cases hreduced with
    | none => exact .refl _
    | @one before after pipe hmade hlive =>
      rw [removedPaths, removedPaths, hmade]
      simp only [List.filter_append, List.filter_cons, hlive, List.map_append, if_true,
        Bool.false_eq_true, if_false, List.map_cons, Option.toList_some, List.map_nil,
        List.singleton_append]
      exact List.perm_middle.symm
  cases action with
  | create directory =>
    rw [unlinked_calls_create, List.nil_append]
    have hextended := extended_act_create s directory
    generalize draws _ = drawn at hextended
    generalize s.act _ = s' at hextended ⊢
    cases hextended with
    | none => exact .refl _
    | one =>
      rw [removedPaths, removedPaths, List.filter_append, List.map_append]
      exact .of_eq (List.append_nil _).symm
  | remove index =>
    obtain ⟨hact, hcalls⟩ := remove_eq_drop s index
    rw [hact, hcalls]
    exact hdrop index
  | drop index => exact hdrop index
  | install path node => exact .refl _
  | discard path => exact .refl _

/-- Every pipe that is removed had its file removed once, and no other file was. -/
theorem perm_removedPaths_run (s : Pipes) (actions : List Action) :
    (unlinked (s.callsOf actions) ++ s.removedPaths).Perm (s.run actions).removedPaths := by
  induction actions generalizing s with
  | nil => exact .refl _
  | cons action rest ih =>
    rw [callsOf, unlinked_append, List.append_assoc]
    refine .trans ?_ (ih (s.act action))
    refine .trans (List.perm_append_comm_assoc _ _ _) ?_
    exact (perm_removedPaths_act s action).append_left _

end ShellDebugger.Pipes
