import Mathlib
import ShellDebugger.Proofs.Machine.Pipes

/-!
# The named pipes that a process owns

A named pipe belongs to a process that has made it, for as long as it stands. While others leave the
pipes of the process alone, its named pipes are those of the script pipes that it has not removed.
-/

namespace ShellDebugger.Pipes

variable {s : Pipes}

/-! ## Pipes and their places -/

def live (s : Pipes) : List ScriptPipe :=
  s.made.filter (!·.removed)

/-- Whether an action is one of the process itself. -/
def Action.IsOwn : Action → Prop
  | .create _ | .remove _ | .drop _ => True
  | .install .. | .discard _ => False

/-- The place where the file of a pipe stands in a tree. -/
def placeIn (tree : FileTree) (pipe : ScriptPipe) : Except IoError Place :=
  tree.resolve false pipe.path

/-- An action is one of the process, or it leaves the live pipes alone: their paths lead where they
led, and what stands there is what stood there. -/
def Spares (s : Pipes) (action : Action) : Prop :=
  action.IsOwn ∨ ∀ pipe ∈ s.live,
    placeIn (s.act action).machine.files pipe = placeIn s.machine.files pipe ∧
      ∀ place, placeIn s.machine.files pipe = .ok place →
        (s.act action).machine.files.node? place = s.machine.files.node? place

/-- The places of the named pipes of the process on the tree `after`, given those on the tree
`before`: those where there still is a named pipe, and, if the change is one of the process itself,
those where there was none. -/
def fifosOn (after before : FileTree) (isOwn : Prop) (fifos : Set Place) : Set Place :=
  {place | after.HasPipe place ∧ (place ∈ fifos ∨ isOwn ∧ ¬before.HasPipe place)}

/-- The places of the named pipes of the process after an action. -/
def fifosAfter (s : Pipes) (fifos : Set Place) (action : Action) : Set Place :=
  fifosOn (s.act action).machine.files s.machine.files action.IsOwn fifos

/-- The places of the named pipes of the process after actions. -/
def fifosOf (s : Pipes) (fifos : Set Place) : List Action → Set Place
  | [] => fifos
  | action :: rest => (s.act action).fifosOf (s.fifosAfter fifos action) rest

/-! ## Named pipes that stand -/

/-- The live pipes lead to places of their own, those of the named pipes of the process. -/
structure Stands (s : Pipes) (fifos : Set Place) (places : List Place) : Prop where
  leads : s.live.map (placeIn s.machine.files) = places.map .ok
  nodup : places.Nodup
  mem_fifos_iff : ∀ place, place ∈ fifos ↔ place ∈ places
  hasPipe : ∀ place ∈ places, s.machine.files.HasPipe place

section Stands

variable {fifos : Set Place} {places : List Place} {pipes : List ScriptPipe} {s' : Pipes}

theorem exists_place_of_leads {tree : FileTree}
    (hleads : pipes.map (placeIn tree) = places.map .ok) {pipe : ScriptPipe}
    (hpipe : pipe ∈ pipes) :
    ∃ place ∈ places, placeIn tree pipe = .ok place := by
  have hmem := List.mem_map_of_mem (f := placeIn tree) hpipe
  rw [hleads] at hmem
  obtain ⟨place, hplace, heq⟩ := List.mem_map.mp hmem
  exact ⟨place, hplace, heq.symm⟩

/-- What leads somewhere on one tree leads there on another that agrees with it. -/
theorem leads_of_agrees {tree other : FileTree} (h : tree.AgreesPastPipes other)
    (hleads : pipes.map (placeIn tree) = places.map .ok) :
    pipes.map (placeIn other) = places.map .ok := by
  rw [← hleads]
  apply List.map_congr_left
  intro pipe hpipe
  obtain ⟨place, -, hplace⟩ := exists_place_of_leads hleads hpipe
  rw [hplace]
  exact h.resolve hplace

/-- After a change by the process, its named pipes are those it had and that are left, and those
that are new. -/
theorem Stands.of_own (h : Stands s fifos places) {places' : List Place} {isOwn : Prop}
    (hown : isOwn) (hleads : s'.live.map (placeIn s'.machine.files) = places'.map .ok)
    (hnodup : places'.Nodup)
    (hhas : ∀ place, s'.machine.files.HasPipe place ∧
      (place ∈ places ∨ ¬s.machine.files.HasPipe place) ↔ place ∈ places') :
    Stands s' (fifosOn s'.machine.files s.machine.files isOwn fifos) places' where
  leads := hleads
  nodup := hnodup
  mem_fifos_iff place := by
    rw [← hhas place, ← h.mem_fifos_iff]
    exact and_congr_right fun _ ↦ or_congr_right (and_iff_right hown)
  hasPipe place hplace := ((hhas place).mpr hplace).1

/-- A change by the process that leaves the files and the live pipes alone. -/
theorem Stands.of_files_eq (h : Stands s fifos places) {isOwn : Prop} (hown : isOwn)
    (hlive : s'.live = s.live) (hfiles : s'.machine.files = s.machine.files) :
    Stands s' (fifosOn s'.machine.files s.machine.files isOwn fifos) places := by
  refine h.of_own hown ?_ h.nodup fun place ↦ ?_
  · rw [hlive, hfiles]
    exact h.leads
  · rw [hfiles]
    have hpipe := h.hasPipe place
    tauto

theorem Stands.extended (h : Stands s fifos places) {directory : Path} {drawn : Nat}
    (hextended : Extended s directory drawn s') {isOwn : Prop} (hown : isOwn) :
    ∃ places', Stands s' (fifosOn s'.machine.files s.machine.files isOwn fifos) places' := by
  cases hextended with
  | none => exact ⟨places, h.of_files_eq hown rfl rfl⟩
  | @one before path place hpath hresolve hfree =>
    have hagrees := FileTree.put_agreesPastPipes hfree ScriptPipe.mode 0
    have hbare : ¬s.machine.files.HasPipe place := by
      rintro ⟨mode, readers, hnode⟩
      rw [hfree] at hnode
      cases hnode
    have hnew : place ∉ places := fun hmem ↦ hbare (h.hasPipe place hmem)
    refine ⟨places ++ [place], h.of_own hown ?_ ?_ fun q ↦ ?_⟩
    · rw [live, List.filter_append, List.map_append, List.map_append]
      exact congrArg₂ (· ++ ·) (leads_of_agrees hagrees h.leads)
        (congrArg ([·]) (hagrees.resolve hresolve))
    · exact List.nodup_append'.mpr ⟨h.nodup, List.nodup_singleton _, by simpa using hnew⟩
    · rw [FileTree.hasPipe_put_iff hfree, List.mem_append, List.mem_singleton]
      have hpipe := h.hasPipe q
      grind

theorem Stands.reduced (h : Stands s fifos places) {leaving : Option ScriptPipe}
    (hreduced : Reduced s leaving s') {isOwn : Prop} (hown : isOwn) :
    ∃ places', Stands s' (fifosOn s'.machine.files s.machine.files isOwn fifos) places' := by
  cases hreduced with
  | none => exact ⟨places, h.of_files_eq hown rfl rfl⟩
  | @one before after pipe hmade hlive =>
    have hlives : s.live = before.filter (!·.removed) ++ pipe :: after.filter (!·.removed) := by
      rw [live, hmade, List.filter_append, List.filter_cons_of_pos (by rw [hlive]; rfl)]
    have hleads := h.leads
    rw [hlives, List.map_append, List.map_cons] at hleads
    obtain ⟨first, rest, rfl, hfirst, hrest⟩ := List.map_eq_append_iff.mp hleads.symm
    obtain ⟨place, last, rfl, hplace, hlast⟩ := List.map_eq_cons_iff.mp hrest
    have hpipe : s.machine.files.HasPipe place := h.hasPipe place (by simp)
    have hagrees := hpipe.remove_agreesPastPipes
    have hunlink : (s.machine.changeFiles (s.machine.files.unlink pipe.path)).1.files =
        s.machine.files.remove place := by
      rw [hpipe.unlink_eq hplace.symm]
      rfl
    have hlives' : live ⟨(s.machine.changeFiles (s.machine.files.unlink pipe.path)).1,
        before ++ { pipe with removed := true } :: after⟩ =
          before.filter (!·.removed) ++ after.filter (!·.removed) := by
      rw [live, List.filter_append, List.filter_cons_of_neg (by simp)]
    have hnodup := h.nodup
    refine ⟨first ++ last, h.of_own hown ?_ ?_ fun q ↦ ?_⟩
    · rw [hlives']
      dsimp only
      rw [hunlink, List.map_append, List.map_append, leads_of_agrees hagrees hfirst.symm,
        leads_of_agrees hagrees hlast.symm]
    · exact List.Sublist.nodup (List.Sublist.append_left (List.sublist_cons_self _ _) _) hnodup
    · dsimp only
      rw [hunlink, FileTree.hasPipe_remove_iff hpipe.ne_nil]
      have hpipe := h.hasPipe q
      grind

/-- A change by others that leaves the live pipes alone. -/
theorem Stands.spared (h : Stands s fifos places) (hlive : s'.live = s.live) {isOwn : Prop}
    (hothers : ¬isOwn)
    (hspared : ∀ pipe ∈ s.live, placeIn s'.machine.files pipe = placeIn s.machine.files pipe ∧
      ∀ place, placeIn s.machine.files pipe = .ok place →
        s'.machine.files.node? place = s.machine.files.node? place) :
    Stands s' (fifosOn s'.machine.files s.machine.files isOwn fifos) places := by
  have hleads : s'.live.map (placeIn s'.machine.files) = places.map .ok := by
    rw [hlive, ← h.leads]
    exact List.map_congr_left fun pipe hpipe ↦ (hspared pipe hpipe).1
  have hpipes : ∀ place ∈ places, s'.machine.files.HasPipe place := by
    intro place hplace
    have hled : Except.ok place ∈ s.live.map (placeIn s.machine.files) :=
      h.leads ▸ List.mem_map_of_mem hplace
    obtain ⟨pipe, hpipe, heq⟩ := List.mem_map.mp hled
    rw [FileTree.HasPipe, (hspared pipe hpipe).2 place heq]
    exact h.hasPipe place hplace
  refine ⟨hleads, h.nodup, fun place ↦ ?_, hpipes⟩
  rw [← h.mem_fifos_iff]
  constructor
  · rintro ⟨-, hmem | ⟨hown, -⟩⟩
    · exact hmem
    · exact absurd hown hothers
  · intro hmem
    exact ⟨hpipes place ((h.mem_fifos_iff place).mp hmem), .inl hmem⟩

theorem Stands.act (h : Stands s fifos places) {action : Action} (hspares : s.Spares action) :
    ∃ places', Stands (s.act action) (s.fifosAfter fifos action) places' := by
  unfold fifosAfter
  cases action with
  | create directory => exact h.extended (extended_act_create s directory) trivial
  | remove index =>
    rw [(remove_eq_drop s index).1]
    exact h.reduced (reduced_act_drop s index) trivial
  | drop index => exact h.reduced (reduced_act_drop s index) trivial
  | install path node =>
    have hlive : (s.act (.install path node)).live = s.live := rfl
    exact ⟨places, h.spared hlive id (hspares.resolve_left id)⟩
  | discard path =>
    have hlive : (s.act (.discard path)).live = s.live := rfl
    exact ⟨places, h.spared hlive id (hspares.resolve_left id)⟩

theorem Stands.run (h : Stands s fifos places) {actions : List Action}
    (hspares : ∀ past action rest, actions = past ++ action :: rest → (s.run past).Spares action) :
    ∃ places', Stands (s.run actions) (s.fifosOf fifos actions) places' := by
  induction actions generalizing s fifos places with
  | nil => exact ⟨places, h⟩
  | cons action rest ih =>
    obtain ⟨places', h'⟩ := h.act (hspares [] action rest rfl)
    refine ih h' fun past action' rest' hrest ↦ ?_
    exact hspares (action :: past) action' rest' (by rw [hrest, List.cons_append])

end Stands

/-! ## All runs -/

/-- A process that has made no pipe yet, on a machine with whatever files, does whatever actions,
and others do theirs in between. As long as it draws no more numbers than there are:

- no two of the pipes that it ever made have the same path;
- to make a pipe, it leaves everything that stands where and what it is;
- in each action it asks for no file to be removed but that of the pipe that the action removes, and
  only if the pipe was not removed before; so in all the paths of the removed pipes were asked to be
  removed, each once;
- if the others leave its live pipes alone, then the live pipes lead to different places, and these
  are those of its named pipes. -/
theorem run_keeps_pipes_apart (m : Machine) (actions : List Action)
    (hdraws : draws (callsOf ⟨m, []⟩ actions) < 2 ^ 64) :
    let s := run ⟨m, []⟩ actions
    s.paths.Nodup ∧
      (∀ directory place node, s.machine.files.node? place = some node →
        (s.act (.create directory)).machine.files.node? place = some node) ∧
      (∀ action, unlinked (s.calls action) = (s.leaving action).toList.map (·.path)) ∧
      (unlinked (callsOf ⟨m, []⟩ actions)).Perm s.removedPaths ∧
      (unlinked (callsOf ⟨m, []⟩ actions)).Nodup ∧
      ((∀ past action rest, actions = past ++ action :: rest →
          (run ⟨m, []⟩ past).Spares action) →
        ∃ places : List Place, s.live.map (placeIn s.machine.files) = places.map .ok ∧
          places.Nodup ∧ (∀ place ∈ places, s.machine.files.HasPipe place) ∧
          ∀ place, place ∈ fifosOf ⟨m, []⟩ ∅ actions ↔ place ∈ places) := by
  intro s
  have hstart : IsNumbered m.nextNumber m.processId 0 ⟨m, []⟩ :=
    ⟨rfl, (UInt64.add_zero _).symm, nofun, List.nodup_nil⟩
  have hnumbered := hstart.run actions (by omega)
  have hremoved := perm_removedPaths_run ⟨m, []⟩ actions
  rw [show removedPaths ⟨m, []⟩ = [] from rfl, List.append_nil] at hremoved
  refine ⟨hnumbered.nodup, ?_, unlinked_calls s, hremoved, ?_, ?_⟩
  · intro directory place node hnode
    exact (extended_act_create s directory).node?_eq hnode
  · exact hremoved.nodup_iff.mpr (hnumbered.nodup.sublist (List.filter_sublist.map _))
  · intro hspares
    have hnone : Stands ⟨m, []⟩ ∅ [] := ⟨rfl, List.nodup_nil, fun _ ↦ by simp, nofun⟩
    obtain ⟨places, h⟩ := hnone.run hspares
    exact ⟨places, h.leads, h.nodup, h.hasPipe, h.mem_fifos_iff⟩

/-! In the directory `p` a pipe is made, somebody takes the next name, and the pipe is removed after
another one was made. -/

def sampleMachine : Machine :=
  .ofFiles ⟨[], [([Utf8.encode "p"], .directory)]⟩ ⟨[]⟩ 7

def sampleActions : List Action :=
  [.create "p", .install "p/buggywhip-7-1" (.file []), .create "p", .remove 0]

theorem spares_sampleActions (past : List Action) (action : Action) (rest : List Action)
    (h : sampleActions = past ++ action :: rest) :
    (run ⟨sampleMachine, []⟩ past).Spares action := by
  rcases past with _ | ⟨_, _ | ⟨_, _ | ⟨_, _ | ⟨_, past⟩⟩⟩⟩
  · cases h
    exact .inl trivial
  · cases h
    have hlive : (run ⟨sampleMachine, []⟩ [.create "p"]).live = [⟨"p/buggywhip-7-0", false⟩] := by
      cbv
    have hplace : placeIn (run ⟨sampleMachine, []⟩ [.create "p"]).machine.files
        ⟨"p/buggywhip-7-0", false⟩ = .ok [Utf8.encode "p", Utf8.encode "buggywhip-7-0"] := by cbv
    refine .inr ?_
    rw [hlive, List.forall_mem_singleton, hplace]
    refine ⟨by cbv, ?_⟩
    rintro place ⟨⟩
    cbv
  · cases h
    exact .inl trivial
  · cases h
    exact .inl trivial
  · have hlength := congrArg List.length h
    simp only [sampleActions, List.length_cons, List.length_nil, List.length_append] at hlength
    omega

/-- The name that was taken is passed over, the first pipe is gone, and the second one stands. -/
theorem run_keeps_pipes_apart_name_taken :
    (run ⟨sampleMachine, []⟩ sampleActions).paths.Nodup ∧
      (run ⟨sampleMachine, []⟩ sampleActions).paths = ["p/buggywhip-7-0", "p/buggywhip-7-2"] ∧
      (unlinked (callsOf ⟨sampleMachine, []⟩ sampleActions)).Perm ["p/buggywhip-7-0"] ∧
      ∀ place, place ∈ fifosOf ⟨sampleMachine, []⟩ ∅ sampleActions ↔
        place = [Utf8.encode "p", Utf8.encode "buggywhip-7-2"] := by
  obtain ⟨hnodup, -, -, hremoved, -, hfifos⟩ :=
    run_keeps_pipes_apart sampleMachine sampleActions (by cbv)
  refine ⟨hnodup, by cbv, ?_, ?_⟩
  · rwa [show (run ⟨sampleMachine, []⟩ sampleActions).removedPaths = ["p/buggywhip-7-0"] by cbv]
      at hremoved
  · obtain ⟨places, hleads, -, -, hmem⟩ := hfifos spares_sampleActions
    rw [show (run ⟨sampleMachine, []⟩ sampleActions).live.map
      (placeIn (run ⟨sampleMachine, []⟩ sampleActions).machine.files) =
        [.ok [Utf8.encode "p", Utf8.encode "buggywhip-7-2"]] by cbv] at hleads
    obtain ⟨place, rest, rfl, hplace, hrest⟩ := List.map_eq_cons_iff.mp hleads.symm
    cases hplace
    rw [List.map_eq_nil_iff] at hrest
    intro place
    rw [hmem, hrest, List.mem_singleton]

end ShellDebugger.Pipes
