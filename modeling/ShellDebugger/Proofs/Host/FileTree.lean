import ShellDebugger.Host.FileTree
import ShellDebugger.Proofs.Host.Results

/-!
# Named pipes that come and go

What a tree holds after a named pipe was put where nothing stood, or a file was taken away. A walk
never goes past a place that holds nothing or a named pipe: whatever path leads somewhere leads to
the same place after a named pipe has come or gone.
-/

namespace ShellDebugger.FileTree

variable {tree other : FileTree} {place : Place}

/-! ## Look-up -/

theorem ne_nil_of_node?_eq_none (h : tree.node? place = none) : place ≠ [] := by
  rintro rfl
  cases h

theorem node?_eq_lookup (hplace : place ≠ []) :
    tree.node? place = tree.entries.lookup place := by
  rw [node?, List.isEmpty_eq_false_iff.mpr hplace]
  rfl

theorem notMem_of_lookup_eq_none {entries : List (Place × Node)}
    (h : entries.lookup place = none) : ∀ e ∈ entries, (e.1 == place) = false := by
  intro e he
  have hne := List.lookup_eq_none_iff.mp h e he
  grind

/-- After a node was put where nothing stood, it stands there, and all else is as it was. -/
theorem node?_put (hfree : tree.node? place = none) (node : Node) (q : Place) :
    (tree.put place node).node? q = if q = place then some node else tree.node? q := by
  have hplace := ne_nil_of_node?_eq_none hfree
  have hentries : tree.entries.lookup place = none := (node?_eq_lookup hplace).symm.trans hfree
  have hany : tree.entries.any (·.1 == place) = false :=
    List.any_eq_false.mpr fun e he ↦ by
      rw [notMem_of_lookup_eq_none hentries e he]
      exact Bool.false_ne_true
  have hput : tree.put place node = { tree with entries := tree.entries ++ [(place, node)] } := by
    rw [put, hany]
    rfl
  by_cases hq : q = place
  · subst hq
    rw [hput, node?_eq_lookup hplace, List.lookup_append, hentries, if_pos rfl]
    simp
  · rw [hput, if_neg hq]
    simp only [node?, List.lookup_append, List.lookup_cons, beq_eq_false_iff_ne.mpr hq,
      List.lookup_nil, Option.or_none]

theorem lookup_filter_ne (entries : List (Place × Node)) (place q : Place) :
    (entries.filter (·.1 != place)).lookup q = if q = place then none else entries.lookup q := by
  induction entries with
  | nil => simp
  | cons e rest ih =>
    rw [List.filter_cons]
    grind

/-- After a place below the root was cleared, nothing stands there, and all else is as it was. -/
theorem node?_remove (hplace : place ≠ []) (q : Place) :
    (tree.remove place).node? q = if q = place then none else tree.node? q := by
  by_cases hq : q = []
  · rw [hq, if_neg hplace.symm]
    rfl
  · rw [node?_eq_lookup hq, node?_eq_lookup hq, remove, lookup_filter_ne]

/-! ## Walks -/

/-- Whether a named pipe stands at a place. -/
def HasPipe (tree : FileTree) (place : Place) : Prop :=
  ∃ mode readers, tree.node? place = some (.pipe mode readers)

theorem HasPipe.ne_nil (h : tree.HasPipe place) : place ≠ [] := by
  rintro rfl
  obtain ⟨mode, readers, hnode⟩ := h
  cases hnode

theorem hasPipe_put_iff (hfree : tree.node? place = none) {mode readers : Nat} {q : Place} :
    (tree.put place (.pipe mode readers)).HasPipe q ↔ q = place ∨ tree.HasPipe q := by
  rw [HasPipe, node?_put hfree]
  by_cases hq : q = place
  · rw [if_pos hq]
    exact iff_of_true ⟨mode, readers, rfl⟩ (.inl hq)
  · rw [if_neg hq, or_iff_right hq]
    rfl

theorem hasPipe_remove_iff (hplace : place ≠ []) {q : Place} :
    (tree.remove place).HasPipe q ↔ q ≠ place ∧ tree.HasPipe q := by
  rw [HasPipe, node?_remove hplace]
  by_cases hq : q = place
  · rw [if_pos hq]
    exact iff_of_false (fun ⟨_, _, hnode⟩ ↦ nomatch hnode) (fun h ↦ h.1 hq)
  · rw [if_neg hq, and_iff_right hq]
    rfl

/-- A place holds nothing, or a named pipe. -/
def IsBarren (tree : FileTree) (place : Place) : Prop :=
  tree.node? place = none ∨ tree.HasPipe place

/-- Two trees differ at most in places that are barren in both. -/
structure AgreesPastPipes (tree other : FileTree) : Prop where
  workingDirectory : other.workingDirectory = tree.workingDirectory
  node : ∀ place, other.node? place = tree.node? place ∨
    tree.IsBarren place ∧ other.IsBarren place

section Walk

variable {follow : Bool} {links : Nat} {here q : Place} {name : Bytes} {rest names : List Bytes}

/-- A walk ends at a barren place if its last name leads there. -/
theorem walk_eq_ok_iff_of_isBarren (hdot : ¬(name.isEmpty || name == [0x2E]) = true)
    (hup : ¬(name == [0x2E, 0x2E]) = true) (hlong : ¬nameLimit < name.length)
    (hbarren : tree.IsBarren (here ++ [name])) :
    tree.walk follow links here (name :: rest) = .ok q ↔ rest.isEmpty ∧ here ++ [name] = q := by
  rw [walk, if_neg hdot, if_neg hup, if_neg hlong]
  rcases hbarren with hnone | ⟨mode, readers, hpipe⟩
  · rw [hnone]
    cases rest <;> simp
  · rw [hpipe]
    cases rest <;> simp

/-- Where a walk goes on or ends well, the other tree holds the same node or the walk ends there. -/
theorem AgreesPastPipes.node_eq_or (h : tree.AgreesPastPipes other)
    (hdot : ¬(name.isEmpty || name == [0x2E]) = true) (hup : ¬(name == [0x2E, 0x2E]) = true)
    (hlong : ¬nameLimit < name.length)
    (hwalk : tree.walk follow links here (name :: rest) = .ok q) :
    other.node? (here ++ [name]) = tree.node? (here ++ [name]) ∨
      other.walk follow links here (name :: rest) = .ok q := by
  rcases h.node (here ++ [name]) with heq | ⟨hbarren, hbarren'⟩
  · exact .inl heq
  · have hend := (walk_eq_ok_iff_of_isBarren hdot hup hlong hbarren).mp hwalk
    exact .inr ((walk_eq_ok_iff_of_isBarren hdot hup hlong hbarren').mpr hend)

theorem AgreesPastPipes.walk (h : tree.AgreesPastPipes other)
    (hwalk : tree.walk follow links here names = .ok q) :
    other.walk follow links here names = .ok q := by
  induction links, here, names using walk.induct tree follow with
  | case1 links here =>
    rw [FileTree.walk] at hwalk ⊢
    exact hwalk
  | case2 links here name rest hdot ih =>
    rw [FileTree.walk, if_pos hdot] at hwalk ⊢
    exact ih hwalk
  | case3 links here name rest hdot hup ih =>
    rw [FileTree.walk, if_neg hdot, if_pos hup] at hwalk ⊢
    exact ih hwalk
  | case4 links here name rest hdot hup hlong =>
    rw [FileTree.walk, if_neg hdot, if_neg hup, if_pos hlong] at hwalk
    cases hwalk
  -- The walk ends at a node.
  | case5 links here name rest hdot hup hlong hnode hlast
  | case7 links here name rest hdot hup hlong target hnode hlast
  | case12 links here name rest hdot hup hlong node hlink hdirectory hnode hlast =>
    rcases h.node_eq_or hdot hup hlong hwalk with heq | hend
    · rw [FileTree.walk, if_neg hdot, if_neg hup, if_neg hlong] at hwalk ⊢
      simp only [heq, hnode, hlast] at hwalk ⊢
      exact hwalk
    · exact hend
  -- The walk goes on behind a node.
  | case10 here name rest hdot hup hlong target hnode hmore links htarget start ih =>
    rcases h.node_eq_or hdot hup hlong hwalk with heq | hend
    · rw [FileTree.walk, if_neg hdot, if_neg hup, if_neg hlong] at hwalk ⊢
      simp only [heq, hnode, hmore, htarget] at hwalk ⊢
      exact ih hwalk
    · exact hend
  | case11 links here name rest hdot hup hlong hnode ih =>
    rcases h.node_eq_or hdot hup hlong hwalk with heq | hend
    · rw [FileTree.walk, if_neg hdot, if_neg hup, if_neg hlong] at hwalk ⊢
      simp only [heq, hnode] at hwalk ⊢
      exact ih hwalk
    · exact hend
  -- The walk fails at a node.
  | case6 links here name rest hdot hup hlong hnode hmore
  | case8 here name rest hdot hup hlong target hnode hmore
  | case13 links here name rest hdot hup hlong node hlink hdirectory hnode hmore =>
    rw [FileTree.walk, if_neg hdot, if_neg hup, if_neg hlong] at hwalk
    simp only [hnode, hmore] at hwalk
    cases hwalk
  | case9 here name rest hdot hup hlong target hnode hmore links htarget =>
    rw [FileTree.walk, if_neg hdot, if_neg hup, if_neg hlong] at hwalk
    simp only [hnode, hmore, htarget] at hwalk
    cases hwalk

end Walk

/-- Whatever path leads to a place leads to it in the other tree as well. -/
theorem AgreesPastPipes.resolve (h : tree.AgreesPastPipes other) {follow : Bool} {path : Path}
    (hresolve : tree.resolve follow path = .ok place) : other.resolve follow path = .ok place := by
  unfold FileTree.resolve at hresolve ⊢
  split at hresolve
  · cases hresolve
  rename_i hnul
  split at hresolve
  · cases hresolve
  rename_i hempty
  split at hresolve
  · cases hresolve
  rename_i hlong
  rw [if_neg hnul, if_neg hempty, if_neg hlong, h.workingDirectory]
  exact mapError_eq_ok_iff.mpr (h.walk (mapError_eq_ok_iff.mp hresolve))

/-! ## Making and removing a named pipe -/

theorem put_agreesPastPipes (hfree : tree.node? place = none) (mode readers : Nat) :
    tree.AgreesPastPipes (tree.put place (.pipe mode readers)) where
  workingDirectory := by
    unfold put
    split <;> rfl
  node q := by
    by_cases hq : q = place
    · subst hq
      refine .inr ⟨.inl hfree, .inr ⟨mode, readers, ?_⟩⟩
      rw [node?_put hfree, if_pos rfl]
    · rw [node?_put hfree, if_neg hq]
      exact .inl rfl

theorem HasPipe.remove_agreesPastPipes (hpipe : tree.HasPipe place) :
    tree.AgreesPastPipes (tree.remove place) where
  workingDirectory := rfl
  node q := by
    have hplace := hpipe.ne_nil
    by_cases hq : q = place
    · subst hq
      refine .inr ⟨.inr hpipe, .inl ?_⟩
      rw [node?_remove hplace, if_pos rfl]
    · rw [node?_remove hplace, if_neg hq]
      exact .inl rfl

theorem makePipe_eq_ok_iff {path : Path} {mode : Nat} :
    tree.makePipe path mode = .ok other ↔ ∃ place, tree.resolve false path = .ok place ∧
      tree.node? place = none ∧ other = tree.put place (.pipe mode 0) := by
  rw [makePipe, bind_eq_ok_iff]
  refine exists_congr fun place ↦ and_congr_right fun _ ↦ ?_
  cases tree.node? place with
  | none => exact ⟨fun h ↦ by cases h; exact ⟨rfl, rfl⟩, fun h ↦ by rw [h.2]⟩
  | some node => exact ⟨nofun, nofun⟩

/-- Nothing stands where a path leads. -/
def IsFree (tree : FileTree) (path : Path) : Prop :=
  ∃ place, tree.resolve false path = .ok place ∧ tree.node? place = none

/-- Something stands where a path leads. -/
def IsTaken (tree : FileTree) (path : Path) : Prop :=
  ∃ place node, tree.resolve false path = .ok place ∧ tree.node? place = some node

/-- After a named pipe was made, it stands where nothing stood, and all else is as it was. -/
def GainsPipe (tree : FileTree) (path : Path) (mode : Nat) (other : FileTree) : Prop :=
  other.workingDirectory = tree.workingDirectory ∧
    ∃ place, tree.resolve false path = .ok place ∧ tree.node? place = none ∧
      ∀ q, other.node? q = if q = place then some (.pipe mode 0) else tree.node? q

section Making

variable {path : Path} {mode : Nat}

/-- A named pipe can be made where nothing stands. -/
theorem IsFree.exists_makePipe (h : tree.IsFree path) (mode : Nat) :
    ∃ other, tree.makePipe path mode = .ok other ∧ tree.GainsPipe path mode other := by
  obtain ⟨place, hresolve, hfree⟩ := h
  refine ⟨_, makePipe_eq_ok_iff.mpr ⟨place, hresolve, hfree, rfl⟩, ?_, place, hresolve, hfree, ?_⟩
  · exact (put_agreesPastPipes hfree mode 0).workingDirectory
  · exact node?_put hfree _

/-- What a walk is refused for. -/
theorem mem_of_walk_eq_error {follow : Bool} {links : Nat} {here : Place} {names : List Bytes}
    {errno : Errno} (hwalk : tree.walk follow links here names = .error errno) :
    errno ∈ [.nameTooLong, .noEntry, .linkLoop, .notDirectory] := by
  fun_induction tree.walk follow links here names with
  | case1 | case5 | case7 | case12 => cases hwalk
  | case4 | case6 | case8 | case9 | case13 =>
    cases hwalk
    decide
  | case2 _ _ _ _ _ ih => exact ih hwalk
  | case3 _ _ _ _ _ _ ih => exact ih hwalk
  | case10 _ _ _ _ _ _ _ _ _ _ _ _ ih => exact ih hwalk
  | case11 _ _ _ _ _ _ _ _ ih => exact ih hwalk

/-- A path that leads nowhere holds a NUL, or is refused for one of few reasons. -/
theorem eq_or_mem_of_resolve_eq_error {follow : Bool} {cause : IoError}
    (hresolve : tree.resolve follow path = .error cause) :
    cause = .nulInPath ∨
      ∃ errno ∈ [.nameTooLong, .noEntry, .linkLoop, .notDirectory], cause = .refused errno := by
  unfold resolve at hresolve
  split at hresolve
  · cases hresolve
    exact .inl rfl
  split at hresolve
  · cases hresolve
    exact .inr ⟨.noEntry, by decide, rfl⟩
  split at hresolve
  · cases hresolve
    exact .inr ⟨.nameTooLong, by decide, rfl⟩
  obtain ⟨errno, hwalk, rfl⟩ := mapError_eq_error_iff.mp hresolve
  exact .inr ⟨errno, mem_of_walk_eq_error hwalk, rfl⟩

/-- The name of a named pipe is refused as taken if and only if something stands there. -/
theorem makePipe_eq_nameTaken_iff :
    tree.makePipe path mode = .error (.refused .nameTaken) ↔ tree.IsTaken path := by
  have hresolve : tree.resolve false path ≠ .error (.refused .nameTaken) := by
    intro hfailed
    rcases eq_or_mem_of_resolve_eq_error hfailed with ⟨⟨⟩⟩ | ⟨errno, hmem, ⟨⟩⟩
    exact absurd hmem (by decide)
  unfold makePipe IsTaken
  cases hplace : tree.resolve false path with
  | error cause =>
    rw [hplace] at hresolve
    refine iff_of_false (fun h ↦ ?_) (by rintro ⟨place, node, ⟨⟩, -⟩)
    have hcause : (.error cause : Except IoError FileTree) = .error (.refused .nameTaken) := h
    cases hcause
    exact hresolve rfl
  | ok place =>
    cases hnode : tree.node? place with
    | none => simp [bind, Except.bind, hnode]
    | some node => simp [bind, Except.bind, hnode]

end Making

/-- The named pipe that a path leads to can be removed by the path. -/
theorem HasPipe.unlink_eq {path : Path} (hpipe : tree.HasPipe place)
    (hresolve : tree.resolve false path = .ok place) :
    tree.unlink path = .ok (tree.remove place) := by
  obtain ⟨mode, readers, hnode⟩ := hpipe
  rw [unlink, bind_eq_ok_iff]
  refine ⟨place, hresolve, ?_⟩
  rw [hnode]

end ShellDebugger.FileTree
