import Mathlib
import ShellDebugger.Proofs.Machine.Pipes

/-!
# The name that a pipe gets

To make a pipe, names are tried in the order of the numbers that are drawn for them, and the first
one that is not taken decides: the pipe gets the name, or is not made if the system refuses that for
whatever other reason. On the machine it gets the name if nothing stands there. When as many names
were taken as are tried for one pipe, it is not made either. Names that were tried are not tried
again, so that however many of them are taken, pipes after that get past them.
-/

namespace ShellDebugger.Pipes

open ScriptPipe

/-! ## Numbers and names -/

/-- The path of the pipe for which some numbers were drawn before. -/
def candidate (m : Machine) (directory : Path) (drawn : Nat) : Path :=
  pathOf directory m.processId (m.nextNumber + .ofNat drawn)

/-- The path that was tried last when some numbers have been drawn. -/
def lastTried (m : Machine) (directory last : Path) : Nat → Path
  | 0 => last
  | drawn + 1 => candidate m directory drawn

variable {m : Machine} {directory last : Path} {drawn more : Nat}

theorem afterDraws_zero (m : Machine) : afterDraws m 0 = m := by
  rw [afterDraws, show m.nextNumber + .ofNat 0 = m.nextNumber from UInt64.add_zero _]

theorem afterDraws_processId (m : Machine) (drawn : Nat) :
    (afterDraws m drawn).processId = m.processId := rfl

theorem afterDraws_files (m : Machine) (drawn : Nat) :
    (afterDraws m drawn).files = m.files := rfl

theorem afterDraws_afterDraws (m : Machine) (drawn more : Nat) :
    afterDraws (afterDraws m drawn) more = afterDraws m (drawn + more) := by
  simp only [afterDraws, UInt64.ofNat_add, UInt64.add_assoc]

theorem candidate_afterDraws (m : Machine) (directory : Path) (drawn more : Nat) :
    candidate (afterDraws m drawn) directory more = candidate m directory (drawn + more) := by
  simp only [candidate, afterDraws, UInt64.ofNat_add, UInt64.add_assoc]

theorem candidate_afterDraws_zero (m : Machine) (directory : Path) (drawn : Nat) :
    candidate (afterDraws m drawn) directory 0 = candidate m directory drawn :=
  candidate_afterDraws m directory drawn 0

/-- The path that is tried with the next number. -/
theorem candidate_zero (m : Machine) (directory : Path) :
    candidate m directory 0 = pathOf directory m.processId m.nextNumber := by
  rw [candidate, show m.nextNumber + .ofNat 0 = m.nextNumber from UInt64.add_zero _]

/-! ## Systems that make pipes

A machine refuses to make a pipe for what its files show. A system has other reasons as well: the
directory may not be written, there is no room or no quota left, somebody was faster. So that
nothing is assumed about them, pipes are made here in any way, with the machine's way among them. -/

/-- A way to make the pipe of a path: the files with the pipe, or why it is refused. -/
abbrev Making := FileTree → Path → Except IoError FileTree

def machineMaking : Making := fun files path ↦ files.makePipe path mode

/-- Answers calls as the machine does, but makes pipes in its own way. What is refused changes
nothing. -/
def answerMaking (make : Making) (c : Call) (m : Machine) : Machine × c.Answer :=
  match c with
  | .makePipe path => m.changeFiles (make m.files path)
  | c => m.answer c

def createOn (make : Making) (s : Pipes) (directory : Path) :
    Except SessionError ScriptPipe × Pipes :=
  s.keep ((createIn directory s.machine.processId).runWith (answerMaking make) s.machine)

theorem createOn_machineMaking (s : Pipes) (directory : Path) :
    createOn machineMaking s directory = s.create directory := by
  have hanswer : answerMaking machineMaking = Machine.answer := by
    funext c m
    cases c <;> rfl
  rw [createOn, hanswer]
  rfl

variable {make : Making}

/-- A pipe is made with the name of an attempt, and these are the files then. -/
def TakesOn (make : Making) (s : Pipes) (directory : Path) (i : Nat) (files : FileTree) : Prop :=
  createOn make s directory =
    (.ok ⟨candidate s.machine directory i, false⟩,
      ⟨{ afterDraws s.machine (i + 1) with files := files },
        s.made ++ [⟨candidate s.machine directory i, false⟩]⟩)

/-- No pipe is made, because of what an attempt met. -/
def FailsOn (make : Making) (s : Pipes) (directory : Path) (i : Nat) (cause : IoError) : Prop :=
  createOn make s directory =
    (.error (.pipeNotMade (candidate s.machine directory i) cause),
      ⟨afterDraws s.machine (i + 1), s.made⟩)

/-! ## One attempt -/

theorem runWith_draw {α : Type} (m : Machine) (plan : UInt64 → Plan α) :
    (Plan.call .drawNumber >>= plan).runWith (answerMaking make) m =
      (plan m.nextNumber).runWith (answerMaking make) (afterDraws m 1) :=
  rfl

theorem runWith_makePipe {α : Type} (m : Machine) (path : Path)
    (plan : Except IoError Unit → Plan α) :
    (Plan.call (.makePipe path) >>= plan).runWith (answerMaking make) m =
      (plan (m.changeFiles (make m.files path)).2).runWith (answerMaking make)
        (m.changeFiles (make m.files path)).1 :=
  rfl

/-- An attempt draws a number and asks for the pipe of that number. -/
theorem runWith_tryNames_succ (make : Making) (m : Machine) (directory last : Path) (tries : Nat) :
    (tryNames directory m.processId last (tries + 1)).runWith (answerMaking make) m =
      match make m.files (candidate m directory 0) with
      | .ok files => (.ok ⟨candidate m directory 0, false⟩, { afterDraws m 1 with files := files })
      | .error cause =>
        if cause = .refused .nameTaken then
          (tryNames directory m.processId (candidate m directory 0) tries).runWith
            (answerMaking make) (afterDraws m 1)
        else (.error (.pipeNotMade (candidate m directory 0) cause), afterDraws m 1) := by
  rw [candidate_zero, tryNames]
  let path := pathOf directory m.processId m.nextNumber
  refine (runWith_draw m _).trans ((runWith_makePipe (afterDraws m 1) path _).trans ?_)
  have hfiles : make (afterDraws m 1).files path = make m.files path := rfl
  rw [hfiles]
  cases hmake : make m.files path with
  | ok files => rfl
  | error cause =>
    dsimp only [Machine.changeFiles]
    cases cause with
    | refused errno =>
      dsimp only
      by_cases htaken : errno = .nameTaken
      · rw [if_pos htaken, if_pos (congrArg IoError.refused htaken)]
      · rw [if_neg htaken, if_neg (fun h ↦ htaken (IoError.refused.inj h))]
        rfl
    | _ => rfl

/-- Names that are taken are passed by. -/
theorem runWith_tryNames_of_taken {count : Nat}
    (htaken : ∀ i < count, make m.files (candidate m directory i) = .error (.refused .nameTaken))
    (last : Path) (tries : Nat) :
    (tryNames directory m.processId last (count + tries)).runWith (answerMaking make) m =
      (tryNames directory m.processId (lastTried m directory last count) tries).runWith
        (answerMaking make) (afterDraws m count) := by
  induction count generalizing tries with
  | zero =>
    rw [Nat.zero_add, afterDraws_zero]
    rfl
  | succ count ih =>
    have hmake : make (afterDraws m count).files (candidate m directory count) =
        .error (.refused .nameTaken) := htaken count (Nat.lt_succ_self count)
    rw [Nat.add_assoc, Nat.add_comm 1, ih fun i hi ↦ htaken i (Nat.lt_succ_of_lt hi)]
    refine (runWith_tryNames_succ make (afterDraws m count) directory _ tries).trans ?_
    rw [candidate_afterDraws_zero, hmake]
    dsimp only
    rw [if_pos rfl, afterDraws_afterDraws]
    rfl

/-- The first name that is not taken decides. -/
theorem runWith_createIn_of_taken {i : Nat} (hi : i < attempts)
    (htaken : ∀ j < i, make m.files (candidate m directory j) = .error (.refused .nameTaken)) :
    (createIn directory m.processId).runWith (answerMaking make) m =
      match make m.files (candidate m directory i) with
      | .ok files =>
        (.ok ⟨candidate m directory i, false⟩, { afterDraws m (i + 1) with files := files })
      | .error cause =>
        if cause = .refused .nameTaken then
          (tryNames directory m.processId (candidate m directory i) (attempts - (i + 1))).runWith
            (answerMaking make) (afterDraws m (i + 1))
        else (.error (.pipeNotMade (candidate m directory i) cause), afterDraws m (i + 1)) := by
  have hattempts : i + (attempts - (i + 1) + 1) = attempts := by omega
  have hpassed := runWith_tryNames_of_taken htaken ⟨[]⟩ (attempts - (i + 1) + 1)
  have htried := runWith_tryNames_succ make (afterDraws m i) directory
    (lastTried m directory ⟨[]⟩ i) (attempts - (i + 1))
  rw [hattempts] at hpassed
  rw [candidate_afterDraws_zero, afterDraws_afterDraws, afterDraws_processId, afterDraws_files]
    at htried
  rw [createIn, hpassed, htried]

/-! ## Making a pipe -/

variable {s : Pipes} {i : Nat}

section Answers

variable (htaken : ∀ j < i, make s.machine.files (candidate s.machine directory j) =
  .error (.refused .nameTaken))
include htaken

theorem takesOn_of_ok (hi : i < attempts) {files : FileTree}
    (hmake : make s.machine.files (candidate s.machine directory i) = .ok files) :
    TakesOn make s directory i files := by
  rw [TakesOn, createOn, runWith_createIn_of_taken hi htaken, hmake]
  rfl

theorem failsOn_of_error (hi : i < attempts) {cause : IoError}
    (hcause : cause ≠ .refused .nameTaken)
    (hmake : make s.machine.files (candidate s.machine directory i) = .error cause) :
    FailsOn make s directory i cause := by
  rw [FailsOn, createOn, runWith_createIn_of_taken hi htaken, hmake]
  dsimp only
  rw [if_neg hcause]
  rfl

end Answers

theorem failsOn_of_all_taken
    (htaken : ∀ j < attempts, make s.machine.files (candidate s.machine directory j) =
      .error (.refused .nameTaken)) :
    FailsOn make s directory (attempts - 1) (.refused .nameTaken) := by
  have h := runWith_tryNames_of_taken htaken ⟨[]⟩ 0
  rw [FailsOn, createOn, createIn]
  exact congrArg s.keep h

/-! ## Making a pipe on the machine -/

/-- A pipe is made with the name of an attempt. -/
def Takes (s : Pipes) (directory : Path) (i : Nat) : Prop :=
  ∃ files, s.machine.files.GainsPipe (candidate s.machine directory i) mode files ∧
    s.create directory =
      (.ok ⟨candidate s.machine directory i, false⟩,
        ⟨{ afterDraws s.machine (i + 1) with files := files },
          s.made ++ [⟨candidate s.machine directory i, false⟩]⟩)

/-- No pipe is made, because of what an attempt met. -/
def FailsAt (s : Pipes) (directory : Path) (i : Nat) (cause : IoError) : Prop :=
  s.create directory =
    (.error (.pipeNotMade (candidate s.machine directory i) cause),
      ⟨afterDraws s.machine (i + 1), s.made⟩)

theorem failsAt_of_failsOn {cause : IoError} (h : FailsOn machineMaking s directory i cause) :
    s.FailsAt directory i cause := by
  rw [FailsAt, ← createOn_machineMaking]
  exact h

theorem machineMaking_of_isTaken {path : Path} (h : m.files.IsTaken path) :
    machineMaking m.files path = .error (.refused .nameTaken) :=
  FileTree.makePipe_eq_nameTaken_iff.mpr h

section Taken

variable (htaken : ∀ j < i, s.machine.files.IsTaken (candidate s.machine directory j))
include htaken

theorem takes_of_isFree (hi : i < attempts)
    (hfree : s.machine.files.IsFree (candidate s.machine directory i)) : s.Takes directory i := by
  obtain ⟨files, hmake, hgains⟩ := hfree.exists_makePipe mode
  refine ⟨files, hgains, ?_⟩
  rw [← createOn_machineMaking]
  exact takesOn_of_ok (fun j hj ↦ machineMaking_of_isTaken (htaken j hj)) hi hmake

theorem failsAt_of_error (hi : i < attempts) {cause : IoError}
    (hcause : cause ≠ .refused .nameTaken)
    (hmake : s.machine.files.makePipe (candidate s.machine directory i) mode = .error cause) :
    s.FailsAt directory i cause :=
  failsAt_of_failsOn <|
    failsOn_of_error (fun j hj ↦ machineMaking_of_isTaken (htaken j hj)) hi hcause hmake

end Taken

theorem failsAt_of_all_taken
    (htaken : ∀ j < attempts, s.machine.files.IsTaken (candidate s.machine directory j)) :
    s.FailsAt directory (attempts - 1) (.refused .nameTaken) :=
  failsAt_of_failsOn <| failsOn_of_all_taken fun j hj ↦ machineMaking_of_isTaken (htaken j hj)

/-! ## Pipes after one another -/

/-- While all names are taken, nothing is made, and as many numbers are drawn as there are
attempts. -/
theorem run_replicate_create {count : Nat}
    (htaken : ∀ i < count * attempts, s.machine.files.IsTaken (candidate s.machine directory i)) :
    s.run (List.replicate count (.create directory)) =
      ⟨afterDraws s.machine (count * attempts), s.made⟩ := by
  induction count with
  | zero =>
    rw [Nat.zero_mul, afterDraws_zero]
    rfl
  | succ count ih =>
    have hless : count * attempts ≤ (count + 1) * attempts := Nat.mul_le_mul_right _ (Nat.le_succ _)
    have hlast : FailsAt ⟨afterDraws s.machine (count * attempts), s.made⟩ directory (attempts - 1)
        (.refused .nameTaken) := by
      refine failsAt_of_all_taken fun j hj ↦ ?_
      rw [candidate_afterDraws]
      exact htaken _ (by rw [Nat.succ_mul]; omega)
    rw [List.replicate_succ', run, List.foldl_concat]
    have hrun := ih fun i hi ↦ htaken i (Nat.lt_of_lt_of_le hi hless)
    rw [run] at hrun
    rw [hrun, act, hlast]
    dsimp only
    rw [afterDraws_afterDraws, Nat.succ_mul]
    rfl

/-- Pipes that are not made get past the names that are taken, and the next one gets the first free
name. -/
theorem takes_of_taken_before {n : Nat}
    (htaken : ∀ i < n, s.machine.files.IsTaken (candidate s.machine directory i))
    (hfree : s.machine.files.IsFree (candidate s.machine directory n)) :
    let s' := s.run (List.replicate (n / attempts) (.create directory))
    s' = ⟨afterDraws s.machine (n / attempts * attempts), s.made⟩ ∧
      s'.Takes directory (n % attempts) ∧
        candidate s'.machine directory (n % attempts) = candidate s.machine directory n := by
  have hpassed : n / attempts * attempts + n % attempts = n := by
    rw [Nat.mul_comm]
    exact Nat.div_add_mod n attempts
  intro s'
  have hs' : s' = ⟨afterDraws s.machine (n / attempts * attempts), s.made⟩ :=
    run_replicate_create fun i hi ↦ htaken i (by omega)
  rw [hs']
  refine ⟨rfl, takes_of_isFree (fun j hj ↦ ?_) (Nat.mod_lt n (by decide)) ?_, ?_⟩
  · rw [candidate_afterDraws]
    exact htaken _ (by omega)
  · rw [candidate_afterDraws, hpassed]
    exact hfree
  · rw [candidate_afterDraws, hpassed]

/-! ## When only names can be in the way -/

theorem isFree_or_isTaken {tree : FileTree} {path : Path}
    (honly : ∀ cause, tree.makePipe path mode = .error cause → cause = .refused .nameTaken) :
    tree.IsFree path ∨ tree.IsTaken path := by
  cases hmake : tree.makePipe path mode with
  | ok files =>
    obtain ⟨place, hresolve, hfree, -⟩ := FileTree.makePipe_eq_ok_iff.mp hmake
    exact .inl ⟨place, hresolve, hfree⟩
  | error cause =>
    obtain rfl := honly cause hmake
    exact .inr (FileTree.makePipe_eq_nameTaken_iff.mp hmake)

section NamesOnly

variable (honly : ∀ i < attempts, ∀ cause,
  s.machine.files.makePipe (candidate s.machine directory i) mode = .error cause →
    cause = .refused .nameTaken)
include honly

/-- The pipe gets the first free name. -/
theorem takes_of_isLeast
    (hleast : IsLeast
      {i | i < attempts ∧ s.machine.files.IsFree (candidate s.machine directory i)} i) :
    s.Takes directory i := by
  obtain ⟨⟨hi, hfree⟩, hfirst⟩ := hleast
  refine takes_of_isFree (fun j hj ↦ ?_) hi hfree
  have hless : j < attempts := Nat.lt_trans hj hi
  exact (isFree_or_isTaken (honly j hless)).resolve_left fun hfree ↦
    Nat.not_le.mpr hj (hfirst ⟨hless, hfree⟩)

theorem failsAt_of_none_free
    (hnone : ∀ i < attempts, ¬s.machine.files.IsFree (candidate s.machine directory i)) :
    s.FailsAt directory (attempts - 1) (.refused .nameTaken) :=
  failsAt_of_all_taken fun i hi ↦ (isFree_or_isTaken (honly i hi)).resolve_left (hnone i hi)

theorem exists_create_eq_ok_iff :
    (∃ pipe, (s.create directory).1 = .ok pipe) ↔
      ∃ i < attempts, s.machine.files.IsFree (candidate s.machine directory i) := by
  constructor
  · rintro ⟨pipe, hpipe⟩
    by_contra hfree
    have hfails := failsAt_of_none_free honly fun i hi h ↦ hfree ⟨i, hi, h⟩
    rw [hfails] at hpipe
    cases hpipe
  · rintro ⟨i, hi, hfree⟩
    have hsome : {i | i < attempts ∧
        s.machine.files.IsFree (candidate s.machine directory i)}.Nonempty := ⟨i, hi, hfree⟩
    obtain ⟨after, -, hcreate⟩ :=
      takes_of_isLeast honly ⟨Nat.sInf_mem hsome, fun _ h ↦ Nat.sInf_le h⟩
    exact ⟨_, congrArg Prod.fst hcreate⟩

end NamesOnly

/-! ## The result -/

/-- Names are tried in the order of the numbers that the process draws, at most sixteen of them, and
in whatever way a system makes pipes, the first name that is not taken decides: a pipe that is made
has this name; if it is refused for another reason, whichever this is, that is the failure, and no
file changes. Either way no number is drawn after that. When all sixteen names are taken, that is
the failure, with the last of them. On the machine a pipe is made where nothing stands, and then all
that changes in the files is that it stands there. So if names are all that can be in the way there,
a pipe is made if and only if one of the sixteen names is free, the first free one is taken, and
otherwise the name that was tried last is reported as taken. However many names are taken, as many
pipes that are not made get past them, sixteen names with each, and the next one gets the first free
name. -/
theorem create_takes_first_free_name (s : Pipes) (directory : Path) :
    let path (i : Nat) := candidate s.machine directory i
    let files := s.machine.files
    (∀ make : Making,
      (∀ i < attempts, (∀ j < i, make files (path j) = .error (.refused .nameTaken)) →
        (∀ made, make files (path i) = .ok made → TakesOn make s directory i made) ∧
          ∀ cause ≠ .refused .nameTaken, make files (path i) = .error cause →
            FailsOn make s directory i cause) ∧
        ((∀ i < attempts, make files (path i) = .error (.refused .nameTaken)) →
          FailsOn make s directory (attempts - 1) (.refused .nameTaken))) ∧
    (∀ i < attempts, (∀ j < i, files.IsTaken (path j)) →
      (files.IsFree (path i) → s.Takes directory i) ∧
        ∀ cause ≠ .refused .nameTaken, files.makePipe (path i) mode = .error cause →
          s.FailsAt directory i cause) ∧
    ((∀ i < attempts, ∀ cause, files.makePipe (path i) mode = .error cause →
        cause = .refused .nameTaken) →
      ((∃ pipe, (s.create directory).1 = .ok pipe) ↔ ∃ i < attempts, files.IsFree (path i)) ∧
        (∀ i, IsLeast {i | i < attempts ∧ files.IsFree (path i)} i → s.Takes directory i) ∧
          ((∀ i < attempts, ¬files.IsFree (path i)) →
            s.FailsAt directory (attempts - 1) (.refused .nameTaken))) ∧
    ∀ n, (∀ i < n, files.IsTaken (path i)) → files.IsFree (path n) →
      let s' := s.run (List.replicate (n / attempts) (.create directory))
      s' = ⟨afterDraws s.machine (n / attempts * attempts), s.made⟩ ∧
        s'.Takes directory (n % attempts) ∧
          candidate s'.machine directory (n % attempts) = path n := by
  intro path files
  refine ⟨fun make ↦ ⟨fun i hi htaken ↦ ⟨fun made ↦ takesOn_of_ok htaken hi, fun cause ↦ ?_⟩,
      failsOn_of_all_taken⟩, fun i hi htaken ↦ ⟨takes_of_isFree htaken hi, fun cause ↦ ?_⟩,
    fun honly ↦ ?_, fun n htaken hfree ↦ takes_of_taken_before htaken hfree⟩
  · exact failsOn_of_error htaken hi
  · exact failsAt_of_error htaken hi
  · exact ⟨exists_create_eq_ok_iff honly, fun i ↦ takes_of_isLeast honly,
      failsAt_of_none_free honly⟩

/-- A process that finds the first seventeen names taken in the directory `p`. -/
def samplePipes : Pipes where
  machine := .ofFiles ⟨[], ([Utf8.encode "p"], .directory) :: (List.range 17).map fun i ↦
    ([Utf8.encode "p", Utf8.encode (name 7 (.ofNat i))], .file [])⟩ ⟨[]⟩ 7
  made := []

theorem makePipe_samplePipes {i : Nat} (hi : i < 17) :
    samplePipes.machine.files.makePipe (candidate samplePipes.machine "p" i) mode =
      .error (.refused .nameTaken) := by
  interval_cases i <;> cbv

theorem isFree_samplePipes :
    samplePipes.machine.files.IsFree (candidate samplePipes.machine "p" 17) :=
  ⟨[Utf8.encode "p", Utf8.encode "buggywhip-7-17"], by cbv, by cbv⟩

/-- A system that permits no new files: a pipe that the machine would make is refused. -/
def forbiddenMaking : Making := fun files path ↦
  (files.makePipe path mode).bind fun _ ↦ .error (.refused .noPermission)

/-- The first pipe is not made, because the sixteenth name is taken as well, and the second one gets
the eighteenth name, or is refused there if the process may make no files. -/
theorem create_takes_first_free_name_second_pipe :
    samplePipes.FailsAt "p" 15 (.refused .nameTaken) ∧
      candidate samplePipes.machine "p" 15 = "p/buggywhip-7-15" ∧
        (samplePipes.act (.create "p")).Takes "p" 1 ∧
          candidate (samplePipes.act (.create "p")).machine "p" 1 = "p/buggywhip-7-17" ∧
            FailsOn forbiddenMaking ⟨afterDraws samplePipes.machine 16, []⟩ "p" 1
              (.refused .noPermission) := by
  obtain ⟨-, -, honly, hrepeated⟩ := create_takes_first_free_name samplePipes "p"
  have hless {i : Nat} (hi : i < attempts) : i < 17 := Nat.lt_succ_of_lt hi
  obtain ⟨-, -, hnone⟩ := honly fun i hi cause hcause ↦ by
    rw [makePipe_samplePipes (hless hi)] at hcause
    cases hcause
    rfl
  have hfails : samplePipes.FailsAt "p" 15 (.refused .nameTaken) := by
    refine hnone fun i hi hfree ↦ ?_
    obtain ⟨files, hmake, -⟩ := hfree.exists_makePipe mode
    rw [makePipe_samplePipes (hless hi)] at hmake
    cases hmake
  obtain ⟨-, htakes, hname⟩ := hrepeated 17
    (fun i hi ↦ FileTree.makePipe_eq_nameTaken_iff.mp (makePipe_samplePipes hi))
    isFree_samplePipes
  refine ⟨hfails, by cbv, htakes, hname.trans (by cbv), ?_⟩
  obtain ⟨hmakings, -⟩ :=
    create_takes_first_free_name ⟨afterDraws samplePipes.machine 16, []⟩ "p"
  have hanswer (i : Nat) : forbiddenMaking samplePipes.machine.files
      (candidate (afterDraws samplePipes.machine 16) "p" i) =
        (samplePipes.machine.files.makePipe (candidate samplePipes.machine "p" (16 + i)) mode).bind
          fun _ ↦ .error (.refused .noPermission) := by
    rw [candidate_afterDraws, forbiddenMaking]
  refine ((hmakings forbiddenMaking).1 1 (by decide) fun j hj ↦ ?_).2 _ (by decide) ?_
  · obtain rfl := Nat.lt_one_iff.mp hj
    refine (hanswer 0).trans ?_
    rw [makePipe_samplePipes (by decide)]
    rfl
  · obtain ⟨files, hmade, -⟩ := isFree_samplePipes.exists_makePipe mode
    refine (hanswer 1).trans ?_
    rw [hmade]
    rfl

end ShellDebugger.Pipes
