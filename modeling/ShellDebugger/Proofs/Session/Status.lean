import ShellDebugger.Proofs.Session.Chronicle

/-!
# The status of a driver

What a driver says that it is, and how it answers a line that is submitted, follows from its
chronicle: whether it was closed, how the latest start went, what has been published of the shell
since, and whether a source was loaded. The driver's own record agrees with the chronicle after
every operation; an exit that the driver has not seen yet is the only thing that it lags behind.
-/

namespace ShellDebugger

open Plan

/-! ## The driver's record -/

/-- The driver's own record agrees with the chronicle that leads to it. -/
structure Mirrors (h : Chronicle) (d : Driver) : Prop where
  closed : d.closed = h.wasClosed
  loaded : d.source.isSome = h.wasLoaded
  vacant : d.closed = true → d.session = none
  started : d.closed = false → (d.session.isSome = true ↔ h.latestStart = some .done)
  shell : ∀ session, d.session = some session → h.shell = some session.child.id
  seen : ∀ session exit, d.session = some session → session.child.exit = some exit →
    h.published session.child.id = some exit

namespace Mirrors

open Chronicle

variable {h h' : Chronicle} {d d' : Driver}

/-- What a driver is that has seen all that is published is what the chronicle says. -/
theorem state_eq (hmirrors : Mirrors h d)
    (hseen : ∀ session, d.session = some session →
      session.child.exit = h.published session.child.id) : d.state = h.outlook := by
  unfold Driver.state Chronicle.outlook
  rw [hmirrors.closed]
  cases hclosed : h.wasClosed with
  | true => rfl
  | false =>
    have hstarted := hmirrors.started (hmirrors.closed.trans hclosed)
    cases hsession : d.session with
    | none =>
      rw [hsession] at hstarted
      have hnone : h.latestStart ≠ some .done := fun hdone ↦ nomatch hstarted.mpr hdone
      simp [hnone, hmirrors.loaded]
    | some session =>
      rw [hsession] at hstarted
      have hdone : h.latestStart = some .done := hstarted.mp rfl
      simp only [hdone, hmirrors.shell session hsession, Option.bind_some, hseen session hsession]
      rfl

/-- A driver that has seen all there is to be seen is what the chronicle says. -/
theorem state_eq_of_hasSeenAll (hmirrors : Mirrors h d) (hall : d.HasSeenAll) :
    d.state = h.outlook := by
  refine hmirrors.state_eq fun session hsession ↦ ?_
  cases hexit : session.child.exit with
  | none => exact absurd hexit (hall session hsession)
  | some exit => exact (hmirrors.seen session exit hsession hexit).symm

/-- As long as nothing is spawned and nothing returns, the record stays right. -/
theorem append (hmirrors : Mirrors h d) (hreturns : h'.returns = [])
    (hspawned : spawned h'.calls = []) : Mirrors (h ++ h') d where
  closed := by rw [wasClosed_append_of_returns hreturns, hmirrors.closed]
  loaded := by rw [wasLoaded_append_of_returns hreturns, hmirrors.loaded]
  vacant := hmirrors.vacant
  started := by rw [latestStart_append_of_returns hreturns]; exact hmirrors.started
  shell := by rw [shell_append_of_spawned hspawned]; exact hmirrors.shell
  seen session exit hsession hexit :=
    published_append_of_spawned (hmirrors.seen session exit hsession hexit) hspawned

/-- The record stays right when an exit is published. -/
theorem published (hmirrors : Mirrors h d) (child : ChildId) (exit : Exit) :
    Mirrors (h ++ [.published child exit]) d :=
  hmirrors.append rfl rfl

/-- To ask for the exit and get what is published brings the record up to date. -/
theorem seeing {session : Session} (hmirrors : Mirrors h d) (hsession : d.session = some session) :
    Mirrors h (d.seeing session (Chronicle.published h session.child.id)) where
  closed := hmirrors.closed
  loaded := hmirrors.loaded
  vacant hclosed := by rw [hmirrors.vacant hclosed] at hsession; cases hsession
  started hopen := by
    have hstarted := hmirrors.started hopen
    rw [hsession] at hstarted
    exact hstarted
  shell := by
    rintro session' ⟨⟩
    exact hmirrors.shell session hsession
  seen := by
    rintro session' exit ⟨⟩ hexit
    exact hexit

/-- A driver that looks at its shell is, from a moment during the look on, what the chronicle
says. -/
theorem observe (hmirrors : Mirrors h d) (hreturns : h'.returns = [])
    (hrun : Runs d.observe h'.calls d') (hcoherent : (h ++ h').IsCoherent) :
    Mirrors (h ++ h') d' ∧ ∃ seen, seen <+: h' ∧ d'.state = outlook (h ++ seen) := by
  rcases runs_driver_observe hrun with
    ⟨hall, htrace, rfl⟩ | ⟨session, answer, hsession, htrace, rfl⟩
  · refine ⟨hmirrors.append hreturns (by rw [htrace]; rfl), [], List.nil_prefix, ?_⟩
    rw [List.append_nil]
    exact hmirrors.state_eq_of_hasSeenAll hall
  · -- The moment is that of the question: what is published before it is in the answer.
    obtain ⟨before, after, rfl, hbefore, hafter⟩ := calls_eq_singleton htrace
    rw [returns_append] at hreturns
    obtain ⟨hreturns, hreturns'⟩ := List.append_eq_nil_iff.mp hreturns
    have hupdated : answer = Chronicle.published (h ++ before) session.child.id :=
      hcoherent (h ++ before) session.child.id answer after (by rw [List.append_assoc])
    have hmirrors : Mirrors (h ++ before) d := hmirrors.append hreturns (by rw [hbefore]; rfl)
    have hseeing : Mirrors (h ++ before) (d.seeing session answer) := by
      rw [hupdated]
      exact hmirrors.seeing hsession
    refine ⟨?_, before, List.prefix_append .., hseeing.state_eq ?_⟩
    · rw [← List.append_assoc]
      refine hseeing.append hreturns' ?_
      rw [show calls (.answered _ :: after) = _ :: calls after from rfl, hafter]
      rfl
    · rintro session' ⟨⟩
      exact hupdated

/-- So is a driver that takes a line or refuses it, and it answers the line accordingly. -/
theorem enqueue (hmirrors : Mirrors h d) (hreturns : h'.returns = []) {line : String}
    {result : Except SessionError Unit × Driver} (hrun : Runs (d.enqueue line) h'.calls result)
    (hcoherent : (h ++ h').IsCoherent) :
    Mirrors (h ++ h') result.2 ∧
      ∃ seen, seen <+: h' ∧ AnswersLine (outlook (h ++ seen)) result.1 h'.calls := by
  obtain ⟨look, rest, hcalls, hlook, hspawned, -⟩ := runs_enqueue hrun
  obtain ⟨first, last, rfl, rfl, rfl⟩ := exists_append_of_calls hcalls
  rw [returns_append] at hreturns
  obtain ⟨hreturns, hreturns'⟩ := List.append_eq_nil_iff.mp hreturns
  rw [← List.append_assoc] at hcoherent ⊢
  obtain ⟨hmirrors, seen, hseen, hstate⟩ := hmirrors.observe hreturns hlook hcoherent.of_append
  refine ⟨hmirrors.append hreturns' hspawned, seen, hseen.trans (List.prefix_append ..), ?_⟩
  rw [← hstate]
  exact answersLine_of_runs_enqueue hrun hmirrors.vacant

/-- A driver says of itself what the chronicle says of it. -/
theorem status (hmirrors : Mirrors h d) (hreturns : h'.returns = [])
    {result : DriverState × Driver} (hrun : Runs d.status h'.calls result)
    (hcoherent : (h ++ h').IsCoherent) :
    Mirrors (h ++ h') result.2 ∧ ∃ seen, seen <+: h' ∧ result.1 = outlook (h ++ seen) := by
  obtain ⟨d', hlook, rfl⟩ := runs_status_iff.mp hrun
  cases hclosed : d.closed with
  | true =>
    rw [if_pos hclosed] at hlook
    obtain ⟨hcalls, rfl⟩ := runs_pure_iff.mp hlook
    refine ⟨hmirrors.append hreturns (by rw [hcalls]; rfl), [], List.nil_prefix, ?_⟩
    rw [List.append_nil]
    refine hmirrors.state_eq_of_hasSeenAll fun session hsession ↦ ?_
    rw [hmirrors.vacant hclosed] at hsession
    cases hsession
  | false =>
    rw [if_neg (by rw [hclosed]; exact Bool.false_ne_true)] at hlook
    exact hmirrors.observe hreturns hlook hcoherent

/-- If nothing is published while a driver is asked, it says what it is. -/
theorem status_of_calls (hmirrors : Mirrors h d) {trace : List Event}
    {result : DriverState × Driver} (hrun : Runs d.status trace result)
    (hcoherent : (h ++ ofTrace trace).IsCoherent) : result.1 = h.outlook := by
  have hcalls : Runs d.status (calls (ofTrace trace)) result := by rwa [calls_ofTrace]
  obtain ⟨-, seen, ⟨rest, hseen⟩, hstate⟩ :=
    hmirrors.status (returns_ofTrace trace) hcalls hcoherent
  obtain ⟨first, last, htrace, rfl, -⟩ := List.append_eq_map_iff.mp hseen
  have hspawned := spawned_of_runs_status hrun
  rw [htrace, spawned_append] at hspawned
  rw [hstate]
  exact outlook_append_ofTrace (List.append_eq_nil_iff.mp hspawned).1

/-- A driver can be asked what it is. -/
theorem exists_runs_status (h : Chronicle) (d : Driver) (hcoherent : h.IsCoherent) :
    ∃ trace result, (h ++ ofTrace trace).IsCoherent ∧ Runs d.status trace result := by
  cases hclosed : d.closed with
  | true =>
    refine ⟨[], (d.state, d), ?_, runs_status_iff.mpr ⟨d, ?_, rfl⟩⟩
    · rwa [ofTrace, List.map_nil, List.append_nil]
    · rw [if_pos hclosed]
      exact .done d
  | false =>
    obtain ⟨trace, d', hlook, htrace⟩ := exists_runs_observe d h.published
    refine ⟨trace, (d'.state, d'), ?_, runs_status_iff.mpr ⟨d', ?_, rfl⟩⟩
    · rcases htrace with rfl | ⟨child, rfl⟩
      · rwa [ofTrace, List.map_nil, List.append_nil]
      · refine hcoherent.concat ?_
        rintro child' answer ⟨⟩
        rfl
    · rwa [if_neg (by rw [hclosed]; exact Bool.false_ne_true)]

/-! ### Operations that return -/

/-- The return of an operation that loads nothing, starts nothing and closes nothing leaves the
record right. -/
theorem returned {operation : Operation} {answer : Operation.Answer} (hmirrors : Mirrors h d)
    (hclose : (operation == .close) = false) (hload : isLoad (operation, answer) = false)
    (hstart : d.closed = false → startAnswer (operation, answer) = none) :
    Mirrors (h ++ [.returned operation answer]) d where
  closed := by rw [wasClosed_returned, hclose, Bool.or_false, hmirrors.closed]
  loaded := by rw [wasLoaded_returned, hload, Bool.or_false, hmirrors.loaded]
  vacant := hmirrors.vacant
  started hopen := by
    rw [latestStart_returned, hstart hopen, Option.none_or]
    exact hmirrors.started hopen
  shell := by rw [shell_returned]; exact hmirrors.shell
  seen := by simpa only [published_returned] using hmirrors.seen

/-- After a load. -/
theorem load (hmirrors : Mirrors h d) (hreturns : h'.returns = []) {path : Path}
    {result : Except SessionError Unit × Driver} (hrun : Runs (d.load path) h'.calls result) :
    Mirrors (h ++ h' ++ [.returned (.load path) (.ofResult result.1)]) result.2 := by
  have hspawned : spawned h'.calls = [] :=
    (ensures_load_spawned d path).of_runs_nil hrun fun _ _ ↦ trivial
  have hmirrors : Mirrors (h ++ h') d := hmirrors.append hreturns hspawned
  have hloaded := (d.ensures_load_source path).of_runs_nil hrun fun _ _ ↦ trivial
  obtain ⟨_ | _, d'⟩ := result
  · obtain ⟨rfl, -⟩ := hloaded
    exact hmirrors.returned rfl rfl fun _ ↦ rfl
  · obtain ⟨hopen, rfl⟩ := hloaded
    exact {
      closed := by rw [wasClosed_returned, ← hmirrors.closed]; exact (Bool.or_false _).symm
      loaded := by rw [wasLoaded_returned]; exact (Bool.or_true _).symm
      vacant := hmirrors.vacant
      started := by rw [latestStart_returned]; exact hmirrors.started
      shell := by rw [shell_returned]; exact hmirrors.shell
      seen := by simpa only [published_returned] using hmirrors.seen }

section Start

variable {operation : Operation}

/-- A start changes what the latest start answered and nothing else that the chronicle tells. -/
theorem answers_of_start (hoperation : operation = .start ∨ operation = .reload) :
    (operation == .close) = false ∧
      ∀ answer, isLoad (operation, answer) = false ∧
        startAnswer (operation, answer) = some answer := by
  rcases hoperation with rfl | rfl <;> exact ⟨rfl, fun _ ↦ ⟨rfl, rfl⟩⟩

/-- After a start of an open driver: it has a session exactly if the start succeeded, and the shell
of that session was spawned last. -/
theorem restarted (hmirrors : Mirrors h d) (hreturns : h'.returns = []) (hopen : d.closed = false)
    (hoperation : operation = .start ∨ operation = .reload) {answer : Operation.Answer}
    {session : Option Session} (hanswer : session.isSome = true ↔ answer = .done)
    (hlatest : ∀ live, session = some live → IsLatest live.child (h.calls ++ h'.calls)) :
    Mirrors (h ++ h' ++ [.returned operation answer]) { d with session := session } := by
  obtain ⟨hclose, hstart⟩ := answers_of_start hoperation
  exact {
    closed := by
      rw [wasClosed_returned, hclose, Bool.or_false, wasClosed_append_of_returns hreturns]
      exact hmirrors.closed
    loaded := by
      rw [wasLoaded_returned, (hstart answer).1, Bool.or_false,
        wasLoaded_append_of_returns hreturns]
      exact hmirrors.loaded
    vacant := fun hclosed ↦ by rw [hopen] at hclosed; cases hclosed
    started := fun _ ↦ by
      rw [latestStart_returned, (hstart answer).2, Option.some_or, Option.some_inj]
      exact hanswer
    shell := fun live hlive ↦ by
      rw [shell_returned, Chronicle.shell, calls_append]
      exact (hlatest live hlive).1
    seen := fun live exit hlive hexit ↦ by
      rw [(hlatest live hlive).2] at hexit
      cases hexit }

/-- After a start or a reload. -/
theorem start (hmirrors : Mirrors h d) (hreturns : h'.returns = [])
    (hoperation : operation = .start ∨ operation = .reload)
    {result : Except SessionError Unit × Driver} (hrun : Runs d.start h'.calls result) :
    Mirrors (h ++ h' ++ [.returned operation (.ofResult result.1)]) result.2 := by
  cases hclosed : d.closed with
  | true =>
    unfold Driver.start at hrun
    rw [if_pos hclosed] at hrun
    obtain ⟨hcalls, rfl⟩ := runs_pure_iff.mp hrun
    obtain ⟨hclose, hstart⟩ := answers_of_start hoperation
    have hmirrors : Mirrors (h ++ h') d := hmirrors.append hreturns (by rw [hcalls]; rfl)
    refine hmirrors.returned hclose (hstart _).1 fun hopen ↦ ?_
    rw [hclosed] at hopen
    cases hopen
  | false =>
    have hensures : Ensures .any d.start h.calls _ := ensures_start_session hclosed
    have hresult := hensures.of_runs hrun fun _ _ ↦ trivial
    obtain ⟨_ | _, d'⟩ := result
    · cases hresult
      exact hmirrors.restarted hreturns hclosed hoperation ⟨nofun, nofun⟩ nofun
    · obtain ⟨session, rfl, hlatest⟩ := hresult
      refine hmirrors.restarted hreturns hclosed hoperation ⟨fun _ ↦ rfl, fun _ ↦ rfl⟩ ?_
      rintro live ⟨⟩
      exact hlatest

end Start

/-- After a close. -/
theorem close (hmirrors : Mirrors h d) (hreturns : h'.returns = [])
    (hrun : Runs d.close h'.calls d') : Mirrors (h ++ h' ++ [.returned .close .done]) d' := by
  have hd' := (Driver.ensures_withoutSession_eq _).of_runs_nil hrun fun _ _ ↦ trivial
  subst hd'
  exact {
    closed := by rw [wasClosed_returned]; exact (Bool.or_true _).symm
    loaded := by
      rw [wasLoaded_returned, wasLoaded_append_of_returns hreturns, ← hmirrors.loaded]
      exact (Bool.or_false _).symm
    vacant := fun _ ↦ rfl
    started := nofun
    shell := nofun
    seen := nofun }

/-- Every operation leaves the record right. -/
theorem perform (hmirrors : Mirrors h d) (hreturns : h'.returns = []) {operation : Operation}
    {answer : Operation.Answer} (hrun : Runs (d.perform operation) h'.calls (answer, d'))
    (hcoherent : (h ++ h').IsCoherent) : Mirrors (h ++ h' ++ [.returned operation answer]) d' := by
  cases operation with
  | load path =>
    obtain ⟨result, hdone, ⟨⟩⟩ := runs_bind_pure_iff.mp hrun
    exact hmirrors.load hreturns hdone
  | start =>
    obtain ⟨result, hdone, ⟨⟩⟩ := runs_bind_pure_iff.mp hrun
    exact hmirrors.start hreturns (.inl rfl) hdone
  | reload =>
    obtain ⟨result, hdone, ⟨⟩⟩ := runs_bind_pure_iff.mp hrun
    exact hmirrors.start hreturns (.inr rfl) hdone
  | submit words =>
    obtain ⟨result, hdone, ⟨⟩⟩ := runs_bind_pure_iff.mp hrun
    refine Mirrors.returned ?_ rfl rfl fun _ ↦ rfl
    unfold Driver.submit at hdone
    split at hdone
    · obtain ⟨hcalls, rfl⟩ := runs_pure_iff.mp hdone
      exact hmirrors.append hreturns (by rw [hcalls]; rfl)
    · exact (hmirrors.enqueue hreturns hdone hcoherent).1
  | submitLine line =>
    obtain ⟨result, hdone, ⟨⟩⟩ := runs_bind_pure_iff.mp hrun
    exact (hmirrors.enqueue hreturns hdone hcoherent).1.returned rfl rfl fun _ ↦ rfl
  | status =>
    obtain ⟨result, hdone, ⟨⟩⟩ := runs_bind_pure_iff.mp hrun
    exact (hmirrors.status hreturns hdone hcoherent).1.returned rfl rfl fun _ ↦ rfl
  | close =>
    obtain ⟨result, hdone, ⟨⟩⟩ := runs_bind_pure_iff.mp hrun
    exact hmirrors.close hreturns hdone

end Mirrors

/-! ## The status and the chronicle -/

theorem mirrors_ofSettings (settings : SessionSettings) (processId : Nat)
    (sinks : PerStream Bool) : Mirrors [] (.ofSettings settings processId sinks) where
  closed := rfl
  loaded := rfl
  vacant := nofun
  started _ := ⟨nofun, nofun⟩
  shell := nofun
  seen := nofun

namespace Chronicle

variable {h h' h₂ : Chronicle} {d d' d₂ : Driver}

theorem Leads.mirrors (hleads : Leads h d h₂ d₂) (hmirrors : Mirrors h d) : Mirrors h₂ d₂ := by
  induction hleads with
  | refl => exact hmirrors
  | published child exit _ ih => exact ih.published child exit
  | performed _ hreturns hrun hcoherent ih => exact ih.perform hreturns hrun hcoherent

/-- As long as the session is kept, a driver whose shell has exited says so. -/
theorem status_eq_exited {more : Chronicle} {exit : Exit} (houtlook : h.outlook = .exited exit)
    (hmirrors : Mirrors (h ++ more) d) (hkeeps : more.KeepsSession)
    (hspawned : spawned more.calls = []) (hreturns : h'.returns = [])
    {result : DriverState × Driver} (hrun : Runs d.status h'.calls result)
    (hcoherent : (h ++ more ++ h').IsCoherent) : result.1 = .exited exit := by
  have hidle := spawned_of_runs_status hrun
  obtain ⟨-, seen, ⟨rest, rfl⟩, hstate⟩ := hmirrors.status hreturns hrun hcoherent
  rw [calls_append, spawned_append, List.append_eq_nil_iff] at hidle
  rw [returns_append, List.append_eq_nil_iff] at hreturns
  have hquiet : spawned (calls (more ++ seen)) = [] := by
    rw [calls_append, spawned_append, hspawned, hidle.1, List.append_nil]
  have hkept : KeepsSession (more ++ seen) :=
    keepsSession_append_iff.mpr ⟨hkeeps, .of_returns hreturns.1⟩
  calc
    result.1 = outlook (h ++ more ++ seen) := hstate
    _ = outlook (h ++ (more ++ seen)) := by rw [List.append_assoc]
    _ = .exited exit := outlook_append_of_keepsSession houtlook hkept hquiet

/-- As long as the session is kept, no shell is spawned, and once the shell has exited every
question for the status is answered with that exit. -/
theorem Leads.keeps {exit : Exit} (hleads : Leads h d h₂ d₂) (hmirrors : Mirrors h d)
    (houtlook : h.outlook = .exited exit) :
    ∃ more, h₂ = h ++ more ∧ (more.KeepsSession → spawned more.calls = [] ∧
      ∀ answer, (.status, answer) ∈ more.returns → answer = .state (.exited exit)) := by
  induction hleads with
  | refl => exact ⟨[], (List.append_nil h).symm, fun _ ↦ ⟨rfl, nofun⟩⟩
  | published child exit' _ ih =>
    obtain ⟨more, rfl, hmore⟩ := ih
    refine ⟨more ++ [.published child exit'], List.append_assoc .., fun hkeeps ↦ ?_⟩
    rw [calls_append, returns_append]
    simpa [calls, returns] using hmore (keepsSession_append_iff.mp hkeeps).1
  | @performed h₁ h' d₁ d' operation answer hleads hreturns hrun hcoherent ih =>
    obtain ⟨more, rfl, hmore⟩ := ih
    refine ⟨more ++ h' ++ [.returned operation answer], by simp only [List.append_assoc],
      fun hall ↦ ?_⟩
    obtain ⟨hkeeps, hlast⟩ := keepsSession_append_iff.mp hall
    have hmore := hmore (keepsSession_append_iff.mp hkeeps).1
    have hspawned : spawned h'.calls = [] :=
      spawned_of_runs_perform (hlast (operation, answer) List.mem_cons_self) hrun
    refine ⟨?_, fun answer' hanswer ↦ ?_⟩
    · rw [calls_append, calls_append, spawned_append, spawned_append, hmore.1, hspawned]
      rfl
    · rw [returns_append, returns_append, hreturns, List.append_nil] at hanswer
      rcases List.mem_append.mp hanswer with hanswer | hanswer
      · exact hmore.2 answer' hanswer
      · cases List.mem_singleton.mp hanswer
        obtain ⟨result, hdone, ⟨⟩⟩ := runs_bind_pure_iff.mp hrun
        have hkeeps := (keepsSession_append_iff.mp hkeeps).1
        rw [status_eq_exited houtlook (hleads.mirrors hmirrors) hkeeps hmore.1 hreturns hdone
          hcoherent]

/-- What a driver says that it is, and how it answers a line of some words, follows from its
chronicle: if nothing is published meanwhile it says what the chronicle says, and else what the
chronicle says at some moment of the operation. Once its shell has exited it stays so, and is said
to be so, until it is started or closed. -/
theorem Leads.status_eq_outlook {settings : SessionSettings} {processId : Nat}
    {sinks : PerStream Bool} (hleads : Leads [] (.ofSettings settings processId sinks) h d) :
    (∀ state, (∃ trace d', (h ++ ofTrace trace).IsCoherent ∧ Runs d.status trace (state, d')) ↔
      state = h.outlook) ∧
    (∀ (h' : Chronicle) (result : DriverState × Driver), h'.returns = [] →
      (h ++ h').IsCoherent → Runs d.status h'.calls result →
        ∃ seen, seen <+: h' ∧ result.1 = outlook (h ++ seen)) ∧
    (∀ (words : List String) (h' : Chronicle) (result : Except SessionError Unit × Driver),
      words ≠ [] → h'.returns = [] → (h ++ h').IsCoherent →
      Runs (d.submit words) h'.calls result →
        ∃ seen, seen <+: h' ∧ AnswersLine (outlook (h ++ seen)) result.1 h'.calls) ∧
    ∀ (more : Chronicle) (d' : Driver) (exit : Exit), Leads h d (h ++ more) d' →
      h.outlook = .exited exit → more.KeepsSession →
        outlook (h ++ more) = .exited exit ∧
          ∀ answer, (.status, answer) ∈ more.returns → answer = .state (.exited exit) := by
  have hmirrors := hleads.mirrors (mirrors_ofSettings settings processId sinks)
  have hcoherent := hleads.isCoherent isCoherent_nil
  refine ⟨fun state ↦ ⟨?_, ?_⟩, ?_, ?_, ?_⟩
  · rintro ⟨trace, d', hcoherent, hrun⟩
    exact hmirrors.status_of_calls hrun hcoherent
  · rintro rfl
    obtain ⟨trace, result, hcoherent, hrun⟩ := Mirrors.exists_runs_status h d hcoherent
    rw [← hmirrors.status_of_calls hrun hcoherent]
    exact ⟨trace, result.2, hcoherent, hrun⟩
  · intro h' result hreturns hcoherent hrun
    exact (hmirrors.status hreturns hrun hcoherent).2
  · intro words h' result hwords hreturns hcoherent hrun
    unfold Driver.submit at hrun
    rw [if_neg (by rwa [List.isEmpty_iff])] at hrun
    exact (hmirrors.enqueue hreturns hrun hcoherent).2
  · intro more d' exit hmore houtlook hkeeps
    obtain ⟨more', heq, hkept⟩ := hmore.keeps hmirrors houtlook
    cases List.append_cancel_left heq
    obtain ⟨hspawned, hanswers⟩ := hkept hkeeps
    exact ⟨outlook_append_of_keepsSession houtlook hkeeps hspawned, hanswers⟩

/-- On a plain system a driver is started, and then its shell exits: it says so, and it refuses a
line because of that exit. -/
theorem status_eq_outlook_shell_exited :
    let d := Driver.ofSettings ⟨⟨[0x61]⟩, ⟨[0x62]⟩, 1, ⟨0⟩, none⟩ 0 ⟨false, false⟩
    let started := (PlainSystem.ofShell true).result (d.perform .start)
    let h : Chronicle := ofTrace ((PlainSystem.ofShell true).trace (d.perform .start)) ++
      [.returned .start started.1] ++ [.published 0 (.code 3)]
    let look : List Event := [⟨.exitOf 0, some (.code 3)⟩]
    Leads [] d h started.2 ∧
      (∃ result, Runs started.2.status look result ∧ result.1 = .exited (.code 3)) ∧
      ∃ result, Runs (started.2.submit ["a"]) look result ∧
        result.1 = .error (.shellExited (.code 3)) := by
  intro d started h look
  have hleads : Leads [] d h started.2 :=
    (leads_plain (.ofShell true) d .start).published 0 (.code 3)
  have hcoherent : IsCoherent (h ++ [.answered ⟨.exitOf 0, some (.code 3)⟩]) := by
    have hstarted := isCoherent_ofTrace_plain (.ofShell true) (d.perform .start)
    refine ((hstarted.concat fun _ _ ↦ ?_).concat fun _ _ ↦ ?_).concat ?_
    · exact fun heq ↦ nomatch heq
    · exact fun heq ↦ nomatch heq
    · rintro child answer ⟨⟩
      rfl
  have hexited : outlook h = .exited (.code 3) := by
    have hshell : h.shell = some 0 := by decide
    have hpublished : h.published 0 = some (.code 3) := by decide
    refine outlook_eq_exited_iff.mpr ⟨by decide, by decide, ?_⟩
    rw [hshell, Option.bind_some, hpublished]
  have houtlook (seen : Chronicle) (hseen : seen <+: ofTrace look) :
      outlook (h ++ seen) = .exited (.code 3) := by
    obtain ⟨rest, hlook⟩ := hseen
    have hreturns : returns (seen ++ rest) = [] := by rw [hlook]; rfl
    have hspawned : spawned (calls (seen ++ rest)) = [] := by rw [hlook]; rfl
    rw [returns_append, List.append_eq_nil_iff] at hreturns
    rw [calls_append, spawned_append, List.append_eq_nil_iff] at hspawned
    exact outlook_append_of_keepsSession hexited (.of_returns hreturns.1) hspawned.1
  obtain ⟨-, hstatus, hsubmit, -⟩ := hleads.status_eq_outlook
  refine ⟨hleads, ?_, ?_⟩
  · have hrun : Runs started.2.status look _ :=
      @Runs.ask _ (.exitOf 0) _ (some (.code 3)) _ _ (.done _)
    obtain ⟨seen, hseen, hstate⟩ := hstatus (ofTrace look) _ rfl hcoherent hrun
    exact ⟨_, hrun, hstate.trans (houtlook seen hseen)⟩
  · have hrun : Runs (started.2.submit ["a"]) look _ :=
      @Runs.ask _ (.exitOf 0) _ (some (.code 3)) _ _ (.done _)
    obtain ⟨seen, hseen, hanswer⟩ := hsubmit ["a"] (ofTrace look) _ nofun rfl hcoherent hrun
    exact ⟨_, hrun, (hanswer.exited (.code 3)).mpr (houtlook seen hseen)⟩

end Chronicle
end ShellDebugger
