import ShellDebugger.Proofs.Source.PageCycle
import ShellDebugger.Proofs.Source.Printing

/-!
# Sources that change

The cursor stays where it is while anybody may change the file of the source. A continued listing
shows rows as long as the file has a line at the cursor. If the file has become so short that it has
none, the listing shows nothing, and only the one after it starts at the first line again.
-/

namespace ShellDebugger.Navigator

variable {nav : Navigator} {past : List Step} {files : Files} {out : Writer} {path : Path}
  {content : Bytes}

/-! ## Histories -/

/-- The cursor is at the first line, or at a line that the source had when it was listed in the
past. -/
def WasWithin (past : List Step) (nav : Navigator) : Prop :=
  nav.cursor = 0 ∨ ∃ path, nav.path = some path ∧ ∃ step ∈ past, ∃ request content,
    step.operation = .list request ∧ step.files path = .ok content ∧
      nav.cursor < (Lines.ofContent content).length

theorem WasWithin.concat (h : nav.WasWithin past) (step : Step) :
    nav.WasWithin (past ++ [step]) := by
  rcases h with hfirst | ⟨path, hpath, earlier, hearlier, hlisted⟩
  · exact .inl hfirst
  · exact .inr ⟨path, hpath, earlier, List.mem_append_left _ hearlier, hlisted⟩

/-- A page leaves the cursor at the first line or at another one that the source has. -/
theorem isWithin_afterPage (nav : Navigator) (total start : Nat) :
    (nav.afterPage total start).IsWithin total := by
  unfold IsWithin
  simp only [afterPage]
  split
  · exact .inl rfl
  · next hshort => exact .inr (Nat.lt_of_not_le hshort)

theorem WasWithin.after (h : nav.WasWithin past) (step : Step) :
    (nav.after step).WasWithin (past ++ [step]) := by
  rcases nav.after_cases step with
    hstays | ⟨path, content, -, -, hloaded⟩ |
      ⟨request, path, content, start, hlist, hpath, hcontent, hturned⟩
  · rw [hstays]
    exact h.concat step
  · rw [hloaded]
    exact .inl rfl
  · rw [hturned]
    rcases nav.isWithin_afterPage (Lines.ofContent content).length start with hfirst | hwithin
    · exact .inl hfirst
    · have hmem : step ∈ past ++ [step] := List.mem_append_right _ List.mem_cons_self
      exact .inr ⟨path, hpath, step, hmem, request, content, hlist, hcontent, hwithin⟩

theorem count_after (nav : Navigator) (step : Step) : (nav.after step).count = nav.count := by
  rcases nav.after_cases step with
    hstays | ⟨path, content, -, -, hloaded⟩ | ⟨_, _, content, start, -, -, -, hturned⟩
  · rw [hstays]
  · rw [hloaded]
  · rw [hturned]
    rfl

theorem afterAll_concat (nav : Navigator) (past : List Step) (step : Step) :
    nav.afterAll (past ++ [step]) = (nav.afterAll past).after step :=
  List.foldl_concat after nav step past

/-- Whatever was asked and however files were changed, the cursor was within the source once. -/
theorem wasWithin_afterAll (count : Nat) (steps : List Step) :
    ((ofCount count).afterAll steps).WasWithin steps ∧
      ((ofCount count).afterAll steps).count = count := by
  induction steps using List.reverseRecOn with
  | nil => exact ⟨.inl rfl, rfl⟩
  | append_singleton past step ih =>
    rw [afterAll_concat]
    exact ⟨ih.1.after step, (count_after _ step).trans ih.2⟩

/-! ## Continued listings -/

/-- Some rows are shown if and only if there is a line at the cursor. -/
theorem take_drop_rows_ne_nil_iff {width count cursor : Nat} {lines : List String}
    (hcount : 1 ≤ count) :
    ((rows width lines).drop cursor).take count ≠ [] ↔ cursor < lines.length := by
  rw [← List.length_pos_iff, List.length_take, List.length_drop, length_rows]
  omega

/-- A continued listing that succeeds has shown the rows from the cursor on and turned the page. -/
theorem perform_next_ok (hpath : nav.path = some path) (hcontent : files path = .ok content)
    (hfits : (Lines.ofContent content).length < Numeral.bound)
    (hlisted : (nav.perform files (.list .next) out).result = .ok ()) :
    (nav.perform files (.list .next) out).navigator =
        nav.turned (Lines.ofContent content).length ∧
      (nav.perform files (.list .next) out).writer.taken = out.taken ++
        (((rows nav.width (Lines.ofContent content)).drop nav.cursor).take nav.count).flatten := by
  obtain ⟨start, hstart, hmoved, htaken⟩ := perform_list_ok hpath hcontent hlisted
  have hsame : start = nav.cursor := (Except.ok.inj hstart).symm
  rw [hsame] at hmoved htaken
  rw [page_eq] at htaken
  rw [← pageRows_eq_take hfits]
  exact ⟨hmoved, htaken⟩

/-! ## Sources that become shorter -/

/-- A listing of a source that is longer than a page leaves the cursor after the first page. -/
theorem afterAll_load_next {count : Nat} (hcontent : files path = .ok content)
    (hfits : (Lines.ofContent content).length < Numeral.bound)
    (hlong : count < (Lines.ofContent content).length) :
    (ofCount count).afterAll
        [⟨.load path, files, .unlimited⟩, ⟨.list .next, files, .unlimited⟩] =
      ⟨some path, Numeral.digitCount (Lines.count content), count, count⟩ := by
  let loaded : Navigator := ⟨some path, Numeral.digitCount (Lines.count content), 0, count⟩
  have hpath : loaded.path = some path := rfl
  have hlt : loaded.cursor + loaded.count < (Lines.ofContent content).length := by
    rwa [show loaded.cursor = 0 from rfl, Nat.zero_add]
  simp only [afterAll, List.foldl_cons, List.foldl_nil, after, perform_load _ hcontent]
  calc (loaded.perform files (.list .next) .unlimited).navigator
    _ = loaded.turned (Lines.ofContent content).length := by
      rw [perform_next hpath hcontent isWilling_unlimited]
    _ = { loaded with cursor := loaded.cursor + loaded.count } := turned_of_lt hfits hlt
    _ = { loaded with cursor := count } := by rw [Nat.zero_add]

/-- A cursor past the end of the source shows nothing. -/
theorem perform_next_of_le (hpath : nav.path = some path) (hcontent : files path = .ok content)
    (hfits : (Lines.ofContent content).length < Numeral.bound)
    (hpast : (Lines.ofContent content).length ≤ nav.cursor) (hout : out.IsWilling) :
    nav.perform files (.list .next) out = ⟨.ok (), { nav with cursor := 0 }, out⟩ := by
  have hrows : nav.pageRows (Lines.ofContent content) = [] := by
    rw [pageRows_eq_take hfits, List.drop_of_length_le (by rwa [length_rows]), List.take_nil]
  rw [perform_next hpath hcontent hout, turned_of_le hfits (Nat.le_add_right_of_le hpast), hrows,
    List.flatten_nil, Writer.taking_nil]

/-- A row has at least the line feed, so that rows are seen. -/
theorem flatten_ne_nil {width start : Nat} {lines : List String} {shown : List Bytes}
    (hshown : shown ≠ []) (hrows : shown <+: (rows width lines).drop start) :
    shown.flatten ≠ [] := by
  intro hnothing
  obtain ⟨shownRow, hmem⟩ := List.exists_mem_of_ne_nil shown hshown
  have hrow : shownRow ∈ rows width lines := List.mem_of_mem_drop (hrows.subset hmem)
  obtain ⟨⟨line, i⟩, -, hline⟩ := List.mem_map.mp hrow
  have hempty : shownRow = [] := List.flatten_eq_nil_iff.mp hnothing shownRow hmem
  simp [← hline, row] at hempty

/-! ## Progress -/

/-- After any history, a continued listing that succeeds shows the rows from the cursor on, as many
as a page has or as there are. These are none if and only if the file has no line at the cursor any
more. Then it once had more lines, when it was listed, and the cursor is back at the first line, so
that the next listing starts there. -/
theorem next_shows_rows {count : Nat} (hcount : 1 ≤ count) (steps : List Step) (files : Files)
    (out : Writer) :
    let nav := (ofCount count).afterAll steps
    let listed := nav.perform files (.list .next) out
    ∀ path content, nav.path = some path → files path = .ok content →
      let lines := Lines.ofContent content
      lines ≠ [] → lines.length < Numeral.bound → listed.result = .ok () →
        let shown := ((rows nav.width lines).drop nav.cursor).take count
        listed.writer.taken = out.taken ++ shown.flatten ∧
          (shown ≠ [] ↔ nav.cursor < lines.length) ∧
          (lines.length ≤ nav.cursor → listed.navigator = { nav with cursor := 0 } ∧
            ∃ step ∈ steps, ∃ request before, step.operation = .list request ∧
              step.files path = .ok before ∧ nav.cursor < (Lines.ofContent before).length) := by
  intro nav listed path content hpath hcontent lines hlines hfits hlisted shown
  obtain ⟨hwithin, hnavcount⟩ := wasWithin_afterAll count steps
  obtain ⟨hmoved, htaken⟩ := perform_next_ok hpath hcontent hfits hlisted
  rw [hnavcount] at htaken
  refine ⟨htaken, take_drop_rows_ne_nil_iff hcount, fun hpast ↦ ⟨?_, ?_⟩⟩
  · exact hmoved.trans (turned_of_le hfits (Nat.le_add_right_of_le hpast))
  · rcases hwithin with hfirst | ⟨earlierPath, hearlierPath, hlistedBefore⟩
    · have hpos : 0 < lines.length := List.length_pos_iff.mpr hlines
      have hzero : nav.cursor = 0 := hfirst
      omega
    · have hsame : earlierPath = path := Option.some.inj (hearlierPath.symm.trans hpath)
      rw [hsame] at hlistedBefore
      exact hlistedBefore

/-- Three lines are loaded and a page of two is listed; now the source has one line. The listing
shows nothing and puts the cursor back. -/
theorem next_shows_rows_of_shortened :
    let before : Files := fun _ ↦ .ok [0x31, 0x0A, 0x32, 0x0A, 0x33, 0x0A]
    let now : Files := fun _ ↦ .ok [0x78, 0x0A]
    let steps : List Step :=
      [⟨.load ⟨[0x66]⟩, before, .unlimited⟩, ⟨.list .next, before, .unlimited⟩]
    let nav := (ofCount 2).afterAll steps
    let listed := nav.perform now (.list .next) .unlimited
    nav = ⟨some ⟨[0x66]⟩, 1, 2, 2⟩ ∧ listed.result = .ok () ∧ listed.writer.taken = [] ∧
      listed.navigator = ⟨some ⟨[0x66]⟩, 1, 0, 2⟩ := by
  intro before now steps nav listed
  have hnav : nav = ⟨some ⟨[0x66]⟩, 1, 2, 2⟩ :=
    (afterAll_load_next rfl (by decide) (by decide)).trans (by decide)
  have hpath : nav.path = some ⟨[0x66]⟩ := by rw [hnav]
  have hresult : listed.result = .ok () :=
    congrArg Outcome.result (perform_next hpath rfl isWilling_unlimited)
  obtain ⟨htaken, hshown, hpast⟩ := next_shows_rows (by decide) steps now .unlimited
    ⟨[0x66]⟩ [0x78, 0x0A] hpath rfl (by decide) (by decide) hresult
  have hcursor : (Lines.ofContent [0x78, 0x0A]).length ≤ nav.cursor := by
    rw [hnav]
    decide
  have hnothing : ¬((rows nav.width (Lines.ofContent [0x78, 0x0A])).drop nav.cursor).take 2 ≠ [] :=
    mt hshown.mp (Nat.not_lt.mpr hcursor)
  rw [not_ne_iff.mp hnothing] at htaken
  have hback : { nav with cursor := 0 } = (⟨some ⟨[0x66]⟩, 1, 0, 2⟩ : Navigator) := by rw [hnav]
  exact ⟨hnav, hresult, htaken, (hpast hcursor).1.trans hback⟩

/-- A continued listing of a source that has lines does not always show some. -/
theorem not_next_always_progresses :
    ¬ ∀ (count : Nat) (steps : List Step) (files : Files) (out : Writer) (path : Path)
        (content : Bytes),
      let nav := (ofCount count).afterAll steps
      let listed := nav.perform files (.list .next) out
      let lines := Lines.ofContent content
      1 ≤ count → nav.path = some path → files path = .ok content → lines ≠ [] →
        listed.result = .ok () →
          ∃ shown, shown ≠ [] ∧
            shown <+: (rows nav.width lines).drop
              (if nav.cursor < lines.length then nav.cursor else 0) ∧
            listed.writer.taken = out.taken ++ shown.flatten := by
  intro hprogress
  let path : Path := ⟨[0x66]⟩
  let before : Files := fun _ ↦ .ok [0x31, 0x0A, 0x32, 0x0A, 0x33, 0x0A]
  let now : Files := fun _ ↦ .ok [0x78, 0x0A]
  let steps : List Step := [⟨.load path, before, .unlimited⟩, ⟨.list .next, before, .unlimited⟩]
  have hnav : (ofCount 2).afterAll steps = ⟨some path, 1, 2, 2⟩ :=
    (afterAll_load_next rfl (by decide) (by decide)).trans (by decide)
  have hpath : ((ofCount 2).afterAll steps).path = some path := by rw [hnav]
  have hcontent : now path = .ok [0x78, 0x0A] := rfl
  have hpast : (Lines.ofContent [0x78, 0x0A]).length ≤ ((ofCount 2).afterAll steps).cursor := by
    rw [hnav]
    decide
  have hlisted := perform_next_of_le hpath hcontent (by decide) hpast isWilling_unlimited
  obtain ⟨shown, hshown, hrows, htaken⟩ := hprogress 2 steps now .unlimited path _ (by decide) hpath
    hcontent (by decide) (congrArg Outcome.result hlisted)
  rw [hlisted] at htaken
  exact flatten_ne_nil hshown hrows htaken.symm

end ShellDebugger.Navigator
