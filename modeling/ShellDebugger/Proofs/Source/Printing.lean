import ShellDebugger.Proofs.Source.InPlace

/-!
# Printing a page

An operation either fails before it prints anything, whatever the writer is, or comes down to
writing one page, which is empty for a load. A writer that stops in the middle of the page has taken
the first octets of it, as many as it takes, and the navigator has not moved. So the page can be
listed again from the same place.
-/

namespace ShellDebugger.Navigator

/-! ## Operations -/

/-- An operation fails before it prints, whatever the writer is. -/
def FailsWith (nav : Navigator) (files : Files) (operation : Operation) (cause : SourceError) :
    Prop :=
  ∀ out, nav.perform files operation out = ⟨.error cause, nav, out⟩

/-- An operation comes down to writing a page, and leads to another navigator if all of the page is
written. -/
def Prints (nav : Navigator) (files : Files) (operation : Operation) (page : Bytes)
    (moved : Navigator) : Prop :=
  ∀ out, nav.perform files operation out =
    if out.HasRoomFor page.length then ⟨.ok (), moved, out.offered page⟩
    else ⟨.error (.io .shortWrite), nav, out.offered page⟩

variable {nav moved : Navigator} {files : Files} {operation : Operation} {out : Writer}
  {path : Path} {content page : Bytes}

/-- The load of a source that is there. -/
theorem perform_load (nav : Navigator) (hcontent : files path = .ok content) (out : Writer) :
    nav.perform files (.load path) out =
      ⟨.ok (), ⟨some path, Numeral.digitCount (Lines.count content), 0, nav.count⟩, out⟩ := by
  rw [perform_load_eq, hcontent]
  rfl

/-- The listing of a page of a source that is there. -/
theorem perform_list {request : Request} {start : Nat} (hpath : nav.path = some path)
    (hcontent : files path = .ok content)
    (hstart : nav.start (Lines.ofContent content) request = .ok start) (out : Writer) :
    nav.perform files (.list request) out =
      if out.HasRoomFor (nav.page (Lines.ofContent content) start).flatten.length then
        ⟨.ok (), nav.afterPage (Lines.ofContent content).length start,
          out.offered (nav.page (Lines.ofContent content) start).flatten⟩
      else
        ⟨.error (.io .shortWrite), nav,
          out.offered (nav.page (Lines.ofContent content) start).flatten⟩ := by
  have hlines : readLines (.ok content) = .ok (Lines.ofContent content) := rfl
  simp only [perform_list_eq, contentIn, list, source, hpath, hcontent, hlines, hstart,
    printPage_eq]
  by_cases hroom : out.HasRoomFor (nav.page (Lines.ofContent content) start).flatten.length
  · simp only [if_pos hroom]
  · simp only [if_neg hroom]

/-- A load fails, or the source is there. -/
theorem perform_load_cases (nav : Navigator) (files : Files) (path : Path) :
    (∃ cause, nav.FailsWith files (.load path) cause) ∨
      ∃ content, files path = .ok content := by
  cases hcontent : files path with
  | error cause =>
    left
    refine ⟨.io cause, fun out ↦ ?_⟩
    rw [perform_load_eq, hcontent]
    rfl
  | ok content => exact .inr ⟨content, rfl⟩

/-- A listing fails before it prints, or the source is there and has the page that is asked for. -/
theorem perform_list_cases (nav : Navigator) (files : Files) (request : Request) :
    (∃ cause, nav.FailsWith files (.list request) cause) ∨
      ∃ path content start, nav.path = some path ∧ files path = .ok content ∧
        nav.start (Lines.ofContent content) request = .ok start := by
  simp only [FailsWith, perform_list_eq, contentIn, list, source]
  cases hpath : nav.path with
  | none => exact .inl ⟨.notLoaded, fun _ ↦ rfl⟩
  | some path =>
    cases hcontent : files path with
    | error cause =>
      simp only [hcontent]
      exact .inl ⟨.io cause, fun _ ↦ rfl⟩
    | ok content =>
      have hlines : readLines (.ok content) = .ok (Lines.ofContent content) := rfl
      simp only [hcontent, hlines]
      cases hstart : nav.start (Lines.ofContent content) request with
      | error cause => exact .inl ⟨cause, fun _ ↦ rfl⟩
      | ok start => exact .inr ⟨path, content, start, rfl, hcontent, hstart⟩

/-- A load prints an empty page. -/
theorem prints_load (nav : Navigator) (hcontent : files path = .ok content) :
    nav.Prints files (.load path) []
      ⟨some path, Numeral.digitCount (Lines.count content), 0, nav.count⟩ := by
  intro out
  rw [perform_load nav hcontent, List.length_nil, if_pos out.hasRoomFor_zero, out.offered_nil]

/-- Any operation fails before it prints or comes down to writing a page. -/
theorem perform_cases (nav : Navigator) (files : Files) (operation : Operation) :
    (∃ cause, nav.FailsWith files operation cause) ∨
      ∃ page moved, nav.Prints files operation page moved := by
  cases operation with
  | load path =>
    rcases nav.perform_load_cases files path with hfails | ⟨content, hcontent⟩
    · exact .inl hfails
    · exact .inr ⟨_, _, nav.prints_load hcontent⟩
  | list request =>
    rcases nav.perform_list_cases files request with
      hfails | ⟨path, content, start, hpath, hcontent, hstart⟩
    · exact .inl hfails
    · exact .inr ⟨_, _, perform_list hpath hcontent hstart⟩

/-- A listing that succeeds has printed a page of the lines that the source has. -/
theorem perform_list_ok {request : Request} (hpath : nav.path = some path)
    (hcontent : files path = .ok content)
    (hlisted : (nav.perform files (.list request) out).result = .ok ()) :
    ∃ start, nav.start (Lines.ofContent content) request = .ok start ∧
      (nav.perform files (.list request) out).navigator =
        nav.afterPage (Lines.ofContent content).length start ∧
      (nav.perform files (.list request) out).writer.taken =
        out.taken ++ (nav.page (Lines.ofContent content) start).flatten := by
  rcases nav.perform_list_cases files request with
    ⟨cause, hfails⟩ | ⟨listedPath, listed, start, hlistedPath, hfound, hstart⟩
  · rw [hfails out] at hlisted
    cases hlisted
  · have hsamePath : listedPath = path := Option.some.inj (hlistedPath.symm.trans hpath)
    rw [hsamePath] at hfound
    have hsame : listed = content := Except.ok.inj (hfound.symm.trans hcontent)
    rw [hsame] at hstart
    refine ⟨start, hstart, ?_⟩
    rw [perform_list hpath hcontent hstart] at hlisted ⊢
    split at hlisted
    · next hroom =>
      rw [if_pos hroom]
      exact ⟨rfl, hroom.taken_offered⟩
    · cases hlisted

/-- What a step comes down to: the navigator stays, stands at the start of a source, or has turned a
page. -/
theorem after_cases (nav : Navigator) (step : Step) :
    nav.after step = nav ∨
      (∃ path content, step.operation = .load path ∧ step.files path = .ok content ∧
        nav.after step =
          ⟨some path, Numeral.digitCount (Lines.count content), 0, nav.count⟩) ∨
      ∃ request path content start, step.operation = .list request ∧ nav.path = some path ∧
        step.files path = .ok content ∧
        nav.after step = nav.afterPage (Lines.ofContent content).length start := by
  unfold after
  cases hoperation : step.operation with
  | load path =>
    rcases nav.perform_load_cases step.files path with ⟨cause, hfails⟩ | ⟨content, hcontent⟩
    · left
      rw [hfails step.out]
    · refine .inr (.inl ⟨path, content, rfl, hcontent, ?_⟩)
      rw [perform_load nav hcontent]
  | list request =>
    rcases nav.perform_list_cases step.files request with
      ⟨cause, hfails⟩ | ⟨path, content, start, hpath, hcontent, hstart⟩
    · left
      rw [hfails step.out]
    · rw [perform_list hpath hcontent hstart]
      split
      · exact .inr (.inr ⟨request, path, content, start, rfl, hpath, hcontent, rfl⟩)
      · exact .inl rfl

/-- A listing moves nothing but the cursor. -/
theorem exists_cursor_after (nav : Navigator) {step : Step} {request : Request}
    (hlist : step.operation = .list request) :
    ∃ cursor, nav.after step = { nav with cursor := cursor } := by
  rcases nav.after_cases step with
    hstays | ⟨path, _, hload, -⟩ | ⟨_, _, content, start, -, -, -, hturned⟩
  · exact ⟨nav.cursor, hstays⟩
  · rw [hlist] at hload
    cases hload
  · exact ⟨_, hturned⟩

theorem exists_cursor_afterAll (nav : Navigator) {steps : List Step}
    (hlists : ∀ step ∈ steps, ∃ request, step.operation = .list request) :
    ∃ cursor, nav.afterAll steps = { nav with cursor := cursor } := by
  induction steps generalizing nav with
  | nil => exact ⟨nav.cursor, rfl⟩
  | cons step rest ih =>
    obtain ⟨⟨request, hlist⟩, hrest⟩ := List.forall_mem_cons.mp hlists
    obtain ⟨cursor, hafter⟩ := nav.exists_cursor_after hlist
    obtain ⟨cursor', hafterAll⟩ := ih (nav.after step) hrest
    exact ⟨cursor', hafterAll.trans (by rw [hafter])⟩

/-- Where nothing stops the writer, a continued listing shows the page at the cursor. -/
theorem perform_next (hpath : nav.path = some path) (hcontent : files path = .ok content)
    (hout : out.IsWilling) :
    nav.perform files (.list .next) out =
      ⟨.ok (), nav.turned (Lines.ofContent content).length,
        out.taking (nav.pageRows (Lines.ofContent content)).flatten⟩ := by
  have hread : nav.contentIn files = .ok content := by simp only [contentIn, hpath, hcontent]
  simp only [perform_list_eq, hread, list_next_eq hpath content hout]

/-! ## Writers that stop -/

theorem isWilling_unlimited : Writer.unlimited.IsWilling := ⟨nofun, rfl, rfl⟩

theorem Prints.of_isWilling (h : nav.Prints files operation page moved) (hout : out.IsWilling) :
    nav.perform files operation out = ⟨.ok (), moved, out.taking page⟩ := by
  rw [h out, if_pos (Writer.hasRoomFor_of_capacity hout.capacity_eq), hout.offered_eq]

section Stopped

variable {n : Nat} (hcapacity : out.capacity = some n)
include hcapacity

theorem Prints.of_le (h : nav.Prints files operation page moved) (hfits : page.length ≤ n) :
    nav.perform files operation out = ⟨.ok (), moved, out.offered page⟩ := by
  rw [h out, if_pos ((Writer.hasRoomFor_iff_of_capacity hcapacity).mpr hfits)]

theorem Prints.of_lt (h : nav.Prints files operation page moved) (hlong : n < page.length) :
    nav.perform files operation out =
      ⟨.error (.io .shortWrite), nav, out.offered page⟩ := by
  rw [h out, if_neg (mt (Writer.hasRoomFor_iff_of_capacity hcapacity).mp (Nat.not_le.mpr hlong))]

/-- Writes of which a page consists come to offering the page. -/
theorem writeRows_of_capacity {writes : List Bytes} (hwrites : writes.flatten = page) :
    writeRows out writes =
      (if page.length ≤ n then .ok () else .error .shortWrite, out.offered page) := by
  rw [writeRows_eq_offered, hwrites]
  simp only [Writer.hasRoomFor_iff_of_capacity hcapacity]

end Stopped

/-- Where a writer takes only the first `n` octets, an operation writes the first `n` octets of what
it writes where nothing stops it, and all of that if it is not more. It succeeds if and only if it
does not fail before it prints, in which case it prints nothing, and its page is not more. When it
succeeds, the navigator moves as it does where nothing stops it; when it fails, the navigator stays,
so that what was asked may be asked again and is then answered in full. None of that depends on how
the page is divided into writes. -/
theorem perform_cut_short (nav : Navigator) (files : Files) (operation : Operation) {out : Writer}
    {n : Nat} (hcapacity : out.capacity = some n) :
    let whole := nav.perform files operation .unlimited
    let page := whole.writer.taken
    let cut := nav.perform files operation out
    cut.writer.taken = out.taken ++ page.take (min n page.length) ∧
      (whole.result ≠ .ok () → page = [] ∧ cut.result = whole.result) ∧
      (cut.result = .ok () ↔ whole.result = .ok () ∧ page.length ≤ n) ∧
      (cut.result = .ok () → cut.navigator = whole.navigator) ∧
      (cut.result ≠ .ok () → cut.navigator = nav ∧
        ∀ healthy : Writer, healthy.IsWilling → cut.navigator.perform files operation healthy =
          ⟨whole.result, whole.navigator, healthy.taking page⟩) ∧
      ∀ writes : List Bytes, writes.flatten = page →
        ((writeRows out writes).1 = .ok () ↔ page.length ≤ n) ∧
          (writeRows out writes).2 = cut.writer := by
  rcases nav.perform_cases files operation with ⟨cause, hfails⟩ | ⟨page, moved, hprints⟩
  · have hnothing : Writer.unlimited.taken = [] := rfl
    simp only [hfails .unlimited, hfails out, hnothing]
    refine ⟨by simp, by simp, by simp, by simp, fun _ ↦ ⟨trivial, ?_⟩, ?_⟩
    · intro healthy _
      rw [hfails healthy, healthy.taking_nil]
    · intro writes hwrites
      simp [writeRows_of_capacity hcapacity hwrites]
  · have hwhole := hprints.of_isWilling isWilling_unlimited
    have hpage : (Writer.unlimited.taking page).taken = page := rfl
    have htaken := Writer.taken_offered_of_capacity hcapacity page
    simp only [hwhole, hpage]
    rcases Nat.lt_or_ge n page.length with hlong | hfits
    · have hnot : ¬ page.length ≤ n := Nat.not_le.mpr hlong
      simp only [hprints.of_lt hcapacity hlong]
      refine ⟨htaken, by simp, by simp [hnot], by simp, fun _ ↦ ⟨trivial, ?_⟩, ?_⟩
      · exact fun healthy hhealthy ↦ hprints.of_isWilling hhealthy
      · intro writes hwrites
        simp [writeRows_of_capacity hcapacity hwrites, hnot]
    · simp only [hprints.of_le hcapacity hfits]
      refine ⟨htaken, by simp, by simp [hfits], by simp, by simp, ?_⟩
      intro writes hwrites
      simp [writeRows_of_capacity hcapacity hwrites, hfits]

/-- Of a page of two rows a writer takes the first and a part of the second. -/
theorem perform_cut_short_second_row :
    let nav : Navigator := ⟨some ⟨[0x61]⟩, 1, 0, 10⟩
    let files : Files := fun _ ↦ .ok [0x78, 0x0A, 0x79, 0x0A]
    let out : Writer := ⟨some 4, some 6, none, []⟩
    let cut := nav.perform files (.list .next) out
    out.capacity = some 6 ∧ cut.writer.taken = [0x31, 0x20, 0x78, 0x0A, 0x32, 0x20] ∧
      cut.result ≠ .ok () ∧ cut.navigator = nav := by
  intro nav files out cut
  have hcapacity : out.capacity = some 6 := rfl
  have hpage : (nav.perform files (.list .next) .unlimited).writer.taken =
      [0x31, 0x20, 0x78, 0x0A, 0x32, 0x20, 0x79, 0x0A] := by
    have hpath : nav.path = some ⟨[0x61]⟩ := rfl
    have hcontent : files ⟨[0x61]⟩ = .ok [0x78, 0x0A, 0x79, 0x0A] := rfl
    rw [perform_next hpath hcontent isWilling_unlimited]
    decide
  obtain ⟨htaken, -, hresult, -, hstays, -⟩ :=
    nav.perform_cut_short files (.list .next) hcapacity
  rw [hpage] at htaken hresult
  have hfailed : cut.result ≠ .ok () := fun h ↦ absurd (hresult.mp h).2 (by decide)
  exact ⟨hcapacity, htaken, hfailed, (hstays hfailed).1⟩

end ShellDebugger.Navigator
