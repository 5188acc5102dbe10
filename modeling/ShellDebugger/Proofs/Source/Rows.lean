import ShellDebugger.Proofs.Source.Printing
import ShellDebugger.Proofs.Text.Numeral

/-!
# Rows in columns

The lines of a file are counted when it is loaded and read when it is listed, and both find as many.
The column of the numbers is as wide as the count has digits, so it holds the number of every row of
every page, with blanks before it, and is never overrun.
-/

namespace ShellDebugger

/-! ## Counting -/

namespace Lines

/-- Counting lines goes along with cutting them. -/
theorem countAfter_eq_length (done : List Bytes) (current content : Bytes) :
    countAfter done.length (!current.isEmpty) content =
      (piecesAfter done current content).length := by
  induction content generalizing done current with
  | nil =>
    rw [countAfter, piecesAfter, List.length_reverse]
    cases current <;> rfl
  | cons octet rest ih =>
    rw [countAfter, piecesAfter]
    by_cases hfeed : octet = feed
    · rw [if_pos hfeed, if_pos hfeed, ← ih]
      rfl
    · rw [if_neg hfeed, if_neg hfeed, ← ih]
      rfl

theorem count_eq_length (content : Bytes) : count content = (ofContent content).length := by
  rw [ofContent, List.length_map]
  exact countAfter_eq_length [] [] content

/-- Each LF counts, and so does the end if a line has been begun. -/
theorem countAfter_eq (done : Nat) (begun : Bool) (content : Bytes) :
    countAfter done begun content =
      done + content.count feed + (content.getLast?.elim begun (· != feed)).toNat := by
  induction content generalizing done begun with
  | nil => cases begun <;> simp [countAfter]
  | cons octet rest ih =>
    rw [countAfter, List.count_cons, List.getLast?_cons]
    by_cases hfeed : octet = feed
    · rw [if_pos hfeed, ih]
      cases rest.getLast? <;> simp [hfeed] <;> omega
    · have hother : (octet != feed) = true := bne_iff_ne.mpr hfeed
      rw [if_neg hfeed, ih]
      cases rest.getLast? <;> simp [hfeed, hother]

/-- The lines of a content are those that LF ends, and one more if something follows the last LF. -/
theorem count_eq (content : Bytes) :
    count content =
      content.count feed + if content = [] ∨ content.getLast? = some feed then 0 else 1 := by
  rw [count, countAfter_eq, Nat.zero_add]
  congr 1
  cases hlast : content.getLast? with
  | none => simp [List.getLast?_eq_none_iff.mp hlast]
  | some octet =>
    have hne : content ≠ [] := fun hnil ↦ by simp [hnil] at hlast
    by_cases hfeed : octet = feed <;> simp [hfeed, hne]

end Lines

namespace Navigator

/-! ## Columns -/

/-- A row is a number with blanks before it, which together fill a column of a width, a blank, a
line and LF. -/
def IsAligned (width number : Nat) (line : String) (row : Bytes) : Prop :=
  ∃ blanks, blanks + (Nat.toDigits 10 number).length = width ∧
    row = Utf8.encodeChars (List.replicate blanks ' ' ++ Nat.toDigits 10 number) ++
      0x20 :: Utf8.encode line ++ [Lines.feed]

theorem isAligned_row {width number : Nat} (h : Numeral.digitCount number ≤ width)
    (line : String) : IsAligned width number line (row width number line) := by
  refine ⟨width - Numeral.digitCount number, Nat.sub_add_cancel h, ?_⟩
  rw [row, Numeral.rightAligned, Utf8.encode, String.toList_ofList]
  rfl

theorem getElem?_rows (width : Nat) {lines : List String} {i : Nat} (hi : i < lines.length) :
    (rows width lines)[i]? = some (row width (i + 1) lines[i]) := by
  simp [rows, hi]

/-- A page is a stretch of the rows. -/
theorem page_infix (nav : Navigator) (lines : List String) (start : Nat) :
    nav.page lines start <:+: rows nav.width lines := by
  rw [page_eq]
  exact (List.drop_suffix _ _).isInfix.trans (List.take_prefix _ _).isInfix

/-- A listing after other listings shows a stretch of the rows, numbered as before. -/
theorem exists_page_of_afterAll {nav : Navigator} {path : Path} {content : Bytes}
    {steps : List Step} (hlists : ∀ step ∈ steps, ∃ request, step.operation = .list request)
    (hpath : nav.path = some path) {files : Files} (hcontent : files path = .ok content)
    {request : Request} {out : Writer}
    (hlisted : ((nav.afterAll steps).perform files (.list request) out).result = .ok ()) :
    ∃ page, page <:+: rows nav.width (Lines.ofContent content) ∧
      ((nav.afterAll steps).perform files (.list request) out).writer.taken =
        out.taken ++ page.flatten := by
  obtain ⟨cursor, hsteps⟩ := nav.exists_cursor_afterAll hlists
  have hlaterPath : (nav.afterAll steps).path = some path := by rw [hsteps, hpath]
  have hwidth : (nav.afterAll steps).width = nav.width := by rw [hsteps]
  obtain ⟨start, -, -, htaken⟩ := perform_list_ok hlaterPath hcontent hlisted
  rw [← hwidth]
  exact ⟨_, page_infix _ _ start, htaken⟩

/-- A load counts as many lines as a listing reads: the LFs, and one more if something follows the
last of them. The column of the numbers gets the least width, of one column or more, that holds all
numbers up to that, so that in each row the number fills it with the blanks before it. Each page
that is listed of the same content, after whatever listings, is a stretch of these rows. -/
theorem rows_aligned (nav : Navigator) {path : Path} {content : Bytes} {files : Files}
    (hcontent : files path = .ok content) (out : Writer) :
    let lines := Lines.ofContent content
    let total := content.count Lines.feed +
      if content = [] ∨ content.getLast? = some Lines.feed then 0 else 1
    let loaded := nav.perform files (.load path) out
    let width := loaded.navigator.width
    countLines (files path) = .ok total ∧ readLines (files path) = .ok lines ∧
      lines.length = total ∧ loaded.result = .ok () ∧
      IsLeast {width | 1 ≤ width ∧ total < 10 ^ width} width ∧
      (∀ i (hi : i < lines.length), ∃ row, (rows width lines)[i]? = some row ∧
        IsAligned width (i + 1) lines[i] row) ∧
      ∀ steps : List Step, (∀ step ∈ steps, ∃ request, step.operation = .list request) →
        ∀ (files' : Files) (request : Request) (out' : Writer), files' path = .ok content →
          let listed := (loaded.navigator.afterAll steps).perform files' (.list request) out'
          listed.result = .ok () → ∃ page, page <:+: rows width lines ∧
            listed.writer.taken = out'.taken ++ page.flatten := by
  intro lines total loaded width
  have hcount : Lines.count content = total := Lines.count_eq content
  have hlength : lines.length = total := (Lines.count_eq_length content).symm.trans hcount
  have hloaded : loaded = ⟨.ok (), ⟨some path, Numeral.digitCount total, 0, nav.count⟩, out⟩ := by
    rw [← hcount]
    exact nav.perform_load hcontent out
  have hwidth : width = Numeral.digitCount total := by
    simp only [width, hloaded]
  refine ⟨?_, ?_, hlength, by rw [hloaded], ?_, fun i hi ↦ ?_, ?_⟩
  · rw [hcontent, ← hcount]
    rfl
  · rw [hcontent]
    rfl
  · rw [hwidth]
    exact Numeral.isLeast_digitCount total
  · refine ⟨_, getElem?_rows width hi, isAligned_row ?_ lines[i]⟩
    rw [hwidth, ← hlength]
    exact Numeral.digitCount_mono hi
  · intro steps hlists files' request out' hcontent' listed hlisted
    have hpath : loaded.navigator.path = some path := by rw [hloaded]
    exact exists_page_of_afterAll hlists hpath hcontent' hlisted

/-- Ten lines, of which the last has no LF, in columns of two. -/
theorem rows_aligned_ten_lines :
    let content : Bytes := [0x0A, 0x0A, 0x0A, 0x0A, 0x0A, 0x0A, 0x0A, 0x0A, 0x0A, 0x7A]
    let files : Files := fun _ ↦ .ok content
    let loaded := (ofCount 4).perform files (.load ⟨[0x61]⟩) .unlimited
    let step : Step := ⟨.list .next, files, .unlimited⟩
    let listed := (loaded.navigator.afterAll [step]).perform files (.list (.line 9)) .unlimited
    files ⟨[0x61]⟩ = .ok content ∧ countLines (.ok content) = .ok 10 ∧
      IsLeast {width | 1 ≤ width ∧ 10 < 10 ^ width} loaded.navigator.width ∧
      listed.result = .ok () ∧
      ∃ page, page <:+: rows loaded.navigator.width (Lines.ofContent content) ∧
        listed.writer.taken = page.flatten := by
  intro content files loaded step listed
  have hcontent : files ⟨[0x61]⟩ = .ok content := rfl
  have hlists : ∀ step' ∈ [step], ∃ request, step'.operation = .list request :=
    List.forall_mem_singleton.mpr ⟨.next, rfl⟩
  have hlisted : listed.result = .ok () := by
    obtain ⟨cursor, hstep⟩ := loaded.navigator.exists_cursor_afterAll hlists
    have hpath : (loaded.navigator.afterAll [step]).path = some ⟨[0x61]⟩ := by
      rw [hstep]
      exact congrArg (·.navigator.path) ((ofCount 4).perform_load hcontent .unlimited)
    have hstart : (loaded.navigator.afterAll [step]).start (Lines.ofContent content) (.line 9) =
        .ok 8 := rfl
    simp only [listed, perform_list hpath hcontent hstart]
    rw [if_pos (Writer.hasRoomFor_of_capacity isWilling_unlimited.capacity_eq)]
  obtain ⟨hcount, -, -, -, hwidth, -, hpages⟩ :=
    (ofCount 4).rows_aligned hcontent .unlimited
  have htotal : content.count Lines.feed +
      (if content = [] ∨ content.getLast? = some Lines.feed then 0 else 1) = 10 := by decide
  rw [htotal] at hcount hwidth
  obtain ⟨page, hpage, htaken⟩ :=
    hpages [step] hlists files (.line 9) .unlimited hcontent hlisted
  refine ⟨hcontent, hcount, hwidth, hlisted, page, hpage, ?_⟩
  simp only [listed, loaded, htaken]
  rfl

end Navigator
end ShellDebugger
