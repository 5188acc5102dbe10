import ShellDebugger.Proofs.Source.PageCycle
import ShellDebugger.Proofs.Source.Printing
import ShellDebugger.Proofs.Source.Words
import ShellDebugger.Proofs.Text.Numeral

/-!
# Requests

What the arguments of a listing ask for, and which page is shown for it. A keyword is looked for as
a whole word, and the page starts with the first line that has it. A number asks for the page that
starts with that line, which the source must have unless it is empty. Which of the two the first
argument asks for is decided by whether it can be read as a number of 64 bits, and the arguments
after it do not count.
-/

namespace ShellDebugger.Navigator

variable {nav : Navigator} {files : Files} {path : Path} {content : Bytes} {lines : List String}
  {request : Request} {keyword : String} {start value : Nat}

/-! ## Requests that fail or succeed -/

/-- A listing without a line to start with fails before it prints. -/
theorem failsWith_list {cause : SourceError} (hpath : nav.path = some path)
    (hcontent : files path = .ok content)
    (hstart : nav.start (Lines.ofContent content) request = .error cause) :
    nav.FailsWith files (.list request) cause := by
  have hlines : readLines (.ok content) = .ok (Lines.ofContent content) := rfl
  intro out
  simp only [perform_list_eq, contentIn, list, source, hpath, hcontent, hlines, hstart]

/-- A listing with a line to start with prints the page from there on. -/
theorem prints_list (hpath : nav.path = some path) (hcontent : files path = .ok content)
    (hstart : nav.start (Lines.ofContent content) request = .ok start) :
    nav.Prints files (.list request) (nav.page (Lines.ofContent content) start).flatten
      (nav.afterPage (Lines.ofContent content).length start) :=
  perform_list hpath hcontent hstart

/-- What prints fails at most because the writer is full. -/
theorem Prints.cause_eq {operation : Operation} {page : Bytes} {moved : Navigator}
    (h : nav.Prints files operation page moved) {out : Writer} {cause : SourceError}
    (hfailed : (nav.perform files operation out).result = .error cause) :
    cause = .io .shortWrite := by
  rw [h out] at hfailed
  split at hfailed
  · cases hfailed
  · exact (Except.error.inj hfailed).symm

/-- An operation that fails before it prints under one condition, and prints otherwise, is known by
its failure to have met the condition. -/
theorem result_eq_error_iff {operation : Operation} {cause : SourceError} {met : Prop}
    (hfails : met → nav.FailsWith files operation cause)
    (hprints : ¬ met → ∃ page moved, nav.Prints files operation page moved)
    (hcause : cause ≠ .io .shortWrite) (out : Writer) :
    (nav.perform files operation out).result = .error cause ↔ met := by
  constructor
  · intro hfailed
    by_contra hnot
    obtain ⟨page, moved, hprinted⟩ := hprints hnot
    exact hcause (hprinted.cause_eq hfailed)
  · intro hmet
    rw [hfails hmet out]

/-- The rows of the lines from one number to another, both included. -/
def rowsBetween (width : Nat) (lines : List String) (first last : Nat) : List Bytes :=
  ((rows width lines).take last).drop (first - 1)

theorem page_eq_rowsBetween (hfits : lines.length < Numeral.bound) :
    nav.page lines start =
      rowsBetween nav.width lines (start + 1) (min (start + nav.count) lines.length) := by
  rw [page_eq, pageEnd_eq_min hfits]
  rfl

/-! ## Keywords -/

/-- No line has a keyword as a whole word. -/
def IsAbsent (lines : List String) (keyword : String) : Prop :=
  ∀ line ∈ lines, ¬ Words.HasWord line.toList keyword.toList

/-- A line, by its index, is the first that has a keyword as a whole word. -/
def IsFirstWith (lines : List String) (keyword : String) (first : Nat) : Prop :=
  IsLeast {i | ∃ line : String, lines[i]? = some line ∧
    Words.HasWord line.toList keyword.toList} first

/-- The first line that has a keyword is looked for, unless it is absent. -/
theorem start_keyword_cases (nav : Navigator) (lines : List String) (keyword : String) :
    (IsAbsent lines keyword ∧
      nav.start lines (.keyword keyword) = .error (.keywordNotFound keyword)) ∨
    ∃ first, IsFirstWith lines keyword first ∧ nav.start lines (.keyword keyword) = .ok first := by
  rw [Navigator.start]
  cases hfind : lines.findIdx? (Words.contains · keyword) with
  | none =>
    refine .inl ⟨fun line hline hword ↦ ?_, rfl⟩
    have hnot := List.findIdx?_eq_none_iff.mp hfind line hline
    rw [(Words.contains_iff line keyword).mpr hword] at hnot
    cases hnot
  | some first =>
    obtain ⟨hlt, hword, hearlier⟩ := List.findIdx?_eq_some_iff_getElem.mp hfind
    refine .inr ⟨first, ⟨⟨lines[first], List.getElem?_eq_getElem hlt,
      (Words.contains_iff _ _).mp hword⟩, ?_⟩, rfl⟩
    rintro i ⟨line, hline, hlineWord⟩
    obtain ⟨hi, rfl⟩ := List.getElem?_eq_some_iff.mp hline
    by_contra hbefore
    exact hearlier i (Nat.lt_of_not_le hbefore) ((Words.contains_iff _ _).mpr hlineWord)

theorem IsFirstWith.not_isAbsent {first : Nat} (h : IsFirstWith lines keyword first) :
    ¬ IsAbsent lines keyword := by
  obtain ⟨⟨line, hline, hword⟩, -⟩ := h
  exact fun habsent ↦ habsent line (List.mem_of_getElem? hline) hword

/-- A keyword is not found if and only if no line has it as a whole word, and then nothing else
happens. Otherwise the page is shown that starts with the first line that has it. -/
theorem keyword_shows_first_line (hpath : nav.path = some path)
    (hcontent : files path = .ok content) (keyword : String) :
    let lines := Lines.ofContent content
    let search : Operation := .list (.keyword keyword)
    (∀ out, (nav.perform files search out).result = .error (.keywordNotFound keyword) ↔
      IsAbsent lines keyword) ∧
    (IsAbsent lines keyword → nav.FailsWith files search (.keywordNotFound keyword)) ∧
    (¬ IsAbsent lines keyword → ∃ first, IsFirstWith lines keyword first ∧
      nav.Prints files search (nav.page lines first).flatten (nav.afterPage lines.length first) ∧
      (lines.length < Numeral.bound → nav.page lines first =
        rowsBetween nav.width lines (first + 1) (min (first + nav.count) lines.length))) := by
  intro lines search
  have hfails (habsent : IsAbsent lines keyword) :
      nav.FailsWith files search (.keywordNotFound keyword) := by
    rcases nav.start_keyword_cases lines keyword with ⟨-, hstart⟩ | ⟨first, hfirst, -⟩
    · exact failsWith_list hpath hcontent hstart
    · exact absurd habsent hfirst.not_isAbsent
  have hprints (hpresent : ¬ IsAbsent lines keyword) :
      ∃ first, IsFirstWith lines keyword first ∧
        nav.Prints files search (nav.page lines first).flatten
          (nav.afterPage lines.length first) := by
    rcases nav.start_keyword_cases lines keyword with ⟨habsent, -⟩ | ⟨first, hfirst, hstart⟩
    · exact absurd habsent hpresent
    · exact ⟨first, hfirst, prints_list hpath hcontent hstart⟩
  refine ⟨result_eq_error_iff hfails (fun hpresent ↦ ?_) nofun, hfails, fun hpresent ↦ ?_⟩
  · obtain ⟨first, -, hprinted⟩ := hprints hpresent
    exact ⟨_, _, hprinted⟩
  · obtain ⟨first, hfirst, hprinted⟩ := hprints hpresent
    exact ⟨first, hfirst, hprinted, page_eq_rowsBetween⟩

/-- A search leads to the first line that has the keyword. -/
theorem IsFirstWith.start_eq {first : Nat} (h : IsFirstWith lines keyword first) :
    nav.start lines (.keyword keyword) = .ok first := by
  rcases nav.start_keyword_cases lines keyword with ⟨habsent, -⟩ | ⟨found, hfound, hstart⟩
  · exact absurd habsent h.not_isAbsent
  · rw [hstart, hfound.unique h]

/-- Of two lines the first has the keyword as a part of a longer word only, and the second has it
between separators. -/
theorem keyword_shows_first_line_between_separators :
    let nav : Navigator := ⟨some ⟨[0x66]⟩, 1, 0, 10⟩
    let content : Bytes := [0x61, 0x62, 0x5F, 0x0A, 0x2D, 0x61, 0x62, 0x2E, 0x0A]
    let files : Files := fun _ ↦ .ok content
    IsFirstWith (Lines.ofContent content) "ab" 1 ∧
      nav.perform files (.list (.keyword "ab")) .unlimited =
        ⟨.ok (), nav, Writer.unlimited.taking [0x32, 0x20, 0x2D, 0x61, 0x62, 0x2E, 0x0A]⟩ := by
  intro nav content files
  have hpath : nav.path = some ⟨[0x66]⟩ := rfl
  have hcontent : files ⟨[0x66]⟩ = .ok content := rfl
  have hpresent : ¬ IsAbsent (Lines.ofContent content) "ab" := by
    have hword : Words.HasWord "-ab.".toList "ab".toList :=
      (Words.contains_iff _ _).mp (by decide)
    exact fun habsent ↦ habsent "-ab." (by decide) hword
  obtain ⟨-, -, hfound⟩ := keyword_shows_first_line hpath hcontent "ab"
  obtain ⟨first, hfirst, hprints, -⟩ := hfound hpresent
  have hstart : nav.start (Lines.ofContent content) (.keyword "ab") = .ok 1 := by decide
  obtain rfl : first = 1 := Except.ok.inj (hfirst.start_eq.symm.trans hstart)
  have hpage : (nav.page (Lines.ofContent content) 1).flatten =
      [0x32, 0x20, 0x2D, 0x61, 0x62, 0x2E, 0x0A] := by decide
  have hmoved : nav.afterPage (Lines.ofContent content).length 1 = nav := by decide
  rw [hpage, hmoved] at hprints
  exact ⟨hfirst, hprints.of_isWilling isWilling_unlimited⟩

/-! ## Lines and arguments -/

/-- The line before the first one is taken for the first. -/
theorem start_line_eq (nav : Navigator) (lines : List String) (value : Nat) :
    nav.start lines (.line value) =
      if 0 < lines.length ∧ lines.length < value then
        .error (.lineOutOfRange value lines.length)
      else .ok (max value 1 - 1) := by
  have hrange : lines.length ≤ value - 1 ∧ lines ≠ [] ↔
      0 < lines.length ∧ lines.length < value := by
    rw [← List.length_pos_iff]
    omega
  have hfirst : max value 1 - 1 = value - 1 := by omega
  simp only [Navigator.start, hrange, hfirst]

/-- A first argument that can be read as a number asks for a line. -/
theorem ofArguments_of_denotes {argument : String} (hvalue : Numeral.Denotes argument.toList value)
    (hsmall : value < Numeral.bound) (rest : List String) :
    Request.ofArguments (argument :: rest) = .line value := by
  rw [Request.ofArguments, Numeral.parse?_eq_some_iff.mpr ⟨hvalue, hsmall⟩]

/-- Any other first argument is a keyword. -/
theorem ofArguments_of_not_denotes {argument : String}
    (hnone : ∀ value, Numeral.Denotes argument.toList value → Numeral.bound ≤ value)
    (rest : List String) : Request.ofArguments (argument :: rest) = .keyword argument := by
  cases hparse : Numeral.parse? argument with
  | none => rw [Request.ofArguments, hparse]
  | some value =>
    obtain ⟨hvalue, hsmall⟩ := Numeral.parse?_eq_some_iff.mp hparse
    exact absurd hsmall (Nat.not_lt.mpr (hnone value hvalue))

/-- Without arguments the page at the cursor is shown. A first argument of digits, after at most one
plus sign, whose value has 64 bits asks for a line: it is refused if and only if the source has
lines, but not as many, and otherwise the page is shown that starts with the line, or with the first
one for zero. Every other first argument is looked for as a keyword. No further argument counts. -/
theorem arguments_ask_for_page (hpath : nav.path = some path) (hcontent : files path = .ok content)
    (hfits : (Lines.ofContent content).length < Numeral.bound) :
    let total := (Lines.ofContent content).length
    let shown := rowsBetween nav.width (Lines.ofContent content)
    let listing (arguments : List String) : Operation := .list (.ofArguments arguments)
    nav.Prints files (listing [])
      (shown (nav.cursor + 1) (min (nav.cursor + nav.count) total)).flatten
      (nav.afterPage total nav.cursor) ∧
    ∀ (argument : String) (rest : List String),
      (∀ value, Numeral.Denotes argument.toList value → value < Numeral.bound →
        let first := max value 1
        (∀ out, (nav.perform files (listing (argument :: rest)) out).result =
            .error (.lineOutOfRange value total) ↔ 0 < total ∧ total < value) ∧
        (0 < total ∧ total < value →
          nav.FailsWith files (listing (argument :: rest)) (.lineOutOfRange value total)) ∧
        (¬ (0 < total ∧ total < value) →
          nav.Prints files (listing (argument :: rest))
            (shown first (min (first - 1 + nav.count) total)).flatten
            (nav.afterPage total (first - 1)))) ∧
      ((∀ value, Numeral.Denotes argument.toList value → Numeral.bound ≤ value) →
        listing (argument :: rest) = .list (.keyword argument)) ∧
      ∀ others, listing (argument :: others) = listing (argument :: rest) := by
  intro total shown listing
  refine ⟨?_, fun argument rest ↦ ⟨fun value hvalue hsmall ↦ ?_, fun hnone ↦ ?_, fun _ ↦ rfl⟩⟩
  · have hstart : nav.start (Lines.ofContent content) .next = .ok nav.cursor := rfl
    have hprints := prints_list hpath hcontent hstart
    rwa [page_eq_rowsBetween hfits] at hprints
  · intro first
    have hline : listing (argument :: rest) = .list (.line value) :=
      congrArg Operation.list (ofArguments_of_denotes hvalue hsmall rest)
    have hstart := nav.start_line_eq (Lines.ofContent content) value
    have hfirst : first - 1 + 1 = first := by omega
    rw [hline]
    have hfails (hpast : 0 < total ∧ total < value) :
        nav.FailsWith files (.list (.line value)) (.lineOutOfRange value total) :=
      failsWith_list hpath hcontent (hstart.trans (if_pos hpast))
    have hprints (hthere : ¬ (0 < total ∧ total < value)) :
        nav.Prints files (.list (.line value))
          (shown first (min (first - 1 + nav.count) total)).flatten
          (nav.afterPage total (first - 1)) := by
      have hprinted := prints_list hpath hcontent (hstart.trans (if_neg hthere))
      rwa [page_eq_rowsBetween hfits, hfirst] at hprinted
    exact ⟨result_eq_error_iff hfails (fun hthere ↦ ⟨_, _, hprints hthere⟩) nofun, hfails, hprints⟩
  · exact congrArg Operation.list (ofArguments_of_not_denotes hnone rest)

/-- Three lines in pages of the greatest length: the second line is asked for, and one that is not
there, and a number that is too large to ask for a line. -/
theorem arguments_ask_for_page_greatest_count :
    let nav : Navigator := ⟨some ⟨[0x66]⟩, 1, 0, 0xFFFFFFFFFFFFFFFF⟩
    let content : Bytes := [0x78, 0x0A, 0x79, 0x0A, 0x7A]
    let files : Files := fun _ ↦ .ok content
    Numeral.Denotes "+2".toList 2 ∧
      nav.perform files (.list (.ofArguments ["+2", "1"])) .unlimited =
        ⟨.ok (), nav, Writer.unlimited.taking [0x32, 0x20, 0x79, 0x0A, 0x33, 0x20, 0x7A, 0x0A]⟩ ∧
      Numeral.Denotes "04".toList 4 ∧
      nav.perform files (.list (.ofArguments ["04"])) .unlimited =
        ⟨.error (.lineOutOfRange 4 3), nav, .unlimited⟩ ∧
      Operation.list (.ofArguments ["18446744073709551616"]) =
        .list (.keyword "18446744073709551616") := by
  intro nav content files
  have hpath : nav.path = some ⟨[0x66]⟩ := rfl
  have hcontent : files ⟨[0x66]⟩ = .ok content := rfl
  have hfits : (Lines.ofContent content).length < Numeral.bound := by decide
  obtain ⟨-, hargument⟩ := arguments_ask_for_page hpath hcontent hfits
  have htwo : Numeral.Denotes "+2".toList 2 :=
    ⟨['2'], .inr rfl, by decide, List.all_eq_true.mp (by decide), by decide⟩
  have hfour : Numeral.Denotes "04".toList 4 :=
    ⟨['0', '4'], .inl rfl, by decide, List.all_eq_true.mp (by decide), by decide⟩
  have hlarge : ∀ value, Numeral.Denotes "18446744073709551616".toList value →
      Numeral.bound ≤ value := by
    intro value hvalue
    by_contra hsmall
    have hparse := Numeral.parse?_eq_some_iff.mpr ⟨hvalue, Nat.lt_of_not_le hsmall⟩
    rw [show Numeral.parse? "18446744073709551616" = none by decide] at hparse
    cases hparse
  obtain ⟨-, -, hshown⟩ := (hargument "+2" ["1"]).1 2 htwo (by decide)
  obtain ⟨-, hrefused, -⟩ := (hargument "04" []).1 4 hfour (by decide)
  have hprints := hshown (by decide)
  have hrows : (rowsBetween nav.width (Lines.ofContent content) 2
      (min (1 + nav.count) (Lines.ofContent content).length)).flatten =
        [0x32, 0x20, 0x79, 0x0A, 0x33, 0x20, 0x7A, 0x0A] := by decide
  have hmoved : nav.afterPage (Lines.ofContent content).length 1 = nav := by decide
  have hsecond : max 2 1 = 2 := rfl
  rw [hsecond, hrows, hmoved] at hprints
  exact ⟨htwo, hprints.of_isWilling isWilling_unlimited, hfour, hrefused (by decide) .unlimited,
    (hargument _ []).2.1 hlarge⟩

end ShellDebugger.Navigator
