import ShellDebugger.Proofs.Text.Fields

/-!
# Lines that are written from words

A line is written from words when it has them in order, with white space between them and perhaps
before the first and behind the last. Every line is written from words, and these are its fields:
no word is lost on the way, none is cut, none is empty, and no two are taken for one.
-/

namespace ShellDebugger

structure SpacedWord where
  word : List Char
  gap : List Char

namespace SpacedWord

/-- The text of words with the white space behind each of them. -/
def write (parts : List SpacedWord) : List Char :=
  parts.flatMap fun part ↦ part.word ++ part.gap

/-- Words with white space behind each of them; only behind the last there may be none. -/
structure AreApart (parts : List SpacedWord) : Prop where
  word : ∀ part ∈ parts, part.word ≠ [] ∧ IsUnspaced part.word
  gap : ∀ part ∈ parts, IsBlank part.gap
  between : ∀ part ∈ parts.dropLast, part.gap ≠ []

variable {part : SpacedWord} {parts : List SpacedWord} {lead : List Char}

theorem areApart_nil : AreApart [] := ⟨nofun, nofun, nofun⟩

theorem areApart_cons_iff :
    AreApart (part :: parts) ↔
      (part.word ≠ [] ∧ IsUnspaced part.word) ∧ IsBlank part.gap ∧
        (parts ≠ [] → part.gap ≠ []) ∧ AreApart parts := by
  cases parts with
  | nil =>
    constructor
    · intro h
      exact ⟨h.word part (List.mem_singleton_self _), h.gap part (List.mem_singleton_self _),
        fun hne ↦ absurd rfl hne, areApart_nil⟩
    · rintro ⟨hword, hgap, -, -⟩
      exact ⟨List.forall_mem_singleton.mpr hword, List.forall_mem_singleton.mpr hgap, nofun⟩
  | cons next parts =>
    have hlast : (part :: next :: parts).dropLast = part :: (next :: parts).dropLast := rfl
    constructor
    · rintro ⟨hwords, hgaps, hbetween⟩
      obtain ⟨hword, hwords⟩ := List.forall_mem_cons.mp hwords
      obtain ⟨hgap, hgaps⟩ := List.forall_mem_cons.mp hgaps
      obtain ⟨hsome, hbetween⟩ := List.forall_mem_cons.mp (hlast ▸ hbetween)
      exact ⟨hword, hgap, fun _ ↦ hsome, hwords, hgaps, hbetween⟩
    · rintro ⟨hword, hgap, hsome, hwords, hgaps, hbetween⟩
      refine ⟨List.forall_mem_cons.mpr ⟨hword, hwords⟩, List.forall_mem_cons.mpr ⟨hgap, hgaps⟩, ?_⟩
      rw [hlast]
      exact List.forall_mem_cons.mpr ⟨hsome nofun, hbetween⟩

theorem write_cons (part : SpacedWord) (parts : List SpacedWord) :
    write (part :: parts) = part.word ++ (part.gap ++ write parts) := by
  rw [write, List.flatMap_cons, List.append_assoc]
  rfl

/-- The fields of a written text are the words. -/
theorem ofChars_write (hlead : IsBlank lead) (h : AreApart parts) :
    Fields.ofChars (lead ++ write parts) = parts.map (·.word) := by
  rw [Fields.ofChars, Fields.after_append_of_isBlank hlead, ← Fields.ofChars]
  induction parts with
  | nil => rfl
  | cons part parts ih =>
    obtain ⟨⟨hne, hword⟩, hgap, hsome, hparts⟩ := areApart_cons_iff.mp h
    rw [write_cons, List.map_cons, ← ih hparts]
    by_cases hnone : part.gap = []
    · -- Without white space behind it, the word is the last one.
      obtain rfl : parts = [] := Classical.byContradiction fun hmore ↦ hsome hmore hnone
      have hword' : part.word ++ (part.gap ++ write []) = part.word := by
        rw [hnone, List.nil_append]
        exact List.append_nil _
      rw [hword', Fields.ofChars_of_isUnspaced hword hne]
      rfl
    · exact Fields.ofChars_word_append hword hne hgap hnone _

/-- Every text is written from words. -/
theorem exists_write (text : List Char) :
    ∃ lead parts, IsBlank lead ∧ AreApart parts ∧ text = lead ++ write parts := by
  induction text with
  | nil => exact ⟨[], [], List.forall_mem_nil _, areApart_nil, rfl⟩
  | cons c text ih =>
    obtain ⟨lead, parts, hlead, hparts, rfl⟩ := ih
    cases hc : isWhiteSpace c with
    | true => exact ⟨c :: lead, parts, List.forall_mem_cons.mpr ⟨hc, hlead⟩, hparts, rfl⟩
    | false =>
      have hone : IsUnspaced [c] := List.forall_mem_singleton.mpr hc
      -- The character is a word of its own, unless a word follows it at once.
      by_cases hnone : lead = [] ∧ parts ≠ []
      · obtain ⟨rfl, hsome⟩ := hnone
        obtain ⟨part, parts, rfl⟩ := List.exists_cons_of_ne_nil hsome
        obtain ⟨⟨-, hword⟩, hgap⟩ := areApart_cons_iff.mp hparts
        refine ⟨[], ⟨c :: part.word, part.gap⟩ :: parts, List.forall_mem_nil _, ?_, ?_⟩
        · exact areApart_cons_iff.mpr
            ⟨⟨nofun, List.forall_mem_cons.mpr ⟨hc, hword⟩⟩, hgap⟩
        · simp only [write_cons, List.nil_append, List.cons_append]
      · refine ⟨[], ⟨[c], lead⟩ :: parts, List.forall_mem_nil _, ?_, by rw [write_cons]; rfl⟩
        exact areApart_cons_iff.mpr
          ⟨⟨nofun, hone⟩, hlead, fun hsome hnil ↦ hnone ⟨hnil, hsome⟩, hparts⟩

def ofWords : List (List Char) → List SpacedWord
  | [] => []
  | [word] => [⟨word, []⟩]
  | word :: rest => ⟨word, [' ']⟩ :: ofWords rest

theorem map_word_ofWords (words : List (List Char)) : (ofWords words).map (·.word) = words := by
  fun_induction ofWords words with
  | case1 => rfl
  | case2 word => rfl
  | case3 word rest hmore ih => rw [List.map_cons, ih]

theorem areApart_ofWords {words : List (List Char)}
    (hwords : ∀ word ∈ words, word ≠ [] ∧ IsUnspaced word) : AreApart (ofWords words) := by
  fun_induction ofWords words with
  | case1 => exact areApart_nil
  | case2 word =>
    have hword := hwords word (List.mem_singleton_self word)
    exact areApart_cons_iff.mpr
      ⟨hword, List.forall_mem_nil _, fun hne ↦ absurd rfl hne, areApart_nil⟩
  | case3 word rest hmore ih =>
    obtain ⟨hword, hrest⟩ := List.forall_mem_cons.mp hwords
    have hgap : IsBlank [' '] := by decide
    exact areApart_cons_iff.mpr ⟨hword, hgap, fun _ ↦ nofun, ih hrest⟩

theorem write_ofWords (words : List (List Char)) :
    write (ofWords words) = [' '].intercalate words := by
  fun_induction ofWords words with
  | case1 => rfl
  | case2 word => simp [write]
  | case3 word rest hmore ih =>
    have hne : rest ≠ [] := fun hnil ↦ hmore hnil
    rw [write_cons, ih, List.intercalate_cons_of_ne_nil hne, List.append_assoc]

end SpacedWord

open SpacedWord

/-- A line has some words in order, apart from each other. -/
def IsWrittenFrom (words : List String) (line : String) : Prop :=
  ∃ lead parts, IsBlank lead ∧ AreApart parts ∧ words = (parts.map (·.word)).map String.ofList ∧
    line.toList = lead ++ write parts

variable {words : List String} {line : String}

/-- The fields of a line are the words from which it is written. -/
theorem fields_eq_iff : fields line = words ↔ IsWrittenFrom words line := by
  constructor
  · rintro rfl
    obtain ⟨lead, parts, hlead, hparts, hline⟩ := exists_write line.toList
    refine ⟨lead, parts, hlead, hparts, ?_, hline⟩
    rw [fields, hline, ofChars_write hlead hparts]
  · rintro ⟨lead, parts, hlead, hparts, rfl, hline⟩
    rw [fields, hline, ofChars_write hlead hparts]

/-- Joined by single blanks, the fields of a line are its fields again. -/
theorem fields_intercalate_fields (line : String) :
    fields (" ".intercalate (fields line)) = fields line := by
  obtain ⟨lead, parts, -, hparts, hwords, -⟩ := fields_eq_iff.mp (rfl : fields line = fields line)
  generalize hchars : parts.map (·.word) = chars at hwords
  have hapart : ∀ word ∈ chars, word ≠ [] ∧ IsUnspaced word := by
    rw [← hchars]
    intro word hword
    obtain ⟨part, hpart, rfl⟩ := List.mem_map.mp hword
    exact hparts.word part hpart
  have hlist : (fields line).map String.toList = chars := by
    rw [hwords, List.map_map]
    simp [Function.comp_def]
  refine fields_eq_iff.mpr
    ⟨[], ofWords chars, List.forall_mem_nil _, areApart_ofWords hapart, ?_, ?_⟩
  · rw [map_word_ofWords, hwords]
  · rw [String.toList_intercalate, hlist, write_ofWords]
    rfl

end ShellDebugger
