import Mathlib.Data.List.TakeWhile
import ShellDebugger.Completion.FileNames
import ShellDebugger.Proofs.Text.WrittenWords

/-!
# Lines and cursors

A cursor stands after some text of a line and before some other. What is offered there depends on
whether the text before it is the beginning of a first word, or goes on after one.
-/

namespace ShellDebugger

open SpacedWord

/-! ## The first word of a text -/

/-- A text is white space and then a word that nothing follows. -/
structure IsFirstWord (head lead word : List Char) : Prop where
  split : head = lead ++ word
  lead : IsBlank lead
  word : IsUnspaced word

/-- A text is white space, a word, and then white space and some more. -/
structure IsAfterWord (head lead word : List Char) : Prop where
  split : ∃ c rest, head = lead ++ (word ++ c :: rest) ∧ isWhiteSpace c = true
  lead : IsBlank lead
  word : word ≠ [] ∧ IsUnspaced word

variable {head tail lead word : List Char}

/-- The first word of a text has something behind it or not. -/
theorem exists_isFirstWord_or_isAfterWord (head : List Char) :
    (∃ lead word, IsFirstWord head lead word) ∨ ∃ lead word, IsAfterWord head lead word := by
  obtain ⟨lead, parts, hlead, hparts, rfl⟩ := exists_write head
  cases parts with
  | nil => exact .inl ⟨lead, [], rfl, hlead, isUnspaced_nil⟩
  | cons part parts =>
    obtain ⟨hword, hgap, hbetween, -⟩ := areApart_cons_iff.mp hparts
    rw [write_cons]
    by_cases hnone : part.gap = []
    · obtain rfl : parts = [] := Classical.byContradiction fun hmore ↦ hbetween hmore hnone
      refine .inl ⟨lead, part.word, ?_, hlead, hword.2⟩
      rw [hnone]
      simp [write]
    · obtain ⟨c, gap, hgap'⟩ := List.exists_cons_of_ne_nil hnone
      refine .inr ⟨lead, part.word, ⟨c, gap ++ write parts, ?_, ?_⟩, hlead, hword⟩
      · rw [hgap', List.cons_append]
      · exact hgap c (hgap' ▸ List.mem_cons_self)

/-- White space before a word is passed over. -/
theorem dropWhile_lead (hlead : IsBlank lead) (hword : IsUnspaced word) (hne : word ≠ [])
    (rest : List Char) :
    (lead ++ (word ++ rest)).dropWhile isWhiteSpace = word ++ rest := by
  obtain ⟨c, word, rfl⟩ := List.exists_cons_of_ne_nil hne
  rw [List.dropWhile_append_of_pos hlead, List.cons_append,
    List.dropWhile_cons_of_neg (by simp [hword c List.mem_cons_self])]

theorem takeWhile_word (hword : IsUnspaced word) (rest : List Char) :
    (word ++ rest).takeWhile (!isWhiteSpace ·) = word ++ rest.takeWhile (!isWhiteSpace ·) :=
  List.takeWhile_append_of_pos fun c hc ↦ by simp [hword c hc]

theorem IsFirstWord.dropWhile_eq (h : IsFirstWord head lead word) :
    head.dropWhile isWhiteSpace = word := by
  rw [h.split]
  by_cases hne : word = []
  · rw [hne, List.append_nil, List.dropWhile_eq_nil_iff]
    exact h.lead
  · simpa using dropWhile_lead h.lead h.word hne []

namespace Completion

/-! ## Text before and after a cursor -/

theorem octetCount_append (text rest : List Char) :
    octetCount (text ++ rest) = octetCount text + octetCount rest := by
  induction text with
  | nil => exact (Nat.zero_add _).symm
  | cons c text ih =>
    change c.utf8Size + octetCount (text ++ rest) = c.utf8Size + octetCount text + octetCount rest
    rw [ih, Nat.add_assoc]

theorem before_append (text rest : List Char) : before (octetCount text) (text ++ rest) = text := by
  induction text with
  | nil =>
    cases rest with
    | nil => rfl
    | cons c rest => exact if_neg (Nat.not_le.mpr c.utf8Size_pos)
  | cons c text ih =>
    have hle : c.utf8Size ≤ octetCount (c :: text) := Nat.le_add_right _ _
    have hrest : octetCount (c :: text) - c.utf8Size = octetCount text := Nat.add_sub_cancel_left ..
    rw [List.cons_append, before, if_pos hle, hrest, ih]

def behind (cursor : Nat) (text : List Char) : List Char :=
  text.drop (before cursor text).length

theorem behind_append (text rest : List Char) : behind (octetCount text) (text ++ rest) = rest := by
  rw [behind, before_append, List.drop_left]

/-- The line after a candidate has been accepted: it replaces the text from the start of the
completion up to the cursor. -/
def acceptAt (completion : Completion) (cursor : Nat) (line : String) (candidate : Candidate) :
    String :=
  String.ofList (before completion.start line.toList ++ candidate.replacement.toList ++
    behind cursor line.toList)

/-- The line after a candidate has been accepted with the cursor at the end. -/
def accept (completion : Completion) (line : String) (candidate : Candidate) : String :=
  String.ofList (before completion.start line.toList ++ candidate.replacement.toList)

/-- At the end of a line nothing stands behind the cursor. -/
theorem acceptAt_octetCount_toList (completion : Completion) (line : String)
    (candidate : Candidate) :
    completion.acceptAt (octetCount line.toList) line candidate =
      completion.accept line candidate := by
  have hbehind : behind (octetCount line.toList) line.toList = [] := by
    simpa using behind_append line.toList []
  rw [acceptAt, accept, hbehind, List.append_nil]

/-! ## What is offered -/

variable {files : FileTree} {home : Option Path} {line : String}

/-- For the beginning of a first word, names of commands are offered. -/
theorem ofLine_of_isFirstWord (files : FileTree) (home : Option Path)
    (hline : line.toList = head ++ tail) (h : IsFirstWord head lead word) :
    ofLine files home line (octetCount head) = ofName (octetCount lead) (String.ofList word) := by
  have hbefore : before (octetCount head) line.toList = head := hline ▸ before_append head tail
  have hname : word.takeWhile (!isWhiteSpace ·) = word := by
    simpa using takeWhile_word h.word []
  have hstart : octetCount head - octetCount word = octetCount lead := by
    rw [h.split, octetCount_append, Nat.add_sub_cancel]
  unfold ofLine
  simp only [hbefore, h.dropWhile_eq, hname, hstart, if_pos]

/-- Behind a first word, file names are offered if it is `load`, and otherwise nothing. -/
theorem ofLine_of_isAfterWord (files : FileTree) (home : Option Path)
    (hline : line.toList = head ++ tail) (h : IsAfterWord head lead word) :
    ofLine files home line (octetCount head) =
      if word = "load".toList then FileNames.complete files home head
      else ⟨octetCount head, []⟩ := by
  obtain ⟨c, rest, hhead, hc⟩ := h.split
  have hbefore : before (octetCount head) line.toList = head := hline ▸ before_append head tail
  have htext : head.dropWhile isWhiteSpace = word ++ c :: rest := by
    rw [hhead, dropWhile_lead h.lead h.word.2 h.word.1]
  have hname : (word ++ c :: rest).takeWhile (!isWhiteSpace ·) = word := by
    rw [takeWhile_word h.word.2, List.takeWhile_cons_of_neg (by simp [hc]), List.append_nil]
  unfold ofLine
  simp only [hbefore, htext, hname]
  rw [if_neg (by simp)]

end Completion
end ShellDebugger
