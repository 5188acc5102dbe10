import Mathlib.Data.List.Basic
import ShellDebugger.Text.Words

/-!
# Words between separators

A word of a line is what stands there as a whole word: it has word characters only, and neither
before it nor behind it does another one stand. Where nothing stands between two separators, or
between a separator and an end of the line, the empty word does.
-/

namespace ShellDebugger.Words

/-- No character of a text is a separator. -/
def IsWordText (text : List Char) : Prop :=
  ∀ c ∈ text, isWordChar c = true

/-- A keyword stands in a line as a whole word. -/
def HasWord (line keyword : List Char) : Prop :=
  ∃ before behind, line = before ++ keyword ++ behind ∧
    (∀ c, before.getLast? = some c → isWordChar c = false) ∧
    (∀ c, behind.head? = some c → isWordChar c = false) ∧ IsWordText keyword

variable {word rest keyword before behind : List Char} {c : Char}

theorem IsWordText.eq_nil_of_getLast? (h : IsWordText word)
    (hlast : ∀ c, word.getLast? = some c → isWordChar c = false) : word = [] := by
  rcases List.eq_nil_or_concat' word with rfl | ⟨init, c, rfl⟩
  · rfl
  · have hword : isWordChar c = true := h c (List.mem_append_right _ List.mem_cons_self)
    rw [hlast c List.getLast?_concat] at hword
    cases hword

theorem IsWordText.eq_nil_of_head? (h : IsWordText word)
    (hhead : ∀ c, word.head? = some c → isWordChar c = false) : word = [] := by
  cases word with
  | nil => rfl
  | cons c word =>
    have hword : isWordChar c = true := h c List.mem_cons_self
    rw [hhead c rfl] at hword
    cases hword

theorem IsWordText.append_left (h : IsWordText (word ++ rest)) : IsWordText word :=
  fun c hc ↦ h c (List.mem_append_left rest hc)

theorem IsWordText.append_right (h : IsWordText (word ++ rest)) : IsWordText rest :=
  fun c hc ↦ h c (List.mem_append_right word hc)

theorem getLast?_append_cons (word before : List Char) (c : Char) :
    (word ++ c :: before).getLast? = some (before.getLast?.getD c) := by
  rw [List.getLast?_append, List.getLast?_cons]
  rfl

/-- Word characters make one word. -/
theorem hasWord_iff_eq (hword : IsWordText word) : HasWord word keyword ↔ keyword = word := by
  constructor
  · rintro ⟨before, behind, rfl, hbefore, hbehind, -⟩
    have hnone : before = [] := hword.append_left.append_left.eq_nil_of_getLast? hbefore
    have hend : behind = [] := hword.append_right.eq_nil_of_head? hbehind
    rw [hnone, hend, List.nil_append, List.append_nil]
  · rintro rfl
    exact ⟨[], [], by simp, nofun, nofun, hword⟩

/-- A word that starts among the first word characters is all of them, up to the separator. -/
theorem eq_of_append_eq (hword : IsWordText word) (hkeyword : IsWordText keyword)
    (hc : isWordChar c = false)
    (hbehind : ∀ c, behind.head? = some c → isWordChar c = false)
    (hline : keyword ++ behind = word ++ c :: rest) : keyword = word := by
  rcases List.append_eq_append_iff.mp hline with ⟨more, rfl, hmore⟩ | ⟨more, rfl, hmore⟩
  · have hnone : more = [] := by
      refine hword.append_right.eq_nil_of_head? fun c hhead ↦ hbehind c ?_
      rw [hmore, List.head?_append, hhead]
      rfl
    rw [hnone, List.append_nil]
  · have hnone : more = [] := by
      cases more with
      | nil => rfl
      | cons c' more =>
        obtain ⟨rfl, -⟩ := List.cons_eq_cons.mp hmore
        have hletter : isWordChar c = true :=
          hkeyword c (List.mem_append_right _ List.mem_cons_self)
        rw [hc] at hletter
        cases hletter
    rw [hnone, List.append_nil]

/-- The word characters before a separator are a word. -/
theorem hasWord_before (hword : IsWordText word) (hc : isWordChar c = false) (rest : List Char) :
    HasWord (word ++ c :: rest) word := by
  refine ⟨[], c :: rest, rfl, nofun, fun c' hhead ↦ ?_, hword⟩
  cases hhead
  exact hc

/-- A word behind a separator is a word, whatever stands before the separator. -/
theorem HasWord.append_cons (h : HasWord rest keyword) (hc : isWordChar c = false)
    (text : List Char) : HasWord (text ++ c :: rest) keyword := by
  obtain ⟨before, behind, rfl, hbefore, hbehind, hkeyword⟩ := h
  refine ⟨text ++ c :: before, behind, by simp, fun c' hlast ↦ ?_, hbehind, hkeyword⟩
  rw [getLast?_append_cons] at hlast
  cases hbefore' : before.getLast? with
  | none =>
    rw [hbefore'] at hlast
    cases hlast
    exact hc
  | some c'' =>
    rw [hbefore'] at hlast
    cases hlast
    exact hbefore c'' hbefore'

/-- What a word is made of before the first separator is a word, and the other words are those
behind the separator. -/
theorem hasWord_append_cons_iff (hword : IsWordText word) (hc : isWordChar c = false) :
    HasWord (word ++ c :: rest) keyword ↔ keyword = word ∨ HasWord rest keyword := by
  constructor
  · rintro ⟨before, behind, hline, hbefore, hbehind, hkeyword⟩
    rw [List.append_assoc] at hline
    rcases List.append_eq_append_iff.mp hline with ⟨more, rfl, hmore⟩ | ⟨more, rfl, hmore⟩
    · cases more with
      | nil =>
        -- The keyword begins at the separator, so nothing is before the separator.
        rw [List.append_nil] at hbefore
        have hnone : word = [] := hword.eq_nil_of_getLast? hbefore
        have hfront : keyword ++ behind = word ++ c :: rest := by
          rw [hnone, List.nil_append]
          exact hmore.symm
        exact .inl (eq_of_append_eq hword hkeyword hc hbehind hfront)
      | cons c' more =>
        rw [List.cons_append] at hmore
        obtain ⟨rfl, rfl⟩ := List.cons_eq_cons.mp hmore
        refine .inr ⟨more, behind, (List.append_assoc ..).symm, fun c' hlast ↦ ?_, hbehind,
          hkeyword⟩
        exact hbefore c' (by rw [getLast?_append_cons, hlast, Option.getD_some])
    · have hnone : before = [] := hword.append_left.eq_nil_of_getLast? hbefore
      rw [hnone] at hword ⊢
      exact .inl (eq_of_append_eq hword hkeyword hc hbehind hmore)
  · rintro (rfl | hrest)
    · exact hasWord_before hword hc rest
    · exact HasWord.append_cons hrest hc word

/-- The words of a line are read from left to right, each up to its separator. -/
theorem mem_after_iff {current : List Char} (hcurrent : IsWordText current.reverse)
    (text : List Char) :
    keyword ∈ after current text ↔ HasWord (current.reverse ++ text) keyword := by
  induction text generalizing current with
  | nil => rw [after, List.mem_singleton, List.append_nil, hasWord_iff_eq hcurrent]
  | cons c rest ih =>
    rw [after]
    split
    · next hc =>
      have hnext : IsWordText (c :: current).reverse := by
        rw [List.reverse_cons]
        exact List.forall_mem_append.mpr ⟨hcurrent, List.forall_mem_singleton.mpr hc⟩
      rw [ih hnext, List.reverse_cons, List.append_assoc, List.singleton_append]
    · next hc =>
      have hnone : IsWordText ([] : List Char).reverse := List.forall_mem_nil _
      rw [List.mem_cons, ih hnone, hasWord_append_cons_iff hcurrent (Bool.not_eq_true _ ▸ hc)]
      rfl

theorem contains_iff (line keyword : String) :
    contains line keyword = true ↔ HasWord line.toList keyword.toList := by
  have hnone : IsWordText ([] : List Char).reverse := List.forall_mem_nil _
  rw [contains, List.contains_iff_mem, ofChars, mem_after_iff hnone]
  rfl

end ShellDebugger.Words
