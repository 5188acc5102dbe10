import Mathlib.Data.List.Basic
import ShellDebugger.Text.Words

/-!
# Fields of a line

A field has no white space in it. White space before a field, however much, is passed over, and a
text without white space is a field of its own.
-/

namespace ShellDebugger

/-- All characters of a text are white space. -/
def IsBlank (text : List Char) : Prop :=
  ∀ c ∈ text, isWhiteSpace c = true

/-- No character of a text is white space. -/
def IsUnspaced (text : List Char) : Prop :=
  ∀ c ∈ text, isWhiteSpace c = false

instance (text : List Char) : Decidable (IsBlank text) :=
  List.decidableBAll (isWhiteSpace · = true) text

instance (text : List Char) : Decidable (IsUnspaced text) :=
  List.decidableBAll (isWhiteSpace · = false) text

theorem isUnspaced_nil : IsUnspaced [] := List.forall_mem_nil _

namespace Fields

variable {current text lead word gap rest : List Char}

theorem after_append_of_isBlank (hgap : IsBlank gap) (rest : List Char) :
    after [] (gap ++ rest) = after [] rest := by
  induction gap with
  | nil => rfl
  | cons c gap ih =>
    obtain ⟨hc, hgap⟩ := List.forall_mem_cons.mp hgap
    rw [List.cons_append, after, if_pos hc]
    exact ih hgap

theorem after_append_of_isUnspaced (hword : IsUnspaced word) (current rest : List Char) :
    after current (word ++ rest) = after (word.reverse ++ current) rest := by
  induction word generalizing current with
  | nil => rfl
  | cons c word ih =>
    obtain ⟨hc, hword⟩ := List.forall_mem_cons.mp hword
    rw [List.cons_append, after, if_neg (by simp [hc]), ih hword]
    simp

/-- A word that white space follows is a field. -/
theorem ofChars_word_append (hword : IsUnspaced word) (hne : word ≠ []) (hgap : IsBlank gap)
    (hgap' : gap ≠ []) (rest : List Char) :
    ofChars (word ++ (gap ++ rest)) = word :: ofChars rest := by
  obtain ⟨c, gap, rfl⟩ := List.exists_cons_of_ne_nil hgap'
  obtain ⟨hc, hgap⟩ := List.forall_mem_cons.mp hgap
  have hcurrent : (word.reverse ++ []).isEmpty = false := by simpa using hne
  calc
    ofChars (word ++ (c :: gap ++ rest)) = after (word.reverse ++ []) (c :: (gap ++ rest)) :=
      after_append_of_isUnspaced hword [] _
    _ = (word.reverse ++ []).reverse :: after [] (gap ++ rest) := by
      rw [after, if_pos hc, hcurrent, if_neg Bool.false_ne_true]
    _ = word :: ofChars rest := by
      rw [List.append_nil, List.reverse_reverse, after_append_of_isBlank hgap]
      rfl

/-- The first word is a field, whatever white space stands before it. -/
theorem ofChars_lead_append (hlead : IsBlank lead) (hword : IsUnspaced word) (hne : word ≠ [])
    (hgap : IsBlank gap) (hgap' : gap ≠ []) (rest : List Char) :
    ofChars (lead ++ (word ++ (gap ++ rest))) = word :: ofChars rest := by
  calc
    ofChars (lead ++ (word ++ (gap ++ rest))) = ofChars (word ++ (gap ++ rest)) :=
      after_append_of_isBlank hlead _
    _ = word :: ofChars rest := ofChars_word_append hword hne hgap hgap' rest

/-- A text that is not empty and has no white space is its only field. -/
theorem ofChars_of_isUnspaced (htext : IsUnspaced text) (hne : text ≠ []) :
    ofChars text = [text] := by
  have hcurrent : (text.reverse ++ []).isEmpty = false := by simpa using hne
  calc
    ofChars text = after [] (text ++ []) := by rw [List.append_nil, ofChars]
    _ = after (text.reverse ++ []) [] := after_append_of_isUnspaced htext [] []
    _ = [text] := by rw [after, hcurrent]; simp

theorem isUnspaced_of_mem_after (hcurrent : IsUnspaced current)
    (hword : word ∈ after current text) :
    IsUnspaced word := by
  have hreverse {current : List Char} (h : IsUnspaced current) : IsUnspaced current.reverse :=
    fun c hc ↦ h c (List.mem_reverse.mp hc)
  induction text generalizing current with
  | nil =>
    rw [after] at hword
    split at hword
    · cases hword
    · rw [List.mem_singleton.mp hword]
      exact hreverse hcurrent
  | cons c rest ih =>
    rw [after] at hword
    split at hword
    · split at hword
      · exact ih isUnspaced_nil hword
      · rcases List.mem_cons.mp hword with rfl | hword
        · exact hreverse hcurrent
        · exact ih isUnspaced_nil hword
    · next hc =>
      refine ih (List.forall_mem_cons.mpr ⟨?_, hcurrent⟩) hword
      simpa using hc

/-- A field has no white space. -/
theorem isUnspaced_of_mem_ofChars (hword : word ∈ ofChars text) : IsUnspaced word :=
  isUnspaced_of_mem_after isUnspaced_nil hword

end Fields

end ShellDebugger
