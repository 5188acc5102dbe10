import Mathlib.Data.List.Basic
import ShellDebugger.Completion.FileNames

/-!
# How file names are written

The text that stands for a file name ends the text before the cursor: it follows the mark of a
quotation that is still open, or the last character that ends a name. Writing a name adds
backslashes to it and nothing else, and reading it takes nothing but backslashes away.
-/

namespace ShellDebugger.FileNames

/-! ## Escaping -/

section Escape

variable {quotation : Quotation} {name : List Char}

theorem escape_cons (quotation : Quotation) (c : Char) (name : List Char) :
    escape quotation (c :: name) =
      (if quotation.escapedChars.contains c then ['\\', c] else [c]) ++ escape quotation name :=
  List.flatMap_cons

/-- A name without characters to be escaped is written as it is. -/
theorem escape_eq_self (hplain : ∀ c ∈ name, c ∉ quotation.escapedChars) :
    escape quotation name = name := by
  induction name with
  | nil => rfl
  | cons c name ih =>
    obtain ⟨hc, hname⟩ := List.forall_mem_cons.mp hplain
    rw [escape_cons, if_neg (by simpa using hc), ih hname]
    rfl

theorem length_le_length_escape (quotation : Quotation) (name : List Char) :
    name.length ≤ (escape quotation name).length := by
  induction name with
  | nil => exact Nat.le_refl 0
  | cons c name ih =>
    rw [escape_cons, List.length_append, List.length_cons]
    split <;> simp <;> omega

/-- A name that is written as it is has no characters to be escaped. -/
theorem notMem_escapedChars_of_length (hlength : (escape quotation name).length ≤ name.length) :
    ∀ c ∈ name, c ∉ quotation.escapedChars := by
  induction name with
  | nil => exact List.forall_mem_nil _
  | cons c name ih =>
    have hle := length_le_length_escape quotation name
    rw [escape_cons, List.length_append, List.length_cons] at hlength
    split at hlength
    · simp at hlength
      omega
    · next hc =>
      refine List.forall_mem_cons.mpr ⟨by simpa using hc, ih ?_⟩
      simp at hlength
      omega

/-- The characters of a written name are those of the name, and backslashes. -/
theorem eq_backslash_or_mem_of_mem_escape {c : Char} (hc : c ∈ escape quotation name) :
    c = '\\' ∨ c ∈ name := by
  obtain ⟨c', hc', hmem⟩ := List.mem_flatMap.mp hc
  split at hmem
  · rcases List.mem_cons.mp hmem with rfl | hmem
    · exact .inl rfl
    · exact .inr (List.mem_singleton.mp hmem ▸ hc')
  · exact .inr (List.mem_singleton.mp hmem ▸ hc')

end Escape

/-- Reading takes only backslashes away. -/
theorem mem_unescape {text : List Char} {c : Char} (hc : c ∈ text) (hne : c ≠ '\\') :
    c ∈ unescape text := by
  fun_induction unescape text with
  | case1 => cases hc
  | case2 => exact absurd (List.mem_singleton.mp hc) hne
  | case3 c' rest ih =>
    rcases List.mem_cons.mp hc with rfl | hc
    · exact absurd rfl hne
    · rcases List.mem_cons.mp hc with rfl | hc
      · exact List.mem_cons_self
      · exact List.mem_cons_of_mem _ (ih hc)
  | case4 c' rest _ _ ih =>
    rcases List.mem_cons.mp hc with rfl | hc
    · exact List.mem_cons_self
    · exact List.mem_cons_of_mem _ (ih hc)

/-! ## The name at the end of a text -/

theorem lastWordBefore_suffix (word reversed : List Char) :
    lastWordBefore word reversed <:+ reversed.reverse ++ word := by
  fun_induction lastWordBefore word reversed with
  | case1 word => exact List.suffix_refl _
  | case2 word c hbreak rest ih =>
    simpa using ih
  | case3 word c rest hbreak hne =>
    rw [List.reverse_cons, List.append_assoc]
    exact List.suffix_append_of_suffix (List.suffix_cons c word)
  | case4 word c rest hbreak ih =>
    simpa using ih

/-- The mark of a quotation. -/
def IsMark (c : Char) : Prop :=
  c = '"' ∨ c = '\''

/-- Inside a quotation, a text ends with a mark and what was read after it. -/
def Mode.Holds (mode : Mode) (inside past : List Char) : Prop :=
  mode = .plain ∨ mode = .escaped ∨
    ∃ above mark, IsMark mark ∧ past = above ++ mark :: inside.reverse

/-- What is read after the mark when one more character is read. -/
def Mode.insideAfter (mode : Mode) (inside : List Char) (c : Char) : List Char :=
  if mode = .plain ∧ (mode.next c = .double ∨ mode.next c = .single) then [] else c :: inside

theorem openQuotationAfter_cons (mode : Mode) (inside : List Char) (c : Char) (rest : List Char) :
    openQuotationAfter mode inside (c :: rest) =
      openQuotationAfter (mode.next c) (mode.insideAfter inside c) rest := rfl

theorem Mode.Holds.next {mode : Mode} {inside past : List Char} (h : mode.Holds inside past)
    (c : Char) : (mode.next c).Holds (mode.insideAfter inside c) (past ++ [c]) := by
  have hinside (hmode : mode ≠ .plain) : mode.insideAfter inside c = c :: inside :=
    if_neg fun hopens ↦ hmode hopens.1
  -- A character inside a quotation that does not close it is read after the mark.
  have hread (hplain : mode ≠ .plain) (hescaped : mode ≠ .escaped) :
      ∃ above mark, IsMark mark ∧
        past ++ [c] = above ++ mark :: (mode.insideAfter inside c).reverse := by
    obtain ⟨above, mark, hmark, rfl⟩ := (h.resolve_left hplain).resolve_left hescaped
    refine ⟨above, mark, hmark, ?_⟩
    simp [hinside hplain]
  cases mode with
  | plain =>
    by_cases hdouble : c = '"'
    · subst hdouble
      exact .inr (.inr ⟨past, '"', .inl rfl, rfl⟩)
    by_cases hsingle : c = '\''
    · subst hsingle
      exact .inr (.inr ⟨past, '\'', .inr rfl, rfl⟩)
    by_cases hescape : c = '\\'
    · subst hescape
      exact .inr (.inl rfl)
    · exact .inl (by simp [Mode.next, *])
  | escaped => exact .inl rfl
  | single => exact .inr (.inr (hread nofun nofun))
  | double => exact .inr (.inr (hread nofun nofun))
  | doubleEscaped => exact .inr (.inr (hread nofun nofun))

theorem exists_mark_of_openQuotationAfter {mode : Mode} {inside past head text : List Char}
    {quotation : Quotation} (h : mode.Holds inside past)
    (hopen : openQuotationAfter mode inside head = (quotation, text))
    (hquotation : quotation ≠ .none) :
    ∃ above mark, IsMark mark ∧ past ++ head = above ++ mark :: text := by
  induction head generalizing mode inside past with
  | nil =>
    rw [List.append_nil]
    cases mode with
    | plain => exact absurd (congrArg Prod.fst hopen).symm hquotation
    | escaped => exact absurd (congrArg Prod.fst hopen).symm hquotation
    | _ =>
      obtain ⟨rfl, rfl⟩ := Prod.mk.inj hopen
      exact (h.resolve_left nofun).resolve_left nofun
  | cons c rest ih =>
    rw [openQuotationAfter_cons] at hopen
    rw [List.append_cons]
    exact ih (h.next c) hopen

/-- The name in a quotation follows a mark. -/
theorem exists_mark {head text : List Char} {quotation : Quotation}
    (hwritten : written head = (quotation, text)) (hquotation : quotation ≠ .none) :
    ∃ above mark, IsMark mark ∧ head = above ++ mark :: text := by
  have hopen : openQuotation head = (quotation, text) := by
    unfold written at hwritten
    split at hwritten
    · exact absurd (congrArg Prod.fst hwritten).symm hquotation
    · next heq => rw [heq, hwritten]
  have hstart : Mode.plain.Holds [] [] := .inl rfl
  exact exists_mark_of_openQuotationAfter hstart hopen hquotation

/-- What stands before the name at the end of a text. -/
def kept (head : List Char) : List Char :=
  head.take (head.length - (written head).2.length)

/-- The name stands at the end of the text. -/
theorem written_suffix (head : List Char) : (written head).2 <:+ head := by
  cases hwritten : written head with
  | mk quotation text =>
    by_cases hquotation : quotation = .none
    · have htext : text = lastWord head := by
        unfold written at hwritten
        split at hwritten
        · exact (congrArg Prod.snd hwritten).symm
        · next hne heq => exact absurd ((congrArg Prod.fst hwritten).trans hquotation) hne
      subst htext
      simpa [lastWord] using lastWordBefore_suffix [] head.reverse
    · obtain ⟨above, mark, -, rfl⟩ := exists_mark hwritten hquotation
      exact (List.suffix_cons mark text).trans (List.suffix_append above _)

theorem kept_append_written (head : List Char) : kept head ++ (written head).2 = head :=
  List.suffix_iff_eq_append.mp (written_suffix head)

/-! ## Directories and names -/

/-- The name of a path is read off its end, and the rest is the directory. -/
theorem takeWhile_append_drop (path : List Char) :
    path.reverse.takeWhile (· != '/') ++
      path.reverse.drop (path.reverse.takeWhile (· != '/')).length = path.reverse :=
  List.prefix_iff_eq_append.mp (List.takeWhile_prefix _)

/-- A path is the directory before its last separator and the name after it. -/
theorem splitPath_append (path : List Char) : (splitPath path).1 ++ (splitPath path).2 = path := by
  calc
    (splitPath path).1 ++ (splitPath path).2 =
        (path.reverse.takeWhile (· != '/') ++
          path.reverse.drop (path.reverse.takeWhile (· != '/')).length).reverse :=
      List.reverse_append.symm
    _ = path := by rw [takeWhile_append_drop, List.reverse_reverse]

/-- The directory of a path is not written, or ends with a separator. -/
theorem getLast?_splitPath (path : List Char) :
    (splitPath path).1 = [] ∨ (splitPath path).1.getLast? = some '/' := by
  have hdrop : path.reverse.drop (path.reverse.takeWhile (· != '/')).length =
      path.reverse.dropWhile (· != '/') :=
    List.append_cancel_left
      ((takeWhile_append_drop path).trans List.takeWhile_append_dropWhile.symm)
  have habove : (splitPath path).1 = (path.reverse.dropWhile (· != '/')).reverse :=
    congrArg List.reverse hdrop
  rw [habove, List.getLast?_reverse]
  cases hrest : path.reverse.dropWhile (· != '/') with
  | nil => exact .inl rfl
  | cons c rest =>
    have hne : path.reverse.dropWhile (· != '/') ≠ [] := by simp [hrest]
    have hc := List.head_dropWhile_not (· != '/') hne
    simp only [hrest, List.head_cons] at hc
    exact .inr (congrArg some (by simpa using hc))

end ShellDebugger.FileNames
