import ShellDebugger.Proofs.Text.Utf8

/-!
# Decoding is cut at ASCII

An octet below 0x80 goes on with no character that has been begun: it ends whatever stands before
it, broken or not, and is decoded as itself. So a text may be cut at such an octet before it is
decoded or after it, with the same pieces, and the octet stands in the decoded text as often as
among the octets, and at its end if and only if it ends them.
-/

namespace ShellDebugger.Utf8

/-! ## One octet -/

/-- No octet of ASCII goes on with what has been begun. -/
def State.RefusesAscii : State → Prop
  | .between => True
  | .inside _ lowest _ _ => 0x80 ≤ lowest

theorem refusesAscii_between : State.between.RefusesAscii := trivial

theorem refusesAscii_lead (octet : UInt8) : (lead octet).2.RefusesAscii := by
  unfold lead
  split
  · trivial
  split
  · trivial
  split
  · exact UInt8.le_refl 0x80
  split
  · by_cases hfirst : octet = 0xE0 <;> simp [hfirst, State.RefusesAscii]
  split
  · by_cases hfirst : octet = 0xF0 <;> simp [hfirst, State.RefusesAscii]
  · trivial

theorem State.RefusesAscii.next {state : State} (h : state.RefusesAscii) (octet : UInt8) :
    (state.next octet).2.RefusesAscii := by
  cases state with
  | between => exact refusesAscii_lead octet
  | inside value lowest highest more =>
    simp only [State.next]
    split
    · cases more with
      | zero => trivial
      | succ more => exact UInt8.le_refl 0x80
    · exact refusesAscii_lead octet

theorem lead_of_ascii {octet : UInt8} (hascii : octet < 0x80) :
    lead octet = ([some (Char.ofNat octet.toNat)], .between) :=
  if_pos hascii

/-- An octet of ASCII ends what stands before it and is the next character. -/
theorem State.RefusesAscii.next_eq {state : State} (h : state.RefusesAscii) {octet : UInt8}
    (hascii : octet < 0x80) :
    state.next octet = (state.finish ++ [some (Char.ofNat octet.toNat)], .between) := by
  cases state with
  | between => exact lead_of_ascii hascii
  | inside value lowest highest more =>
    have hlow : ¬ lowest ≤ octet := fun hle ↦ by
      have h80 : (0x80 : UInt8) ≤ octet := UInt8.le_trans h hle
      rw [UInt8.le_iff_toNat_le] at h80
      rw [UInt8.lt_iff_toNat_lt] at hascii
      omega
    simp only [State.next, hlow, false_and, if_false, lead_of_ascii hascii]
    rfl

/-! ## The whole text -/

variable {octet : UInt8} {octets : Bytes}

theorem decodeAfter_append_ascii {state : State} (h : state.RefusesAscii) (hascii : octet < 0x80)
    (octets rest : Bytes) :
    decodeAfter [] state (octets ++ octet :: rest) =
      decodeAfter [] state octets ++
        some (Char.ofNat octet.toNat) :: decodeAfter [] .between rest := by
  induction octets generalizing state with
  | nil =>
    calc decodeAfter [] state (octet :: rest)
      _ = (state.next octet).1 ++ decodeAfter [] (state.next octet).2 rest :=
        decodeAfter_cons state octet rest
      _ = _ := by
        rw [h.next_eq hascii, List.append_assoc]
        rfl
  | cons first octets ih =>
    rw [List.cons_append, decodeAfter_cons, decodeAfter_cons, ih (h.next first),
      List.append_assoc]

/-- What stands before an octet of ASCII and what stands after it are decoded apart. -/
theorem decodeLossyChars_append_ascii (hascii : octet < 0x80) (octets rest : Bytes) :
    decodeLossyChars (octets ++ octet :: rest) =
      decodeLossyChars octets ++ Char.ofNat octet.toNat :: decodeLossyChars rest := by
  unfold decodeLossyChars decodeUnits
  rw [decodeAfter_append_ascii refusesAscii_between hascii, List.map_append, List.map_cons]
  rfl

theorem ne_between_of_next {state : State} (hunits : (state.next octet).1 = []) :
    (state.next octet).2 ≠ .between := by
  have hlead (hunits : (lead octet).1 = []) : (lead octet).2 ≠ .between := by
    unfold lead at hunits ⊢
    split_ifs at hunits ⊢ <;> simp_all
  cases state with
  | between => exact hlead hunits
  | inside value lowest highest more =>
    simp only [State.next] at hunits ⊢
    split_ifs at hunits ⊢
    cases more <;> simp_all

/-- Only what holds nothing is decoded to nothing. -/
theorem decodeAfter_eq_nil_iff {state : State} :
    decodeAfter [] state octets = [] ↔ octets = [] ∧ state = .between := by
  induction octets generalizing state with
  | nil => cases state <;> simp [decodeAfter, State.finish]
  | cons first rest ih =>
    rw [decodeAfter_cons, List.append_eq_nil_iff, ih]
    constructor
    · rintro ⟨hunits, -, hstate⟩
      exact absurd hstate (ne_between_of_next hunits)
    · rintro ⟨hnil, -⟩
      cases hnil

@[simp] theorem decodeLossyChars_eq_nil_iff : decodeLossyChars octets = [] ↔ octets = [] := by
  rw [decodeLossyChars, List.map_eq_nil_iff, decodeUnits, decodeAfter_eq_nil_iff,
    and_iff_left rfl]

/-- Octets either do not hold a given one, or are cut at the first place that holds it. -/
theorem cut_induction {motive : Bytes → Prop} (octet : UInt8)
    (whole : ∀ octets, octet ∉ octets → motive octets)
    (cut : ∀ first rest, octet ∉ first → motive rest → motive (first ++ octet :: rest))
    (octets : Bytes) : motive octets := by
  by_cases hmem : octet ∈ octets
  · obtain ⟨first, rest, heq, hfirst⟩ := List.eq_append_cons_of_mem hmem
    rw [heq]
    exact cut first rest hfirst (cut_induction octet whole cut rest)
  · exact whole octets hmem
termination_by octets.length
decreasing_by
  rw [heq, List.length_append, List.length_cons]
  omega

/-! ## An octet that is no NUL -/

/-- An octet that always stands for itself and is told from what cannot be decoded. -/
structure IsPlainAscii (octet : UInt8) : Prop where
  ascii : octet < 0x80
  ne_zero : octet ≠ 0

namespace IsPlainAscii

/-- The character that the octet is. -/
theorem toNat_ofNat (h : IsPlainAscii octet) : (Char.ofNat octet.toNat).toNat = octet.toNat := by
  have hascii : octet.toNat < 0x80 := h.ascii
  rw [Char.ofNat, dif_pos (Or.inl (by omega))]
  rfl

theorem notMem_decodeLossyChars (h : IsPlainAscii octet) (hoctet : octet ∉ octets) :
    Char.ofNat octet.toNat ∉ decodeLossyChars octets := by
  intro hmem
  have hzero : Char.ofNat octet.toNat ≠ '\x00' := fun heq ↦ by
    have hnat := h.toNat_ofNat
    rw [heq] at hnat
    exact h.ne_zero (UInt8.toNat_inj.mp hnat.symm)
  have hascii : (Char.ofNat octet.toNat).toNat < 0x80 := by
    rw [h.toNat_ofNat]
    exact h.ascii
  have hmem := mem_of_mem_decodeLossyChars hmem hzero hascii
  rw [h.toNat_ofNat, UInt8.ofNat_toNat] at hmem
  exact hoctet hmem

/-- To cut octets and decode the pieces is to decode the octets and cut the text. -/
theorem splitOn_decodeLossyChars (h : IsPlainAscii octet) (octets : Bytes) :
    (decodeLossyChars octets).splitOn (Char.ofNat octet.toNat) =
      (octets.splitOn octet).map decodeLossyChars := by
  induction octets using cut_induction octet with
  | whole octets hoctet =>
    rw [List.splitOn_eq_singleton hoctet,
      List.splitOn_eq_singleton (h.notMem_decodeLossyChars hoctet)]
    rfl
  | cut first rest hfirst ih =>
    rw [decodeLossyChars_append_ascii h.ascii, List.splitOn_append_cons_self_of_not_mem hfirst,
      List.splitOn_append_cons_self_of_not_mem (h.notMem_decodeLossyChars hfirst), ih]
    rfl

/-- The decoded text holds the octet as often as the octets do. -/
theorem count_decodeLossyChars (h : IsPlainAscii octet) (octets : Bytes) :
    (decodeLossyChars octets).count (Char.ofNat octet.toNat) = octets.count octet := by
  induction octets using cut_induction octet with
  | whole octets hoctet =>
    rw [List.count_eq_zero_of_not_mem hoctet,
      List.count_eq_zero_of_not_mem (h.notMem_decodeLossyChars hoctet)]
  | cut first rest hfirst ih =>
    rw [decodeLossyChars_append_ascii h.ascii, List.count_append, List.count_append,
      List.count_cons_self, List.count_cons_self, ih, List.count_eq_zero_of_not_mem hfirst,
      List.count_eq_zero_of_not_mem (h.notMem_decodeLossyChars hfirst)]

/-- The decoded text ends in the octet if and only if the octets do. -/
theorem getLast?_decodeLossyChars_eq_iff (h : IsPlainAscii octet) :
    (decodeLossyChars octets).getLast? = some (Char.ofNat octet.toNat) ↔
      octets.getLast? = some octet := by
  induction octets using cut_induction octet with
  | whole octets hoctet =>
    refine iff_of_false (fun hlast ↦ ?_) fun hlast ↦ hoctet (List.mem_of_getLast? hlast)
    exact h.notMem_decodeLossyChars hoctet (List.mem_of_getLast? hlast)
  | cut first rest hfirst ih =>
    rw [decodeLossyChars_append_ascii h.ascii]
    by_cases hrest : rest = []
    · subst hrest
      rw [decodeLossyChars_eq_nil_iff.mpr rfl, List.getLast?_concat, List.getLast?_concat]
      exact iff_of_true rfl rfl
    · have htext : decodeLossyChars rest ≠ [] := mt decodeLossyChars_eq_nil_iff.mp hrest
      rw [List.getLast?_append_of_ne_nil _ (List.cons_ne_nil _ _),
        List.getLast?_append_of_ne_nil _ (List.cons_ne_nil _ _),
        List.getLast?_cons_of_ne_nil hrest, List.getLast?_cons_of_ne_nil htext, ih]

end IsPlainAscii

end ShellDebugger.Utf8
