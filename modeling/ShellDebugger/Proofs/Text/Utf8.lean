import Mathlib.Data.UInt
import ShellDebugger.Text.Utf8

/-!
# ASCII and octets

Decoding reads one octet after another, and each step completes at most a broken sequence and a
character. A character of more than one octet is never ASCII, so an ASCII character of the text
stands among the octets as itself. What does not hold a line feed is decoded to a text without one.
The other way round, different texts are written as different octets, and an octet of ASCII is
written for its own character only.
-/

namespace ShellDebugger.Utf8

/-! ## Decoding step by step -/

theorem decodeAfter_eq_append (read : List (Option Char)) (state : State) (octets : Bytes) :
    decodeAfter read state octets = read.reverse ++ decodeAfter [] state octets := by
  induction octets generalizing read state with
  | nil => rfl
  | cons octet rest ih =>
    simp only [decodeAfter]
    rw [ih ((state.next octet).1.reverse ++ read), ih ((state.next octet).1.reverse ++ [])]
    simp only [List.reverse_append, List.reverse_reverse, List.append_assoc, List.reverse_nil,
      List.nil_append]

theorem decodeAfter_cons (state : State) (octet : UInt8) (rest : Bytes) :
    decodeAfter [] state (octet :: rest) =
      (state.next octet).1 ++ decodeAfter [] (state.next octet).2 rest := by
  simp only [decodeAfter]
  rw [decodeAfter_eq_append, List.append_nil, List.reverse_reverse]

/-! ## Characters of more than one octet -/

/-- A character that has been begun will not be ASCII, whatever octets follow. -/
def State.IsWide : State → Prop
  | .between => True
  | .inside value lowest _ more => 0x80 ≤ (value * 64 + (lowest.toNat - 0x80)) * 64 ^ more

theorem isWide_between : State.between.IsWide := trivial

theorem toNat_ofNat_of_ne_zero {value : Nat} (hzero : Char.ofNat value ≠ '\x00') :
    (Char.ofNat value).toNat = value := by
  by_cases hvalid : value.isValidChar
  · rw [Char.ofNat, dif_pos hvalid]
    rfl
  · exact absurd (dif_neg hvalid) hzero

/-- An octet that begins a character of two or more octets leads to a wide one: where its own bits
are all zero, the least octet that may follow makes up for them. -/
theorem isWide_lead (octet : UInt8) : (lead octet).2.IsWide := by
  have hE0 : octet ≠ 0xE0 → octet.toNat ≠ 0xE0 := fun hne heq ↦ hne (UInt8.toNat_inj.mp heq)
  have hF0 : octet ≠ 0xF0 → octet.toNat ≠ 0xF0 := fun hne heq ↦ hne (UInt8.toNat_inj.mp heq)
  have h80 : (0x80 : UInt8).toNat = 0x80 := rfl
  have hA0 : (0xA0 : UInt8).toNat = 0xA0 := rfl
  have h90 : (0x90 : UInt8).toNat = 0x90 := rfl
  unfold lead
  simp only [UInt8.lt_iff_toNat_lt, UInt8.reduceToNat]
  split
  · trivial
  split
  · trivial
  split
  · simp only [State.IsWide]
    omega
  split
  · simp only [State.IsWide]
    by_cases heq : octet = 0xE0
    · rw [if_pos heq, hA0]
      omega
    · have hne := hE0 heq
      rw [if_neg heq, h80]
      omega
  split
  · simp only [State.IsWide]
    by_cases heq : octet = 0xF0
    · rw [if_pos heq, h90]
      omega
    · have hne := hF0 heq
      rw [if_neg heq, h80]
      omega
  · trivial

/-- The only character that an octet completes when it begins one is the ASCII character that it
is. -/
theorem eq_ofNat_of_mem_lead {octet : UInt8} {c : Char} (hc : some c ∈ (lead octet).1) :
    c = Char.ofNat octet.toNat := by
  unfold lead at hc
  repeat' split at hc
  all_goals simp_all

theorem isWide_next {state : State} (hwide : state.IsWide) (octet : UInt8) :
    (state.next octet).2.IsWide := by
  cases state with
  | between => exact isWide_lead octet
  | inside value lowest highest more =>
    simp only [State.next]
    split
    · next hbounds =>
      -- The next octet is at least the least one that was reckoned with.
      cases more with
      | zero => trivial
      | succ more =>
        have hlowest : lowest.toNat ≤ octet.toNat := UInt8.le_iff_toNat_le.mp hbounds.1
        have h80 : (0x80 : UInt8).toNat - 0x80 = 0 := rfl
        simp only [State.IsWide] at hwide ⊢
        rw [h80]
        calc
          0x80 ≤ (value * 64 + (lowest.toNat - 0x80)) * 64 ^ (more + 1) := hwide
          _ ≤ (value * 64 + (octet.toNat - 0x80)) * 64 ^ (more + 1) :=
            Nat.mul_le_mul_right _ (by omega)
          _ = _ := by rw [Nat.pow_succ, Nat.add_zero, Nat.mul_assoc, Nat.mul_comm (64 ^ more)]
    · exact isWide_lead octet

/-- An ASCII character is completed only by the octet that it is. -/
theorem toNat_eq_of_mem_next {state : State} (hwide : state.IsWide) {octet : UInt8} {c : Char}
    (hmem : some c ∈ (state.next octet).1) (hzero : c ≠ '\x00') (hascii : c.toNat < 0x80) :
    c.toNat = octet.toNat := by
  have hlead (hmem : some c ∈ (lead octet).1) : c.toNat = octet.toNat := by
    obtain rfl := eq_ofNat_of_mem_lead hmem
    exact toNat_ofNat_of_ne_zero hzero
  cases state with
  | between => exact hlead hmem
  | inside value lowest highest more =>
    simp only [State.next] at hmem
    split at hmem
    · next hbounds =>
      cases more with
      | zero =>
        have hlowest : lowest.toNat ≤ octet.toNat := UInt8.le_iff_toNat_le.mp hbounds.1
        have hc : c = Char.ofNat (value * 64 + (octet.toNat - 0x80)) :=
          Option.some.inj (List.mem_singleton.mp hmem)
        rw [hc] at hzero hascii
        rw [toNat_ofNat_of_ne_zero hzero] at hascii
        have hvalue : 0x80 ≤ value * 64 + (lowest.toNat - 0x80) := by
          simpa only [State.IsWide, Nat.pow_zero, Nat.mul_one] using hwide
        omega
      | succ more => cases hmem
    · rcases List.mem_cons.mp hmem with hnone | hmem
      · cases hnone
      · exact hlead hmem

theorem mem_of_mem_decodeAfter {state : State} (hwide : state.IsWide) {octets : Bytes} {c : Char}
    (hmem : some c ∈ decodeAfter [] state octets) (hzero : c ≠ '\x00') (hascii : c.toNat < 0x80) :
    ∃ octet ∈ octets, c.toNat = octet.toNat := by
  induction octets generalizing state with
  | nil => cases state <;> simp [decodeAfter, State.finish] at hmem
  | cons octet rest ih =>
    rw [decodeAfter_cons] at hmem
    rcases List.mem_append.mp hmem with hnow | hlater
    · exact ⟨octet, List.mem_cons_self, toNat_eq_of_mem_next hwide hnow hzero hascii⟩
    · obtain ⟨octet', hoctet', heq⟩ := ih (isWide_next hwide octet) hlater
      exact ⟨octet', List.mem_cons_of_mem _ hoctet', heq⟩

/-- An ASCII character of a decoded text stands among the octets. -/
theorem mem_of_mem_decodeLossyChars {octets : Bytes} {c : Char}
    (hmem : c ∈ decodeLossyChars octets) (hzero : c ≠ '\x00') (hascii : c.toNat < 0x80) :
    UInt8.ofNat c.toNat ∈ octets := by
  obtain ⟨character, hunit, hc⟩ := List.mem_map.mp hmem
  cases character with
  | none =>
    have hwide : replacement.toNat < 0x80 := by rwa [show replacement = c from hc]
    exact absurd hwide (by decide)
  | some c' =>
    obtain rfl : c' = c := hc
    obtain ⟨octet, hoctet, heq⟩ := mem_of_mem_decodeAfter isWide_between hunit hzero hascii
    rwa [heq, UInt8.ofNat_toNat]

/-- Octets without a line feed are decoded to a text without one. -/
theorem newline_notMem_decodeLossy {octets : Bytes} (h : 0x0A ∉ octets) :
    '\n' ∉ (decodeLossy octets).toList := by
  intro hmem
  rw [decodeLossy, String.toList_ofList] at hmem
  exact h (mem_of_mem_decodeLossyChars hmem (by decide) (by decide))

/-! ## Encoding -/

theorem encode_injective : Function.Injective encode := by
  intro a b h
  have hbytes : a.toList.utf8Encode = b.toList.utf8Encode := congrArg List.toByteArray h
  rwa [String.utf8Encode_toList, String.utf8Encode_toList, String.toByteArray_inj] at hbytes

/-- An octet below 0x80 is written for the character of that number only. -/
theorem mem_of_mem_encodeChars {octet : UInt8} (hascii : octet < 0x80) {text : List Char}
    (h : octet ∈ encodeChars text) : Char.ofNat octet.toNat ∈ text := by
  obtain ⟨c, hc, hoctet⟩ := List.mem_flatMap.mp h
  have hlt : octet.toNat < 128 := hascii
  have hvalue : octet.toNat = c.val.toNat := by
    unfold String.utf8EncodeChar at hoctet
    simp only at hoctet
    split at hoctet
    · rw [List.mem_singleton.mp hoctet, UInt8.toNat_ofNat']
      omega
    -- All octets of longer sequences are at least 0x80.
    · split at hoctet
      · simp only [List.mem_cons, List.not_mem_nil, or_false] at hoctet
        rcases hoctet with rfl | rfl <;> rw [UInt8.toNat_ofNat'] at hlt <;> omega
      · split at hoctet
        · simp only [List.mem_cons, List.not_mem_nil, or_false] at hoctet
          rcases hoctet with rfl | rfl | rfl <;> rw [UInt8.toNat_ofNat'] at hlt <;> omega
        · simp only [List.mem_cons, List.not_mem_nil, or_false] at hoctet
          rcases hoctet with rfl | rfl | rfl | rfl <;> rw [UInt8.toNat_ofNat'] at hlt <;> omega
  have hchar : Char.ofNat octet.toNat = c := by
    rw [hvalue]
    exact Char.ofNat_toNat c
  exact hchar ▸ hc

end ShellDebugger.Utf8
