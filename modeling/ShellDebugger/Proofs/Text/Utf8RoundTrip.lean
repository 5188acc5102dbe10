import ShellDebugger.Proofs.Text.Utf8

/-!
# Octets that are text

Octets in which nothing is broken are the octets of a text: each character takes as many of them as
are written for it, and what they are decoded to is written back as they were. What is written for a
text is read as that text.
-/

namespace ShellDebugger.Utf8

/-! ## Octets of one character -/

theorem ofNat_eq {n : Nat} (octet : UInt8) (h : n = octet.toNat) : UInt8.ofNat n = octet := by
  rw [h, UInt8.ofNat_toNat]

theorem utf8EncodeChar_ofNat {n : Nat} (hvalid : n.isValidChar) :
    String.utf8EncodeChar (Char.ofNat n) =
      if n ≤ 0x7F then [UInt8.ofNat n]
      else if n ≤ 0x7FF then [UInt8.ofNat (n / 64 % 32 + 0xC0), UInt8.ofNat (n % 64 + 0x80)]
      else if n ≤ 0xFFFF then
        [UInt8.ofNat (n / 4096 % 16 + 0xE0), UInt8.ofNat (n / 64 % 64 + 0x80),
          UInt8.ofNat (n % 64 + 0x80)]
      else
        [UInt8.ofNat (n / 262144 % 8 + 0xF0), UInt8.ofNat (n / 4096 % 64 + 0x80),
          UInt8.ofNat (n / 64 % 64 + 0x80), UInt8.ofNat (n % 64 + 0x80)] := by
  have hvalue : (Char.ofNat n).val.toNat = n := by
    rw [Char.ofNat, dif_pos hvalid]
    rfl
  unfold String.utf8EncodeChar
  rw [hvalue]

section Widths

variable {first second third fourth : UInt8}

theorem encode_one (hfirst : first.toNat < 0x80) :
    String.utf8EncodeChar (Char.ofNat first.toNat) = [first] := by
  rw [utf8EncodeChar_ofNat (.inl (by omega)), if_pos (by omega), UInt8.ofNat_toNat]

theorem encode_two (hfirst : 0xC2 ≤ first.toNat ∧ first.toNat < 0xE0)
    (hsecond : 0x80 ≤ second.toNat ∧ second.toNat ≤ 0xBF) :
    String.utf8EncodeChar (Char.ofNat ((first.toNat - 0xC0) * 64 + (second.toNat - 0x80))) =
      [first, second] := by
  rw [utf8EncodeChar_ofNat (.inl (by omega)), if_neg (by omega), if_pos (by omega),
    ofNat_eq first (by omega), ofNat_eq second (by omega)]

theorem encode_three (hfirst : 0xE0 ≤ first.toNat ∧ first.toNat < 0xF0)
    (hsecond : 0x80 ≤ second.toNat ∧ second.toNat ≤ 0xBF)
    (hlowest : first.toNat = 0xE0 → 0xA0 ≤ second.toNat)
    (hhighest : first.toNat = 0xED → second.toNat ≤ 0x9F)
    (hthird : 0x80 ≤ third.toNat ∧ third.toNat ≤ 0xBF) :
    String.utf8EncodeChar (Char.ofNat (((first.toNat - 0xE0) * 64 + (second.toNat - 0x80)) * 64 +
      (third.toNat - 0x80))) = [first, second, third] := by
  rw [utf8EncodeChar_ofNat (by simp only [Nat.isValidChar]; omega), if_neg (by omega),
    if_neg (by omega), if_pos (by omega), ofNat_eq first (by omega),
    ofNat_eq second (by omega), ofNat_eq third (by omega)]

theorem encode_four (hfirst : 0xF0 ≤ first.toNat ∧ first.toNat < 0xF5)
    (hsecond : 0x80 ≤ second.toNat ∧ second.toNat ≤ 0xBF)
    (hlowest : first.toNat = 0xF0 → 0x90 ≤ second.toNat)
    (hhighest : first.toNat = 0xF4 → second.toNat ≤ 0x8F)
    (hthird : 0x80 ≤ third.toNat ∧ third.toNat ≤ 0xBF)
    (hfourth : 0x80 ≤ fourth.toNat ∧ fourth.toNat ≤ 0xBF) :
    String.utf8EncodeChar (Char.ofNat ((((first.toNat - 0xF0) * 64 + (second.toNat - 0x80)) * 64 +
      (third.toNat - 0x80)) * 64 + (fourth.toNat - 0x80))) = [first, second, third, fourth] := by
  rw [utf8EncodeChar_ofNat (by simp only [Nat.isValidChar]; omega), if_neg (by omega),
    if_neg (by omega), if_neg (by omega), ofNat_eq first (by omega),
    ofNat_eq second (by omega), ofNat_eq third (by omega), ofNat_eq fourth (by omega)]

end Widths

/-! ## Octets in which nothing is broken -/

/-- A bound that is another one after one octet, as a number. -/
theorem toNat_ite_eq (octet mark bound bound' : UInt8) :
    (if octet = mark then bound else bound').toNat =
      if octet.toNat = mark.toNat then bound.toNat else bound'.toNat := by
  by_cases heq : octet = mark
  · rw [if_pos heq, if_pos (congrArg UInt8.toNat heq)]
  · rw [if_neg heq, if_neg fun h ↦ heq (UInt8.toNat_inj.mp h)]

section Unbroken

variable {value more : Nat} {lowest highest : UInt8} {octets : Bytes}

/-- Inside a character that is not broken, the next octet is one that may follow. -/
theorem exists_next_of_unbroken
    (h : none ∉ decodeAfter [] (.inside value lowest highest more) octets) :
    ∃ octet rest, octets = octet :: rest ∧ lowest.toNat ≤ octet.toNat ∧
      octet.toNat ≤ highest.toNat ∧
        decodeAfter [] (.inside value lowest highest more) octets =
          match more with
          | 0 => some (Char.ofNat (value * 64 + (octet.toNat - 0x80))) ::
              decodeAfter [] .between rest
          | more + 1 =>
            decodeAfter [] (.inside (value * 64 + (octet.toNat - 0x80)) 0x80 0xBF more) rest := by
  cases octets with
  | nil => exact absurd (List.mem_singleton.mpr rfl) h
  | cons octet rest =>
    rw [decodeAfter_cons] at h
    by_cases hbounds : lowest ≤ octet ∧ octet ≤ highest
    · refine ⟨octet, rest, rfl, hbounds.1, hbounds.2, ?_⟩
      rw [decodeAfter_cons, State.next, if_pos hbounds]
      cases more <;> rfl
    · rw [State.next, if_neg hbounds] at h
      exact absurd (List.mem_append_left _ List.mem_cons_self) h

/-- A character of three octets. -/
theorem exists_character_three {octet : UInt8} {rest : Bytes}
    (hoctet : 0xE0 ≤ octet.toNat ∧ octet.toNat < 0xF0)
    (h : none ∉ decodeAfter [] (.inside (octet.toNat - 0xE0) (if octet = 0xE0 then 0xA0 else 0x80)
      (if octet = 0xED then 0x9F else 0xBF) 1) rest) :
    ∃ c tail, octet :: rest = String.utf8EncodeChar c ++ tail ∧
      decodeAfter [] (.inside (octet.toNat - 0xE0) (if octet = 0xE0 then 0xA0 else 0x80)
        (if octet = 0xED then 0x9F else 0xBF) 1) rest =
          some c :: decodeAfter [] .between tail := by
  obtain ⟨second, rest, rfl, hlow, hhigh, heq⟩ := exists_next_of_unbroken h
  simp only [heq] at h ⊢
  obtain ⟨third, tail, rfl, hlow', hhigh', heq'⟩ := exists_next_of_unbroken h
  simp only [toNat_ite_eq, UInt8.reduceToNat] at hlow hhigh hlow' hhigh'
  have hsecond : 0x80 ≤ second.toNat ∧ second.toNat ≤ 0xBF :=
    ⟨by split at hlow <;> omega, by split at hhigh <;> omega⟩
  have hlowest (hE0 : octet.toNat = 0xE0) : 0xA0 ≤ second.toNat := by rwa [if_pos hE0] at hlow
  have hhighest (hED : octet.toNat = 0xED) : second.toNat ≤ 0x9F := by rwa [if_pos hED] at hhigh
  refine ⟨_, tail, ?_, heq'⟩
  rw [encode_three hoctet hsecond hlowest hhighest ⟨hlow', hhigh'⟩]
  rfl

/-- A character of four octets. -/
theorem exists_character_four {octet : UInt8} {rest : Bytes}
    (hoctet : 0xF0 ≤ octet.toNat ∧ octet.toNat < 0xF5)
    (h : none ∉ decodeAfter [] (.inside (octet.toNat - 0xF0) (if octet = 0xF0 then 0x90 else 0x80)
      (if octet = 0xF4 then 0x8F else 0xBF) 2) rest) :
    ∃ c tail, octet :: rest = String.utf8EncodeChar c ++ tail ∧
      decodeAfter [] (.inside (octet.toNat - 0xF0) (if octet = 0xF0 then 0x90 else 0x80)
        (if octet = 0xF4 then 0x8F else 0xBF) 2) rest =
          some c :: decodeAfter [] .between tail := by
  obtain ⟨second, rest, rfl, hlow, hhigh, heq⟩ := exists_next_of_unbroken h
  simp only [heq] at h ⊢
  obtain ⟨third, rest, rfl, hlow', hhigh', heq'⟩ := exists_next_of_unbroken h
  rw [heq'] at h ⊢
  obtain ⟨fourth, tail, rfl, hlow'', hhigh'', heq''⟩ := exists_next_of_unbroken h
  simp only [toNat_ite_eq, UInt8.reduceToNat] at hlow hhigh hlow' hhigh' hlow'' hhigh''
  have hsecond : 0x80 ≤ second.toNat ∧ second.toNat ≤ 0xBF :=
    ⟨by split at hlow <;> omega, by split at hhigh <;> omega⟩
  have hlowest (hF0 : octet.toNat = 0xF0) : 0x90 ≤ second.toNat := by rwa [if_pos hF0] at hlow
  have hhighest (hF4 : octet.toNat = 0xF4) : second.toNat ≤ 0x8F := by rwa [if_pos hF4] at hhigh
  refine ⟨_, tail, ?_, heq''⟩
  rw [encode_four hoctet hsecond hlowest hhighest ⟨hlow', hhigh'⟩ ⟨hlow'', hhigh''⟩]
  rfl

/-- Octets in which nothing is broken begin with those of their first character. -/
theorem exists_character {octet : UInt8} {rest : Bytes}
    (h : none ∉ decodeAfter [] .between (octet :: rest)) :
    ∃ c tail, octet :: rest = String.utf8EncodeChar c ++ tail ∧
      decodeAfter [] .between (octet :: rest) = some c :: decodeAfter [] .between tail := by
  rw [decodeAfter_cons, State.next, lead] at h ⊢
  simp only [UInt8.lt_iff_toNat_lt, UInt8.reduceToNat] at h ⊢
  by_cases h80 : octet.toNat < 0x80
  · rw [if_pos h80]
    exact ⟨_, rest, by rw [encode_one h80]; rfl, rfl⟩
  rw [if_neg h80] at h ⊢
  by_cases hC2 : octet.toNat < 0xC2
  · rw [if_pos hC2] at h
    exact absurd List.mem_cons_self h
  rw [if_neg hC2] at h ⊢
  by_cases hE0 : octet.toNat < 0xE0
  · rw [if_pos hE0] at h ⊢
    obtain ⟨second, tail, rfl, hlow, hhigh, heq⟩ := exists_next_of_unbroken h
    exact ⟨_, tail, by rw [encode_two ⟨by omega, hE0⟩ ⟨hlow, hhigh⟩]; rfl, heq⟩
  rw [if_neg hE0] at h ⊢
  by_cases hF0 : octet.toNat < 0xF0
  · rw [if_pos hF0] at h ⊢
    exact exists_character_three ⟨by omega, hF0⟩ h
  rw [if_neg hF0] at h ⊢
  by_cases hF5 : octet.toNat < 0xF5
  · rw [if_pos hF5] at h ⊢
    exact exists_character_four ⟨by omega, hF5⟩ h
  · rw [if_neg hF5] at h
    exact absurd List.mem_cons_self h

/-- Octets in which nothing is broken are those of a text. -/
theorem exists_text (h : none ∉ decodeUnits octets) :
    ∃ text : List Char, decodeUnits octets = text.map some ∧ encodeChars text = octets := by
  induction hlength : octets.length using Nat.strongRecOn generalizing octets with
  | ind n ih =>
    cases octets with
    | nil => exact ⟨[], rfl, rfl⟩
    | cons octet rest =>
      obtain ⟨c, tail, htail, hunits⟩ := exists_character h
      have hshorter : tail.length < n := by
        have hpos := String.length_utf8EncodeChar c
        have hsize := c.utf8Size_pos
        rw [← hlength, htail, List.length_append]
        omega
      rw [decodeUnits, hunits] at h
      obtain ⟨text, htext, hencode⟩ :=
        ih _ hshorter (fun hmem ↦ h (List.mem_cons_of_mem _ hmem)) rfl
      refine ⟨c :: text, ?_, ?_⟩
      · rw [decodeUnits, hunits]
        exact congrArg (some c :: ·) htext
      · rw [htail, ← hencode]
        rfl

end Unbroken

/-- What octets are decoded to without loss is written as these octets. -/
theorem encode_of_decode? {octets : Bytes} {text : String} (h : decode? octets = some text) :
    encode text = octets := by
  unfold decode? at h
  dsimp only at h
  split at h
  · next hall =>
    have hunbroken : none ∉ decodeUnits octets := fun hmem ↦
      absurd (List.all_eq_true.mp hall _ hmem) Bool.false_ne_true
    obtain ⟨chars, hunits, hencode⟩ := exists_text hunbroken
    obtain rfl := Option.some.inj h
    rw [encode, String.toList_ofList, hunits, List.filterMap_map]
    simpa using hencode
  · cases h

/-! ## Reading what was written -/

section Reading

variable {value more : Nat} {lowest highest octet first second third fourth : UInt8}

theorem toNat_ite_le {mark bound bound' next : UInt8}
    (hmark : octet.toNat = mark.toNat → bound.toNat ≤ next.toNat)
    (hother : bound'.toNat ≤ next.toNat) :
    (if octet = mark then bound else bound').toNat ≤ next.toNat := by
  rw [toNat_ite_eq]
  split
  · next h => exact hmark h
  · exact hother

theorem le_toNat_ite {mark bound bound' next : UInt8}
    (hmark : octet.toNat = mark.toNat → next.toNat ≤ bound.toNat)
    (hother : next.toNat ≤ bound'.toNat) :
    next.toNat ≤ (if octet = mark then bound else bound').toNat := by
  rw [toNat_ite_eq]
  split
  · next h => exact hmark h
  · exact hother

/-- Inside a character, an octet that may follow is read on. -/
theorem decodeAfter_inside (hlow : lowest.toNat ≤ octet.toNat)
    (hhigh : octet.toNat ≤ highest.toNat) (rest : Bytes) :
    decodeAfter [] (.inside value lowest highest (more + 1)) (octet :: rest) =
      decodeAfter [] (.inside (value * 64 + (octet.toNat - 0x80)) 0x80 0xBF more) rest := by
  rw [decodeAfter_cons, State.next, if_pos ⟨hlow, hhigh⟩]
  rfl

/-- The last octet of a character completes it. -/
theorem decodeAfter_inside_zero (hlow : lowest.toNat ≤ octet.toNat)
    (hhigh : octet.toNat ≤ highest.toNat) (rest : Bytes) :
    decodeAfter [] (.inside value lowest highest 0) (octet :: rest) =
      some (Char.ofNat (value * 64 + (octet.toNat - 0x80))) :: decodeAfter [] .between rest := by
  rw [decodeAfter_cons, State.next, if_pos ⟨hlow, hhigh⟩]
  rfl

theorem decode_one (hfirst : first.toNat < 0x80) (rest : Bytes) :
    decodeAfter [] .between (first :: rest) =
      some (Char.ofNat first.toNat) :: decodeAfter [] .between rest := by
  have hlead : lead first = ([some (Char.ofNat first.toNat)], .between) := if_pos hfirst
  rw [decodeAfter_cons, State.next, hlead]
  rfl

theorem decode_two (hfirst : 0xC2 ≤ first.toNat ∧ first.toNat < 0xE0)
    (hsecond : 0x80 ≤ second.toNat ∧ second.toNat ≤ 0xBF) (rest : Bytes) :
    decodeAfter [] .between (first :: second :: rest) =
      some (Char.ofNat ((first.toNat - 0xC0) * 64 + (second.toNat - 0x80))) ::
        decodeAfter [] .between rest := by
  have hlead : lead first = ([], .inside (first.toNat - 0xC0) 0x80 0xBF 0) := by
    simp only [lead, UInt8.lt_iff_toNat_lt, UInt8.reduceToNat]
    rw [if_neg (by omega), if_neg (by omega), if_pos hfirst.2]
  rw [decodeAfter_cons, State.next, hlead]
  apply decodeAfter_inside_zero
  · exact hsecond.1
  · exact hsecond.2

theorem decode_three (hfirst : 0xE0 ≤ first.toNat ∧ first.toNat < 0xF0)
    (hsecond : 0x80 ≤ second.toNat ∧ second.toNat ≤ 0xBF)
    (hlowest : first.toNat = 0xE0 → 0xA0 ≤ second.toNat)
    (hhighest : first.toNat = 0xED → second.toNat ≤ 0x9F)
    (hthird : 0x80 ≤ third.toNat ∧ third.toNat ≤ 0xBF) (rest : Bytes) :
    decodeAfter [] .between (first :: second :: third :: rest) =
      some (Char.ofNat (((first.toNat - 0xE0) * 64 + (second.toNat - 0x80)) * 64 +
        (third.toNat - 0x80))) :: decodeAfter [] .between rest := by
  have hlead : lead first = ([], .inside (first.toNat - 0xE0)
      (if first = 0xE0 then 0xA0 else 0x80) (if first = 0xED then 0x9F else 0xBF) 1) := by
    simp only [lead, UInt8.lt_iff_toNat_lt, UInt8.reduceToNat]
    rw [if_neg (by omega), if_neg (by omega), if_neg (by omega), if_pos hfirst.2]
  rw [decodeAfter_cons, State.next, hlead]
  calc
    _ = decodeAfter [] (.inside ((first.toNat - 0xE0) * 64 + (second.toNat - 0x80)) 0x80 0xBF 0)
          (third :: rest) := by
      apply decodeAfter_inside
      · exact toNat_ite_le hlowest hsecond.1
      · exact le_toNat_ite hhighest hsecond.2
    _ = _ := by
      apply decodeAfter_inside_zero
      · exact hthird.1
      · exact hthird.2

theorem decode_four (hfirst : 0xF0 ≤ first.toNat ∧ first.toNat < 0xF5)
    (hsecond : 0x80 ≤ second.toNat ∧ second.toNat ≤ 0xBF)
    (hlowest : first.toNat = 0xF0 → 0x90 ≤ second.toNat)
    (hhighest : first.toNat = 0xF4 → second.toNat ≤ 0x8F)
    (hthird : 0x80 ≤ third.toNat ∧ third.toNat ≤ 0xBF)
    (hfourth : 0x80 ≤ fourth.toNat ∧ fourth.toNat ≤ 0xBF) (rest : Bytes) :
    decodeAfter [] .between (first :: second :: third :: fourth :: rest) =
      some (Char.ofNat ((((first.toNat - 0xF0) * 64 + (second.toNat - 0x80)) * 64 +
        (third.toNat - 0x80)) * 64 + (fourth.toNat - 0x80))) :: decodeAfter [] .between rest := by
  have hlead : lead first = ([], .inside (first.toNat - 0xF0)
      (if first = 0xF0 then 0x90 else 0x80) (if first = 0xF4 then 0x8F else 0xBF) 2) := by
    simp only [lead, UInt8.lt_iff_toNat_lt, UInt8.reduceToNat]
    rw [if_neg (by omega), if_neg (by omega), if_neg (by omega), if_neg (by omega),
      if_pos hfirst.2]
  rw [decodeAfter_cons, State.next, hlead]
  calc
    _ = decodeAfter [] (.inside ((first.toNat - 0xF0) * 64 + (second.toNat - 0x80)) 0x80 0xBF 1)
          (third :: fourth :: rest) := by
      apply decodeAfter_inside
      · exact toNat_ite_le hlowest hsecond.1
      · exact le_toNat_ite hhighest hsecond.2
    _ = decodeAfter [] (.inside (((first.toNat - 0xF0) * 64 + (second.toNat - 0x80)) * 64 +
          (third.toNat - 0x80)) 0x80 0xBF 0) (fourth :: rest) := by
      apply decodeAfter_inside
      · exact hthird.1
      · exact hthird.2
    _ = _ := by
      apply decodeAfter_inside_zero
      · exact hfourth.1
      · exact hfourth.2

/-- The octets that are written for a character are read as that character. -/
theorem decode_utf8EncodeChar (c : Char) (rest : Bytes) :
    decodeAfter [] .between (String.utf8EncodeChar c ++ rest) =
      some c :: decodeAfter [] .between rest := by
  have hc : c = Char.ofNat c.toNat := (Char.ofNat_toNat c).symm
  have hvalid : c.toNat < 0xD800 ∨ 0xDFFF < c.toNat ∧ c.toNat < 0x110000 := c.valid
  generalize c.toNat = n at hc hvalid
  subst hc
  have hvalue {value : Nat} (h : value = n) :
      some (Char.ofNat value) :: decodeAfter [] .between rest =
        some (Char.ofNat n) :: decodeAfter [] .between rest := by rw [h]
  rw [utf8EncodeChar_ofNat hvalid]
  -- One case for each number of octets.
  split_ifs
  · apply (decode_one ?_ rest).trans (hvalue ?_)
    all_goals simp only [UInt8.toNat_ofNat']; omega
  · apply (decode_two ?_ ?_ rest).trans (hvalue ?_)
    all_goals simp only [UInt8.toNat_ofNat']; omega
  · apply (decode_three ?_ ?_ ?_ ?_ ?_ rest).trans (hvalue ?_)
    all_goals simp only [UInt8.toNat_ofNat']; omega
  · apply (decode_four ?_ ?_ ?_ ?_ ?_ ?_ rest).trans (hvalue ?_)
    all_goals simp only [UInt8.toNat_ofNat']; omega

end Reading

/-- What is written for a text is read as that text. -/
theorem decodeUnits_encodeChars (text : List Char) :
    decodeUnits (encodeChars text) = text.map some := by
  induction text with
  | nil => rfl
  | cons c text ih =>
    calc decodeUnits (encodeChars (c :: text))
      _ = decodeAfter [] .between (String.utf8EncodeChar c ++ encodeChars text) := rfl
      _ = some c :: decodeUnits (encodeChars text) := decode_utf8EncodeChar c _
      _ = (c :: text).map some := by rw [ih, List.map_cons]

@[simp] theorem encode_empty : encode "" = [] := rfl

@[simp] theorem decodeLossyChars_encodeChars (text : List Char) :
    decodeLossyChars (encodeChars text) = text := by
  rw [decodeLossyChars, decodeUnits_encodeChars, List.map_map]
  exact List.map_id text

end ShellDebugger.Utf8
