import ShellDebugger.Proofs.Settings.Json
import ShellDebugger.Settings.JsonText

/-!
# What is read from JSON texts

The values that are read from JSON texts are well formed, for every text: a key that comes again
takes the place of the one before, and a numeral that does not fit 64 bits is no integer.
-/

namespace ShellDebugger

namespace JsonNumber

theorem significandFrom_lt {read : Nat} (hread : read < Numeral.bound) (ds : List Nat) :
    (significandFrom read ds).1 < Numeral.bound := by
  induction ds generalizing read with
  | nil => exact hread
  | cons d rest ih =>
    rw [significandFrom]
    split
    case isTrue hfits => exact ih hfits
    case isFalse => exact hread

/-- An integer that is read after its sign fits 64 bits. -/
theorem wellFormed_unsigned {negative : Bool} {text rest : List Char} {value : Json}
    (hread : unsigned negative text = some (value, rest)) : value.WellFormed := by
  unfold unsigned at hread
  dsimp only at hread
  have hbound : (significandFrom 0 (digits text).1).1 < Numeral.bound :=
    significandFrom_lt (by decide) _
  split at hread
  · cases hread
  · obtain ⟨⟨fraction, rest'⟩, -, hread⟩ := Option.bind_eq_some_iff.mp hread
    split at hread
    case isTrue hinteger =>
      obtain ⟨-, hsign⟩ := hinteger
      cases hread
      cases negative with
      | false => exact .integer (by simp; omega) (by simp; omega)
      | true => exact .integer (by simp at hsign ⊢; omega) (by simp; omega)
    case isFalse =>
      obtain ⟨⟨number, rest''⟩, -, hread⟩ := Option.bind_eq_some_iff.mp hread
      cases hread
      exact .floating number

theorem wellFormed_read {text rest : List Char} {value : Json}
    (hread : read text = some (value, rest)) : value.WellFormed := by
  unfold read at hread
  split at hread <;> exact wellFormed_unsigned hread

end JsonNumber

namespace JsonText

/-- Each key stands once, and the values are well formed. -/
structure IsMembers (members : List (String × Json)) : Prop where
  nodup : (members.map Prod.fst).Nodup
  wellFormed : ∀ member ∈ members, member.2.WellFormed

theorem isMembers_nil : IsMembers [] := ⟨List.nodup_nil, nofun⟩

theorem IsMembers.put {members : List (String × Json)} {key : String} {value : Json}
    (h : IsMembers members) (hvalue : value.WellFormed) :
    IsMembers (Json.put key value members) where
  nodup := Json.nodup_put h.nodup
  wellFormed member hmember := by
    rcases Json.eq_or_mem_of_mem_put hmember with heq | hmem
    · rw [heq]
      exact hvalue
    · exact h.wellFormed member hmem

theorem eq_of_word {name : String} {value value' : Json} {text rest : List Char}
    (hread : word name value text = some (value', rest)) : value' = value := by
  unfold word at hread
  split at hread
  · cases hread
    rfl
  · cases hread

/-- With some fuel, what is read as a value is well formed, and so is what is read as elements or
members behind well-formed ones. -/
structure ReadsWellFormed (fuel : Nat) : Prop where
  value : ∀ {depth text v rest}, value depth text fuel = some (v, rest) → v.WellFormed
  elements : ∀ {depth read text vs rest}, (∀ v ∈ read, v.WellFormed) →
    elements depth read text fuel = some (vs, rest) → ∀ v ∈ vs, v.WellFormed
  members : ∀ {depth read text ms rest}, IsMembers read →
    members depth read text fuel = some (ms, rest) → IsMembers ms

variable {fuel depth : Nat} {text rest : List Char}

theorem ReadsWellFormed.value_succ (h : ReadsWellFormed fuel) {v : Json}
    (hread : JsonText.value depth text (fuel + 1) = some (v, rest)) : v.WellFormed := by
  rw [JsonText.value] at hread
  split at hread
  · cases hread
  · rw [eq_of_word hread]
    exact .null
  · rw [eq_of_word hread]
    exact .boolean true
  · rw [eq_of_word hread]
    exact .boolean false
  · obtain ⟨⟨s, rest'⟩, -, ⟨⟩⟩ := Option.map_eq_some_iff.mp hread
    exact .text s
  · split at hread
    · cases hread
    · split at hread
      · cases hread
        exact .array (List.forall_mem_nil _)
      · obtain ⟨⟨vs, rest'⟩, hvs, ⟨⟩⟩ := Option.map_eq_some_iff.mp hread
        exact .array (h.elements (List.forall_mem_nil _) hvs)
  · split at hread
    · cases hread
    · split at hread
      · cases hread
        exact .object List.nodup_nil (List.forall_mem_nil _)
      · obtain ⟨⟨ms, rest'⟩, hms, ⟨⟩⟩ := Option.map_eq_some_iff.mp hread
        have hmembers := h.members isMembers_nil hms
        exact .object hmembers.nodup hmembers.wellFormed
  · exact JsonNumber.wellFormed_read hread

theorem ReadsWellFormed.elements_succ (h : ReadsWellFormed fuel) {read vs : List Json}
    (hbefore : ∀ v ∈ read, v.WellFormed)
    (hread : JsonText.elements depth read text (fuel + 1) = some (vs, rest)) :
    ∀ v ∈ vs, v.WellFormed := by
  rw [JsonText.elements] at hread
  split at hread
  · cases hread
  case h_2 v rest' hvalue =>
    have hall : ∀ v' ∈ v :: read, v'.WellFormed :=
      List.forall_mem_cons.mpr ⟨h.value hvalue, hbefore⟩
    split at hread
    · exact h.elements hall hread
    · cases hread
      exact fun v' hv' ↦ hall v' (List.mem_reverse.mp hv')
    · cases hread

theorem ReadsWellFormed.members_succ (h : ReadsWellFormed fuel) {read ms : List (String × Json)}
    (hbefore : IsMembers read)
    (hread : JsonText.members depth read text (fuel + 1) = some (ms, rest)) : IsMembers ms := by
  rw [JsonText.members] at hread
  split at hread
  · split at hread
    · cases hread
    · split at hread
      · split at hread
        · cases hread
        case h_2 v rest' hvalue =>
          have hall (key : String) : IsMembers (Json.put key v read) :=
            hbefore.put (h.value hvalue)
          split at hread
          · exact h.members (hall _) hread
          · cases hread
            exact hall _
          · cases hread
      · cases hread
  · cases hread

theorem readsWellFormed (fuel : Nat) : ReadsWellFormed fuel := by
  induction fuel with
  | zero =>
    exact {
      value := by intros; contradiction
      elements := by intros; contradiction
      members := by intros; contradiction }
  | succ fuel ih => exact ⟨ih.value_succ, ih.elements_succ, ih.members_succ⟩

/-- What is read from a text is well formed. -/
theorem wellFormed_of_parse {text : String} {value : Json} (hparse : parse text = some value) :
    value.WellFormed := by
  unfold parse at hparse
  dsimp only at hparse
  split at hparse
  · split at hparse
    · cases hparse
      exact (readsWellFormed _).value ‹_›
    · cases hparse
  · cases hparse

end JsonText
end ShellDebugger
