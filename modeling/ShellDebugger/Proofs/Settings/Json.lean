import ShellDebugger.Settings.Json
import ShellDebugger.Text.Numeral

/-!
# Values laid over one another

What stands in a value that was laid over another one. A member of the upper value counts over that
of the lower one, and where both are objects they are laid over one another in turn. So a value that
is no object shows through unchanged, and an object at least shows that it is one.
-/

namespace ShellDebugger.Json

/-! ## Well-formed values -/

/-- Every object has each key once, and every integer fits 64 bits, with or without a sign. -/
inductive WellFormed : Json → Prop
  | null : WellFormed .null
  | boolean (value : Bool) : WellFormed (.boolean value)
  | integer {value : Int} (hlower : -(Numeral.bound / 2 : Nat) ≤ value)
      (hupper : value < Numeral.bound) : WellFormed (.integer value)
  | floating (value : Binary64) : WellFormed (.floating value)
  | text (value : String) : WellFormed (.text value)
  | array {elements : List Json} (helements : ∀ element ∈ elements, WellFormed element) :
      WellFormed (.array elements)
  | object {members : List (String × Json)} (hkeys : (members.map Prod.fst).Nodup)
      (hmembers : ∀ member ∈ members, WellFormed member.2) : WellFormed (.object members)

variable {key key' : String} {value base upper : Json} {members lower : List (String × Json)}

/-! ## Members -/

theorem lookup_cons_eq_ite (member : String × Json) (key : String) :
    (member :: members).lookup key =
      if key = member.1 then some member.2 else members.lookup key := by
  rw [List.lookup_cons]
  by_cases hkey : key = member.1
  · rw [if_pos hkey, beq_iff_eq.mpr hkey]
  · rw [if_neg hkey, beq_eq_false_iff_ne.mpr hkey]

theorem mem_of_lookup_eq_some (hlookup : members.lookup key = some value) :
    (key, value) ∈ members := by
  induction members with
  | nil => cases hlookup
  | cons member rest ih =>
    rw [lookup_cons_eq_ite] at hlookup
    split at hlookup
    case isTrue hkey =>
      cases hlookup
      rw [hkey]
      exact List.mem_cons_self
    case isFalse => exact List.mem_cons_of_mem _ (ih hlookup)

theorem lookup_eq_none_of_notMem (hkey : key ∉ members.map Prod.fst) :
    members.lookup key = none := by
  cases hlookup : members.lookup key with
  | none => rfl
  | some value => exact absurd (List.mem_map_of_mem (mem_of_lookup_eq_some hlookup)) hkey

theorem at?_singleton (value : Json) (key : String) : value.at? [key] = value.get? key :=
  Option.bind_fun_some (value.get? key)

theorem at?_pair (value : Json) (name key : String) :
    value.at? [name, key] = (value.get? name).bind (·.get? key) :=
  congrArg (value.get? name).bind (funext fun part ↦ at?_singleton part key)

theorem WellFormed.get? (h : value.WellFormed) {member : Json}
    (hget : value.get? key = some member) : member.WellFormed := by
  cases h with
  | object _ hmembers => exact hmembers _ (mem_of_lookup_eq_some hget)
  | _ => cases hget

/-- What stands in a well-formed value is well formed. -/
theorem WellFormed.at? (h : value.WellFormed) {path : List String} {found : Json}
    (hfound : value.at? path = some found) : found.WellFormed := by
  induction path generalizing value with
  | nil =>
    cases hfound
    exact h
  | cons key path ih =>
    obtain ⟨member, hmember, hrest⟩ := Option.bind_eq_some_iff.mp hfound
    exact ih (h.get? hmember) hrest

theorem WellFormed.nodup (h : WellFormed (.object members)) : (members.map Prod.fst).Nodup := by
  cases h with
  | object hkeys _ => exact hkeys

/-! ## Setting a member -/

@[simp] theorem lookup_put (key key' : String) (value : Json) (members : List (String × Json)) :
    (put key value members).lookup key' =
      if key' = key then some value else members.lookup key' := by
  induction members with
  | nil => exact lookup_cons_eq_ite _ key'
  | cons member rest ih =>
    obtain ⟨k, v⟩ := member
    rw [put]
    by_cases hk : k = key
    · subst hk
      rw [if_pos rfl, lookup_cons_eq_ite, lookup_cons_eq_ite]
      by_cases hkey : key' = k <;> simp only [hkey, if_true, if_false]
    · rw [if_neg hk, lookup_cons_eq_ite, lookup_cons_eq_ite, ih]
      by_cases hkey : key' = k
      · rw [if_pos hkey, if_pos hkey, if_neg (hkey ▸ hk)]
      · rw [if_neg hkey, if_neg hkey]

theorem mem_keys_put {k : String} (hk : k ∈ (put key value members).map Prod.fst) :
    k = key ∨ k ∈ members.map Prod.fst := by
  induction members with
  | nil => simpa [put] using hk
  | cons member rest ih =>
    rw [put] at hk
    split at hk
    · exact .inr hk
    · rcases List.mem_cons.mp hk with rfl | hrest
      · exact .inr List.mem_cons_self
      · exact (ih hrest).imp_right (List.mem_cons_of_mem _)

/-- Setting a member leaves each key once. -/
theorem nodup_put (hkeys : (members.map Prod.fst).Nodup) :
    ((put key value members).map Prod.fst).Nodup := by
  induction members with
  | nil => exact List.pairwise_singleton _ key
  | cons member rest ih =>
    obtain ⟨hhead, hrest⟩ := List.nodup_cons.mp hkeys
    rw [put]
    split
    · exact hkeys
    case isFalse hne =>
      refine List.nodup_cons.mpr ⟨fun hmem ↦ ?_, ih hrest⟩
      exact (mem_keys_put hmem).elim hne hhead

theorem eq_or_mem_of_mem_put {member : String × Json} (hmember : member ∈ put key value members) :
    member.2 = value ∨ member ∈ members := by
  induction members with
  | nil => exact .inl (congrArg Prod.snd (List.mem_singleton.mp hmember))
  | cons head rest ih =>
    rw [put] at hmember
    split at hmember <;> rcases List.mem_cons.mp hmember with rfl | hrest
    · exact .inl rfl
    · exact .inr (List.mem_cons_of_mem _ hrest)
    · exact .inr List.mem_cons_self
    · exact (ih hrest).imp_right (List.mem_cons_of_mem _)

/-! ## Laying over -/

def IsObject (value : Json) : Prop :=
  ∃ members, value = .object members

/-- A value without what stands in it if it is an object. -/
def shape : Json → Json
  | .object _ => .object []
  | value => value

theorem overlay_null (upper : Json) : overlay .null upper = upper := by
  cases upper <;> simp [overlay]

/-- Of a value that is laid over another one at least the shape is seen. -/
@[simp] theorem shape_overlay (base upper : Json) : (overlay base upper).shape = upper.shape := by
  cases upper with
  | object members => cases base <;> simp [overlay, shape]
  | _ => simp [overlay]

theorem IsObject.overlay (h : upper.IsObject) (base : Json) : (overlay base upper).IsObject := by
  obtain ⟨members, rfl⟩ := h
  cases base with
  | object lower => exact ⟨overlayMembers lower members, by simp [Json.overlay]⟩
  | _ => exact ⟨members, by simp [Json.overlay]⟩

/-- A member of the members that are laid over others is laid over what was there. -/
theorem lookup_overlayMembers (hkeys : (members.map Prod.fst).Nodup) :
    (overlayMembers lower members).lookup key =
      match members.lookup key with
      | some value => some (overlay ((lower.lookup key).getD .null) value)
      | none => lower.lookup key := by
  induction members generalizing lower with
  | nil => rw [overlayMembers, List.lookup_nil]
  | cons member rest ih =>
    obtain ⟨k, v⟩ := member
    obtain ⟨hhead, hrest⟩ := List.nodup_cons.mp hkeys
    rw [overlayMembers, ih hrest, lookup_put, lookup_cons_eq_ite]
    by_cases hkey : key = k
    · subst hkey
      rw [lookup_eq_none_of_notMem hhead, if_pos rfl, if_pos rfl]
    · rw [if_neg hkey, if_neg hkey]

/-- A member of an object that is laid over another is laid over what was there. -/
theorem get?_overlay (hbase : base.IsObject) (hupper : upper.IsObject) (h : upper.WellFormed)
    (key : String) :
    (overlay base upper).get? key =
      match upper.get? key with
      | some value => some (overlay ((base.get? key).getD .null) value)
      | none => base.get? key := by
  obtain ⟨lower, rfl⟩ := hbase
  obtain ⟨members, rfl⟩ := hupper
  rw [overlay]
  exact lookup_overlayMembers h.nodup

end ShellDebugger.Json
