import Mathlib.Tactic.ByContra
import ShellDebugger.Proofs.Settings.Json

/-!
# Overlays path by path

What stands at the end of a path of keys in a value that was laid over another one, at any depth.
The upper value counts where it has anything, and where both have objects these are laid over one
another. Where the upper value has nothing the lower one shows through, unless the way there leads
through something of the upper value that is no object. An object laid over itself is itself, and an
empty object is as good as none, on either side.
-/

namespace ShellDebugger.Json

variable {key : String} {path : List String} {value base upper : Json}
  {members lower : List (String × Json)}

/-! ## Paths -/

theorem at?_append (value : Json) (first rest : List String) :
    value.at? (first ++ rest) = (value.at? first).bind (at? rest) := by
  induction first generalizing value with
  | nil => rfl
  | cons key first ih =>
    calc value.at? (key :: (first ++ rest))
      _ = (value.get? key).bind fun member ↦ (member.at? first).bind (at? rest) :=
        congrArg (value.get? key).bind (funext ih)
      _ = _ := (Option.bind_assoc ..).symm

theorem isObject_of_get? (hget : value.get? key ≠ none) : value.IsObject := by
  cases value with
  | object members => exact ⟨members, rfl⟩
  | _ => exact absurd rfl hget

/-- Below what is no object there is nothing. -/
theorem at?_eq_none (h : ¬ value.IsObject) (hpath : path ≠ []) : value.at? path = none := by
  cases path with
  | nil => exact absurd rfl hpath
  | cons key path =>
    have hget : value.get? key = none := by_contra fun hne ↦ h (isObject_of_get? hne)
    rw [at?, hget, Option.bind_none]

/-- The way along a path leads through something that is no object. -/
def Blocks (value : Json) (path : List String) : Prop :=
  ∃ first rest found, path = first ++ rest ∧ first ≠ [] ∧ rest ≠ [] ∧
    value.at? first = some found ∧ ¬ found.IsObject

theorem Blocks.cons {member : Json} (h : member.Blocks path) (hget : value.get? key = some member) :
    value.Blocks (key :: path) := by
  obtain ⟨first, rest, found, rfl, -, hrest, hfound, hobject⟩ := h
  refine ⟨key :: first, rest, found, rfl, List.cons_ne_nil key first, hrest, ?_, hobject⟩
  rw [at?, hget]
  exact hfound

/-! ## What is laid over what -/

theorem overlay_of_not_isObject_left (hbase : ¬ base.IsObject) : overlay base upper = upper := by
  cases upper with
  | object members =>
    cases base with
    | object lower => exact absurd ⟨lower, rfl⟩ hbase
    | _ => simp [overlay]
  | _ => simp [overlay]

theorem overlay_of_not_isObject_right (hupper : ¬ upper.IsObject) : overlay base upper = upper := by
  cases upper with
  | object members => exact absurd ⟨members, rfl⟩ hupper
  | _ => simp [overlay]

theorem not_isObject_null : ¬ IsObject .null := by
  rintro ⟨members, ⟨⟩⟩

/-- To go on from a member that may be missing is to go on from null, which leads nowhere. -/
theorem at?_getD_null (value : Json) (key : String) (path : List String) :
    (((value.get? key).getD .null).at? path).getD .null = (value.at? (key :: path)).getD .null := by
  rw [at?]
  cases value.get? key with
  | some member => rfl
  | none =>
    by_cases hpath : path = []
    · subst hpath
      rfl
    · rw [Option.getD_none, at?_eq_none not_isObject_null hpath, Option.bind_none]

/-- Where the upper value has something, it is laid over what the lower one has there. -/
theorem at?_overlay_of_some (h : upper.WellFormed) (base : Json)
    (hfound : upper.at? path = some value) :
    (overlay base upper).at? path = some (overlay ((base.at? path).getD .null) value) := by
  induction path generalizing base upper with
  | nil =>
    cases hfound
    rfl
  | cons key path ih =>
    obtain ⟨member, hmember, hrest⟩ := Option.bind_eq_some_iff.mp hfound
    have hupper : upper.IsObject := isObject_of_get? fun hnone ↦ nomatch hmember.symm.trans hnone
    by_cases hbase : base.IsObject
    · calc (overlay base upper).at? (key :: path)
        _ = (overlay ((base.get? key).getD .null) member).at? path := by
          rw [at?, get?_overlay hbase hupper h, hmember]
          rfl
        _ = some (overlay ((((base.get? key).getD .null).at? path).getD .null) value) :=
          ih (h.get? hmember) _ hrest
        _ = _ := by rw [at?_getD_null]
    · rw [overlay_of_not_isObject_left hbase, hfound,
        at?_eq_none hbase (List.cons_ne_nil key path), Option.getD_none, overlay_null]

/-- Where the upper value has nothing the lower one shows through, unless the way is blocked. -/
theorem at?_overlay_of_none (hupper : upper.IsObject) (h : upper.WellFormed) (base : Json)
    (hnone : upper.at? path = none) (hfree : ¬ upper.Blocks path) :
    (overlay base upper).at? path = base.at? path := by
  induction path generalizing base upper with
  | nil => cases hnone
  | cons key path ih =>
    by_cases hbase : base.IsObject
    · rw [at?, at?, get?_overlay hbase hupper h]
      cases hget : upper.get? key with
      | none => rfl
      | some member =>
        rw [at?, hget, Option.bind_some] at hnone
        have hpath : path ≠ [] := by
          rintro rfl
          cases hnone
        have hmember : member.IsObject := by
          by_contra hobject
          refine hfree ⟨[key], path, member, rfl, List.cons_ne_nil key [], hpath, ?_, hobject⟩
          rw [at?_singleton, hget]
        have hrest := ih hmember (h.get? hget) ((base.get? key).getD .null) hnone
          fun hblocks ↦ hfree (hblocks.cons hget)
        refine hrest.trans ?_
        cases base.get? key with
        | some under => rfl
        | none => exact at?_eq_none not_isObject_null hpath
    · rw [overlay_of_not_isObject_left hbase, hnone,
        at?_eq_none hbase (List.cons_ne_nil key path)]

/-- Behind something of the upper value that is no object there is nothing. -/
theorem at?_overlay_of_blocks (h : upper.WellFormed) (base : Json) (hblocks : upper.Blocks path) :
    (overlay base upper).at? path = none := by
  obtain ⟨first, rest, found, rfl, -, hrest, hfound, hobject⟩ := hblocks
  rw [at?_append, at?_overlay_of_some h base hfound, overlay_of_not_isObject_right hobject,
    Option.bind_some, at?_eq_none hobject hrest]

/-! ## Objects that change nothing -/

theorem put_eq_self (hlookup : members.lookup key = some value) :
    put key value members = members := by
  induction members with
  | nil => cases hlookup
  | cons member rest ih =>
    obtain ⟨k, v⟩ := member
    rw [lookup_cons_eq_ite] at hlookup
    rw [put]
    by_cases hkey : key = k
    · rw [if_pos hkey] at hlookup
      cases hlookup
      rw [if_pos hkey.symm]
    · rw [if_neg hkey] at hlookup
      rw [if_neg (Ne.symm hkey), ih hlookup]

theorem put_eq_concat (hkey : key ∉ members.map Prod.fst) :
    put key value members = members ++ [(key, value)] := by
  induction members with
  | nil => rfl
  | cons member rest ih =>
    obtain ⟨hhead, hrest⟩ := List.ne_and_not_mem_of_not_mem_cons hkey
    rw [put, if_neg (Ne.symm hhead), ih hrest]
    rfl

theorem lookup_of_mem (hkeys : (members.map Prod.fst).Nodup) (hmember : (key, value) ∈ members) :
    members.lookup key = some value := by
  induction members with
  | nil => cases hmember
  | cons member rest ih =>
    obtain ⟨hhead, hrest⟩ := List.nodup_cons.mp hkeys
    rw [lookup_cons_eq_ite]
    rcases List.mem_cons.mp hmember with rfl | hmember
    · rw [if_pos rfl]
    · have hne : key ≠ member.1 := by
        rintro rfl
        exact hhead (List.mem_map.mpr ⟨_, hmember, rfl⟩)
      rw [if_neg hne, ih hrest hmember]

/-- Members that are there already, and that stay themselves, change nothing. -/
theorem overlayMembers_eq_self
    (hthere : ∀ member ∈ members, lower.lookup member.1 = some member.2)
    (hself : ∀ member ∈ members, overlay member.2 member.2 = member.2) :
    overlayMembers lower members = lower := by
  induction members with
  | nil => rw [overlayMembers]
  | cons member rest ih =>
    obtain ⟨k, v⟩ := member
    have hlookup : lower.lookup k = some v := hthere (k, v) List.mem_cons_self
    have hoverlay : overlay v v = v := hself (k, v) List.mem_cons_self
    rw [overlayMembers, hlookup, Option.getD_some, hoverlay, put_eq_self hlookup]
    exact ih (fun member hmember ↦ hthere member (List.mem_cons_of_mem _ hmember))
      fun member hmember ↦ hself member (List.mem_cons_of_mem _ hmember)

/-- Members of other keys are added in their order. -/
theorem overlayMembers_eq_append (hkeys : ((lower ++ members).map Prod.fst).Nodup) :
    overlayMembers lower members = lower ++ members := by
  induction members generalizing lower with
  | nil => rw [overlayMembers, List.append_nil]
  | cons member rest ih =>
    obtain ⟨k, v⟩ := member
    have hnew : k ∉ lower.map Prod.fst := by
      rw [List.map_append, List.map_cons] at hkeys
      exact fun hmem ↦ (List.nodup_append.mp hkeys).2.2 k hmem k List.mem_cons_self rfl
    rw [overlayMembers, lookup_eq_none_of_notMem hnew, Option.getD_none, overlay_null,
      put_eq_concat hnew, ih (by rwa [List.append_assoc, List.singleton_append]),
      List.append_assoc, List.singleton_append]

theorem overlay_self (h : value.WellFormed) : overlay value value = value := by
  induction h with
  | object hkeys _ ih =>
    rw [overlay]
    exact congrArg Json.object
      (overlayMembers_eq_self (fun member hmember ↦ lookup_of_mem hkeys hmember) ih)
  | _ =>
    apply overlay_of_not_isObject_right
    rintro ⟨members, ⟨⟩⟩

theorem overlay_empty_right (hbase : base.IsObject) : overlay base (.object []) = base := by
  obtain ⟨lower, rfl⟩ := hbase
  rw [overlay, overlayMembers]

theorem overlay_empty_left (hupper : upper.IsObject) (h : upper.WellFormed) :
    overlay (.object []) upper = upper := by
  obtain ⟨members, rfl⟩ := hupper
  rw [overlay]
  exact congrArg Json.object (overlayMembers_eq_append h.nodup)

/-- One object laid over another, at the end of every path: what the upper one has there counts
unless it is an object, two objects are laid over one another, and what the upper one has not is
that of the lower one unless the way there is blocked. So an object laid over itself is itself, an
empty one is neutral on both sides, and no path leads anywhere that led nowhere in both. -/
theorem overlay_pathwise (hbase : base.IsObject) (hbaseFormed : base.WellFormed)
    (hupper : upper.IsObject) (hupperFormed : upper.WellFormed) :
    (∀ path, path ≠ [] →
      (∀ value, upper.at? path = some value → ¬ value.IsObject →
        (overlay base upper).at? path = some value) ∧
      (∀ value, upper.at? path = some value → value.IsObject →
        (∀ under, base.at? path = some under → under.IsObject →
          (overlay base upper).at? path = some (overlay under value)) ∧
        ((∀ under, base.at? path = some under → ¬ under.IsObject) →
          (overlay base upper).at? path = some value)) ∧
      (upper.at? path = none →
        (¬ upper.Blocks path → (overlay base upper).at? path = base.at? path) ∧
        (upper.Blocks path → (overlay base upper).at? path = none))) ∧
    overlay base base = base ∧
    overlay base (.object []) = base ∧
    overlay (.object []) upper = upper ∧
    ∀ path, (overlay base upper).at? path ≠ none →
      base.at? path ≠ none ∨ upper.at? path ≠ none := by
  refine ⟨fun path _ ↦ ⟨?_, ?_, ?_⟩, overlay_self hbaseFormed, overlay_empty_right hbase,
    overlay_empty_left hupper hupperFormed, fun path hfound ↦ ?_⟩
  · intro value hvalue hobject
    rw [at?_overlay_of_some hupperFormed base hvalue, overlay_of_not_isObject_right hobject]
  · intro value hvalue _
    have hlaid := at?_overlay_of_some hupperFormed base hvalue
    refine ⟨fun under hunder _ ↦ ?_, fun hunder ↦ ?_⟩
    · rw [hlaid, hunder, Option.getD_some]
    · have hleft : ¬ ((base.at? path).getD .null).IsObject := by
        cases hat : base.at? path with
        | none => exact not_isObject_null
        | some under => exact hunder under hat
      rw [hlaid, overlay_of_not_isObject_left hleft]
  · intro hnone
    exact ⟨at?_overlay_of_none hupper hupperFormed base hnone,
      at?_overlay_of_blocks hupperFormed base⟩
  · by_contra hneither
    obtain ⟨hbelow, habove⟩ := not_or.mp hneither
    have hnone : upper.at? path = none := not_not.mp habove
    by_cases hblocks : upper.Blocks path
    · exact hfound (at?_overlay_of_blocks hupperFormed base hblocks)
    · rw [at?_overlay_of_none hupper hupperFormed base hnone hblocks] at hfound
      exact hbelow hfound

def sampleLower : Json :=
  .object [("list", .object [("count", .integer 5)]), ("shell", .text "sh")]

/-- Another setting of the section, and a section in place of the text. -/
def sampleUpper : Json :=
  .object [("list", .object [("size", .null)]), ("shell", .object [])]

theorem wellFormed_section (key : String) (h : value.WellFormed) :
    WellFormed (.object [(key, value)]) :=
  .object (List.pairwise_singleton _ key) (List.forall_mem_singleton.mpr h)

theorem wellFormed_sampleLower : sampleLower.WellFormed :=
  .object (by decide) <| List.forall_mem_cons.mpr
    ⟨wellFormed_section "count" (.integer (by decide) (by decide)),
      List.forall_mem_singleton.mpr (.text "sh")⟩

theorem wellFormed_sampleUpper : sampleUpper.WellFormed :=
  .object (by decide) <| List.forall_mem_cons.mpr
    ⟨wellFormed_section "size" .null,
      List.forall_mem_singleton.mpr (.object List.nodup_nil (List.forall_mem_nil _))⟩

/-- The sections are laid over one another, and the text gives way to the other section. -/
theorem overlay_pathwise_two_sections :
    (overlay sampleLower sampleUpper).at? ["list", "size"] = some .null ∧
      (overlay sampleLower sampleUpper).at? ["list", "count"] = some (.integer 5) ∧
      (overlay sampleLower sampleUpper).at? ["shell"] = some (.object []) := by
  have hpathwise := (overlay_pathwise ⟨_, rfl⟩ wellFormed_sampleLower ⟨_, rfl⟩
    wellFormed_sampleUpper).1
  have hfree : ¬ sampleUpper.Blocks ["list", "count"] := by
    rintro ⟨first, rest, found, hpath, hfirst, hrest, hfound, hobject⟩
    -- The only way to cut the path is behind the section, which is an object.
    have hsection : first = ["list"] := by
      match first, rest with
      | [], _ => exact absurd rfl hfirst
      | [_], _ => cases hpath; rfl
      | [_, _], [] => exact absurd rfl hrest
    subst hsection
    cases hfound
    exact hobject ⟨_, rfl⟩
  refine ⟨?_, ?_, ?_⟩
  · exact (hpathwise ["list", "size"] (List.cons_ne_nil _ _)).1 .null rfl not_isObject_null
  · exact ((hpathwise ["list", "count"] (List.cons_ne_nil _ _)).2.2 rfl).1 hfree
  · refine ((hpathwise ["shell"] (List.cons_ne_nil _ _)).2.1 (.object []) rfl ⟨_, rfl⟩).2 ?_
    rintro under ⟨⟩ ⟨members, hmembers⟩
    cases hmembers

end ShellDebugger.Json
