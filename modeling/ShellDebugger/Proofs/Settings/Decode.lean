import ShellDebugger.Proofs.Host.Results
import ShellDebugger.Proofs.Settings.Json
import ShellDebugger.Settings.Decode

/-!
# Values that fit their settings

What a value means as a setting, if it fits the setting, said without errors. Decoding settings of
which each is looked up by its path succeeds exactly if every value that is found fits, and then
each setting is what its value means, or the built-in one. Nothing but the shapes of the values that
are found matters where they are objects.
-/

namespace ShellDebugger.Settings

/-! ## What values mean -/

def readText : Json → Option String
  | .text value => some value
  | _ => none

def readPath (value : Json) : Option Path :=
  (readText value).map .ofString

/-- The number that a value is, if it is an integer of 64 bits without sign. -/
def readNatural : Json → Option Nat
  | .integer value => if 0 ≤ value ∧ value < Numeral.bound then some value.toNat else none
  | _ => none

/-- The number or nothing that a value is, if it is one or the other. -/
def readLimit : Json → Option (Option Nat)
  | .null => some none
  | value => (readNatural value).map some

variable {α β : Type}

/-- The value that is chosen means something, if one is chosen. -/
def Fits (read : Json → Option α) (chosen : Option Json) : Prop :=
  ∀ value, chosen = some value → (read value).isSome

instance (read : Json → Option α) (chosen : Option Json) : Decidable (Fits read chosen) :=
  decidable_of_iff (chosen.all fun value ↦ (read value).isSome)
    (by cases chosen <;> simp [Fits])

/-- What the value that is chosen means, or the built-in value. -/
def readOr (builtIn : α) (read : Json → Option α) (chosen : Option Json) : α :=
  (chosen.bind read).getD builtIn

def settingPaths : List (List String) :=
  [["shell", "executable"], ["shell", "feed_queue_capacity"], ["shell", "output_buffer_chunks"],
    ["shell", "pipe_open_timeout_ms"], ["shell", "terminate_timeout_secs"], ["list", "count"],
    ["log_level"]]

/-- The values that are chosen for settings, by their paths, all fit. -/
structure AllFit (chosen : List String → Option Json) : Prop where
  executable : Fits readPath (chosen ["shell", "executable"])
  feedCapacity : Fits readNatural (chosen ["shell", "feed_queue_capacity"])
  outputCapacity : Fits readNatural (chosen ["shell", "output_buffer_chunks"])
  openTimeout : Fits readNatural (chosen ["shell", "pipe_open_timeout_ms"])
  terminateTimeout : Fits readLimit (chosen ["shell", "terminate_timeout_secs"])
  count : Fits readNatural (chosen ["list", "count"])
  logLevel : Fits readText (chosen ["log_level"])

/-- The settings that the chosen values mean. -/
def readAll (chosen : List String → Option Json) : Settings where
  shell :=
    let builtIn := ShellSettings.builtIn
    { executable := readOr builtIn.executable readPath (chosen ["shell", "executable"])
      feedCapacity :=
        readOr builtIn.feedCapacity readNatural (chosen ["shell", "feed_queue_capacity"])
      outputCapacity :=
        readOr builtIn.outputCapacity readNatural (chosen ["shell", "output_buffer_chunks"])
      openTimeout :=
        readOr builtIn.openTimeout readNatural (chosen ["shell", "pipe_open_timeout_ms"])
      terminateTimeout :=
        readOr builtIn.terminateTimeout readLimit (chosen ["shell", "terminate_timeout_secs"]) }
  list := ⟨readOr ListSettings.builtIn.count readNatural (chosen ["list", "count"])⟩
  logLevel := readOr builtIn.logLevel readText (chosen ["log_level"])

/-! ## Decoding one value -/

/-- A decoder gives what a value means, and fails on well-formed values that mean nothing. It does
not look into objects. -/
structure Decodes (decode : Json → Except Mismatch α) (read : Json → Option α) : Prop where
  ok : ∀ {value result}, read value = some result → decode value = .ok result
  error : ∀ {value}, value.WellFormed → read value = none → ∀ result, decode value ≠ .ok result
  shape : ∀ value, decode value.shape = decode value

/-- A decoder that takes texts and says of anything else what kind it is. -/
theorem decodes_of_text {decode : Json → Except Mismatch α} {f : String → α}
    {expected : Expected} (htext : ∀ s, decode (.text s) = .ok (f s))
    (hother : ∀ value, readText value = none →
      decode value = .error (.kind value.found expected)) :
    Decodes decode fun value ↦ (readText value).map f where
  ok := by
    intro value result hread
    obtain ⟨s, hs, rfl⟩ := Option.map_eq_some_iff.mp hread
    cases value with
    | text s' =>
      cases hs
      exact htext _
    | _ => cases hs
  error := by
    intro value _ hread result
    rw [hother value (Option.map_eq_none_iff.mp hread)]
    exact nofun
  shape := by
    intro value
    cases value with
    | object members =>
      rw [hother (.object members) rfl]
      exact hother (.object []) rfl
    | _ => rfl

theorem decodes_path : Decodes path readPath :=
  decodes_of_text (fun _ ↦ rfl) fun value hread ↦ by
    cases value <;> first | rfl | cases hread

theorem decodes_text : Decodes text readText := by
  have hmapped : Decodes text fun value ↦ (readText value).map id :=
    decodes_of_text (fun _ ↦ rfl) fun value hread ↦ by
      cases value <;> first | rfl | cases hread
  simpa only [Option.map_id_fun, id] using hmapped

theorem decodes_natural (expected : Expected) : Decodes (natural expected) readNatural where
  ok := by
    intro value result hread
    cases value with
    | integer value =>
      rw [readNatural, Option.ite_none_right_eq_some] at hread
      obtain ⟨⟨hlower, -⟩, ⟨⟩⟩ := hread
      obtain ⟨n, rfl⟩ := Int.eq_ofNat_of_zero_le hlower
      rfl
    | _ => cases hread
  error := by
    intro value hvalue hread result
    cases hvalue with
    | @integer value _ hupper =>
      have hnegative : ¬ 0 ≤ value := by
        intro hlower
        rw [readNatural, if_pos ⟨hlower, hupper⟩] at hread
        cases hread
      cases value with
      | ofNat n => exact absurd (Int.natCast_nonneg n) hnegative
      | negSucc n => exact nofun
    | _ => exact nofun
  shape value := by cases value <;> rfl

theorem readLimit_of_ne_null {value : Json} (hnull : value ≠ .null) :
    readLimit value = (readNatural value).map some := by
  cases value <;> first | rfl | exact absurd rfl hnull

theorem natural?_of_ne_null {value : Json} (hnull : value ≠ .null) (expected : Expected) :
    natural? expected value = some <$> natural expected value := by
  cases value <;> first | rfl | exact absurd rfl hnull

theorem decodes_natural? (expected : Expected) : Decodes (natural? expected) readLimit where
  ok := by
    intro value result hread
    by_cases hnull : value = .null
    · subst hnull
      cases hread
      rfl
    · rw [readLimit_of_ne_null hnull] at hread
      obtain ⟨n, hn, rfl⟩ := Option.map_eq_some_iff.mp hread
      rw [natural?_of_ne_null hnull, (decodes_natural expected).ok hn]
      rfl
  error := by
    intro value hvalue hread result
    by_cases hnull : value = .null
    · subst hnull
      cases hread
    · rw [readLimit_of_ne_null hnull, Option.map_eq_none_iff] at hread
      rw [natural?_of_ne_null hnull]
      cases hnatural : natural expected value with
      | error mismatch => exact nofun
      | ok n => exact absurd hnatural ((decodes_natural expected).error hvalue hread n)
  shape value := by cases value <;> rfl

namespace Decodes

variable {decode : Json → Except Mismatch α} {read : Json → Option α} {chosen other : Option Json}
  {builtIn : α}

theorem orBuiltIn_eq_ok (h : Decodes decode read) (hfits : Fits read chosen) :
    orBuiltIn builtIn decode chosen = .ok (readOr builtIn read chosen) := by
  cases chosen with
  | none => rfl
  | some value =>
    obtain ⟨result, hread⟩ := Option.isSome_iff_exists.mp (hfits value rfl)
    rw [orBuiltIn, h.ok hread, readOr, Option.bind_some, hread, Option.getD_some]

theorem fits_of_orBuiltIn (h : Decodes decode read)
    (hchosen : ∀ value, chosen = some value → value.WellFormed) {result : α}
    (hresult : orBuiltIn builtIn decode chosen = .ok result) : Fits read chosen := by
  rintro value rfl
  cases hread : read value with
  | some _ => rfl
  | none => exact absurd hresult (h.error (hchosen value rfl) hread result)

theorem orBuiltIn_congr (h : Decodes decode read)
    (hshape : chosen.map Json.shape = other.map Json.shape) :
    orBuiltIn builtIn decode chosen = orBuiltIn builtIn decode other := by
  have hshaped (chosen : Option Json) :
      orBuiltIn builtIn decode (chosen.map Json.shape) = orBuiltIn builtIn decode chosen := by
    cases chosen with
    | none => rfl
    | some value => exact h.shape value
  rw [← hshaped chosen, hshape, hshaped]

end Decodes

/-! ## Decoding all settings -/

/-- Decodes settings of which each is looked up by its path. -/
def decodeFrom (chosen : List String → Option Json) : Except Mismatch Settings := do
  let list ← listFrom fun name _ ↦ chosen ["list", name]
  let logLevel ← orBuiltIn builtIn.logLevel text (chosen ["log_level"])
  let shell ← shellFrom fun name _ ↦ chosen ["shell", name]
  return ⟨shell, list, logLevel⟩

variable {chosen other : List String → Option Json}

theorem decodeFrom_of_allFit (h : AllFit chosen) : decodeFrom chosen = .ok (readAll chosen) := by
  unfold decodeFrom listFrom shellFrom
  simp only [(decodes_natural _).orBuiltIn_eq_ok h.count, decodes_text.orBuiltIn_eq_ok h.logLevel,
    decodes_path.orBuiltIn_eq_ok h.executable, (decodes_natural _).orBuiltIn_eq_ok h.feedCapacity,
    (decodes_natural _).orBuiltIn_eq_ok h.outputCapacity,
    (decodes_natural _).orBuiltIn_eq_ok h.openTimeout,
    (decodes_natural? _).orBuiltIn_eq_ok h.terminateTimeout]
  rfl

theorem allFit_of_decodeFrom
    (hchosen : ∀ path value, chosen path = some value → value.WellFormed) {settings : Settings}
    (h : decodeFrom chosen = .ok settings) : AllFit chosen := by
  obtain ⟨list, hlist, h⟩ := bind_eq_ok_iff.mp h
  obtain ⟨logLevel, hlogLevel, h⟩ := bind_eq_ok_iff.mp h
  obtain ⟨shell, hshell, -⟩ := bind_eq_ok_iff.mp h
  obtain ⟨count, hcount, -⟩ := bind_eq_ok_iff.mp hlist
  obtain ⟨executable, hexecutable, hshell⟩ := bind_eq_ok_iff.mp hshell
  obtain ⟨feedCapacity, hfeedCapacity, hshell⟩ := bind_eq_ok_iff.mp hshell
  obtain ⟨outputCapacity, houtputCapacity, hshell⟩ := bind_eq_ok_iff.mp hshell
  obtain ⟨openTimeout, hopenTimeout, hshell⟩ := bind_eq_ok_iff.mp hshell
  obtain ⟨terminateTimeout, hterminateTimeout, -⟩ := bind_eq_ok_iff.mp hshell
  exact {
    executable := decodes_path.fits_of_orBuiltIn (hchosen _) hexecutable
    feedCapacity := (decodes_natural _).fits_of_orBuiltIn (hchosen _) hfeedCapacity
    outputCapacity := (decodes_natural _).fits_of_orBuiltIn (hchosen _) houtputCapacity
    openTimeout := (decodes_natural _).fits_of_orBuiltIn (hchosen _) hopenTimeout
    terminateTimeout := (decodes_natural? _).fits_of_orBuiltIn (hchosen _) hterminateTimeout
    count := (decodes_natural _).fits_of_orBuiltIn (hchosen _) hcount
    logLevel := decodes_text.fits_of_orBuiltIn (hchosen _) hlogLevel }

/-- Of the values of the settings only their shapes matter. -/
theorem decodeFrom_congr
    (hshape : ∀ path ∈ settingPaths, (chosen path).map Json.shape = (other path).map Json.shape) :
    decodeFrom chosen = decodeFrom other := by
  have hexecutable := hshape ["shell", "executable"] (by decide)
  have hfeedCapacity := hshape ["shell", "feed_queue_capacity"] (by decide)
  have houtputCapacity := hshape ["shell", "output_buffer_chunks"] (by decide)
  have hopenTimeout := hshape ["shell", "pipe_open_timeout_ms"] (by decide)
  have hterminateTimeout := hshape ["shell", "terminate_timeout_secs"] (by decide)
  have hcount := hshape ["list", "count"] (by decide)
  have hlogLevel := hshape ["log_level"] (by decide)
  unfold decodeFrom listFrom shellFrom
  simp only [decodes_path.orBuiltIn_congr hexecutable,
    (decodes_natural _).orBuiltIn_congr hfeedCapacity,
    (decodes_natural _).orBuiltIn_congr houtputCapacity,
    (decodes_natural _).orBuiltIn_congr hopenTimeout,
    (decodes_natural? _).orBuiltIn_congr hterminateTimeout,
    (decodes_natural _).orBuiltIn_congr hcount, decodes_text.orBuiltIn_congr hlogLevel]

/-! ## Sections -/

/-- The sections that are there are objects. -/
def HasSections (value : Json) : Prop :=
  ∀ name ∈ ["shell", "list"], ∀ part, value.get? name = some part → part.IsObject

theorem orBuiltIn_sectionOf {expected : Expected} {size : Nat} {builtIn : α}
    {decode : (String → Nat → Option Json) → Except Mismatch α} {value : Json} {name : String}
    (hbuiltIn : decode (fun _ _ ↦ none) = .ok builtIn)
    (hpart : ∀ part, value.get? name = some part → part.IsObject) :
    orBuiltIn builtIn (sectionOf expected size decode) (value.get? name) =
      decode fun key _ ↦ value.at? [name, key] := by
  simp only [Json.at?_pair]
  cases hget : value.get? name with
  | none => exact hbuiltIn.symm
  | some part =>
    obtain ⟨members, rfl⟩ := hpart part hget
    rfl

/-- A value whose sections are objects is decoded setting by setting. -/
theorem decode_eq_decodeFrom {value : Json} (h : HasSections value) :
    decode value = decodeFrom fun path ↦ value.at? path := by
  have hlist : listFrom (fun _ _ ↦ none) = .ok .builtIn := rfl
  have hshell : shellFrom (fun _ _ ↦ none) = .ok .builtIn := rfl
  unfold decode decodeFrom
  rw [orBuiltIn_sectionOf hlist (h "list" (by decide)),
    orBuiltIn_sectionOf hshell (h "shell" (by decide)), ← Json.at?_singleton]

end ShellDebugger.Settings
