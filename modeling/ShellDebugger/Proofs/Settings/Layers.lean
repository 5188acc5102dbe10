import Mathlib
import ShellDebugger.Proofs.Settings.Decode
import ShellDebugger.Proofs.Settings.JsonText
import ShellDebugger.Settings.Layers

/-!
# Which layer counts

Each setting on its own has the value of the last layer that has one: the variable of the
environment, the settings file of the project, the user's settings file, or the built-in value.
Whether the settings can be had at all is decided by the values that are chosen from the files
alone: a value that does not fit is no matter where another file hides it, and matters where a
variable of the environment would.
-/

namespace ShellDebugger.Settings

/-! ## Merged files -/

section Merged

variable {base upper : Json} {layers : List Json} {path : List String}

/-- A layer as it is read from a file: an object, well formed, with objects for sections. -/
structure IsLayer (value : Json) : Prop where
  isObject : value.IsObject
  wellFormed : value.WellFormed
  hasSections : HasSections value

/-- The value at a path of the last layer that has one. -/
def chosenFrom (layers : List Json) (path : List String) : Option Json :=
  layers.reverse.findSome? (·.at? path)

theorem chosenFrom_nil (path : List String) : chosenFrom [] path = none := rfl

theorem chosenFrom_cons (layer : Json) (layers : List Json) (path : List String) :
    chosenFrom (layer :: layers) path = (chosenFrom layers path).or (layer.at? path) := by
  unfold chosenFrom
  rw [List.reverse_cons, List.findSome?_append, List.findSome?_singleton]

theorem wellFormed_of_chosenFrom (hlayers : ∀ layer ∈ layers, IsLayer layer) {value : Json}
    (hchosen : chosenFrom layers path = some value) : value.WellFormed := by
  obtain ⟨layer, hlayer, hvalue⟩ := List.exists_of_findSome?_eq_some hchosen
  exact (hlayers layer (List.mem_reverse.mp hlayer)).wellFormed.at? hvalue

theorem HasSections.overlay (hsections : HasSections base) (hbase : base.IsObject)
    (hupper : IsLayer upper) : HasSections (base.overlay upper) := by
  intro name hname part hpart
  rw [Json.get?_overlay hbase hupper.isObject hupper.wellFormed] at hpart
  cases hget : upper.get? name with
  | none =>
    rw [hget] at hpart
    exact hsections name hname part hpart
  | some value =>
    rw [hget] at hpart
    cases hpart
    exact (hupper.hasSections name hname value hget).overlay _

/-- A member shows through as long as nothing is laid over it. -/
theorem get?_overlay_shape (hbase : base.IsObject) (hupper : upper.IsObject)
    (hwellFormed : upper.WellFormed) (key : String) :
    ((base.overlay upper).get? key).map Json.shape =
      ((upper.get? key).or (base.get? key)).map Json.shape := by
  rw [Json.get?_overlay hbase hupper hwellFormed]
  cases upper.get? key with
  | none => rfl
  | some value => exact congrArg some (Json.shape_overlay _ value)

/-- So does a member of a section. -/
theorem at?_pair_overlay_shape (hbase : base.IsObject) (hsections : HasSections base)
    (hupper : IsLayer upper) {name : String} (hname : name ∈ ["shell", "list"]) (key : String) :
    ((base.overlay upper).at? [name, key]).map Json.shape =
      ((upper.at? [name, key]).or (base.at? [name, key])).map Json.shape := by
  rw [Json.at?_pair, Json.at?_pair, Json.at?_pair,
    Json.get?_overlay hbase hupper.isObject hupper.wellFormed]
  cases hget : upper.get? name with
  | none => rfl
  | some part =>
    have hpart : part.IsObject := hupper.hasSections name hname part hget
    cases hlower : base.get? name with
    | none =>
      simp only [Option.getD_none, Json.overlay_null, Option.bind_some, Option.bind_none,
        Option.or_none]
    | some lower =>
      have hlower : lower.IsObject := hsections name hname lower hlower
      exact get?_overlay_shape hlower hpart (hupper.wellFormed.get? hget) key

/-- A setting shows through as long as nothing is laid over it. -/
theorem at?_overlay_shape (hbase : base.IsObject) (hsections : HasSections base)
    (hupper : IsLayer upper) (hpath : path ∈ settingPaths) :
    ((base.overlay upper).at? path).map Json.shape =
      ((upper.at? path).or (base.at? path)).map Json.shape := by
  have hpair {name : String} (hname : name ∈ ["shell", "list"]) (key : String) :=
    at?_pair_overlay_shape hbase hsections hupper hname key
  simp only [settingPaths, List.mem_cons, List.not_mem_nil, or_false] at hpath
  rcases hpath with rfl | rfl | rfl | rfl | rfl | rfl | rfl
  · exact hpair (by decide) _
  · exact hpair (by decide) _
  · exact hpair (by decide) _
  · exact hpair (by decide) _
  · exact hpair (by decide) _
  · exact hpair (by decide) _
  · rw [Json.at?_singleton, Json.at?_singleton, Json.at?_singleton]
    exact get?_overlay_shape hbase hupper.isObject hupper.wellFormed _

/-- In layers that are laid over a value one after another, each setting is the one of the last
layer that has it. -/
theorem at?_foldl_overlay_shape (hlayers : ∀ layer ∈ layers, IsLayer layer)
    (hbase : base.IsObject) (hsections : HasSections base) (hpath : path ∈ settingPaths) :
    ((layers.foldl Json.overlay base).at? path).map Json.shape =
      ((chosenFrom layers path).or (base.at? path)).map Json.shape := by
  induction layers generalizing base with
  | nil => rfl
  | cons layer rest ih =>
    obtain ⟨hlayer, hrest⟩ := List.forall_mem_cons.mp hlayers
    rw [List.foldl_cons, ih hrest (hlayer.isObject.overlay base) (hsections.overlay hbase hlayer),
      chosenFrom_cons, Option.or_assoc, Option.map_or, Option.map_or,
      at?_overlay_shape hbase hsections hlayer hpath]

theorem hasSections_foldl_overlay (hlayers : ∀ layer ∈ layers, IsLayer layer)
    (hbase : base.IsObject) (hsections : HasSections base) :
    HasSections (layers.foldl Json.overlay base) := by
  induction layers generalizing base with
  | nil => exact hsections
  | cons layer rest ih =>
    obtain ⟨hlayer, hrest⟩ := List.forall_mem_cons.mp hlayers
    exact ih hrest (hlayer.isObject.overlay base) (hsections.overlay hbase hlayer)

/-- The settings of merged layers are decoded from the last layer that has each. -/
theorem decode_foldl_overlay (hlayers : ∀ layer ∈ layers, IsLayer layer) :
    decode (layers.foldl Json.overlay (.object [])) = decodeFrom (chosenFrom layers) := by
  have hbase : (Json.object []).IsObject := ⟨[], rfl⟩
  have hsections : HasSections (.object []) := fun _ _ _ ↦ nofun
  rw [decode_eq_decodeFrom (hasSections_foldl_overlay hlayers hbase hsections)]
  refine decodeFrom_congr fun path hpath ↦ ?_
  have hnone : (Json.object []).at? path = none := by
    cases path with
    | nil => exact absurd hpath (by decide)
    | cons key rest => rfl
  rw [at?_foldl_overlay_shape hlayers hbase hsections hpath, hnone, Option.or_none]

end Merged

/-! ## Settings files -/

section Files

variable {files : FileTree} {path : Path} {value base : Json}

/-- What a settings file holds: nothing if it is not there, or else an object whose sections are
objects. -/
def Holds (files : FileTree) (path : Path) : Option Json → Prop
  | none => files.exists? path = false
  | some value => files.exists? path = true ∧ readFile files path = .ok value ∧ HasSections value

theorem isLayer_of_readFile (hread : readFile files path = .ok value)
    (hsections : HasSections value) : IsLayer value := by
  unfold readFile at hread
  obtain ⟨content, -, hread⟩ := bind_eq_ok_iff.mp hread
  split at hread
  · cases hread
  · split at hread
    · cases hread
    case h_2 members hparse =>
      cases hread
      exact ⟨⟨members, rfl⟩, JsonText.wellFormed_of_parse hparse, hsections⟩
    · cases hread

/-- The files that are there are laid over one another. -/
theorem layFiles_eq_ok {paths : List Path} {contents : List (Option Json)}
    (hholds : List.Forall₂ (Holds files) paths contents) :
    layFiles files base paths = .ok ((contents.filterMap id).foldl Json.overlay base) ∧
      ∀ layer ∈ contents.filterMap id, IsLayer layer := by
  induction hholds generalizing base with
  | nil => exact ⟨rfl, nofun⟩
  | @cons path content paths contents hholds _ ih =>
    rw [layFiles]
    cases content with
    | none =>
      rw [if_neg (by rw [show files.exists? path = false from hholds]; exact Bool.false_ne_true)]
      exact ih
    | some value =>
      obtain ⟨hexists, hread, hsections⟩ := hholds
      rw [if_pos hexists, hread]
      refine ⟨ih.1, List.forall_mem_cons.mpr ⟨isLayer_of_readFile hread hsections, ?_⟩⟩
      exact (@ih base).2

end Files

/-! ## The value that counts -/

/-- Settings of which each is the value of its variable, if it has one that is set to text and that
text is of the right kind, or else what the value chosen from the files means, or else built in. -/
structure IsLayered (env : Environment) (chosen : List String → Option Json)
    (settings : Settings) : Prop where
  executable : settings.shell.executable =
    ((env.text? "BUGGYWHIP_SHELL").map .ofString).getD
      (readOr ShellSettings.builtIn.executable readPath (chosen ["shell", "executable"]))
  feedCapacity : settings.shell.feedCapacity =
    ((env.text? "BUGGYWHIP_FEED_CAPACITY").bind Numeral.parse?).getD
      (readOr ShellSettings.builtIn.feedCapacity readNatural
        (chosen ["shell", "feed_queue_capacity"]))
  outputCapacity : settings.shell.outputCapacity =
    readOr ShellSettings.builtIn.outputCapacity readNatural
      (chosen ["shell", "output_buffer_chunks"])
  openTimeout : settings.shell.openTimeout =
    readOr ShellSettings.builtIn.openTimeout readNatural (chosen ["shell", "pipe_open_timeout_ms"])
  terminateTimeout : settings.shell.terminateTimeout =
    readOr ShellSettings.builtIn.terminateTimeout readLimit
      (chosen ["shell", "terminate_timeout_secs"])
  count : settings.list.count =
    ((env.text? "BUGGYWHIP_LIST_COUNT").bind Numeral.parse?).getD
      (readOr ListSettings.builtIn.count readNatural (chosen ["list", "count"]))
  logLevel : settings.logLevel =
    (env.text? "BUGGYWHIP_LOG_LEVEL").getD
      (readOr builtIn.logLevel readText (chosen ["log_level"]))

theorem isLayered_withEnvironment (env : Environment) (chosen : List String → Option Json) :
    IsLayered env chosen ((readAll chosen).withEnvironment env) where
  executable := by
    unfold withEnvironment
    cases env.text? "BUGGYWHIP_SHELL" <;> rfl
  feedCapacity := rfl
  outputCapacity := rfl
  openTimeout := rfl
  terminateTimeout := rfl
  count := rfl
  logLevel := rfl

/-- What settings files that hold some contents make of the settings. -/
theorem load_of_forall₂_holds {files : FileTree} {env : Environment} {account : Path}
    {project : Option Path} {contents : List (Option Json)}
    (hholds : List.Forall₂ (Holds files) (layers env account project) contents) :
    let chosen := chosenFrom (contents.filterMap id)
    (AllFit chosen → ∃ settings, load files env account project = .ok settings ∧
      IsLayered env chosen settings) ∧
    (¬AllFit chosen → ∃ mismatch, load files env account project = .error (.invalid mismatch)) := by
  intro chosen
  obtain ⟨hmerged, hlayers⟩ := layFiles_eq_ok hholds
  have hload : load files env account project = (do
      let settings ← (decodeFrom chosen).mapError .invalid
      return settings.withEnvironment env) := by
    unfold load
    rw [hmerged, ← decode_foldl_overlay hlayers]
    rfl
  rw [hload]
  constructor
  · intro hfit
    rw [decodeFrom_of_allFit hfit]
    exact ⟨_, rfl, isLayered_withEnvironment env chosen⟩
  · intro hunfit
    cases hdecode : decodeFrom chosen with
    | error mismatch => exact ⟨mismatch, rfl⟩
    | ok settings =>
      refine absurd (allFit_of_decodeFrom (fun path value hvalue ↦ ?_) hdecode) hunfit
      exact wellFormed_of_chosenFrom hlayers hvalue

/-- Each setting has the value of its variable of the environment, or else of the settings file of
the project, or else of the user's settings file, or else the built-in value. There are no settings
exactly if a value that is chosen from the files does not fit. -/
theorem load_eq_layered (files : FileTree) (env : Environment) (account : Path)
    (project : Option Path) (user own : Option Json)
    (huser : Holds files (userFile env account) user)
    (hown : match project with
      | some directory => Holds files (projectFile directory) own
      | none => own = none) :
    let chosen (path : List String) : Option Json :=
      (own.bind (·.at? path)).or (user.bind (·.at? path))
    (AllFit chosen → ∃ settings, load files env account project = .ok settings ∧
      IsLayered env chosen settings) ∧
    (¬AllFit chosen → ∃ mismatch, load files env account project = .error (.invalid mismatch)) := by
  intro chosen
  have hchosen : chosenFrom ([user, own].filterMap id) = chosen := by
    funext path
    cases user <;> cases own <;> simp [chosenFrom_cons, chosenFrom_nil, chosen]
  rw [← hchosen]
  cases project with
  | some directory => exact load_of_forall₂_holds (.cons huser (.cons hown .nil))
  | none =>
    subst hown
    have halone : [user, none].filterMap id = [user].filterMap id := by cases user <;> rfl
    rw [halone]
    exact load_of_forall₂_holds (.cons huser .nil)

/-! A settings file of the user in `/c` and one of the project in `/p`, of which each sets the count
of a page. -/

def ofSetting (name key : String) (value : Json) : Json :=
  .object [(name, .object [(key, value)])]

theorem hasSections_ofSetting (name key : String) (value : Json) :
    HasSections (ofSetting name key value) := by
  intro name' _ part hpart
  rw [Json.get?, ofSetting, Json.members, Json.lookup_cons_eq_ite] at hpart
  split at hpart
  · cases hpart
    exact ⟨_, rfl⟩
  · cases hpart

def sampleFiles : FileTree :=
  ((FileTree.mk [] []).install "/c/buggywhip/settings.json"
    (.file (Utf8.encode "\x7b\"list\":\x7b\"count\":null\x7d\x7d"))).install
    "/p/.buggywhip/settings.json" (.file (Utf8.encode "\x7b\"list\":\x7b\"count\":5\x7d\x7d"))

/-- A variable sets the capacity of the queue. -/
def sampleEnvironment : Environment :=
  ⟨[("XDG_CONFIG_HOME", Utf8.encode "/c"), ("BUGGYWHIP_FEED_CAPACITY", Utf8.encode "7")]⟩

/-- A count that does not fit is hidden by that of the project, and a variable counts over the
built-in value. -/
theorem load_eq_layered_hidden_mismatch :
    ∃ settings, load sampleFiles sampleEnvironment "/r" (some "/p") = .ok settings ∧
      settings.list.count = 5 ∧ settings.shell.feedCapacity = 7 := by
  have huser : Holds sampleFiles (userFile sampleEnvironment "/r")
      (some (ofSetting "list" "count" .null)) :=
    ⟨by cbv, by cbv, hasSections_ofSetting _ _ _⟩
  have hown : Holds sampleFiles (projectFile "/p")
      (some (ofSetting "list" "count" (.integer 5))) :=
    ⟨by cbv, by cbv, hasSections_ofSetting _ _ _⟩
  have hfit : AllFit fun path ↦
      ((some (ofSetting "list" "count" (.integer 5))).bind (·.at? path)).or
        ((some (ofSetting "list" "count" .null)).bind (·.at? path)) :=
    ⟨by decide, by decide, by decide, by decide, by decide, by decide, by decide⟩
  have hload := load_eq_layered _ sampleEnvironment "/r" (some "/p") _ _ huser hown
  obtain ⟨settings, hsettings, hlayered⟩ := hload.1 hfit
  refine ⟨settings, hsettings, ?_, ?_⟩
  · exact hlayered.count.trans (by cbv)
  · exact hlayered.feedCapacity.trans (by cbv)

end ShellDebugger.Settings
