import ShellDebugger.Host.FileTree
import ShellDebugger.Host.Path
import ShellDebugger.Settings.Decode
import ShellDebugger.Settings.JsonText
import ShellDebugger.Text.Numeral

/-!
# Layers of settings

Settings come in layers, each of which counts over those before it, setting by setting: the
built-in values, the user's settings file, the settings file of the project, and the environment.
A missing file is no layer.
-/

namespace ShellDebugger.Settings

/-- The home directory: the value of `HOME` unless it is empty, or else the one of the account. -/
def homeDirectory (env : Environment) (account : Path) : Path :=
  match env.octets? "HOME" with
  | some octets => if octets.isEmpty then account else ⟨octets⟩
  | none => account

/-- The user's settings file: below `XDG_CONFIG_HOME` if that is text, or else below the home
directory. -/
def userFile (env : Environment) (account : Path) : Path :=
  let base : Path := match env.text? "XDG_CONFIG_HOME" with
    | some text => text
    | none => homeDirectory env account / ".config"
  base / "buggywhip" / "settings.json"

def projectFile (directory : Path) : Path :=
  directory / ".buggywhip" / "settings.json"

/-- The settings files that a user has in a project, which count in this order. -/
def layers (env : Environment) (account : Path) (project : Option Path) : List Path :=
  userFile env account :: (project.map projectFile).toList

def readFile (files : FileTree) (path : Path) : Except SettingsError Json := do
  let content ← (files.read path).mapError (.unreadable path)
  match Utf8.decode? content with
  | none => .error (.unreadable path .invalidText)
  | some text =>
    match JsonText.parse text with
    | none => .error (.malformed path)
    | some (.object members) => .ok (.object members)
    | some _ => .error (.noObject path)

/-- Lays the settings files that exist over a value, first to last. -/
def layFiles (files : FileTree) (base : Json) : List Path → Except SettingsError Json
  | [] => .ok base
  | path :: rest =>
    if files.exists? path then do
      layFiles files (base.overlay (← readFile files path)) rest
    else layFiles files base rest

def withEnvironment (settings : Settings) (env : Environment) : Settings :=
  let shell := settings.shell
  let executable : Path := match env.text? "BUGGYWHIP_SHELL" with
    | some text => text
    | none => shell.executable
  let number (name : String) (other : Nat) : Nat :=
    ((env.text? name).bind Numeral.parse?).getD other
  { shell :=
      { shell with
        executable := executable
        feedCapacity := number "BUGGYWHIP_FEED_CAPACITY" shell.feedCapacity }
    list := ⟨number "BUGGYWHIP_LIST_COUNT" settings.list.count⟩
    logLevel := (env.text? "BUGGYWHIP_LOG_LEVEL").getD settings.logLevel }

def load (files : FileTree) (env : Environment) (account : Path) (project : Option Path) :
    Except SettingsError Settings := do
  let merged ← layFiles files (.object []) (layers env account project)
  let settings ← (decode merged).mapError .invalid
  return settings.withEnvironment env

end ShellDebugger.Settings
