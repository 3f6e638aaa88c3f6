import Allotment.Settings.Config

/-!
# Settings files

Settings are a configuration together with the file it lives in. A file that is named must be there; the file of a
service is made with the standard configuration when it is missing.
-/

namespace Allotment

/-- A configuration and its file. -/
structure Settings where
  config : Config
  path : Path

/-- Why settings are not loaded or not saved. -/
inductive SettingsError where
  | notFound (path : Path)
  | unreadable (cause : FileError)
  | unwritable (cause : FileError)
  | undecodable (path : Path) (fault : Json.Fault)
  | noDirectory (cause : FileError)

/-- The wording of an error. -/
def SettingsError.message : SettingsError → String
  | .notFound path => "Settings file not found: " ++ path.text
  | .unreadable cause => "Failed to read settings: " ++ cause.message
  | .unwritable cause => "Failed to write settings: " ++ cause.message
  | .undecodable path fault => "Failed to parse settings " ++ path.text ++ ": " ++ fault.message
  | .noDirectory cause => "Failed to create directory: " ++ cause.message

namespace Settings

variable {m : Type → Type} [Monad m]

/-- The configuration in a file. -/
def readConfig (files : Files m) (path : Path) : m (Except SettingsError Config) := do
  match ← files.readText path with
  | .error cause => return .error (.unreadable cause)
  | .ok text =>
    match Config.ofText text with
    | .error fault => return .error (.undecodable path fault)
    | .ok config => return .ok config

/-- The settings in a file that is there. -/
def read (files : Files m) (path : Path) : m (Except SettingsError Settings) := do
  return (← readConfig files path).map (⟨·, path⟩)

/-- Loads settings from a file, which must be there. -/
def load (files : Files m) (path : Path) : m (Except SettingsError Settings) := do
  if ← files.present path then read files path else return .error (.notFound path)

/-- Writes settings to their file. -/
def write (files : Files m) (s : Settings) : m (Except SettingsError Unit) := do
  match ← files.write s.path s.config.pretty.toUTF8 with
  | .ok () => return .ok ()
  | .error cause => return .error (.unwritable cause)

/-- Saves settings to their file, making the directory of the file when it is missing. -/
def save (files : Files m) (s : Settings) : m (Except SettingsError Unit) := do
  match s.path.parent? with
  | none => write files s
  | some parent =>
    if parent.text.isEmpty then write files s
    else match ← files.createDirectories parent with
      | .error cause => return .error (.noDirectory cause)
      | .ok () => write files s

/-- Loads settings from a file; a missing one is made with the standard configuration. -/
def loadOrCreate (files : Files m) (path : Path) : m (Except SettingsError Settings) := do
  if ← files.present path then read files path
  else
    let settings : Settings := ⟨Config.standard, path⟩
    match ← settings.save files with
    | .error e => return .error e
    | .ok () => return .ok settings

/-- Loads the settings of a service from the given file or else from its own, which is made when it is missing. -/
def loadOrDefault (files : Files m) (environment : Environment m) (service : String) (path : Option Path) :
    m (Except SettingsError Settings) := do
  match path with
  | some path => loadOrCreate files path
  | none => loadOrCreate files (← Path.settingsFile environment service)

/-- Loads the settings that a program starts with: from a file that is named, which must be there, or else those of
the service. -/
def start (files : Files m) (environment : Environment m) (service : String) (path : Option Path) :
    m (Except SettingsError Settings) :=
  match path with
  | some path => load files path
  | none => loadOrDefault files environment service none

end Settings

end Allotment
