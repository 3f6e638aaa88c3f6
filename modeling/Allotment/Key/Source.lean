import Allotment.Files.Basic
import Allotment.Json.Decode
import Allotment.Key.Secret
import Allotment.Text.LowerCase

/-!
# Where keys and settings are found

A key comes from an environment variable or from a file. Paths may start at the home directory; the settings of a
service are in a directory of its own below the directory for configuration.
-/

namespace Allotment

/-- The values of environment variables, those that are set. -/
abbrev Environment (m : Type → Type) := (name : String) → m (Option String)

/-! ## Directories -/

namespace Path

variable {m : Type → Type} [Monad m]

/-- The home directory. -/
def home (environment : Environment m) : m Path := do
  return ⟨(← environment "HOME").getD "/tmp"⟩

/-- A path with the home directory in the place of a tilde at its start. -/
def expandFrom (home path : Path) : Path :=
  match path.text.toList with
  | '~' :: '/' :: rest => home.join ⟨String.ofList rest⟩
  | ['~'] => home
  | _ => path

/-- A path with the home directory in the place of a tilde at its start. -/
def expand (environment : Environment m) (path : Path) : m Path := do
  return expandFrom (← home environment) path

/-- The directory for configuration. -/
def configHome (environment : Environment m) : m Path := do
  match ← environment "XDG_CONFIG_HOME" with
  | some directory => return ⟨directory⟩
  | none => return (← home environment).join ⟨".config"⟩

/-- The directory for the settings of a service. -/
def configDirectory (environment : Environment m) (service : String) : m Path := do
  return (← configHome environment).join ⟨Text.lowerCase service⟩

/-- The file for the settings of a service. -/
def settingsFile (environment : Environment m) (service : String) : m Path := do
  return (← configDirectory environment service).join ⟨"settings.json"⟩

/-- Takes a path out of a document. -/
def decoder : Json.Decoder Path
  | _, .string pieces => (Json.decodePieces pieces).map Path.mk
  | _, document => .error (Json.wrongType "path string" document)

end Path

/-! ## Keys -/

/-- Where a key comes from. -/
inductive KeySource where
  | env (name : String)
  | file (path : Path)
  deriving DecidableEq

namespace KeySource

/-- The variable that holds the key unless settings say otherwise. -/
def standard : KeySource := .env "AUTO_CLAIM_PRIVATE_KEY"

/-- The text of a source. -/
def text : KeySource → String
  | .env name => "env:" ++ name
  | .file path => "file:" ++ path.text

/-- A source as JSON: an object with one member that tells the kind. -/
def toJson : KeySource → Json
  | .env name => .object [("env", .string name)]
  | .file path => .object [("file", .string path.text)]

/-- The kinds of sources. -/
inductive Kind where
  | env
  | file
  deriving DecidableEq

/-- The kind that a name stands for. -/
def Kind.decode : Json.Document → Except Json.Fault Kind
  | .string pieces => do
    let name ← Json.decodePieces pieces
    if name = "env" then return .env
    else if name = "file" then return .file
    else throw (.unknownVariant name "`env` or `file`")
  | _ => .error .malformed

/-- Takes a source out of a document. -/
def decoder : Json.Decoder KeySource
  | depth, .object ((name, value) :: others) =>
    Json.Decoder.enter depth fun depth => do
      let source ← match ← Kind.decode name with
        | .env => KeySource.env <$> Json.Decoder.string depth value
        | .file => KeySource.file <$> Path.decoder depth value
      if others.isEmpty then return source else throw .malformed
  | _, .string pieces => do
    let _ ← Kind.decode (.string pieces)
    throw (.wrongType .unitVariant "newtype variant")
  | _, _ => .error .malformed

end KeySource

/-- Why there is no key. -/
inductive KeyError where
  | unsetVariable (name : String)
  | absentFile (path : Path)
  | unreadable (cause : FileError)
  | invalidFormat
  deriving DecidableEq

/-- The wording of an error. -/
def KeyError.message : KeyError → String
  | .unsetVariable name => "Signing key not provided: environment variable " ++ name ++ " is not set"
  | .absentFile path => "Signing key not provided: key file " ++ path.text ++ " does not exist"
  | .unreadable cause => "Failed to read key file: " ++ cause.message
  | .invalidFormat => "Invalid key format"

namespace Secret

variable {m : Type → Type} [Monad m]

/-- The secret or, if there is none, what is wrong. -/
def orInvalid : Option Secret → Except KeyError Secret
  | some secret => .ok secret
  | none => .error .invalidFormat

/-- The secret in a file. -/
def loadFile (files : Files m) (path : Path) : m (Except KeyError Secret) := do
  if ← files.present path then
    match ← files.read path with
    | .ok contents => return orInvalid (ofContents? contents)
    | .error cause => return .error (.unreadable cause)
  else return .error (.absentFile path)

/-- The secret in the value of a variable, which must be set and not blank. -/
def ofVariable (name : String) : Option String → Except KeyError Secret
  | some value => if Text.isBlankText value then .error (.unsetVariable name) else orInvalid (ofHex? value)
  | none => .error (.unsetVariable name)

/-- The secret from a source. -/
def load (files : Files m) (environment : Environment m) : KeySource → m (Except KeyError Secret)
  | .env name => do return ofVariable name (← environment name)
  | .file path => do loadFile files (← path.expand environment)

end Secret

end Allotment
