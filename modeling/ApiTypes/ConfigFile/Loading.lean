import ApiTypes.ConfigFile.Toml
import ApiTypes.ConfigFile.Yaml
import ApiTypes.FileAccess
import ApiTypes.FilePath
import ApiTypes.Text.Utf8

/-!
# Loading config files

A file whose extension is `toml` is TOML, any other one YAML. The paths in it are taken from the
directory that it lies in.

## Main definitions

* `ConfigFile.load` — the config file at a path
* `ConfigError` — why there is none
-/

namespace ApiTypes

/-- The format of a config file. -/
inductive ConfigFile.Format where
  | yaml
  | toml
deriving DecidableEq, Repr

/-- Why a config file cannot be used. -/
inductive ConfigError where
  | unreadable (path : String)
  | malformed (path : String) (format : ConfigFile.Format)
  | unsupportedVersion (version : Nat)
deriving DecidableEq, Repr

namespace ConfigError

/-- The error in words. -/
def message : ConfigError → String
  | unreadable path => "failed to read config file `" ++ path ++ "`"
  | malformed path _ => "failed to parse config file `" ++ path ++ "`"
  | unsupportedVersion version => "unsupported config file version " ++ toString version

/-- Advice on the error. -/
def help? : ConfigError → Option String
  | unsupportedVersion _ =>
    some ("the only supported version is " ++ toString ConfigFile.supportedVersion)
  | _ => none

end ConfigError

namespace ConfigFile

/-- The format of the file at a path. -/
def Format.ofPath (path : String) : Format :=
  if FilePath.extension? path = some "toml" then .toml else .yaml

/-- The config file that a text in the format holds. -/
def ofText? (format : Format) (text : String) : Option ConfigFile :=
  match format with
  | .yaml => ofYaml? text
  | .toml => ofToml? text

/-- The file with its paths taken from a directory. -/
def within (directory : String) (file : ConfigFile) : ConfigFile :=
  { file with
    input := file.input.map (FilePath.resolve directory)
    output := file.output.map (FilePath.resolve directory) }

/-- The config file in the bytes of the file at a path, if it could be read. -/
def ofBytes (path : String) (bytes : Option (List UInt8)) : Except ConfigError ConfigFile := do
  let some text := bytes.bind Utf8.decode? | throw (.unreadable path)
  let format := Format.ofPath path
  let some file := ofText? format (String.ofList text) | throw (.malformed path format)
  match file.version with
  | some version => if version ≠ supportedVersion then throw (.unsupportedVersion version)
  | none => pure ()
  return file.within ((FilePath.parent? path).getD "")

/-- The config file at a path. -/
def load {m : Type → Type} [Monad m] [FileAccess m] (path : String) :
    m (Except ConfigError ConfigFile) := do
  return ofBytes path (← FileAccess.read path)

end ConfigFile

end ApiTypes
