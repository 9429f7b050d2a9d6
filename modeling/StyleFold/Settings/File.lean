import StyleFold.Data.Toml.Document
import StyleFold.Data.Yaml.Document
import StyleFold.Settings
import StyleFold.Text.Extension

/-!
Settings files, whose extension tells their format. A section for the styling library is
used in place of the whole file when there is one.
-/

namespace StyleFold.Settings

inductive Format where
  | toml
  | yaml
  deriving DecidableEq, Repr

def Format.ofPath? (path : String) : Option Format :=
  match Text.extension path with
  | ".toml" => some .toml
  | ".yaml" | ".yml" => some .yaml
  | _ => none

def Format.data (format : Format) (text : String) : Except Failure Data :=
  match format with
  | .toml => (Toml.read? text).elim (.error .malformed) .ok
  | .yaml => Yaml.read text

def sectionKey : String := "stylex"

def sectionOf (data : Data) : Data :=
  match data with
  | .map entries =>
      match Data.lookup? sectionKey entries with
      | some (.map inner) => .map inner
      | _ => data
  | _ => data

/-- What a message calls the type of a file: its extension, or the whole name without one. -/
def typeName (path : String) : String :=
  let extension := Text.extension path
  if extension.isEmpty then path else extension

def isUnusable (path : String) : Bool := path.toList.contains '\x00'

def load (files : Files) (path : String) : Except Fault Settings :=
  match Format.ofPath? path with
  | none => .error (.settingsUnsupported (typeName path))
  | some format =>
      if isUnusable path then .error .unusablePath
      else match files path with
      | .error why => .error (.settingsUnreadable path why)
      | .ok text =>
          match format.data text with
          | .error why => .error (.ofFailure (.settingsMalformed path) why)
          | .ok data => ofData (sectionOf data)

end StyleFold.Settings
