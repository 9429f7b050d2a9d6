import StyleFold.Data.Json
import StyleFold.Data.Yaml.Document
import StyleFold.Text.Blank
import StyleFold.Text.Extension
import StyleFold.Tree.Node

/-!
Tree files. The name of a file tells its format; failing that, text that begins with a bracket
or a brace is JSON and all other text YAML. The root of a tree is a whole module or script.
-/

namespace StyleFold

namespace TreeFile

inductive Format where
  | json
  | yaml
  deriving DecidableEq, Repr

namespace Format

def word : Format → String
  | .json => "json"
  | .yaml => "yaml"

def ofWord? (word : String) : Option Format :=
  match word with
  | "json" => some .json
  | "yaml" => some .yaml
  | _ => none

def ofPath? (path : String) : Option Format :=
  match Text.extension path with
  | ".json" => some .json
  | ".yaml" | ".yml" => some .yaml
  | _ => none

def ofText (text : String) : Format :=
  match text.toList.dropWhile Text.isBlank with
  | '\x7b' :: _ | '[' :: _ => .json
  | _ => .yaml

def detect (path : Option String) (text : String) : Format :=
  (path.bind ofPath?).getD (ofText text)

def named (name : Option String) (text : String) : Except Fault Format :=
  match name.filter fun word => !word.isEmpty with
  | none => .ok (ofText text)
  | some word =>
      match ofWord? word with
      | some format => .ok format
      | none => .error (.unsupportedFormat word)

def data (format : Format) (text : String) : Except Fault Data :=
  match format with
  | .json => (Json.read? text).elim (.error .malformedJson) .ok
  | .yaml => (Yaml.read text).mapError (.ofFailure .malformedYaml)

end Format

def isRootKind (kind : Option Kind) : Bool :=
  kind = some .moduleUnit || kind = some .scriptUnit

def root (data : Data) : Except Fault Node :=
  match data with
  | .map entries =>
      if (Data.lookup? "type" entries).isNone then .error .noRootTag
      else match Node.ofEntries entries with
        | .error fault => .error fault
        | .ok node => if isRootKind node.kind then .ok node else .error (.wrongRoot node.kind)
  | _ => .error .noRootTag

def read (format : Format) (text : String) : Except Fault Node := do
  root (← format.data text)

def readNamed (name : Option String) (text : String) : Except Fault Node := do
  read (← Format.named name text) text

def readFrom (path text : String) : Except Fault Node :=
  read (Format.detect (some path) text) text

end TreeFile

end StyleFold
