import StyleFold.Data.Basic
import StyleFold.Fault

/-!
User settings. Each field has two spellings; the last entry that names a field in either
of them counts, and entries with other keys are not looked at.
-/

namespace StyleFold

structure Settings where
  hover : Bool := true
  suggestions : Bool := true
  useRem : Bool := false
  aliases : List String := []
  deriving DecidableEq, Repr

namespace Settings

inductive Field where
  | hover
  | suggestions
  | useRem
  | aliases
  deriving DecidableEq, Repr

def fieldOf? (key : String) : Option Field :=
  match key with
  | "hover" => some .hover
  | "suggestions" => some .suggestions
  | "useRemForFontSize" | "use_rem_for_font_size" => some .useRem
  | "aliasModuleNames" | "alias_module_names" => some .aliases
  | _ => none

def names? : List Data → Option (List String)
  | [] => some []
  | .text s :: rest => (names? rest).map (s :: ·)
  | _ :: _ => none

/-- A truth value under a key. The report of anything else shows it. -/
def truthOf (key : String) : Data → Except Fault Bool
  | .bool b => .ok b
  | other =>
      .error (if other.holdsOverlong then .refused .tooManyDigits
        else .settingNotTruth key other.shown)

def items? : Data → Option (List Data)
  | .list items => some items
  | .pair first second => some [first, second]
  | _ => none

def namesOf (key : String) (value : Data) : Except Fault (List String) :=
  match (items? value).bind names? with
  | some names => .ok names
  | none => .error (.settingNotNames key)

def set (settings : Settings) (key : String) (value : Data) : Except Fault Settings :=
  match fieldOf? key with
  | none => .ok settings
  | some .hover => (truthOf key value).map fun b => { settings with hover := b }
  | some .suggestions => (truthOf key value).map fun b => { settings with suggestions := b }
  | some .useRem => (truthOf key value).map fun b => { settings with useRem := b }
  | some .aliases => (namesOf key value).map fun names => { settings with aliases := names }

def setAll (settings : Settings) : Entries → Except Fault Settings
  | [] => .ok settings
  | (.text key, value) :: rest =>
      match settings.set key value with
      | .ok next => next.setAll rest
      | .error fault => .error fault
  | _ :: rest => settings.setAll rest

def ofData : Data → Except Fault Settings
  | .null => .ok {}
  | .map entries => setAll {} entries
  | other => .error (.settingsNotMapping other.kindWord)

def libraryNames : List String := ["@stylexjs/stylex", "stylex"]

def moduleNames (settings : Settings) : List String := libraryNames ++ settings.aliases

def isLibrary (settings : Settings) (source : Option String) : Bool :=
  match source with
  | some name => settings.moduleNames.contains name
  | none => false

end Settings

end StyleFold
