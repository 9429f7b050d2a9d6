import StyleFold.Fault
import StyleFold.Value.Basic

/-!
Lexical scopes of one walk: a stack of frames with the constants folded so far, innermost first, and
the names that the styling library is known by. A lookup goes from the innermost frame outwards.
-/

namespace StyleFold

/-- Entry points of the styling library that are understood. -/
inductive Api where
  | create
  | createTheme
  | defineVars
  | keyframes
  | firstThatWorks
  deriving DecidableEq, Repr

namespace Api

def name : Api → String
  | .create => "create"
  | .createTheme => "createTheme"
  | .defineVars => "defineVars"
  | .keyframes => "keyframes"
  | .firstThatWorks => "firstThatWorks"

def ofName? (text : String) : Option Api :=
  [Api.create, .createTheme, .defineVars, .keyframes, .firstThatWorks].find? fun api =>
    api.name == text

theorem ofName?_name (api : Api) : ofName? api.name = some api := by
  cases api <;> decide

def ofLabel? (label : Label) : Option Api := label.text?.bind ofName?

end Api

abbrev Frame := List (Label × Value)

structure ScopeTable where
  /-- Innermost first. -/
  frames : List Frame := []
  /-- Local names of the library itself. -/
  namespaces : List Label := []
  /-- Local names with the name each was imported under. -/
  imports : List (Label × Label) := []

namespace ScopeTable

def depth (table : ScopeTable) : Nat := table.frames.length

def push (table : ScopeTable) : ScopeTable := { table with frames := [] :: table.frames }

def pop (table : ScopeTable) : Except Fault ScopeTable :=
  match table.frames with
  | [] => .error .nothingToPop
  | _ :: outer => .ok { table with frames := outer }

def bind (table : ScopeTable) (name : Label) (value : Value) : Except Fault ScopeTable :=
  match table.frames with
  | [] => .error (.nowhereToBind name.shown)
  | inner :: outer => .ok { table with frames := Assoc.put name value inner :: outer }

def lookup? (table : ScopeTable) (name : Label) : Option Value :=
  table.frames.findSome? fun frame => frame.lookup name

def addNamespace (table : ScopeTable) (name : Label) : ScopeTable :=
  if table.namespaces.contains name then table
  else { table with namespaces := table.namespaces ++ [name] }

def addImport (table : ScopeTable) (name imported : Label) : ScopeTable :=
  { table with imports := Assoc.put name imported table.imports }

def isNamespace (table : ScopeTable) (name : Label) : Bool := table.namespaces.contains name

def api? (table : ScopeTable) (name : Label) : Option Api :=
  (table.imports.lookup name).bind Api.ofLabel?

def sortedNamespaces (table : ScopeTable) : List Label :=
  table.namespaces.mergeSort fun left right => decide (left.plain ≤ right.plain)

def shown (table : ScopeTable) : String :=
  let names := table.sortedNamespaces.map Label.shown
  let pairs := table.imports.map fun pair => pair.1.shown ++ ": " ++ pair.2.shown
  "<ScopeTable depth=" ++ toString table.depth ++ " namespaces=[" ++ ", ".intercalate names ++
    "] imports=\x7b" ++ ", ".intercalate pairs ++ "\x7d>"

end ScopeTable

end StyleFold
