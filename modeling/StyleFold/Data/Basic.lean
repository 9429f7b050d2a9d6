import StyleFold.Data.Moment
import StyleFold.Number.Layout
import StyleFold.Number.Numeral
import StyleFold.Text.Octets

/-!
Data as a tree file or a settings file holds it: scalars, lists, and mappings
whose entries keep the order in which they were written. Whole numbers and
decimals are different kinds. A mapping has one entry for each key; keys are
compared as values, so `1`, `1.0` and `true` are one key.
-/

namespace StyleFold

inductive Data where
  | null
  | bool (b : Bool)
  | int (i : Int)
  | float (x : Float)
  | text (s : String)
  | bytes (octets : List Nat)
  | moment (moment : Moment)
  | list (items : List Data)
  /-- A key with its value, as a list of such pairs holds it. -/
  | pair (key value : Data)
  | set (members : List Data)
  | map (entries : List (Data × Data))
  /-- A list or mapping that is being written already, where it comes again inside itself. -/
  | cycle (isMapping : Bool)

instance : Inhabited Data := ⟨.null⟩

abbrev Entries := List (Data × Data)

namespace Data

section Lookup

def isKey (name : String) : Data → Bool
  | .text s => s == name
  | _ => false

theorem isKey_iff {name : String} {key : Data} : isKey name key = true ↔ key = .text name := by
  cases key <;> simp [isKey]

def lookup? (name : String) : Entries → Option Data
  | [] => none
  | (key, value) :: rest => if isKey name key then some value else lookup? name rest

theorem lookup?_mem {name : String} {entries : Entries} {value : Data}
    (found : lookup? name entries = some value) : (.text name, value) ∈ entries := by
  induction entries with
  | nil => simp [lookup?] at found
  | cons entry rest ih =>
      obtain ⟨key, first⟩ := entry
      simp only [lookup?] at found
      split at found
      · rename_i here
        cases found
        rw [isKey_iff.mp here]
        exact List.mem_cons_self
      · exact List.mem_cons_of_mem _ (ih found)

theorem sizeOf_lt_of_mem {entries : Entries} {key value : Data}
    (present : (key, value) ∈ entries) : sizeOf value < sizeOf entries := by
  have small := List.sizeOf_lt_of_mem present
  simp only [Prod.mk.sizeOf_spec] at small
  omega

theorem sizeOf_lookup? {name : String} {entries : Entries} {value : Data}
    (found : lookup? name entries = some value) : sizeOf value < sizeOf entries :=
  sizeOf_lt_of_mem (lookup?_mem found)

end Lookup

/-! Equality of values: numbers by what they stand for, mappings whatever their order. The value
that is not a number is one and the same wherever it stands. -/

section Equality

def numeric? : Data → Option Exact
  | .bool b => some (.ofInt (if b then 1 else 0))
  | .int i => some (.ofInt i)
  | .float x => some (.ofFloat x)
  | _ => none

mutual

def equal : Data → Data → Bool
  | .null, .null => true
  | .text s, .text t => s == t
  | .bytes octets, .bytes others => octets == others
  | .moment m, .moment n => Moment.same m n
  | .list items, .list others => equalItems items others
  | .pair key value, .pair key' value' => equal key key' && equal value value'
  | .map entries, .map others => entries.length == others.length && coveredBy entries others
  | a, b =>
      match numeric? a, numeric? b with
      | some x, some y => decide (x = y)
      | _, _ => false

def equalItems : List Data → List Data → Bool
  | [], [] => true
  | a :: as, b :: bs => equal a b && equalItems as bs
  | _, _ => false

def coveredBy : Entries → Entries → Bool
  | [], _ => true
  | (key, value) :: rest, others =>
      others.any (fun other => equal key other.1 && equal value other.2) && coveredBy rest others

end

def put (key value : Data) : Entries → Entries
  | [] => [(key, value)]
  | (other, old) :: rest =>
      if equal key other then (other, value) :: rest else (other, old) :: put key value rest

/-- A mapping from pairs in the order written; a repeated key keeps its first place
and takes its last value. -/
def ofPairs (pairs : Entries) : Entries :=
  pairs.foldl (fun entries pair => put pair.1 pair.2 entries) []

end Equality

section Shown

def kindWord : Data → String
  | .null => "NoneType"
  | .bool _ => "bool"
  | .int _ => "int"
  | .float _ => "float"
  | .text _ => "str"
  | .bytes _ => "bytes"
  | .moment m => m.word
  | .list _ => "list"
  | .pair _ _ => "tuple"
  | .set _ => "set"
  | .map _ => "dict"
  | .cycle isMapping => if isMapping then "dict" else "list"

mutual

def shown : Data → String
  | .null => "None"
  | .bool b => if b then "True" else "False"
  | .int i => toString i
  | .float x => quotedLayout.text x
  | .text s => Text.quoted s
  | .bytes octets => Text.quotedOctets octets
  | .moment m => m.shown
  | .list items => "[" ++ ", ".intercalate (shownItems items) ++ "]"
  | .pair key value => "(" ++ shown key ++ ", " ++ shown value ++ ")"
  | .set members =>
      if members.isEmpty then "set()"
      else "\x7b" ++ ", ".intercalate (shownItems members) ++ "\x7d"
  | .map entries => "\x7b" ++ ", ".intercalate (shownEntries entries) ++ "\x7d"
  | .cycle isMapping => if isMapping then "\x7b...\x7d" else "[...]"

def shownItems : List Data → List String
  | [] => []
  | item :: rest => shown item :: shownItems rest

def shownEntries : Entries → List String
  | [] => []
  | (key, value) :: rest => (shown key ++ ": " ++ shown value) :: shownEntries rest

end

mutual

def holdsOverlong : Data → Bool
  | .int i => isOverlong i
  | .list items => anyOverlong items
  | .pair key value => holdsOverlong key || holdsOverlong value
  | .set members => anyOverlong members
  | .map entries => anyEntryOverlong entries
  | _ => false

def anyOverlong : List Data → Bool
  | [] => false
  | item :: rest => holdsOverlong item || anyOverlong rest

def anyEntryOverlong : Entries → Bool
  | [] => false
  | (key, value) :: rest => holdsOverlong key || holdsOverlong value || anyEntryOverlong rest

end

def plain : Data → String
  | .text s => s
  | key => shown key

end Shown

end Data

end StyleFold
