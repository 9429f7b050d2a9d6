import StyleFold.Assoc
import StyleFold.Data.Toml.Scalar

/-!
TOML documents: lines that set keys, in tables that are opened by headers. No key is set
twice, and no table is opened twice. A header in double brackets adds a table to a row of
tables, and the last table of a row stands for the row. Tables written in braces are values, and
nothing is added to them later.
-/

namespace StyleFold.Toml

/-- How a table came about. -/
inductive Opening where
  | implied
  | dotted
  /-- By a header, or by keys with dots in an earlier section. -/
  | closed
  deriving DecidableEq, Repr

inductive Item where
  | value (data : Data)
  | table (opening : Opening) (entries : List (String × Item))
  | row (before : List Data) (entries : List (String × Item))

abbrev Table := List (String × Item)

namespace Item

mutual

def data : Item → Data
  | .value data => data
  | .table _ entries => .map (entriesData entries)
  | .row before entries => .list (before ++ [.map (entriesData entries)])

def entriesData : List (String × Item) → Entries
  | [] => []
  | (name, item) :: rest => (.text name, item.data) :: entriesData rest

end

mutual

/-- A new header closes what keys with dots have opened. -/
def settle : Item → Item
  | .value data => .value data
  | .table opening entries =>
      .table (if opening = .dotted then .closed else opening) (settleAll entries)
  | .row before entries => .row before (settleAll entries)

def settleAll : List (String × Item) → List (String × Item)
  | [] => []
  | (name, item) :: rest => (name, item.settle) :: settleAll rest

end

end Item

namespace Table

/-- How the tables on the way to another one are entered. -/
structure Way where
  /-- What becomes of a table, or that it must not be entered; a missing one is made. -/
  enter : Option Opening → Option Opening
  /-- The last table of a row is entered. -/
  entersRows : Bool

def update? (way : Way) (change : Table → Option Table) : List String → Table → Option Table
  | [], table => change table
  | name :: rest, table =>
      match table.lookup name with
      | some (.value _) => none
      | some (.row before entries) =>
          if way.entersRows then
            (update? way change rest entries).map fun entries =>
              Assoc.put name (.row before entries) table
          else none
      | some (.table opening entries) =>
          match way.enter (some opening), update? way change rest entries with
          | some opening, some entries => some (Assoc.put name (.table opening entries) table)
          | _, _ => none
      | none =>
          match way.enter none, update? way change rest [] with
          | some opening, some entries => some (Assoc.put name (.table opening entries) table)
          | _, _ => none

def header : Way where
  enter opening := some (opening.getD .implied)
  entersRows := true

/-- A key with dots may not reach into a closed table or a row. -/
def dotted : Way where
  enter opening := if opening = some .closed then none else some .dotted
  entersRows := false

def set? (key : List String) (data : Data) (table : Table) : Option Table :=
  match key.getLast? with
  | none => none
  | some name =>
      update? dotted (fun inner =>
        if (inner.lookup name).isSome then none else some (Assoc.put name (.value data) inner))
        key.dropLast table

def setIn? (path key : List String) (data : Data) (table : Table) : Option Table :=
  update? header (set? key data) path table

def open? (path : List String) (table : Table) : Option Table :=
  match path.getLast? with
  | none => none
  | some name =>
      update? header (fun inner =>
        match inner.lookup name with
        | none => some (Assoc.put name (.table .closed []) inner)
        | some (.table .implied entries) => some (Assoc.put name (.table .closed entries) inner)
        | some _ => none) path.dropLast (Item.settleAll table)

def append? (path : List String) (table : Table) : Option Table :=
  match path.getLast? with
  | none => none
  | some name =>
      update? header (fun inner =>
        match inner.lookup name with
        | none => some (Assoc.put name (.row [] []) inner)
        | some (.row before entries) =>
            some (Assoc.put name (.row (before ++ [.map (Item.entriesData entries)]) []) inner)
        | some _ => none) path.dropLast (Item.settleAll table)

end Table

section Values

def isBareKey (c : Char) : Bool :=
  ('a' ≤ c && c ≤ 'z') || ('A' ≤ c && c ≤ 'Z') || isDecimalDigit c || c == '-' || c == '_'

def keyPart? (text : List Char) : Read String :=
  let bare := text.takeWhile isBareKey
  if bare.isEmpty then string? false text else some (String.ofList bare, text.drop bare.length)

def key? : Nat → List Char → Read (List String)
  | 0, _ => none
  | fuel + 1, text =>
      match keyPart? text with
      | none => none
      | some (part, rest) =>
          match skipBlanks rest with
          | '.' :: rest => (key? fuel (skipBlanks rest)).map fun read => (part :: read.1, read.2)
          | rest => some ([part], rest)

def skipComment? (text : List Char) : Option (List Char) :=
  match text with
  | '#' :: rest =>
      let comment := rest.takeWhile (· != '\n')
      if comment.any isControl then none else some (rest.drop comment.length)
  | _ => some text

def skipLines? : Nat → List Char → Option (List Char)
  | 0, text => some text
  | fuel + 1, text =>
      match text.dropWhile fun c => isTomlBlank c || c == '\n' with
      | '#' :: rest =>
          match skipComment? ('#' :: rest) with
          | some rest => skipLines? fuel rest
          | none => none
      | rest => some rest

def skipLinesAll? (text : List Char) : Option (List Char) := skipLines? (text.length + 1) text

mutual

def value? : Nat → List Char → Read Data
  | 0, _ => none
  | fuel + 1, text =>
      match text with
      | '"' :: _ | '\'' :: _ => (string? true text).map fun read => (.text read.1, read.2)
      | '[' :: rest =>
          match skipLinesAll? rest with
          | some (']' :: rest) => some (.list [], rest)
          | some rest => (items? fuel rest).map fun read => (.list read.1, read.2)
          | none => none
      | '\x7b' :: rest =>
          match skipBlanks rest with
          | '\x7d' :: rest => some (.map [], rest)
          | rest =>
              (members? fuel [] rest).map fun read => (.map (Item.entriesData read.1), read.2)
      | _ =>
          match word? text, moment? text with
          | some read, _ => some read
          | none, some read => read.map fun read => (.moment read.1, read.2)
          | none, none => number? text

def items? : Nat → List Char → Read (List Data)
  | 0, _ => none
  | fuel + 1, text =>
      match value? fuel text with
      | none => none
      | some (item, rest) =>
          match skipLinesAll? rest with
          | some (']' :: rest) => some ([item], rest)
          | some (',' :: rest) =>
              match skipLinesAll? rest with
              | some (']' :: rest) => some ([item], rest)
              | some rest => (items? fuel rest).map fun read => (item :: read.1, read.2)
              | none => none
          | _ => none

def members? : Nat → Table → List Char → Read Table
  | 0, _, _ => none
  | fuel + 1, table, text =>
      match setting? fuel text with
      | none => none
      | some ((key, data), rest) =>
          match table.set? key data with
          | none => none
          | some table =>
              match skipBlanks rest with
              | '\x7d' :: rest => some (table, rest)
              | ',' :: rest => members? fuel table (skipBlanks rest)
              | _ => none

def setting? : Nat → List Char → Read (List String × Data)
  | 0, _ => none
  | fuel + 1, text =>
      match key? (text.length + 1) text with
      | some (key, '=' :: rest) =>
          (value? fuel (skipBlanks rest)).map fun read => ((key, read.1), read.2)
      | _ => none

end

end Values

section Lines

def header? (close : String) (text : List Char) : Read (List String) :=
  match key? (text.length + 1) (skipBlanks text) with
  | some (path, rest) => (Text.after? close rest).map fun rest => (path, rest)
  | none => none

def statement? (fuel : Nat) (header : List String) (table : Table) (text : List Char) :
    Read (List String × Table) :=
  match text with
  | '#' :: _ => some ((header, table), text)
  | '[' :: '[' :: rest =>
      match header? "]]" rest with
      | none => none
      | some (path, rest) => (table.append? path).map fun table => ((path, table), rest)
  | '[' :: rest =>
      match header? "]" rest with
      | none => none
      | some (path, rest) => (table.open? path).map fun table => ((path, table), rest)
  | _ =>
      match setting? fuel text with
      | none => none
      | some ((key, data), rest) =>
          (table.setIn? header key data).map fun table => ((header, table), rest)

def lines? : Nat → List String → Table → List Char → Option Table
  | 0, _, _, _ => none
  | fuel + 1, header, table, text =>
      match skipBlanks text with
      | [] => some table
      | '\n' :: rest => lines? fuel header table rest
      | text =>
          match statement? (2 * text.length + 2) header table text with
          | none => none
          | some ((header, table), rest) =>
              match skipComment? (skipBlanks rest) with
              | some [] => some table
              | some ('\n' :: rest) => lines? fuel header table rest
              | _ => none

def joinBreaks : List Char → List Char
  | [] => []
  | [c] => [c]
  | c :: d :: rest =>
      if c == '\r' && d == '\n' then joinBreaks (d :: rest) else c :: joinBreaks (d :: rest)

end Lines

def read? (text : String) : Option Data :=
  let chars := joinBreaks text.toList
  (lines? (chars.length + 1) [] [] chars).map fun table => .map (Item.entriesData table)

end StyleFold.Toml
