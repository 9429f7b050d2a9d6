import StyleFold.Data.Yaml.Source
import StyleFold.Number.Numeral
import StyleFold.Text.Repair

/-!
What may stand before a YAML node or before a whole document. An anchor names a node and an alias
repeats it; a tag says what a node stands for, in full or by a handle that stands for the
beginning of the name; directives give the version and the handles of a document.
-/

namespace StyleFold.Yaml

def isNameChar (c : Char) : Bool :=
  ('0' ≤ c && c ≤ '9') || ('A' ≤ c && c ≤ 'Z') || ('a' ≤ c && c ≤ 'z') || c == '-' || c == '_'

def endsWord : Option Char → Bool
  | none => true
  | some c => isSpace c || isBreak c

section Anchors

def endsAnchor : Option Char → Bool
  | none => true
  | some c => isGap c || "?:,]\x7d%@`".toList.contains c

def anchor? (source : Source) : Option (String × Source) :=
  let (name, source) := source.next.run isNameChar
  if name.isEmpty || !endsAnchor source.peek? then none else some (String.ofList name, source)

end Anchors

section Tags

/-- A tag as it is written. -/
structure TagName where
  /-- Absent for a tag that is given in full. -/
  handle : Option String
  suffix : String
  deriving DecidableEq, Repr

def isTagChar (c : Char) : Bool :=
  isNameChar c || ";/?:@&=+$,.!~*'()[]%".toList.contains c

def tagOctets? : Nat → Source → Option (List Nat × Source)
  | 0, source => some ([], source)
  | fuel + 1, source =>
      match source.rest with
      | '%' :: a :: b :: _ =>
          if isDigitIn 16 a && isDigitIn 16 b then
            (tagOctets? fuel (source.advance 3)).map fun read =>
              (digitsValue 16 [a, b] :: read.1, read.2)
          else none
      | '%' :: _ => none
      | _ => some ([], source)

def tagChars? : Nat → Source → Option (List Char × Source)
  | 0, source => some ([], source)
  | fuel + 1, source =>
      if source.isAt '%' then
        match tagOctets? source.bound source with
        | none => none
        | some (octets, source) =>
            match Text.decode? octets, tagChars? fuel source with
            | some chars, some (others, source) => some (chars ++ others, source)
            | _, _ => none
      else
        let (chars, source) := source.run fun c => isTagChar c && c != '%'
        if source.isAt '%' then
          (tagChars? fuel source).map fun read => (chars ++ read.1, read.2)
        else some (chars, source)

def tagText? (source : Source) : Option (String × Source) :=
  if source.sees isTagChar then
    (tagChars? source.bound source).map fun read => (String.ofList read.1, read.2)
  else none

def handle? (source : Source) : Option (String × Source) :=
  if !source.isAt '!' then none
  else if source.second? == some ' ' then some ("!", source.next)
  else
    let (name, after) := source.next.run isNameChar
    if after.isAt '!' then some (String.ofList ('!' :: name ++ ['!']), after.next) else none

def bareTag : String := "!"

def hasHandle (text : List Char) : Bool :=
  (text.takeWhile fun c => !(isSpace c || isBreak c)).contains '!'

def tagForm? (source : Source) : Option (TagName × Source) :=
  match source.second? with
  | some '<' =>
      match tagText? (source.advance 2) with
      | some (suffix, source) =>
          if source.isAt '>' then some (⟨none, suffix⟩, source.next) else none
      | none => none
  | next =>
      if endsIndicator next then some (⟨none, bareTag⟩, source.next)
      else if hasHandle source.next.rest then
        match handle? source with
        | some (handle, source) =>
            (tagText? source).map fun read => (⟨some handle, read.1⟩, read.2)
        | none => none
      else (tagText? source.next).map fun read => (⟨some bareTag, read.1⟩, read.2)

def tag? (source : Source) : Option (TagName × Source) :=
  (tagForm? source).filter fun read => endsWord read.2.peek?

end Tags

section Directives

inductive Directive where
  | version (major minor : Nat)
  | handle (handle expansion : String)
  | reserved
  deriving DecidableEq, Repr

def decimal? (source : Source) : Option (Nat × Source) :=
  let (digits, source) := source.run isDecimalDigit
  if digits.isEmpty then none else some (digitsValue 10 digits, source)

def version? (source : Source) : Option (Directive × Source) :=
  match decimal? (source.skip isSpace) with
  | none => none
  | some (major, source) =>
      if !source.isAt '.' then none
      else match decimal? source.next with
        | none => none
        | some (minor, source) =>
            if endsWord source.peek? then some (.version major minor, source) else none

def handleExpansion? (source : Source) : Option (Directive × Source) :=
  match handle? (source.skip isSpace) with
  | none => none
  | some (handle, source) =>
      if !source.isAt ' ' then none
      else match tagText? (source.skip isSpace) with
        | none => none
        | some (expansion, source) =>
            if endsWord source.peek? then some (.handle handle expansion, source) else none

def directive? (source : Source) : Option (Directive × Source) :=
  let (name, source) := source.next.run isNameChar
  if name.isEmpty || !endsWord source.peek? then none
  else
    let read := match String.ofList name with
      | "YAML" => version? source
      | "TAG" => handleExpansion? source
      | _ => some (.reserved, source.skip fun c => !isBreak c)
    read.bind fun read => read.2.nextLine?.map fun source => (read.1, source)

end Directives

end StyleFold.Yaml
