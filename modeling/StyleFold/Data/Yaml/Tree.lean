import StyleFold.Data.Yaml.Tag
import StyleFold.Data.Yaml.Token

/-!
The tree of a YAML document: scalars, lists and mappings, each with a tag. A text holds one
document at most; without any it stands for null.
-/

namespace StyleFold.Yaml

inductive Tree where
  | scalar (tag : Tag) (text : String)
  | sequence (tag : Tag) (items : List Tree)
  | mapping (tag : Tag) (pairs : List (Tree × Tree))
  | anchored (name : String) (tree : Tree)
  | alias (name : String)

namespace Tree

def empty : Tree := .scalar .null ""

section Properties

/-- What stands before a node. -/
structure Properties where
  anchor : Option String := none
  /-- The tag in full. -/
  tag : Option String := none

namespace Properties

def tag? (properties : Properties) : Option Tag :=
  (properties.tag.filter (· != bareTag)).map Tag.ofName

def isEmpty (properties : Properties) : Bool := properties.anchor.isNone && properties.tag.isNone

/-- The tag of a scalar. Without a written one, quoted text is text; the
mark alone makes it plain. -/
def scalarTag (properties : Properties) (plain : Bool) (text : String) : Tag :=
  properties.tag?.getD (if plain || properties.tag.isSome then .ofPlain text else .text)

def wrap (properties : Properties) (tree : Tree) : Tree :=
  match properties.anchor with
  | some name => .anchored name tree
  | none => tree

def scalar (properties : Properties) (plain : Bool) (text : String) : Tree :=
  properties.wrap (.scalar (properties.scalarTag plain text) text)

def sequence (properties : Properties) (items : List Tree) : Tree :=
  properties.wrap (.sequence (properties.tag?.getD .sequence) items)

def mapping (properties : Properties) (pairs : List (Tree × Tree)) : Tree :=
  properties.wrap (.mapping (properties.tag?.getD .mapping) pairs)

end Properties

abbrev Handles := List (String × String)

def standardHandles : Handles := [("!", "!"), ("!!", Tag.standard)]

def fullTag? (handles : Handles) (name : TagName) : Option String :=
  match name.handle with
  | none => some name.suffix
  | some handle => (handles.lookup handle).map (· ++ name.suffix)

end Properties

/-! From tokens. Every step uses up a token or goes on to a smaller kind of node. -/

section Reading

abbrev Read (α : Type) := Except Failure (α × List Token)

def unexpected : List Token → Failure
  | .stop why :: _ => why
  | _ => .malformed

def isBareInBlock : List Token → Bool
  | .key :: _ | .value :: _ | .blockEnd :: _ => true
  | _ => false

def isBareItem : List Token → Bool
  | .dash :: _ | .blockEnd :: _ => true
  | _ => false

def isBareInFlow (close : Token) : List Token → Bool
  | token :: _ => token = .comma || token = close
  | [] => false

/-- Inside brackets a comma stands before every entry but the first; it may also stand
before the closing bracket. -/
def entry (close : Token) (first : Bool) (tokens : List Token) : Except Failure (List Token) :=
  if first || tokens.head? = some close then .ok tokens
  else match tokens with
    | .comma :: rest => .ok rest
    | _ => .error (unexpected tokens)

def properties (handles : Handles) (tokens : List Token) : Read Properties :=
  let tagged (anchor : Option String) (name : TagName) (rest : List Token) : Read Properties :=
    match fullTag? handles name with
    | some tag => .ok ({ anchor, tag := some tag }, rest)
    | none => .error .malformed
  match tokens with
  | .anchor anchor :: .tag name :: rest => tagged (some anchor) name rest
  | .tag name :: .anchor anchor :: rest => tagged (some anchor) name rest
  | .anchor _ :: .stop why :: _ | .tag _ :: .stop why :: _ => .error why
  | .anchor anchor :: rest => .ok ({ anchor := some anchor }, rest)
  | .tag name :: rest => tagged none name rest
  | _ => .ok ({}, tokens)

mutual

/-- A node. Only blocks may hold blocks, and only keys and values of a block mapping may be
sequences that are not indented. -/
def node (handles : Handles) (block flush : Bool) : Nat → List Token → Read Tree
  | 0, _ => .error .malformed
  | fuel + 1, tokens =>
      match tokens with
      | .alias name :: rest => .ok (.alias name, rest)
      | _ =>
          match properties handles tokens with
          | .error why => .error why
          | .ok (properties, tokens) => content handles block flush properties fuel tokens

def content (handles : Handles) (block flush : Bool) (properties : Properties) :
    Nat → List Token → Read Tree
  | 0, _ => .error .malformed
  | fuel + 1, tokens =>
      match tokens with
      | .scalar plain text :: rest => .ok (properties.scalar plain text, rest)
      | .flowSequence :: rest =>
          (flowItems handles true fuel rest).map fun read => (properties.sequence read.1, read.2)
      | .flowMapping :: rest =>
          (flowPairs handles true fuel rest).map fun read => (properties.mapping read.1, read.2)
      | .stop why :: _ => .error why
      | token :: rest =>
          if block && token = .blockSequence then
            (blockItems handles fuel rest).map fun read => (properties.sequence read.1, read.2)
          else if block && token = .blockMapping then
            (blockPairs handles fuel rest).map fun read => (properties.mapping read.1, read.2)
          else if flush && token = .dash then
            (flushItems handles fuel (token :: rest)).map fun read =>
              (properties.sequence read.1, read.2)
          else if properties.isEmpty then .error .malformed
          else .ok (properties.scalar true "", token :: rest)
      | [] => if properties.isEmpty then .error .malformed else .ok (properties.scalar true "", [])

def nodeOr (handles : Handles) (bare block flush : Bool) : Nat → List Token → Read Tree
  | 0, _ => .error .malformed
  | fuel + 1, tokens =>
      if bare then .ok (.empty, tokens) else node handles block flush fuel tokens

def blockItems (handles : Handles) : Nat → List Token → Read (List Tree)
  | 0, _ => .error .malformed
  | fuel + 1, tokens =>
      match tokens with
      | .dash :: rest =>
          match nodeOr handles (isBareItem rest) true false fuel rest with
          | .error why => .error why
          | .ok (item, rest) =>
              (blockItems handles fuel rest).map fun read => (item :: read.1, read.2)
      | .blockEnd :: rest => .ok ([], rest)
      | _ => .error (unexpected tokens)

/-- The items of a sequence that is not indented; it has no end of its own. -/
def flushItems (handles : Handles) : Nat → List Token → Read (List Tree)
  | 0, _ => .error .malformed
  | fuel + 1, tokens =>
      match tokens with
      | .dash :: rest =>
          match nodeOr handles (isBareItem rest || isBareInBlock rest) true false fuel rest with
          | .error why => .error why
          | .ok (item, rest) =>
              (flushItems handles fuel rest).map fun read => (item :: read.1, read.2)
      | _ => .ok ([], tokens)

def blockPairs (handles : Handles) : Nat → List Token → Read (List (Tree × Tree))
  | 0, _ => .error .malformed
  | fuel + 1, tokens =>
      match tokens with
      | .key :: rest =>
          match nodeOr handles (isBareInBlock rest) true true fuel rest with
          | .error why => .error why
          | .ok (key, rest) => blockValue handles key fuel rest
      | .blockEnd :: rest => .ok ([], rest)
      | _ => .error (unexpected tokens)

def blockValue (handles : Handles) (key : Tree) : Nat → List Token → Read (List (Tree × Tree))
  | 0, _ => .error .malformed
  | fuel + 1, tokens =>
      let value : Read Tree := match tokens with
        | .value :: rest => nodeOr handles (isBareInBlock rest) true true fuel rest
        | _ => .ok (.empty, tokens)
      match value with
      | .error why => .error why
      | .ok (value, rest) =>
          (blockPairs handles fuel rest).map fun read => ((key, value) :: read.1, read.2)

def flowItems (handles : Handles) (first : Bool) : Nat → List Token → Read (List Tree)
  | 0, _ => .error .malformed
  | fuel + 1, tokens =>
      match entry .flowSequenceEnd first tokens with
      | .error why => .error why
      | .ok (.flowSequenceEnd :: rest) => .ok ([], rest)
      | .ok tokens =>
          let item : Read Tree := match tokens with
            | .key :: rest =>
                (flowPair handles .flowSequenceEnd fuel rest).map fun read =>
                  (.mapping .mapping [read.1], read.2)
            | _ => node handles false false fuel tokens
          match item with
          | .error why => .error why
          | .ok (item, rest) =>
              (flowItems handles false fuel rest).map fun read => (item :: read.1, read.2)

def flowPairs (handles : Handles) (first : Bool) : Nat → List Token → Read (List (Tree × Tree))
  | 0, _ => .error .malformed
  | fuel + 1, tokens =>
      match entry .flowMappingEnd first tokens with
      | .error why => .error why
      | .ok (.flowMappingEnd :: rest) => .ok ([], rest)
      | .ok tokens =>
          let pair : Read (Tree × Tree) := match tokens with
            | .key :: rest => flowPair handles .flowMappingEnd fuel rest
            | _ =>
                (node handles false false fuel tokens).map fun read =>
                  ((read.1, .empty), read.2)
          match pair with
          | .error why => .error why
          | .ok (pair, rest) =>
              (flowPairs handles false fuel rest).map fun read => (pair :: read.1, read.2)

def flowPair (handles : Handles) (close : Token) : Nat → List Token → Read (Tree × Tree)
  | 0, _ => .error .malformed
  | fuel + 1, tokens =>
      let bareKey := isBareInFlow close tokens || tokens.head? = some .value
      match nodeOr handles bareKey false false fuel tokens with
      | .error why => .error why
      | .ok (key, .value :: rest) =>
          (nodeOr handles (isBareInFlow close rest) false false fuel rest).map fun read =>
            ((key, read.1), read.2)
      | .ok (key, rest) => .ok ((key, .empty), rest)

end

/-- The handles that directives give. The version is given once at most, and so is each handle. -/
def directives (versioned : Bool) (handles : Handles) : List Token → Read Handles
  | .directive (.version major _) :: rest =>
      if versioned || major != 1 then .error .malformed else directives true handles rest
  | .directive (.handle handle expansion) :: rest =>
      if (handles.lookup handle).isSome then .error .malformed
      else directives versioned ((handle, expansion) :: handles) rest
  | .directive .reserved :: rest => directives versioned handles rest
  | tokens => .ok (handles, tokens)

def isBareDocument : List Token → Bool
  | [] | .directive _ :: _ | .documentStart :: _ | .documentEnd :: _ => true
  | _ => false

/-- The root of a document. With directives it needs a marker; after a marker it may be left out. -/
def root (tokens : List Token) : Read Tree :=
  let fuel := 6 * tokens.length + 6
  match tokens with
  | .directive _ :: _ | .documentStart :: _ =>
      match directives false [] tokens with
      | .error why => .error why
      | .ok (handles, .documentStart :: rest) =>
          nodeOr (handles ++ standardHandles) (isBareDocument rest) true false fuel rest
      | .ok (_, rest) => .error (unexpected rest)
  | _ => node standardHandles true false fuel tokens

def ofTokens (tokens : List Token) : Except Failure Tree :=
  if tokens.isEmpty then .ok .empty
  else match root tokens with
    | .error why => .error why
    | .ok (tree, rest) =>
        match rest.dropWhile (· = .documentEnd) with
        | [] => .ok tree
        | rest => .error (unexpected rest)

end Reading

end Tree

end StyleFold.Yaml
