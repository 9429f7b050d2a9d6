/-!
Files by path. A path is followed part by part: empty parts and single dots stay where they
are, two dots lead back to the directory around. What lies outside the starting directory
is not known, apart from the directories on the way there.
-/

namespace StyleFold

/-- Why a path cannot be read from. -/
inductive Unreadable where
  | missing
  | directory
  | throughFile
  deriving DecidableEq, Repr

def Unreadable.message : Unreadable → String
  | .missing => "[Errno 2] No such file or directory"
  | .directory => "[Errno 21] Is a directory"
  | .throughFile => "[Errno 20] Not a directory"

abbrev Files := String → Except Unreadable String

section Paths

namespace Path

def parts (path : String) : List String :=
  (path.splitOn "/").filter fun part => part != "" && part != "."

def isAbsolute (path : String) : Bool := path.toList.head? == some '/'

def plain (path : String) : String :=
  let joined := "/".intercalate (parts path)
  if isAbsolute path then "/" ++ joined
  else if joined.isEmpty then "."
  else joined

end Path

end Paths

section Known

namespace Files

abbrev Entry := List String × String

def textAt? (entries : List Entry) (place : List String) : Option String :=
  (entries.find? fun entry => entry.1 = place).map Prod.snd

def isDirectory (entries : List Entry) (place : List String) : Bool :=
  place.isEmpty || entries.any fun entry => place.isPrefixOf entry.1 && entry.1 != place

def follow (entries : List Entry) : Option (List String) → List String → Except Unreadable String
  | _, [] => .error .directory
  | none, part :: rest => if part == ".." then follow entries none rest else .error .missing
  | some place, part :: rest =>
      if part == ".." then
        follow entries (if place.isEmpty then none else some place.dropLast) rest
      else
        let next := place ++ [part]
        match textAt? entries next with
        | some text => if rest.isEmpty then .ok text else .error .throughFile
        | none =>
            if isDirectory entries next then follow entries (some next) rest
            else .error .missing

def ofList (texts : List (String × String)) : Files := fun path =>
  let entries := texts.map fun entry => (Path.parts entry.1, entry.2)
  follow entries (if Path.isAbsolute path then none else some []) (Path.parts path)

end Files

end Known

end StyleFold
