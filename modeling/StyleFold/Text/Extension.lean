import StyleFold.Text.Lowercase

/-!
Extensions of file names. The extension starts at the last dot of the last path
component; dots that the component begins with do not count.
-/

namespace StyleFold.Text

def lastComponent (path : List Char) : List Char :=
  (path.reverse.takeWhile (· != '/')).reverse

def extensionOf (path : List Char) : List Char :=
  let stem := (lastComponent path).dropWhile (· == '.')
  if stem.contains '.' then '.' :: (stem.reverse.takeWhile (· != '.')).reverse
  else []

def extension (path : String) : String :=
  String.ofList (lower (extensionOf path.toList))

end StyleFold.Text
