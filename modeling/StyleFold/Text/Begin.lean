/-!
How texts begin.
-/

namespace StyleFold.Text

def after? (word : String) (text : List Char) : Option (List Char) :=
  if word.toList.isPrefixOf text then some (text.drop word.toList.length) else none

def begins (word text : String) : Bool := word.toList.isPrefixOf text.toList

end StyleFold.Text
