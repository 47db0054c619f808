/-!
Splitting a text at every occurrence of a separator. There is one piece more than there are
separators, and the pieces with separators between them are the text.
-/

namespace Quarry.Text

def splitAt (separator : Char) : List Char → List (List Char)
  | [] => [[]]
  | c :: text =>
    if c = separator then [] :: splitAt separator text
    else
      match splitAt separator text with
      | [] => [[c]]
      | piece :: pieces => (c :: piece) :: pieces

end Quarry.Text
