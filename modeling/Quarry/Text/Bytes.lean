/-!
Cutting a text at places counted in UTF-8 bytes. The two parts of a cut make up the text. A place
inside a character is moved behind it.
-/

namespace Quarry.Text

def takeBytes : Nat → List Char → List Char
  | 0, _ => []
  | _ + 1, [] => []
  | count + 1, c :: text => c :: takeBytes (count + 1 - c.utf8Size) text

def dropBytes : Nat → List Char → List Char
  | 0, text => text
  | _ + 1, [] => []
  | count + 1, c :: text => dropBytes (count + 1 - c.utf8Size) text

/-- The part of a text from one place up to another. -/
def slice (text : List Char) (start stop : Nat) : List Char :=
  takeBytes (stop - start) (dropBytes start text)

end Quarry.Text
