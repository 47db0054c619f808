/-!
Properties of characters, each given by the code points at which the answer changes. The characters
before the first of them lack the property. On an ascending list the answer tells whether an odd
number of changes lies at or below the character.
-/

namespace Quarry.Text

def hasProperty (changes : List Nat) (c : Char) : Bool :=
  match changes with
  | [] => false
  | change :: changes => if c.toNat < change then false else !hasProperty changes c

end Quarry.Text
