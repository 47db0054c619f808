/-!
Texts that stand for a number, whole or not: an optional sign, and then digits with at most one point
among them and possibly an exponent, or one of the words for infinity and for no number.
-/

namespace Quarry.Numeral

def dropSign : List Char → List Char
  | '+' :: text => text
  | '-' :: text => text
  | text => text

def isExponent (text : List Char) : Bool :=
  let digits := dropSign text
  !digits.isEmpty && digits.all Char.isDigit

/-- What may follow the digits of a number. -/
def isEnd : List Char → Bool
  | [] => true
  | c :: text => (c = 'e' || c = 'E') && isExponent text

def isDecimal (text : List Char) : Bool :=
  let whole := text.takeWhile Char.isDigit
  match text.dropWhile Char.isDigit with
  | '.' :: rest =>
    !(whole.isEmpty && (rest.takeWhile Char.isDigit).isEmpty) && isEnd (rest.dropWhile Char.isDigit)
  | rest => !whole.isEmpty && isEnd rest

def words : List String := ["inf", "infinity", "nan"]

def isNumeral (text : List Char) : Bool :=
  let unsigned := dropSign text
  isDecimal unsigned || words.any fun word => word.toList = unsigned.map Char.toLower

end Quarry.Numeral
