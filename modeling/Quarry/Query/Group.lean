import Quarry.Query.Error

/-!
The pieces of a clause: the group in parentheses with which a text starts, the pair of values that a
group holds, and the literal between two quote characters. Quotes protect neither parentheses nor
commas.
-/

namespace Quarry.Group

/-- Cuts a text at the parenthesis that closes the group it stands in. Inside that group `nested`
others are open, and `seen` is the part of it already passed, last character first. -/
def close? (nested : Nat) (seen : List Char) : List Char → Option (List Char × List Char)
  | [] => none
  | c :: rest =>
    if c = '(' then close? (nested + 1) (c :: seen) rest
    else if c = ')' then
      match nested with
      | 0 => some (seen.reverse, rest)
      | nested + 1 => close? nested (c :: seen) rest
    else close? nested (c :: seen) rest

def split (text : List Char) : Except QueryError (List Char × List Char) :=
  match text with
  | '(' :: afterOpening =>
    match close? 0 [] afterOpening with
    | some parts => .ok parts
    | none => .error (.malformed (.notClosed (snippet text)))
  | _ => .error (.malformed (.notOpened (snippet text)))

/-- The two values of a group that holds exactly one comma. -/
def pair (inner : List Char) : Except QueryError (List Char × List Char) :=
  match inner.dropWhile (· ≠ ',') with
  | [] => .error (.malformed (.notPair (String.ofList inner)))
  | _ :: second =>
    if ',' ∈ second then .error (.malformed (.notPair (String.ofList inner)))
    else .ok (inner.takeWhile (· ≠ ','), second)

/-- Drops the first and the last character, whatever they are. -/
def unquote (value : List Char) : Except QueryError (List Char) :=
  match value with
  | _ :: c :: rest => .ok (c :: rest).dropLast
  | _ => .error (.malformed (.notQuoted (String.ofList value)))

theorem length_of_close? {nested : Nat} {seen text inner rest : List Char}
    (h : close? nested seen text = some (inner, rest)) : rest.length < text.length := by
  induction text generalizing nested seen with
  | nil => simp [close?] at h
  | cons c text ih =>
    simp only [close?] at h
    split at h
    · exact Nat.lt_succ_of_lt (ih h)
    · split at h
      · cases nested with
        | zero =>
          simp only [Option.some.injEq, Prod.mk.injEq] at h
          simp [← h.2]
        | succ nested => exact Nat.lt_succ_of_lt (ih h)
      · exact Nat.lt_succ_of_lt (ih h)

theorem length_of_split {text inner rest : List Char} (h : split text = .ok (inner, rest)) :
    rest.length < text.length := by
  unfold split at h
  split at h
  · split at h
    · next afterOpening parts eq =>
      cases h
      exact Nat.lt_succ_of_lt (length_of_close? eq)
    · cases h
  · cases h

end Quarry.Group
