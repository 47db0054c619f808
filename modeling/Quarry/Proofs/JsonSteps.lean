import Quarry.Json.Reader
import Quarry.Proofs.Outcome

/-! The readers of JSON in terms of their steps: the parts of a number, and what may come next where a value
is passed over. -/

namespace Quarry.Json

variable {text rest : List Char} {c : Char}

namespace NumberText

variable {atEnd : Error}

/-- The sign that a number may start with. -/
def sign (text : List Char) : Bool × List Char :=
  match text with
  | '-' :: rest => (true, rest)
  | _ => (false, text)

/-- The sign that the digits of an exponent may start with. -/
def exponentSign (text : List Char) : Bool × List Char :=
  match text with
  | '+' :: rest => (false, rest)
  | '-' :: rest => (true, rest)
  | _ => (false, text)

theorem sign_of_ne (h : c ≠ '-') : sign (c :: text) = (false, c :: text) := by
  unfold sign
  split
  · next eq => exact absurd (List.cons.inj eq).1 h
  · rfl

theorem exponentSign_of_ne (h : c ≠ '+') (h' : c ≠ '-') :
    exponentSign (c :: text) = (false, c :: text) := by
  unfold exponentSign
  split
  · next eq => exact absurd (List.cons.inj eq).1 h
  · next eq => exact absurd (List.cons.inj eq).1 h'
  · rfl

theorem readExponent_of_mark (mark : c = 'e' ∨ c = 'E') (text : List Char) :
    readExponent atEnd (c :: text) = (readDigits atEnd (exponentSign text).2).map
      fun read => (some ((exponentSign text).1, read.1), read.2) := by
  unfold readExponent exponentSign
  dsimp only
  rw [if_pos mark]
  split <;> (split <;> simp_all [Except.map])

theorem readExponent_of_not_mark (mark : ¬ (c = 'e' ∨ c = 'E')) (text : List Char) :
    readExponent atEnd (c :: text) = .ok (none, c :: text) :=
  if_neg mark

theorem read_eq (atEnd : Error) (text : List Char) : read atEnd text = (do
    let (whole, rest) ← readWhole atEnd (sign text).2
    let (fraction, rest) ← readFraction atEnd rest
    let (exponent, rest) ← readExponent atEnd rest
    return (⟨(sign text).1, whole, fraction, exponent⟩, rest)) := rfl

end NumberText

/-- The character that ends a list or an object. -/
def Frame.closing : Frame → Char
  | .list => ']'
  | .object => '\x7d'

def Frame.unclosed : Frame → Error
  | .list => .expectedListEnd
  | .object => .expectedObjectEnd

variable {frame : Frame}

theorem skipNext_of_nil {opened : Bool} {next : Next} (start : skipSpace text = []) :
    skipNext frame opened text ≠ .ok next := by
  unfold skipNext
  rw [start]
  cases frame <;> simp

theorem skipNext_of_closing (opened : Bool) (start : skipSpace text = frame.closing :: rest) :
    skipNext frame opened text = .ok (.finish rest) := by
  cases frame <;> simp [skipNext, start, Frame.closing]

/-- In front of the end, a comma is due unless the frame was just opened. -/
theorem skipNext_of_ne (opened : Bool) (start : skipSpace text = c :: rest)
    (open' : c ≠ frame.closing) : skipNext frame opened text =
      if opened then (skipItemStart frame (c :: rest)).map .item
      else if c = ',' then (skipItemStart frame rest).map .item
      else .error frame.unclosed := by
  unfold skipNext
  rw [start]
  cases frame with
  | list =>
    have plain : c ≠ ']' := open'
    split <;> simp_all [Frame.unclosed]
  | object =>
    have plain : c ≠ '\x7d' := open'
    split <;> simp_all [Frame.unclosed]

theorem skipValue_eq (frames : List Frame) (text : List Char) : skipValue frames text = (do
    match ← readFront text with
    | .whole rest => skipFrames frames false rest
    | .opening frame rest => skipFrames (frame :: frames) true rest) := by
  rw [skipValue]
  split
  next read => rw [read, error_bind]
  next read =>
    rw [read]
    rfl
  next read =>
    rw [read]
    rfl

theorem skipFrames_nil (opened : Bool) (text : List Char) :
    skipFrames [] opened text = .ok text := by
  rw [skipFrames]

theorem skipFrames_cons (outer : List Frame) (opened : Bool) (text : List Char) :
    skipFrames (frame :: outer) opened text = (do
      match ← skipNext frame opened text with
      | .finish rest => skipFrames outer false rest
      | .item rest => skipValue (frame :: outer) rest) := by
  rw [skipFrames]
  split
  next read => rw [read, error_bind]
  next read =>
    rw [read]
    rfl
  next read =>
    rw [read]
    rfl

end Quarry.Json
