import Quarry.Json.Error

/-!
JSON strings. Writing escapes the quote, the backslash and the controls below U+0020, and nothing
else. Reading accepts every escape, with the characters beyond U+FFFF as two surrogates; a string
that is only passed over need not pair them.
-/

namespace Quarry.Json

def hexValue? (c : Char) : Option Nat :=
  if c.isDigit then some (c.toNat - '0'.toNat)
  else if 'a' ≤ c ∧ c ≤ 'f' then some (c.toNat - 'a'.toNat + 10)
  else if 'A' ≤ c ∧ c ≤ 'F' then some (c.toNat - 'A'.toNat + 10)
  else none

def byteLength (text : List Char) : Nat :=
  (String.ofList text).utf8ByteSize

/-- Reads four hexadecimal digits. A text of less than four bytes has ended too early, whatever it
holds. -/
def readCode : List Char → Except Error (Nat × List Char)
  | a :: b :: c :: d :: rest =>
    match hexValue? a, hexValue? b, hexValue? c, hexValue? d with
    | some a, some b, some c, some d => .ok (((a * 16 + b) * 16 + c) * 16 + d, rest)
    | _, _, _, _ => .error .invalidEscape
  | text => .error (if byteLength text < 4 then .endInText else .invalidEscape)

def isHighSurrogate (code : Nat) : Bool := 0xD800 ≤ code && code ≤ 0xDBFF

def isLowSurrogate (code : Nat) : Bool := 0xDC00 ≤ code && code ≤ 0xDFFF

def ofSurrogates (high low : Nat) : Char :=
  Char.ofNat (0x10000 + (high - 0xD800) * 0x400 + (low - 0xDC00))

/-- Reads the second of two surrogates, escape included. -/
def readLowSurrogate (high : Nat) (text : List Char) : Except Error (Char × List Char) :=
  match text with
  | [] | ['\\'] => .error .endInText
  | '\\' :: 'u' :: rest =>
    match readCode rest with
    | .error e => .error e
    | .ok (low, rest) =>
      if isLowSurrogate low then .ok (ofSurrogates high low, rest) else .error .loneSurrogate
  | _ => .error .unfinishedSurrogate

/-- What an escape of one letter stands for. -/
def escapedBy (letter : Char) : Option Char :=
  [('"', '"'), ('\\', '\\'), ('/', '/'), ('b', '\x08'), ('f', '\x0C'), ('n', '\n'), ('r', '\r'),
    ('t', '\t')].lookup letter

/-- Reads what follows the backslash of an escape. -/
def readEscape (text : List Char) : Except Error (Char × List Char) :=
  match text with
  | [] => .error .endInText
  | letter :: rest =>
    if letter = 'u' then
      match readCode rest with
      | .error e => .error e
      | .ok (code, rest) =>
        if isLowSurrogate code then .error .loneSurrogate
        else if isHighSurrogate code then readLowSurrogate code rest
        else .ok (Char.ofNat code, rest)
    else
      match escapedBy letter with
      | some c => .ok (c, rest)
      | none => .error .invalidEscape

def skipEscape (text : List Char) : Except Error (List Char) :=
  match text with
  | [] => .error .endInText
  | letter :: rest =>
    if letter = 'u' then
      match readCode rest with
      | .error e => .error e
      | .ok (_, rest) => .ok rest
    else if (escapedBy letter).isSome then .ok rest
    else .error .invalidEscape

theorem length_of_readCode {text rest : List Char} {code : Nat}
    (h : readCode text = .ok (code, rest)) : rest.length < text.length := by
  unfold readCode at h
  split at h
  · split at h
    · cases h
      simp only [List.length_cons]
      omega
    · cases h
  · cases h

theorem length_of_readLowSurrogate {high : Nat} {text rest : List Char} {c : Char}
    (h : readLowSurrogate high text = .ok (c, rest)) : rest.length < text.length := by
  unfold readLowSurrogate at h
  split at h
  · cases h
  · cases h
  · split at h
    · cases h
    · next eq =>
      split at h
      · have := length_of_readCode eq
        simp only [Except.ok.injEq, Prod.mk.injEq] at h
        simp only [List.length_cons, ← h.2]
        omega
      · cases h
  · cases h

theorem length_of_readEscape {text rest : List Char} {c : Char}
    (h : readEscape text = .ok (c, rest)) : rest.length < text.length := by
  unfold readEscape at h
  split at h
  · cases h
  · split at h
    · split at h
      · cases h
      · next read =>
        have shorter := length_of_readCode read
        simp only [List.length_cons]
        split at h
        · cases h
        · split at h
          · have := length_of_readLowSurrogate h
            omega
          · simp only [Except.ok.injEq, Prod.mk.injEq] at h
            rw [← h.2]
            omega
    · split at h
      · cases h
        simp
      · cases h

theorem length_of_skipEscape {text rest : List Char} (h : skipEscape text = .ok rest) :
    rest.length < text.length := by
  unfold skipEscape at h
  split at h
  · cases h
  · split at h
    · split at h
      · cases h
      · next read =>
        have := length_of_readCode read
        cases h
        simp only [List.length_cons]
        omega
    · split at h
      · cases h
        simp
      · cases h

/-- Reads a string up to its closing quote; `seen` is what it holds so far, last character first. -/
def readText (seen : List Char) (text : List Char) : Except Error (String × List Char) :=
  match text with
  | [] => .error .endInText
  | '"' :: rest => .ok (String.ofList seen.reverse, rest)
  | '\\' :: rest =>
    match _ : readEscape rest with
    | .error e => .error e
    | .ok (c, rest) => readText (c :: seen) rest
  | c :: rest => if c.toNat < 0x20 then .error .controlCharacter else readText (c :: seen) rest
termination_by text.length
decreasing_by
  · have := length_of_readEscape ‹_›
    simp only [List.length_cons]
    omega
  · simp

def skipText (text : List Char) : Except Error (List Char) :=
  match text with
  | [] => .error .endInText
  | '"' :: rest => .ok rest
  | '\\' :: rest =>
    match _ : skipEscape rest with
    | .error e => .error e
    | .ok rest => skipText rest
  | c :: rest => if c.toNat < 0x20 then .error .controlCharacter else skipText rest
termination_by text.length
decreasing_by
  · have := length_of_skipEscape ‹_›
    simp only [List.length_cons]
    omega
  · simp

theorem length_of_readText {seen text rest : List Char} {value : String}
    (h : readText seen text = .ok (value, rest)) : rest.length < text.length := by
  fun_induction readText seen text with
  | case1 => cases h
  | case2 seen rest =>
    cases h
    simp
  | case3 => cases h
  | case4 seen after c rest read ih =>
    have := ih h
    have := length_of_readEscape read
    simp only [List.length_cons]
    omega
  | case5 => cases h
  | case6 seen c after _ _ _ ih =>
    have := ih h
    simp only [List.length_cons]
    omega

theorem length_of_skipText {text rest : List Char} (h : skipText text = .ok rest) :
    rest.length < text.length := by
  fun_induction skipText text with
  | case1 => cases h
  | case2 =>
    cases h
    simp
  | case3 => cases h
  | case4 after rest skipped ih =>
    have := ih h
    have := length_of_skipEscape skipped
    simp only [List.length_cons]
    omega
  | case5 => cases h
  | case6 c after _ _ _ ih =>
    have := ih h
    simp only [List.length_cons]
    omega

def hexDigits (code : Nat) : List Char :=
  let digits := Nat.toDigits 16 code
  List.replicate (4 - digits.length) '0' ++ digits

def escaped (c : Char) : List Char :=
  if c = '"' then ['\\', '"']
  else if c = '\\' then ['\\', '\\']
  else if c = '\x08' then ['\\', 'b']
  else if c = '\x0C' then ['\\', 'f']
  else if c = '\n' then ['\\', 'n']
  else if c = '\r' then ['\\', 'r']
  else if c = '\t' then ['\\', 't']
  else if c.toNat < 0x20 then '\\' :: 'u' :: hexDigits c.toNat
  else [c]

def writeText (text : String) : List Char :=
  '"' :: text.toList.flatMap escaped ++ ['"']

end Quarry.Json
