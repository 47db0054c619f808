import Quarry.Json.Skip

/-!
Readers of JSON values of a wanted type. A reader takes a value off the front of a text and leaves a
shorter one, so lists and objects are read by recursion on the length of the text.
-/

namespace Quarry.Json

structure Reader (α : Type) where
  run : List Char → Except Error (α × List Char)
  shortens {text : List Char} {value : α} {rest : List Char} :
    run text = .ok (value, rest) → rest.length < text.length

/-- The number at the front of a text. -/
def readNumber (text : List Char) : Except Error (Number × List Char) :=
  match NumberText.read .endInValue text with
  | .error e => .error e
  | .ok (number, rest) =>
    match number.toNumber with
    | .error e => .error e
    | .ok number => .ok (number, rest)

theorem length_of_readNumber {text rest : List Char} {number : Number}
    (h : readNumber text = .ok (number, rest)) : rest.length < text.length := by
  unfold readNumber at h
  split at h
  · cases h
  · next read =>
    split at h
    · cases h
    · cases h
      exact NumberText.length_of_read read

/-- The error for a text that starts with something else than the wanted value. What is found is read
first, and its own errors come before. -/
def wrongType (wanted : String) (text : List Char) : Error :=
  let refuse (found : Found) : Error := .wrongType found wanted
  let word (letters : String) (found : Found) (rest : List Char) : Error :=
    match readWord letters.toList rest with
    | .error e => e
    | .ok _ => refuse found
  match text with
  | [] => .endInValue
  | c :: rest =>
    if c = 'n' then word "ull" .null rest
    else if c = 't' then word "rue" (.boolean true) rest
    else if c = 'f' then word "alse" (.boolean false) rest
    else if c = '"' then
      match readText [] rest with
      | .error e => e
      | .ok (value, _) => refuse (.text value)
    else if c = '[' then refuse .list
    else if c = '\x7b' then refuse .object
    else if c = '-' ∨ c.isDigit then
      match readNumber text with
      | .error e => e
      | .ok (number, _) => refuse number.found
    else .expectedValue

/-- Reads the next item of a list, or its end. -/
def nextElement (first : Bool) (text : List Char) : Except Error Next :=
  match skipSpace text with
  | [] => .error .endInList
  | ']' :: rest => .ok (.finish rest)
  | c :: rest =>
    if first then .ok (.item (c :: rest))
    else if c = ',' then
      match skipSpace rest with
      | [] => .error .endInValue
      | ']' :: _ => .error .trailingComma
      | rest => .ok (.item rest)
    else .error .expectedListEnd

/-- Reads the next key of an object up to its opening quote, or the object's end. -/
def nextKey (first : Bool) (text : List Char) : Except Error Next :=
  match skipSpace text with
  | [] => .error .endInObject
  | '\x7d' :: rest => .ok (.finish rest)
  | c :: rest =>
    if first then if c = '"' then .ok (.item rest) else .error .expectedKey
    else if c = ',' then
      match skipSpace rest with
      | [] => .error .endInValue
      | '"' :: rest => .ok (.item rest)
      | '\x7d' :: _ => .error .trailingComma
      | _ => .error .expectedKey
    else .error .expectedObjectEnd

def Next.rest : Next → List Char
  | .item rest => rest
  | .finish rest => rest

theorem length_of_nextElement {first : Bool} {text : List Char} {next : Next}
    (h : nextElement first text = .ok next) : next.rest.length ≤ text.length := by
  have space := length_skipSpace_le text
  unfold nextElement at h
  split at h
  · cases h
  · next eq =>
    cases h
    rw [eq, List.length_cons] at space
    simp only [Next.rest]
    omega
  · next c rest _ eq =>
    rw [eq] at space
    split at h
    · cases h
      exact space
    · split at h
      · have := length_skipSpace_le rest
        rw [List.length_cons] at space
        split at h
        · cases h
        · cases h
        · cases h
          simp only [Next.rest]
          omega
      · cases h

theorem length_of_nextElement_finish {first : Bool} {text rest : List Char}
    (h : nextElement first text = .ok (.finish rest)) : rest.length < text.length := by
  have space := length_skipSpace_le text
  unfold nextElement at h
  split at h
  · cases h
  · next eq =>
    cases h
    rw [eq, List.length_cons] at space
    omega
  · split at h
    · cases h
    · split at h
      · split at h <;> cases h
      · cases h

theorem length_of_nextKey {first : Bool} {text : List Char} {next : Next}
    (h : nextKey first text = .ok next) : next.rest.length < text.length := by
  have space := length_skipSpace_le text
  unfold nextKey at h
  split at h
  · cases h
  · next eq =>
    cases h
    rw [eq, List.length_cons] at space
    simp only [Next.rest]
    omega
  · next c rest _ eq =>
    rw [eq, List.length_cons] at space
    split at h
    · split at h
      · cases h
        simp only [Next.rest]
        omega
      · cases h
    · split at h
      · have more := length_skipSpace_le rest
        split at h
        · cases h
        · next eq =>
          cases h
          rw [eq, List.length_cons] at more
          simp only [Next.rest]
          omega
        · cases h
        · cases h
      · cases h

namespace Reader

variable {α β σ : Type}

def map (f : α → β) (reader : Reader α) : Reader β where
  run text := match reader.run text with
    | .error e => .error e
    | .ok (value, rest) => .ok (f value, rest)
  shortens h := by
    split at h
    · cases h
    · next eq =>
      cases h
      exact reader.shortens eq

/-- A value that is passed over. -/
def skip : Reader Unit where
  run text := match skipValue [] text with
    | .error e => .error e
    | .ok rest => .ok ((), rest)
  shortens h := by
    split at h
    · cases h
    · next eq =>
      cases h
      exact (length_of_skip _).1 _ _ eq

def readTextValue (wanted : String) (text : List Char) : Except Error (String × List Char) :=
  match skipSpace text with
  | '"' :: rest => readText [] rest
  | rest => .error (wrongType wanted rest)

def text (wanted : String) : Reader String where
  run := readTextValue wanted
  shortens {input} _ _ h := by
    have space := length_skipSpace_le input
    unfold readTextValue at h
    split at h
    · next eq =>
      have := length_of_readText h
      rw [eq, List.length_cons] at space
      omega
    · cases h

def readBooleanValue (text : List Char) : Except Error (Bool × List Char) :=
  match skipSpace text with
  | 't' :: rest => (readWord "rue".toList rest).map fun rest => (true, rest)
  | 'f' :: rest => (readWord "alse".toList rest).map fun rest => (false, rest)
  | rest => .error (wrongType "a boolean" rest)

def boolean : Reader Bool where
  run := readBooleanValue
  shortens {input} value rest h := by
    have space := length_skipSpace_le input
    have word : ∀ {letters after : List Char} {b : Bool},
        (readWord letters after).map (fun rest => (b, rest)) = .ok (value, rest) →
          rest.length ≤ after.length := by
      intro letters after b h
      cases read : readWord letters after with
      | error e => simp [read, Except.map] at h
      | ok left =>
        simp only [read, Except.map, Except.ok.injEq, Prod.mk.injEq] at h
        exact h.2 ▸ length_of_readWord read
    unfold readBooleanValue at h
    split at h
    · next eq =>
      rw [eq, List.length_cons] at space
      exact Nat.lt_of_lt_of_le (Nat.lt_succ_of_le (word h)) space
    · next eq =>
      rw [eq, List.length_cons] at space
      exact Nat.lt_of_lt_of_le (Nat.lt_succ_of_le (word h)) space
    · cases h

def readIntegerValue (text : List Char) : Except Error (Int64 × List Char) :=
  match skipSpace text with
  | [] => .error .endInValue
  | c :: rest =>
    if c = '-' ∨ c.isDigit then
      match readNumber (c :: rest) with
      | .error e => .error e
      | .ok (number, rest) => number.toInt64.map fun value => (value, rest)
    else .error (wrongType "i64" (c :: rest))

def integer : Reader Int64 where
  run := readIntegerValue
  shortens {input} value rest h := by
    have space := length_skipSpace_le input
    unfold readIntegerValue at h
    split at h
    · cases h
    · next eq =>
      rw [eq] at space
      split at h
      · split at h
        · cases h
        · next number after read =>
          have := length_of_readNumber read
          cases whole : number.toInt64 with
          | error e => simp [whole, Except.map] at h
          | ok n =>
            simp only [whole, Except.map, Except.ok.injEq, Prod.mk.injEq] at h
            rw [← h.2]
            omega
      · cases h

/-- Reads the items of a list up to its end; `seen` is what was read, last item first. -/
def readItems (item : Reader α) (seen : List α) (first : Bool) (text : List Char) :
    Except Error (List α × List Char) :=
  match _ : nextElement first text with
  | .error e => .error e
  | .ok (.finish rest) => .ok (seen.reverse, rest)
  | .ok (.item value) =>
    match _ : item.run value with
    | .error e => .error e
    | .ok (value, rest) => readItems item (value :: seen) false rest
termination_by text.length
decreasing_by
  have le := length_of_nextElement ‹_›
  exact Nat.lt_of_lt_of_le (item.shortens ‹_›) le

theorem length_of_readItems {item : Reader α} {seen values : List α} {first : Bool}
    {text rest : List Char} (h : readItems item seen first text = .ok (values, rest)) :
    rest.length < text.length := by
  fun_induction readItems item seen first text with
  | case1 => cases h
  | case2 seen first text after next =>
    cases h
    exact length_of_nextElement_finish next
  | case3 => cases h
  | case4 seen first text value next v after read ih =>
    have le := length_of_nextElement next
    exact Nat.lt_trans (ih h) (Nat.lt_of_lt_of_le (item.shortens read) le)

def readListValue (item : Reader α) (text : List Char) : Except Error (List α × List Char) :=
  match skipSpace text with
  | '[' :: rest => readItems item [] true rest
  | rest => .error (wrongType "a sequence" rest)

def list (item : Reader α) : Reader (List α) where
  run := readListValue item
  shortens {input} _ _ h := by
    have space := length_skipSpace_le input
    unfold readListValue at h
    split at h
    · next eq =>
      have := length_of_readItems h
      rw [eq, List.length_cons] at space
      omega
    · cases h

/-- Reads the members of an object up to its end. The key decides how its value changes the state. -/
def readMembers (member : σ → String → Except Error (Reader σ)) (state : σ) (first : Bool)
    (text : List Char) : Except Error (σ × List Char) :=
  match _ : nextKey first text with
  | .error e => .error e
  | .ok (.finish rest) => .ok (state, rest)
  | .ok (.item keyText) =>
    match _ : readText [] keyText with
    | .error e => .error e
    | .ok (key, afterKey) =>
      match member state key with
      | .error e => .error e
      | .ok reader =>
        match _ : readColon afterKey with
        | .error e => .error e
        | .ok value =>
          match _ : reader.run value with
          | .error e => .error e
          | .ok (state, rest) => readMembers member state false rest
termination_by text.length
decreasing_by
  rename_i next key colon value
  have h1 := length_of_nextKey next
  have h2 := length_of_readText key
  have h3 := length_of_readColon colon
  have h4 := reader.shortens value
  simp only [Next.rest] at h1
  omega

/-- Reads items of a list, one for each of the given steps. If the list ends before, `short` decides
with the number of items read. -/
def readSteps (short : Nat → σ → Except Error σ) (steps : List (σ → Reader σ)) (count : Nat)
    (state : σ) (text : List Char) : Except Error (σ × List Char) :=
  match steps with
  | [] =>
    match skipSpace text with
    | [] => .error .endInList
    | ']' :: rest => .ok (state, rest)
    | ',' :: rest =>
      match skipSpace rest with
      | ']' :: _ => .error .trailingComma
      | _ => .error .trailingCharacters
    | _ => .error .trailingCharacters
  | step :: steps =>
    match nextElement (count = 0) text with
    | .error e => .error e
    | .ok (.finish rest) => (short count state).map fun state => (state, rest)
    | .ok (.item value) =>
      match (step state).run value with
      | .error e => .error e
      | .ok (state, rest) => readSteps short steps (count + 1) state rest

theorem length_of_readMembers {member : σ → String → Except Error (Reader σ)} {state final : σ}
    {first : Bool} {text rest : List Char}
    (h : readMembers member state first text = .ok (final, rest)) : rest.length < text.length := by
  fun_induction readMembers member state first text with
  | case2 state first text after finish =>
    cases h
    exact length_of_nextKey finish
  | case7 state first text keyText item key afterKey read reader known value colon next after run ih =>
    have h1 := length_of_nextKey item
    have h2 := length_of_readText read
    have h3 := length_of_readColon colon
    have h4 := reader.shortens run
    have h5 := ih h
    simp only [Next.rest] at h1
    omega
  | _ => cases h

theorem length_of_readSteps {short : Nat → σ → Except Error σ} {steps : List (σ → Reader σ)}
    {count : Nat} {state final : σ} {text rest : List Char}
    (h : readSteps short steps count state text = .ok (final, rest)) : rest.length < text.length := by
  fun_induction readSteps short steps count state text with
  | case2 count state text after start =>
    have space := length_skipSpace_le text
    cases h
    rw [start, List.length_cons] at space
    omega
  | case7 count state text step steps after finish =>
    cases ended : short count state with
    | error e => simp [ended, Except.map] at h
    | ok final' =>
      simp only [ended, Except.map, Except.ok.injEq, Prod.mk.injEq] at h
      exact h.2 ▸ length_of_nextElement_finish finish
  | case9 count state text step steps value item next after run ih =>
    have le := length_of_nextElement item
    exact Nat.lt_trans (ih h) (Nat.lt_of_lt_of_le ((step state).shortens run) le)
  | _ => cases h

end Reader

/-- How a value of type `α` is collected from an object, or from a list of its fields in order. -/
structure Shape (σ α : Type) where
  /-- The name of the wanted value in messages. -/
  name : String
  start : σ
  member : σ → String → Except Error (Reader σ)
  steps : List (σ → Reader σ)
  short : Nat → σ → Except Error σ
  complete : σ → Except Error α

namespace Shape

variable {α σ : Type}

def read (shape : Shape σ α) (text : List Char) : Except Error (α × List Char) :=
  match skipSpace text with
  | [] => .error .endInValue
  | c :: rest => do
    let (state, rest) ←
      if c = '\x7b' then Reader.readMembers shape.member shape.start true rest
      else if c = '[' then Reader.readSteps shape.short shape.steps 0 shape.start rest
      else .error (wrongType shape.name (c :: rest))
    return (← shape.complete state, rest)

/-- Decodes a whole text. -/
def decode (shape : Shape σ α) (text : String) : Except Error α := do
  let (value, rest) ← shape.read text.toList
  if (skipSpace rest).isEmpty then return value else throw .trailingCharacters

end Shape

end Quarry.Json
