import Quarry.Json.Text
import Quarry.Json.Number

/-!
Passing over a JSON value of any depth. The lists and objects that stand open are kept on a stack, so
that the depth is bounded by the text alone; what a value means is not looked at.
-/

namespace Quarry.Json

def isSpace (c : Char) : Bool :=
  c = ' ' || c = '\t' || c = '\n' || c = '\r'

def skipSpace (text : List Char) : List Char :=
  text.dropWhile isSpace

theorem length_skipSpace_le (text : List Char) : (skipSpace text).length ≤ text.length :=
  (List.dropWhile_sublist isSpace).length_le

/-- Reads the remaining letters of a word. -/
def readWord : List Char → List Char → Except Error (List Char)
  | [], text => .ok text
  | _ :: _, [] => .error .endInValue
  | letter :: letters, c :: rest =>
    if c = letter then readWord letters rest else .error .expectedWord

theorem length_of_readWord {letters text rest : List Char} (h : readWord letters text = .ok rest) :
    rest.length ≤ text.length := by
  induction letters generalizing text with
  | nil =>
    cases h
    exact Nat.le_refl _
  | cons letter letters ih =>
    cases text with
    | nil => cases h
    | cons c text =>
      simp only [readWord] at h
      split at h
      · exact Nat.le_succ_of_le (ih h)
      · cases h

def readColon (text : List Char) : Except Error (List Char) :=
  match skipSpace text with
  | [] => .error .endInObject
  | ':' :: rest => .ok rest
  | _ => .error .expectedColon

theorem length_of_readColon {text rest : List Char} (h : readColon text = .ok rest) :
    rest.length < text.length := by
  have := length_skipSpace_le text
  unfold readColon at h
  split at h
  · cases h
  · next eq =>
    cases h
    rw [eq, List.length_cons] at this
    omega
  · cases h

inductive Frame where
  | list
  | object
  deriving DecidableEq, Repr

/-- The front of a value: all of it, or the opening of a list or an object. -/
inductive Front where
  | whole (rest : List Char)
  | opening (frame : Frame) (rest : List Char)

def Front.rest : Front → List Char
  | .whole rest => rest
  | .opening _ rest => rest

def readFront (text : List Char) : Except Error Front :=
  match skipSpace text with
  | [] => .error .endInValue
  | c :: rest =>
    if c = 'n' then (readWord "ull".toList rest).map .whole
    else if c = 't' then (readWord "rue".toList rest).map .whole
    else if c = 'f' then (readWord "alse".toList rest).map .whole
    else if c = '"' then (skipText rest).map .whole
    else if c = '[' then .ok (.opening .list rest)
    else if c = '\x7b' then .ok (.opening .object rest)
    else if c = '-' ∨ c.isDigit then
      (NumberText.read .invalidNumber (c :: rest)).map fun (_, rest) => .whole rest
    else .error .expectedValue

theorem length_of_readFront {text : List Char} {front : Front} (h : readFront text = .ok front) :
    front.rest.length < text.length := by
  have space := length_skipSpace_le text
  unfold readFront at h
  split at h
  · cases h
  · next c rest eq =>
    rw [eq, List.length_cons] at space
    have word : ∀ {letters : List Char}, (readWord letters rest).map Front.whole = .ok front →
        front.rest.length < text.length := by
      intro letters h
      cases read : readWord letters rest with
      | error e => simp [read, Except.map] at h
      | ok after =>
        simp only [read, Except.map, Except.ok.injEq] at h
        have := length_of_readWord read
        simp only [← h, Front.rest]
        omega
    split at h
    · exact word h
    split at h
    · exact word h
    split at h
    · exact word h
    split at h
    · cases read : skipText rest with
      | error e => simp [read, Except.map] at h
      | ok after =>
        simp only [read, Except.map, Except.ok.injEq] at h
        have := length_of_skipText read
        simp only [← h, Front.rest]
        omega
    split at h
    · cases h
      simp only [Front.rest]
      omega
    split at h
    · cases h
      simp only [Front.rest]
      omega
    split at h
    · cases read : NumberText.read .invalidNumber (c :: rest) with
      | error e => simp [read, Except.map] at h
      | ok parts =>
        simp only [read, Except.map, Except.ok.injEq] at h
        have := NumberText.length_of_read read
        rw [List.length_cons] at this
        simp only [← h, Front.rest]
        omega
    · cases h

/-- What comes next in a list or an object: another item, or its end. -/
inductive Next where
  | item (rest : List Char)
  | finish (rest : List Char)

/-- Passes over a key and its colon. -/
def skipKey (text : List Char) : Except Error (List Char) :=
  match skipSpace text with
  | [] => .error .endInObject
  | '"' :: rest =>
    match skipText rest with
    | .error e => .error e
    | .ok rest => readColon rest
  | _ => .error .expectedKey

def skipItemStart (frame : Frame) (text : List Char) : Except Error (List Char) :=
  match frame with
  | .list => .ok text
  | .object => skipKey text

/-- Passes over what stands before the next value. A comma is due unless the frame was just opened. -/
def skipNext (frame : Frame) (opened : Bool) (text : List Char) : Except Error Next :=
  match frame, skipSpace text with
  | .list, [] => .error .endInList
  | .object, [] => .error .endInObject
  | .list, ']' :: rest => .ok (.finish rest)
  | .object, '\x7d' :: rest => .ok (.finish rest)
  | frame, c :: rest =>
    if opened then (skipItemStart frame (c :: rest)).map .item
    else if c = ',' then (skipItemStart frame rest).map .item
    else match frame with
      | .list => .error .expectedListEnd
      | .object => .error .expectedObjectEnd

theorem length_of_skipKey {text rest : List Char} (h : skipKey text = .ok rest) :
    rest.length ≤ text.length := by
  have space := length_skipSpace_le text
  unfold skipKey at h
  split at h
  · cases h
  · next eq =>
    rw [eq, List.length_cons] at space
    split at h
    · cases h
    · next skipped =>
      have := length_of_skipText skipped
      have := length_of_readColon h
      omega
  · cases h

theorem length_of_skipItemStart {frame : Frame} {text rest : List Char}
    (h : skipItemStart frame text = .ok rest) : rest.length ≤ text.length := by
  cases frame with
  | list =>
    cases h
    exact Nat.le_refl _
  | object => exact length_of_skipKey h

theorem length_of_skipItemStart_map {frame : Frame} {text : List Char} {next : Next}
    (h : (skipItemStart frame text).map Next.item = .ok next) :
    ∃ rest, next = .item rest ∧ rest.length ≤ text.length := by
  cases start : skipItemStart frame text with
  | error e => simp [start, Except.map] at h
  | ok rest =>
    simp only [start, Except.map, Except.ok.injEq] at h
    exact ⟨rest, h.symm, length_of_skipItemStart start⟩

theorem length_of_skipNext_finish {frame : Frame} {opened : Bool} {text rest : List Char}
    (h : skipNext frame opened text = .ok (.finish rest)) : rest.length < text.length := by
  have space := length_skipSpace_le text
  unfold skipNext at h
  split at h
  · cases h
  · cases h
  · next eq =>
    cases h
    rw [eq, List.length_cons] at space
    omega
  · next eq =>
    cases h
    rw [eq, List.length_cons] at space
    omega
  · split at h
    · obtain ⟨_, eq, _⟩ := length_of_skipItemStart_map h
      cases eq
    · split at h
      · obtain ⟨_, eq, _⟩ := length_of_skipItemStart_map h
        cases eq
      · split at h <;> cases h

theorem length_of_skipNext_item {frame : Frame} {opened : Bool} {text rest : List Char}
    (h : skipNext frame opened text = .ok (.item rest)) : rest.length ≤ text.length := by
  have space := length_skipSpace_le text
  unfold skipNext at h
  split at h
  · cases h
  · cases h
  · cases h
  · cases h
  · next eq =>
    rw [eq, List.length_cons] at space
    split at h
    · obtain ⟨_, same, le⟩ := length_of_skipItemStart_map h
      cases same
      rw [List.length_cons] at le
      omega
    · split at h
      · obtain ⟨_, same, le⟩ := length_of_skipItemStart_map h
        cases same
        omega
      · split at h <;> cases h

mutual

/-- Passes over a value that stands in the open `frames`, and over what ends them. -/
def skipValue (frames : List Frame) (text : List Char) : Except Error (List Char) :=
  match _ : readFront text with
  | .error e => .error e
  | .ok (.whole rest) => skipFrames frames false rest
  | .ok (.opening frame rest) => skipFrames (frame :: frames) true rest
termination_by (text.length, 0)
decreasing_by
  all_goals
    have := length_of_readFront ‹_›
    simp only [Front.rest] at this
    exact .left _ _ this

def skipFrames (frames : List Frame) (opened : Bool) (text : List Char) :
    Except Error (List Char) :=
  match frames with
  | [] => .ok text
  | frame :: outer =>
    match _ : skipNext frame opened text with
    | .error e => .error e
    | .ok (.finish rest) => skipFrames outer false rest
    | .ok (.item rest) => skipValue (frame :: outer) rest
termination_by (text.length, 1)
decreasing_by
  · exact .left _ _ (length_of_skipNext_finish ‹_›)
  · have := length_of_skipNext_item ‹_›
    rcases Nat.lt_or_eq_of_le this with less | same
    · exact .left _ _ less
    · rw [same]
      exact .right _ (by decide)

end

/-- What is left after a value is shorter than the text. -/
theorem length_of_skip (text : List Char) :
    (∀ frames rest, skipValue frames text = .ok rest → rest.length < text.length) ∧
      ∀ frames opened rest, skipFrames frames opened text = .ok rest →
        rest.length ≤ text.length := by
  induction size : text.length using Nat.strongRecOn generalizing text with
  | ind size ih =>
    subst size
    have value : ∀ text' : List Char, text'.length ≤ text.length → ∀ frames rest,
        skipValue frames text' = .ok rest → rest.length < text'.length := by
      intro text' le frames rest h
      rw [skipValue] at h
      split at h
      · cases h
      · next after read =>
        have shorter := length_of_readFront read
        have := (ih _ (Nat.lt_of_lt_of_le shorter le) after rfl).2 _ _ _ h
        exact Nat.lt_of_le_of_lt this shorter
      · next frame after read =>
        have shorter := length_of_readFront read
        have := (ih _ (Nat.lt_of_lt_of_le shorter le) after rfl).2 _ _ _ h
        exact Nat.lt_of_le_of_lt this shorter
    refine ⟨value text (Nat.le_refl _), ?_⟩
    intro frames opened rest h
    rw [skipFrames.eq_def] at h
    split at h
    · cases h
      exact Nat.le_refl _
    · split at h
      · cases h
      · next after next =>
        have shorter := length_of_skipNext_finish next
        exact Nat.le_trans ((ih _ shorter after rfl).2 _ _ _ h) (Nat.le_of_lt shorter)
      · next after next =>
        have le := length_of_skipNext_item next
        exact Nat.le_trans (Nat.le_of_lt (value after le _ _ h)) le

end Quarry.Json
