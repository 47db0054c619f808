import Quarry.Proofs.Members
import Quarry.Proofs.NumberLiteral
import Quarry.Proofs.Pieces
import Quarry.Proofs.TextLiteral

/-! The values of JSON as texts, with any blanks between their parts. Main statement: a value of any depth
is passed over up to its end, whatever stands open around it. -/

namespace Quarry.Json

variable {space after lead value rest : List Char} {frame : Frame}

/-! Blanks in front of something that is read. -/

theorem readColon_spaces (spaces : Spaces space) (rest : List Char) :
    readColon (space ++ ':' :: rest) = .ok rest := by
  simp only [readColon, skipSpace_append spaces (by decide : isSpace ':' = false)]

theorem skipValue_spaces (spaces : Spaces space) (frames : List Frame) (text : List Char) :
    skipValue frames (space ++ text) = skipValue frames text := by
  have front : readFront (space ++ text) = readFront text := by
    simp only [readFront, skipSpace_spaces spaces]
  rw [skipValue_eq, skipValue_eq, front]

/-! What a value is. -/

/-- The character that starts a list or an object. -/
def Frame.opening : Frame → Char
  | .list => '['
  | .object => '\x7b'

/-- What stands in front of a value in a list, or with its key in an object. -/
inductive Frame.Lead : Frame → List Char → Prop where
  | item {space : List Char} (spaces : Spaces space) : Lead .list space
  | member {before key beforeColon beforeValue : List Char} (spaces : Spaces before)
      (key' : TextLiteral key) (spaces' : Spaces beforeColon) (spaces'' : Spaces beforeValue) :
      Lead .object (before ++ '"' :: (key ++ '"' :: (beforeColon ++ ':' :: beforeValue)))

/-- A value in a list or an object, with what stands around it. -/
structure Entry where
  lead : List Char
  value : List Char
  after : List Char

def Entry.letters (entry : Entry) : List Char :=
  entry.lead ++ (entry.value ++ entry.after)

inductive IsValue : List Char → Prop where
  | word {letters : List Char} (h : letters ∈ ["null".toList, "true".toList, "false".toList]) :
      IsValue letters
  | number {number : NumberText} {letters : List Char} (h : NumberLiteral number letters) :
      IsValue letters
  | text {letters : List Char} (h : TextLiteral letters) : IsValue ('"' :: letters ++ ['"'])
  | nested {frame : Frame} {entries : List Entry} {space : List Char}
      (leads : ∀ entry ∈ entries, frame.Lead entry.lead)
      (values : ∀ entry ∈ entries, IsValue entry.value)
      (afters : ∀ entry ∈ entries, Spaces entry.after) (spaces : Spaces space) :
      IsValue (frame.opening :: ([','].intercalate (entries.map Entry.letters) ++
        (space ++ [frame.closing])))

/-- How a value starts: its first character tells whether it is a string or a number. -/
structure StartsWith (c : Char) (value : List Char) : Prop where
  cons : ∃ more, value = c :: more
  visible : isSpace c = false
  open' : c ≠ ']'
  text : c = '"' → ∃ letters, TextLiteral letters ∧ value = '"' :: letters ++ ['"']
  number : c = '-' ∨ c.isDigit = true → ∃ number, NumberLiteral number value

theorem startsWith_of_mem {c : Char} (h : c ∈ ['n', 't', 'f', '[', '\x7b']) (more : List Char) :
    StartsWith c (c :: more) := by
  have other : ∀ c ∈ ['n', 't', 'f', '[', '\x7b'], isSpace c = false ∧ c ≠ ']' ∧ c ≠ '"' ∧
      ¬ (c = '-' ∨ c.isDigit = true) := by simp [isSpace]
  obtain ⟨visible, open', quote, starts⟩ := other c h
  exact ⟨⟨more, rfl⟩, visible, open', fun same => absurd same quote, fun same => absurd same starts⟩

theorem IsValue.exists_startsWith (h : IsValue value) : ∃ c, StartsWith c value := by
  cases h with
  | word h =>
    simp only [List.mem_cons, List.not_mem_nil, or_false] at h
    rcases h with rfl | rfl | rfl
    · exact ⟨'n', startsWith_of_mem (by decide) _⟩
    · exact ⟨'t', startsWith_of_mem (by decide) _⟩
    · exact ⟨'f', startsWith_of_mem (by decide) _⟩
  | number h =>
    obtain ⟨c, more, rfl, starts⟩ := h.exists_eq_cons
    refine ⟨c, ⟨more, rfl⟩, isSpace_of_starts starts, ne_of_starts starts (by decide) rfl, ?_, ?_⟩
    · exact fun quote => absurd quote (ne_of_starts starts (by decide) rfl)
    · exact fun _ => ⟨_, h⟩
  | text h =>
    have starts : ¬ ('"' = '-' ∨ '"'.isDigit = true) := by decide
    exact ⟨'"', ⟨_, rfl⟩, by decide, by decide, fun _ => ⟨_, h, rfl⟩, fun same => absurd same starts⟩
  | @nested frame =>
    cases frame with
    | list => exact ⟨'[', startsWith_of_mem (by decide) _⟩
    | object => exact ⟨'\x7b', startsWith_of_mem (by decide) _⟩

/-! Passing over one entry. -/

theorem skipKey_member {key beforeColon : List Char} (spaces : Spaces space)
    (key' : TextLiteral key) (spaces' : Spaces beforeColon) (rest : List Char) :
    skipKey (space ++ '"' :: (key ++ '"' :: (beforeColon ++ ':' :: rest))) = .ok rest := by
  simp only [skipKey, skipSpace_append spaces (by decide : isSpace '"' = false), key'.skipText,
    readColon_spaces spaces']

theorem Frame.Lead.skipItemStart (h : frame.Lead lead) (rest : List Char) :
    ∃ space, Spaces space ∧ skipItemStart frame (lead ++ rest) = .ok (space ++ rest) := by
  cases h with
  | item spaces => exact ⟨lead, spaces, rfl⟩
  | @member before key beforeColon beforeValue spaces key' spaces' spaces'' =>
    refine ⟨beforeValue, spaces'', ?_⟩
    simpa [Json.skipItemStart] using skipKey_member spaces key' spaces' (beforeValue ++ rest)

/-- The first entry starts where a list or an object does not end. -/
theorem Frame.Lead.skipNext_opened {c : Char} (h : frame.Lead lead) (visible : isSpace c = false)
    (open' : c ≠ ']') (more : List Char) :
    ∃ space, Spaces space ∧
      skipNext frame true (lead ++ c :: more) = .ok (.item (space ++ c :: more)) := by
  cases h with
  | item spaces =>
    refine ⟨[], List.forall_mem_nil _, ?_⟩
    have open'' : c ≠ Frame.list.closing := open'
    rw [skipNext_of_ne true (skipSpace_append spaces visible more) open'']
    rfl
  | @member before key beforeColon beforeValue spaces key' spaces' spaces'' =>
    refine ⟨beforeValue, spaces'', ?_⟩
    have start : skipSpace (before ++ '"' :: (key ++ '"' :: (beforeColon ++ ':' ::
        (beforeValue ++ c :: more)))) = _ := skipSpace_append spaces (by decide) _
    have key'' := skipKey_member (List.forall_mem_nil _) key' spaces' (beforeValue ++ c :: more)
    rw [List.nil_append] at key''
    simp only [List.append_assoc, List.cons_append]
    rw [skipNext_of_ne true start (by decide), if_pos rfl, Json.skipItemStart, key'']
    rfl

theorem Frame.Lead.skipNext_comma (h : frame.Lead lead) (spaces : Spaces after) (rest : List Char) :
    ∃ space, Spaces space ∧
      skipNext frame false (after ++ ',' :: (lead ++ rest)) = .ok (.item (space ++ rest)) := by
  obtain ⟨space, spaces', start⟩ := h.skipItemStart rest
  have open' : ',' ≠ frame.closing := by cases frame <;> decide
  refine ⟨space, spaces', ?_⟩
  rw [skipNext_of_ne false (skipSpace_append spaces (by decide) _) open', if_neg (by decide),
    if_pos rfl, start]
  rfl

theorem skipFrames_closing (spaces : Spaces space) (opened : Bool) (outer : List Frame)
    (rest : List Char) : skipFrames (frame :: outer) opened (space ++ frame.closing :: rest) =
      skipFrames outer false rest := by
  have visible : isSpace frame.closing = false := by cases frame <;> decide
  rw [skipFrames_cons, skipNext_of_closing opened (skipSpace_append spaces visible rest)]
  rfl

/-! Passing over all of them. -/

/-- A text that is passed over as a value, in whichever lists and objects it stands. -/
def PassedOver (value : List Char) : Prop :=
  ∀ frames rest, NumberText.Ended rest →
    skipValue frames (value ++ rest) = skipFrames frames false rest

variable {entries : List Entry}

/-- Behind a value in a list or an object, no number can go on. -/
theorem ended_pieces (frame : Frame) (spaces : Spaces space) (pieces : List (List Char))
    (rest : List Char) :
    NumberText.Ended (pieces.flatMap (',' :: ·) ++ (space ++ frame.closing :: rest)) := by
  cases pieces with
  | nil =>
    have closing : NumberText.Ended (frame.closing :: rest) := by
      cases frame <;> (intro c mem; cases mem; decide)
    rw [List.flatMap_nil, List.nil_append]
    exact ended_spaces spaces closing
  | cons piece pieces =>
    intro c mem
    cases mem
    decide

/-- After one value, the others are passed over with the commas in front of them. -/
theorem skipFrames_entries (leads : ∀ entry ∈ entries, frame.Lead entry.lead)
    (values : ∀ entry ∈ entries, PassedOver entry.value)
    (afters : ∀ entry ∈ entries, Spaces entry.after) (spaces : Spaces space) (spaces' : Spaces after)
    (outer : List Frame) (rest : List Char) :
    skipFrames (frame :: outer) false (after ++ ((entries.map Entry.letters).flatMap (',' :: ·) ++
      (space ++ frame.closing :: rest))) = skipFrames outer false rest := by
  induction entries generalizing after with
  | nil =>
    have both : Spaces (after ++ space) := List.forall_mem_append.2 ⟨spaces', spaces⟩
    rw [List.map_nil, List.flatMap_nil, List.nil_append, ← List.append_assoc]
    exact skipFrames_closing both false outer rest
  | cons entry entries ih =>
    rw [List.forall_mem_cons] at leads values afters
    obtain ⟨before, spaces'', next⟩ := leads.1.skipNext_comma spaces' (entry.value ++ (entry.after ++
      ((entries.map Entry.letters).flatMap (',' :: ·) ++ (space ++ frame.closing :: rest))))
    rw [List.map_cons, List.flatMap_cons, Entry.letters]
    simp only [List.append_assoc, List.cons_append]
    rw [skipFrames_cons, next, ok_bind]
    dsimp only
    rw [skipValue_spaces spaces'', values.1 _ _ (ended_spaces afters.1 (ended_pieces frame spaces _ _))]
    exact ih leads.2 values.2 afters.2 afters.1

theorem skipFrames_opened (leads : ∀ entry ∈ entries, frame.Lead entry.lead)
    (starts : ∀ entry ∈ entries, IsValue entry.value)
    (values : ∀ entry ∈ entries, PassedOver entry.value)
    (afters : ∀ entry ∈ entries, Spaces entry.after) (spaces : Spaces space)
    (outer : List Frame) (rest : List Char) :
    skipFrames (frame :: outer) true ([','].intercalate (entries.map Entry.letters) ++
      (space ++ frame.closing :: rest)) = skipFrames outer false rest := by
  cases entries with
  | nil => exact skipFrames_closing spaces true outer rest
  | cons entry entries =>
    rw [List.forall_mem_cons] at leads starts values afters
    obtain ⟨c, starts⟩ := starts.1.exists_startsWith
    obtain ⟨more, eq⟩ := starts.cons
    have passed := values.1 (frame :: outer) _
      (ended_spaces afters.1 (ended_pieces frame spaces (entries.map Entry.letters) rest))
    rw [eq] at passed
    obtain ⟨before, spaces', next⟩ := leads.1.skipNext_opened starts.visible starts.open' (more ++ _)
    rw [List.map_cons, intercalate_cons, Entry.letters, eq]
    simp only [List.append_assoc, List.cons_append]
    rw [skipFrames_cons, next, ok_bind]
    dsimp only
    rw [skipValue_spaces spaces']
    exact passed.trans (skipFrames_entries leads.2 values.2 afters.2 spaces afters.1 outer rest)

/-! A value. -/

theorem passedOver_of_front (h : ∀ rest, NumberText.Ended rest →
    readFront (value ++ rest) = .ok (.whole rest)) : PassedOver value := by
  intro frames rest ended
  rw [skipValue_eq, h rest ended]
  rfl

theorem readFront_word {letters : List Char}
    (h : letters ∈ ["null".toList, "true".toList, "false".toList]) (rest : List Char) :
    readFront (letters ++ rest) = .ok (.whole rest) := by
  simp only [List.mem_cons, List.not_mem_nil, or_false] at h
  rcases h with rfl | rfl | rfl <;> rfl

theorem readFront_number {number : NumberText} {letters : List Char}
    (h : NumberLiteral number letters) (ended : NumberText.Ended rest) :
    readFront (letters ++ rest) = .ok (.whole rest) := by
  obtain ⟨c, more, rfl, starts⟩ := h.exists_eq_cons
  have read := h.read ended .invalidNumber
  rw [List.cons_append] at read ⊢
  have other : ∀ d ∈ ['n', 't', 'f', '"', '[', '\x7b'], '-' ≠ d ∧ d.isDigit = false := by simp
  have differs : ∀ d ∈ ['n', 't', 'f', '"', '[', '\x7b'], c ≠ d :=
    fun d mem => ne_of_starts starts (other d mem).1 (other d mem).2
  simp only [List.forall_mem_cons] at differs
  obtain ⟨null, true', false', quote, list, object, -⟩ := differs
  simp only [readFront, skipSpace_cons (isSpace_of_starts starts), if_neg null, if_neg true',
    if_neg false', if_neg quote, if_neg list, if_neg object, if_pos starts, read]
  rfl

theorem readFront_text {letters : List Char} (h : TextLiteral letters) (rest : List Char) :
    readFront ('"' :: letters ++ ['"'] ++ rest) = .ok (.whole rest) := by
  have start : skipSpace ('"' :: (letters ++ '"' :: rest)) = '"' :: (letters ++ '"' :: rest) := rfl
  simp [readFront, start, h.skipText, Except.map]

theorem IsValue.passedOver (h : IsValue value) : PassedOver value := by
  induction h with
  | word h => exact passedOver_of_front fun rest _ => readFront_word h rest
  | number h => exact passedOver_of_front fun rest ended => readFront_number h ended
  | text h => exact passedOver_of_front fun rest _ => readFront_text h rest
  | @nested frame entries space leads values afters spaces ih =>
    intro frames rest ended
    have front : ∀ inner, readFront (frame.opening :: inner) = .ok (.opening frame inner) := by
      intro inner
      cases frame <;> rfl
    simp only [List.cons_append, List.append_assoc, List.nil_append]
    rw [skipValue_eq, front]
    exact skipFrames_opened leads values ih afters spaces frames rest

end Quarry.Json
