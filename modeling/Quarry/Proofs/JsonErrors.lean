import Mathlib.Tactic.Common
import Quarry.Proofs.Members
import Quarry.Proofs.Messages
import Quarry.Record.Json

/-! Why a JSON text is refused. An error is about the syntax, or it says what was wanted, never in words
of the text; what it shows of the text is quoted. Main statement: the message of every error in the text
of a record is a single line. -/

namespace Quarry

namespace Json

variable {text seen letters : List Char} {e : Error}

@[grind ←] theorem Error.plain_of_parts (h : e.parts = []) : e.Plain := by
  simp [Plain, h]

theorem Error.plain_wrongType {wanted : String} (h : Text.SingleLine wanted) (found : Found) :
    (wrongType found wanted).Plain := by
  simpa [Plain, parts] using h

/-! Strings. The lemmas are for automation: an error that a function hands on is that of the function
it called. -/

@[grind →] theorem plain_of_readCode (h : readCode text = .error e) : e.Plain := by
  unfold readCode at h
  grind

@[grind →] theorem plain_of_readLowSurrogate {high : Nat}
    (h : readLowSurrogate high text = .error e) : e.Plain := by
  unfold readLowSurrogate at h
  grind

@[grind →] theorem plain_of_readEscape (h : readEscape text = .error e) : e.Plain := by
  unfold readEscape at h
  grind

@[grind →] theorem plain_of_skipEscape (h : skipEscape text = .error e) : e.Plain := by
  unfold skipEscape at h
  grind

@[grind →] theorem plain_of_readText (h : readText seen text = .error e) : e.Plain := by
  fun_induction readText seen text with
  | case2 => cases h
  | case4 seen after c rest read ih => exact ih h
  | case6 seen c rest _ _ _ ih => exact ih h
  | case1 | case3 | case5 => grind

@[grind →] theorem plain_of_skipText (h : skipText text = .error e) : e.Plain := by
  fun_induction skipText text with
  | case2 => cases h
  | case4 after rest skipped ih => exact ih h
  | case6 c rest _ _ _ ih => exact ih h
  | case1 | case3 | case5 => grind

/-! Numbers. -/

namespace NumberText

variable {atEnd : Error} {number : NumberText}

@[grind →] theorem plain_of_readDigits (plain : atEnd.Plain)
    (h : readDigits atEnd text = .error e) : e.Plain := by
  unfold readDigits at h
  grind

theorem plain_of_readWhole (plain : atEnd.Plain) (h : readWhole atEnd text = .error e) :
    e.Plain := by
  unfold readWhole at h
  grind

theorem plain_of_readFraction (plain : atEnd.Plain) (h : readFraction atEnd text = .error e) :
    e.Plain := by
  unfold readFraction at h
  grind

theorem plain_of_readExponent (plain : atEnd.Plain) (h : readExponent atEnd text = .error e) :
    e.Plain := by
  unfold readExponent at h
  grind

@[grind →] theorem plain_of_read (plain : atEnd.Plain) (h : read atEnd text = .error e) :
    e.Plain := by
  simp only [read, bind_eq_error_iff] at h
  rcases h with whole | ⟨_, -, fraction | ⟨_, -, exponent | ⟨_, -, done⟩⟩⟩
  · exact plain_of_readWhole plain whole
  · exact plain_of_readFraction plain fraction
  · exact plain_of_readExponent plain exponent
  · cases done

@[grind →] theorem plain_of_toNumber (h : number.toNumber = .error e) : e.Plain := by
  unfold toNumber at h
  grind

end NumberText

@[grind →] theorem plain_of_readNumber (h : readNumber text = .error e) : e.Plain := by
  have atEnd : Error.endInValue.Plain := Error.plain_of_parts rfl
  unfold readNumber at h
  grind

@[grind →] theorem plain_of_toInt64 {number : Number} (h : number.toInt64 = .error e) :
    e.Plain := by
  have wanted : Text.SingleLine "i64" := by decide
  unfold Number.toInt64 at h
  grind [Error.Plain]

/-! Values that are passed over. -/

@[grind →] theorem plain_of_readWord (h : readWord letters text = .error e) : e.Plain := by
  fun_induction readWord letters text with
  | case1 => cases h
  | case2 => grind
  | case3 letters c rest ih => exact ih h
  | case4 => grind

@[grind →] theorem plain_of_readColon (h : readColon text = .error e) : e.Plain := by
  unfold readColon at h
  grind

@[grind →] theorem plain_of_skipKey (h : skipKey text = .error e) : e.Plain := by
  unfold skipKey at h
  grind

@[grind →] theorem plain_of_readFront (h : readFront text = .error e) : e.Plain := by
  have atEnd : Error.invalidNumber.Plain := Error.plain_of_parts rfl
  unfold readFront at h
  grind

@[grind →] theorem plain_of_skipNext {frame : Frame} {opened : Bool}
    (h : skipNext frame opened text = .error e) : e.Plain := by
  unfold skipNext skipItemStart at h
  grind

/-- The two functions call each other on what is left of the text. -/
theorem plain_of_skip (text : List Char) :
    (∀ frames, skipValue frames text = .error e → e.Plain) ∧
      ∀ frames opened, skipFrames frames opened text = .error e → e.Plain := by
  induction size : text.length using Nat.strongRecOn generalizing text with
  | ind size ih =>
    subst size
    have value : ∀ text' : List Char, text'.length ≤ text.length →
        ∀ frames, skipValue frames text' = .error e → e.Plain := by
      intro text' le frames h
      rw [skipValue] at h
      split at h
      · next failed =>
        cases h
        exact plain_of_readFront failed
      · next rest read =>
        have shorter := length_of_readFront read
        exact (ih _ (Nat.lt_of_lt_of_le shorter le) rest rfl).2 _ _ h
      · next frame rest read =>
        have shorter := length_of_readFront read
        exact (ih _ (Nat.lt_of_lt_of_le shorter le) rest rfl).2 _ _ h
    refine ⟨value text (Nat.le_refl _), ?_⟩
    intro frames opened h
    rw [skipFrames.eq_def] at h
    split at h
    · cases h
    · split at h
      · next failed =>
        cases h
        exact plain_of_skipNext failed
      · next rest next =>
        exact (ih _ (length_of_skipNext_finish next) rest rfl).2 _ _ h
      · next rest next => exact value rest (length_of_skipNext_item next) _ h

/-! Readers. -/

@[grind .] theorem plain_wrongType {wanted : String} (h : Text.SingleLine wanted)
    (text : List Char) : (wrongType wanted text).Plain := by
  have refuse := Error.plain_wrongType h
  unfold wrongType
  grind

@[grind →] theorem plain_of_nextElement {first : Bool} (h : nextElement first text = .error e) :
    e.Plain := by
  unfold nextElement at h
  grind

@[grind →] theorem plain_of_nextKey {first : Bool} (h : nextKey first text = .error e) :
    e.Plain := by
  unfold nextKey at h
  grind

namespace Reader

variable {α β σ : Type}

/-- The reader fails with plain errors only. -/
def Plain (reader : Reader α) : Prop :=
  ∀ text e, reader.run text = .error e → e.Plain

theorem Plain.map {reader : Reader α} (h : reader.Plain) (f : α → β) : (reader.map f).Plain := by
  intro text e failed
  simp only [Reader.map] at failed
  split at failed
  · next failed' =>
    cases failed
    exact h text _ failed'
  · cases failed

theorem plain_skip : skip.Plain := by
  intro text e failed
  simp only [skip] at failed
  split at failed
  · next failed' =>
    cases failed
    exact (plain_of_skip text).1 [] failed'
  · cases failed

theorem plain_text {wanted : String} (h : Text.SingleLine wanted) : (Reader.text wanted).Plain := by
  intro text e failed
  simp only [Reader.text, readTextValue] at failed
  split at failed
  · exact plain_of_readText failed
  · cases failed
    exact plain_wrongType h _

theorem plain_integer : integer.Plain := by
  have wanted : Text.SingleLine "i64" := by decide
  intro text e failed
  simp only [integer, readIntegerValue] at failed
  grind

theorem plain_of_readMembers {member : σ → String → Except Error (Reader σ)} {state : σ} {first : Bool}
    (refused : ∀ {state key e}, member state key = .error e → e.Plain)
    (value : ∀ {state key reader}, member state key = .ok reader → reader.Plain)
    (h : readMembers member state first text = .error e) : e.Plain := by
  fun_induction readMembers member state first text with
  | case1 state first text _ failed =>
    cases h
    exact plain_of_nextKey failed
  | case2 => cases h
  | case3 state first text keyText _ _ failed =>
    cases h
    exact plain_of_readText failed
  | case4 state first text keyText _ key afterKey _ _ failed =>
    cases h
    exact refused failed
  | case5 state first text keyText _ key afterKey _ reader _ _ failed =>
    cases h
    exact plain_of_readColon failed
  | case6 state first text keyText _ key afterKey _ reader known valueText _ _ failed =>
    cases h
    exact value known _ _ failed
  | case7 _ _ _ _ _ _ _ _ _ _ _ _ _ _ _ ih => exact ih h

theorem plain_of_readSteps {short : Nat → σ → Except Error σ} {steps : List (σ → Reader σ)}
    {count : Nat} {state : σ} (ended : ∀ {count state e}, short count state = .error e → e.Plain)
    (value : ∀ step ∈ steps, ∀ state, (step state).Plain)
    (h : readSteps short steps count state text = .error e) : e.Plain := by
  induction steps generalizing count state text with
  | nil =>
    unfold readSteps at h
    grind
  | cons step steps ih =>
    unfold readSteps at h
    split at h
    · next failed =>
      cases h
      exact plain_of_nextElement failed
    · exact ended (map_eq_error_iff.1 h)
    · split at h
      · next failed =>
        cases h
        exact value step List.mem_cons_self _ _ _ failed
      · exact ih (fun step mem => value step (List.mem_cons_of_mem _ mem)) h

end Reader

/-- Whatever is collected, and in whichever way, the errors are plain. -/
structure Shape.Plain {σ α : Type} (shape : Shape σ α) : Prop where
  name : Text.SingleLine shape.name
  refused {state : σ} {key : String} {e : Error} : shape.member state key = .error e → e.Plain
  value {state : σ} {key : String} {reader : Reader σ} :
    shape.member state key = .ok reader → reader.Plain
  step : ∀ step ∈ shape.steps, ∀ state, (step state).Plain
  short {count : Nat} {state : σ} {e : Error} : shape.short count state = .error e → e.Plain
  complete {state : σ} {e : Error} : shape.complete state = .error e → e.Plain

theorem Shape.Plain.collect {σ α : Type} {shape : Shape σ α} (plain : shape.Plain)
    {fields : Except Error (σ × List Char)} (refused : ∀ {e}, fields = .error e → e.Plain)
    (h : (do
      let (state, rest) ← fields
      return (← shape.complete state, rest)) = .error e) : e.Plain := by
  rcases bind_eq_error_iff.1 h with failed | ⟨_, -, failed⟩
  · exact refused failed
  · rcases bind_eq_error_iff.1 failed with failed | ⟨_, -, done⟩
    · exact plain.complete failed
    · cases done

theorem Shape.Plain.read {σ α : Type} {shape : Shape σ α} (plain : shape.Plain)
    (h : shape.read text = .error e) : e.Plain := by
  unfold Shape.read at h
  split at h
  · cases h
    exact Error.plain_of_parts rfl
  · dsimp only at h
    split_ifs at h
    · exact plain.collect (Reader.plain_of_readMembers plain.refused plain.value) h
    · exact plain.collect (Reader.plain_of_readSteps plain.short plain.step) h
    · cases h
      exact plain_wrongType plain.name _

theorem Shape.Plain.decode {σ α : Type} {shape : Shape σ α} (plain : shape.Plain) {text : String}
    (h : shape.decode text = .error e) : e.Plain := by
  simp only [Shape.decode, bind_eq_error_iff] at h
  rcases h with failed | ⟨⟨value, rest⟩, -, failed⟩
  · exact plain.read failed
  · split at failed
    · cases failed
    · cases failed
      exact Error.plain_of_parts rfl

end Json

/-! Records. -/

namespace Record

open Json

variable {draft : Draft} {key text : String} {e : Error}

theorem Draft.plain_fill (field : Field) (draft : Draft) : (draft.fill field).Plain := by
  have wanted : Text.SingleLine "a string" := by decide
  cases field with
  | id | title | content => exact (Reader.plain_text wanted).map _
  | views | timestamp => exact Reader.plain_integer.map _

theorem Draft.plain_of_member (h : draft.member key = .error e) : e.Plain := by
  unfold Draft.member at h
  split at h
  · next field known =>
    have name : Text.SingleLine key := Field.ofName?_eq_some_iff.1 known ▸ field.singleLine_name
    split at h
    · cases h
      intro part mem
      rwa [List.mem_singleton.1 mem]
    · cases h
  · cases h

theorem Draft.plain_member {reader : Reader Draft} (h : draft.member key = .ok reader) :
    reader.Plain := by
  unfold Draft.member at h
  split at h
  · split at h
    · cases h
    · cases h
      exact Draft.plain_fill _ draft
  · cases h
    exact Reader.plain_skip.map _

theorem Draft.plain_of_need {α : Type} {field : Field} {value : Option α}
    (h : need field value = .error e) : e.Plain := by
  unfold need at h
  split at h
  · cases h
  · cases h
    intro part mem
    rw [List.mem_singleton.1 mem]
    exact field.singleLine_name

theorem Draft.plain_of_complete (h : draft.complete = .error e) : e.Plain := by
  simp only [Draft.complete, bind_eq_error_iff] at h
  rcases h with id | ⟨_, -, title | ⟨_, -, content | ⟨_, -, views | ⟨_, -, timestamp | ⟨_, -, done⟩⟩⟩⟩⟩
  · exact Draft.plain_of_need id
  · exact Draft.plain_of_need title
  · exact Draft.plain_of_need content
  · exact Draft.plain_of_need views
  · exact Draft.plain_of_need timestamp
  · cases done

theorem plain_shape : shape.Plain where
  name := by decide
  refused := Draft.plain_of_member
  value := Draft.plain_member
  step := by
    intro step mem draft
    obtain ⟨field, -, rfl⟩ := List.mem_map.1 mem
    exact Draft.plain_fill field draft
  short := by
    intro count draft e h
    cases h
    intro part mem
    rw [List.mem_singleton.1 mem]
    decide
  complete := Draft.plain_of_complete

/-- No error shows a text of the input but in quotes. -/
theorem singleLine_message_of_ofJson (h : ofJson text = .error e) : Text.SingleLine e.message :=
  (plain_shape.decode h).singleLine_message

end Record

end Quarry
