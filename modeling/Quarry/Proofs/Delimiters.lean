import Quarry.Proofs.Printing

/-! What reading a query leaves out of its tree: which two characters stand around the literal of a text
field. The text of a tree is described with these places left open, and every text that is read as the
tree fills them in. Main statement: a query and the text of its tree have the same length and agree at
every other place. -/

namespace Quarry

variable {places inner : List (Option Char)} {text clause : List Char} {condition : Condition}
  {conditions : List Condition} {query : Query}

/-! A text with open places. -/

/-- The text has a character for every open place, and the given ones elsewhere. -/
def Fills (text : List Char) (places : List (Option Char)) : Prop :=
  List.Forall₂ (fun c place => place = none ∨ place = some c) text places

theorem fills_map_some (text : List Char) : Fills text (text.map some) :=
  List.forall₂_map_right_iff.2 (List.forall₂_same.2 fun _ _ => Or.inr rfl)

theorem Fills.append {other : List Char} {more : List (Option Char)} (h : Fills text places)
    (h' : Fills other more) : Fills (text ++ other) (places ++ more) :=
  List.rel_append h h'

theorem Fills.length_eq (h : Fills text places) : text.length = places.length :=
  List.Forall₂.length_eq h

theorem Fills.getElem?_eq_some {c : Char} {i : Nat} (h : Fills text places)
    (given : places[i]? = some (some c)) : text[i]? = some c := by
  induction h generalizing i with
  | nil => cases given
  | cons fits more ih =>
    cases i with
    | zero =>
      rw [List.getElem?_cons_zero, Option.some.injEq] at given
      subst given
      rcases fits with eq | eq
      · cases eq
      · rw [List.getElem?_cons_zero, Option.some.inj eq]
    | succ i => exact ih given

theorem Fills.getElem?_eq {other : List Char} {i : Nat} (h : Fills text places)
    (h' : Fills other places) (given : places[i]? ≠ some none) : text[i]? = other[i]? := by
  cases found : places[i]? with
  | none =>
    -- behind the end of all three
    have le := List.getElem?_eq_none_iff.1 found
    rw [List.getElem?_eq_none (h.length_eq ▸ le), List.getElem?_eq_none (h'.length_eq ▸ le)]
  | some place =>
    cases place with
    | none => exact absurd found given
    | some c => rw [h.getElem?_eq_some found, h'.getElem?_eq_some found]

theorem fills_intercalate {clauses : List (List Char)} {pieces : List (List (Option Char))}
    (h : List.Forall₂ Fills clauses pieces) :
    Fills ([','].intercalate clauses) ([some ','].intercalate pieces) := by
  induction h with
  | nil => exact List.Forall₂.nil
  | cons first more ih =>
    cases more with
    | nil => simpa using first
    | cons next more =>
      rw [List.intercalate_cons_cons, List.intercalate_cons_cons]
      exact (first.append (fills_map_some [','])).append ih

/-! The text of a query, with the characters around the literals of text fields left open. -/

def Keyword.slots (keyword : Keyword) (inner : List (Option Char)) : List (Option Char) :=
  (keyword.text.toList ++ ['(']).map some ++ inner ++ [some ')']

def Condition.slots (condition : Condition) : List (Option Char) :=
  let literal := condition.literal.toList.map some
  let value := match condition.field.kind with
    | .text => none :: literal ++ [none]
    | .number => literal
  condition.comparison.keyword.slots ((condition.field.name.toList ++ [',']).map some ++ value)

def Query.slots : Query → List (Option Char)
  | .leaf condition => condition.slots
  | .not query => Keyword.not.slots query.slots
  | .all conditions => Keyword.and.slots ([some ','].intercalate (conditions.map (·.slots)))
  | .any conditions => Keyword.or.slots ([some ','].intercalate (conditions.map (·.slots)))

/-- Whether a character around the literal of a text field stands at the place. -/
def Query.Delimits (query : Query) (i : Nat) : Prop :=
  query.slots[i]? = some none

theorem Keyword.fills_group (keyword : Keyword) (h : Fills text inner) :
    Fills (keyword.group text) (keyword.slots inner) := by
  have split : keyword.group text = keyword.text.toList ++ ['('] ++ text ++ [')'] := by
    simp [Keyword.group]
  rw [split]
  exact ((fills_map_some _).append h).append (fills_map_some [')'])

theorem Condition.fills_clause {value : List Char} (spelled : Spelled condition value) :
    Fills (condition.comparison.keyword.group (condition.field.name.toList ++ ',' :: value))
      condition.slots := by
  apply Keyword.fills_group
  rw [List.append_cons]
  apply (fills_map_some _).append
  cases kind : condition.field.kind with
  | text =>
    obtain ⟨-, opening, closing, rfl⟩ := (spelled_iff_of_text kind).1 spelled
    have literal : Fills (opening :: condition.literal.toList)
        (none :: condition.literal.toList.map some) :=
      List.Forall₂.cons (Or.inl rfl) (fills_map_some _)
    exact literal.append (List.Forall₂.cons (Or.inl rfl) List.Forall₂.nil)
  | number =>
    obtain rfl := (spelled_iff_of_number kind).1 spelled
    exact fills_map_some _

theorem Condition.Derives.fills (h : Derives clause condition) : Fills clause condition.slots := by
  obtain ⟨value, spelled, -, -, rfl⟩ := derives_iff.1 h
  exact fills_clause spelled

theorem Condition.forall₂_fills {clauses : List (List Char)}
    (h : List.Forall₂ Derives clauses conditions) :
    List.Forall₂ Fills clauses (conditions.map (·.slots)) :=
  List.forall₂_map_right_iff.2 (h.imp fun _ _ derives => derives.fills)

namespace Query

/-- Every text that is read as a tree fills the open places of the tree. -/
theorem Derives.fills (h : Derives text query) : Fills text query.slots := by
  induction h with
  | leaf derives => exact derives.fills
  | not derives ih => exact Keyword.not.fills_group ih
  | all derives =>
    exact Keyword.and.fills_group (fills_intercalate (Condition.forall₂_fills derives))
  | any derives =>
    exact Keyword.or.fills_group (fills_intercalate (Condition.forall₂_fills derives))

end Query

/-! The printed text has quotes in the open places. -/

/-- The text with a quote in every open place. -/
def filled (places : List (Option Char)) : List Char :=
  places.map (·.getD '\'')

theorem filled_map_some (text : List Char) : filled (text.map some) = text := by
  simp [filled, Function.comp_def]

theorem filled_append (places inner : List (Option Char)) :
    filled (places ++ inner) = filled places ++ filled inner :=
  List.map_append

theorem filled_intercalate (pieces : List (List (Option Char))) :
    filled ([some ','].intercalate pieces) = [','].intercalate (pieces.map filled) := by
  induction pieces with
  | nil => rfl
  | cons piece pieces ih =>
    cases pieces with
    | nil => simp
    | cons next pieces =>
      rw [List.intercalate_cons_cons, filled_append, filled_append, ih, List.map_cons,
        List.map_cons, List.map_cons, List.intercalate_cons_cons]
      rfl

theorem fills_filled (places : List (Option Char)) : Fills (filled places) places := by
  refine List.forall₂_map_left_iff.2 (List.forall₂_same.2 fun place _ => ?_)
  cases place with
  | none => exact Or.inl rfl
  | some c => exact Or.inr rfl

theorem Keyword.filled_slots (keyword : Keyword) (inner : List (Option Char)) :
    filled (keyword.slots inner) = keyword.group (filled inner) := by
  rw [Keyword.slots, filled_append, filled_append, filled_map_some, Keyword.group]
  simp [filled]

theorem Condition.filled_slots (condition : Condition) :
    filled condition.slots = condition.letters := by
  rw [letters_eq, Condition.slots, Keyword.filled_slots, filled_append, filled_map_some]
  cases kind : condition.field.kind with
  | text => simp [filled, Function.comp_def, value_of_text kind]
  | number => simp [filled, Function.comp_def, value_of_number kind]

namespace Query

theorem filled_slots (query : Query) : filled query.slots = query.letters := by
  have each : filled ∘ (fun condition : Condition => condition.slots) = (·.letters) :=
    funext Condition.filled_slots
  induction query with
  | leaf condition => exact condition.filled_slots
  | not query ih => rw [slots, Keyword.filled_slots, ih, letters_not]
  | all conditions =>
    rw [slots, Keyword.filled_slots, filled_intercalate, List.map_map, each, letters_all]
  | any conditions =>
    rw [slots, Keyword.filled_slots, filled_intercalate, List.map_map, each, letters_any]

theorem fills_letters (query : Query) : Fills query.letters query.slots := by
  rw [← filled_slots]
  exact fills_filled query.slots

theorem Delimits.getElem?_letters {i : Nat} (h : query.Delimits i) :
    query.letters[i]? = some '\'' := by
  have quote : (query.slots[i]?).map (·.getD '\'') = some '\'' := by
    rw [h]
    rfl
  rw [← filled_slots, filled, List.getElem?_map, quote]

theorem fills_trim_of_ofText {raw : String} (h : ofText raw = .ok query) :
    Fills (Text.trim raw.toList) query.slots := by
  rw [ofText_eq_ok_iff_readTree, readTree_eq_ok_nil_iff] at h
  exact h.2.fills

/-- A query and the text of its tree differ at most in the characters around the literals of text
fields, which are quotes in the text of the tree. So do two queries with the same tree. -/
theorem ofText_keeps_letters {raw : String} (h : ofText raw = .ok query) :
    let text := Text.trim raw.toList
    text.length = query.text.toList.length ∧
      (∀ i, ¬ query.Delimits i → text[i]? = query.text.toList[i]?) ∧
      (∀ i, query.Delimits i → query.text.toList[i]? = some '\'') ∧
      ((∀ i, query.Delimits i → text[i]? = some '\'') → query.text = String.ofList text) ∧
      ∀ other, ofText other = .ok query →
        (Text.trim other.toList).length = text.length ∧
          ∀ i, ¬ query.Delimits i → (Text.trim other.toList)[i]? = text[i]? := by
  intro text
  have printed : query.text.toList = query.letters := String.toList_ofList
  have here : Fills text query.slots := fills_trim_of_ofText h
  have there := query.fills_letters
  rw [printed]
  refine ⟨here.length_eq.trans there.length_eq.symm, fun i open' => here.getElem?_eq there open',
    fun i delimits => delimits.getElem?_letters, ?_, ?_⟩
  · intro quoted
    have same : text = query.letters := by
      apply List.ext_getElem?
      intro i
      by_cases delimits : query.Delimits i
      · rw [quoted i delimits, delimits.getElem?_letters]
      · exact here.getElem?_eq there delimits
    rw [same]
    rfl
  · intro other h'
    have away := fills_trim_of_ofText h'
    exact ⟨away.length_eq.trans here.length_eq.symm, fun i open' => away.getElem?_eq here open'⟩

/-- The literal of the text field is a blank between two marks that are no quotes, and that of the number
field starts with a blank. -/
theorem ofText_keeps_letters_any :
    let query := any [⟨.equal, .title, " "⟩, ⟨.less, .views, " (7)"⟩]
    let raw := " OR(EQUAL(title,! ?),LESS_THAN(views, (7)))\n"
    ofText raw = .ok query ∧ Text.trim raw.toList ≠ query.text.toList ∧
      query.Delimits 15 ∧ query.Delimits 17 ∧
      (Text.trim raw.toList).length = query.text.toList.length ∧
      ∀ i, ¬ query.Delimits i → (Text.trim raw.toList)[i]? = query.text.toList[i]? := by
  intro query raw
  have read : ofText raw = .ok query := by decide +kernel
  obtain ⟨length, agree, -⟩ := ofText_keeps_letters read
  exact ⟨read, by decide, rfl, rfl, length, agree⟩

end Query

end Quarry
