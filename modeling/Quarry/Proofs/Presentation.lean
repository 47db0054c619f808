import Quarry.Proofs.ObjectText
import Quarry.Record.Json

/-! Which objects present a record. The members of an object come in any order, with any blanks between
their parts and any escapes in their keys, and those that are no fields may have any values. Main
statement: an object is read as a record exactly if each field is the key of one member and the value
of this member stands for the value of the field. -/

namespace Quarry

open Json

/-! Values that stand for the value of a field. -/

namespace Json

variable {space value rest left letters : List Char} {c : Char}

/-- Texts stand for strings, and numbers for integers in the range of 64 bits. -/
def Stands (value : List Char) : FieldValue → Prop
  | .text found => ∃ letters, value = '"' :: letters ++ ['"'] ∧ Spells letters found.toList
  | .number found => IntegerLiteral value found.toInt

theorem run_text_eq_ok_iff {wanted found : String} (h : IsValue value) (spaces : Spaces space) :
    (Reader.text wanted).run (space ++ (value ++ rest)) = .ok (found, left) ↔
      Stands value (.text found) ∧ left = rest := by
  simp only [Reader.text, Reader.readTextValue, skipSpace_spaces spaces]
  obtain ⟨c, starts⟩ := h.exists_startsWith
  by_cases quote : c = '"'
  · obtain ⟨letters, literal, rfl⟩ := starts.text quote
    have stands : Stands ('"' :: letters ++ ['"']) (.text found) ↔ Spells letters found.toList := by
      simp [Stands]
    rw [stands, List.cons_append, List.cons_append, skipSpace_cons (by decide), List.append_assoc]
    exact readText_eq_ok_iff literal
  · obtain ⟨more, rfl⟩ := starts.cons
    have none : ¬ Stands (c :: more) (.text found) := by
      rintro ⟨letters, eq, -⟩
      exact quote (List.cons.inj eq).1
    rw [List.cons_append, skipSpace_cons starts.visible]
    simp [none, quote]

theorem run_integer_eq_ok_iff {found : Int64} (h : IsValue value) (spaces : Spaces space)
    (ended : NumberText.Ended rest) :
    Reader.integer.run (space ++ (value ++ rest)) = .ok (found, left) ↔
      Stands value (.number found) ∧ left = rest := by
  have start : Reader.integer.run (space ++ (value ++ rest)) = Reader.integer.run (value ++ rest) := by
    simp only [Reader.integer, Reader.readIntegerValue, skipSpace_spaces spaces]
  rw [start]
  obtain ⟨c, starts⟩ := h.exists_startsWith
  by_cases first : c = '-' ∨ c.isDigit = true
  · obtain ⟨number, literal⟩ := starts.number first
    exact readInteger_eq_ok_iff literal ended
  · obtain ⟨more, rfl⟩ := starts.cons
    have none : ¬ Stands (c :: more) (.number found) := by
      intro literal
      obtain ⟨d, behind, eq, first'⟩ := IntegerLiteral.exists_eq_cons literal
      rw [(List.cons.inj eq).1] at first
      exact first first'
    simp [Reader.integer, Reader.readIntegerValue, skipSpace_cons starts.visible, none, first]

end Json

/-! Drafts by field. -/

def FieldValue.kind : FieldValue → FieldKind
  | .text _ => .text
  | .number _ => .number

namespace Record

variable {record : Record} {field other : Field} {found : FieldValue}

namespace Draft

variable {draft next final : Draft} {space value rest left : List Char} {name : String}
  {member : String × List Char} {members : List (String × List Char)}

def get? (draft : Draft) : Field → Option FieldValue
  | .id => draft.id.map .text
  | .title => draft.title.map .text
  | .content => draft.content.map .text
  | .views => draft.views.map .number
  | .timestamp => draft.timestamp.map .number

/-- Sets a field to a value of its kind. -/
def set (draft : Draft) : Field → FieldValue → Draft
  | .id, .text value => { draft with id := some value }
  | .title, .text value => { draft with title := some value }
  | .content, .text value => { draft with content := some value }
  | .views, .number value => { draft with views := some value }
  | .timestamp, .number value => { draft with timestamp := some value }
  | _, _ => draft

theorem has_eq (draft : Draft) (field : Field) : draft.has field = (draft.get? field).isSome := by
  cases field <;> simp [has, get?]

theorem ext_get? (h : ∀ field, next.get? field = draft.get? field) : next = draft := by
  have text : Function.Injective FieldValue.text := fun _ _ => FieldValue.text.inj
  have number : Function.Injective FieldValue.number := fun _ _ => FieldValue.number.inj
  obtain ⟨id, title, content, views, timestamp⟩ := draft
  obtain ⟨id', title', content', views', timestamp'⟩ := next
  obtain rfl : id' = id := Option.map_injective text (h .id)
  obtain rfl : title' = title := Option.map_injective text (h .title)
  obtain rfl : content' = content := Option.map_injective text (h .content)
  obtain rfl : views' = views := Option.map_injective number (h .views)
  obtain rfl : timestamp' = timestamp := Option.map_injective number (h .timestamp)
  rfl

theorem kind_of_get? (h : draft.get? field = some found) : found.kind = field.kind := by
  cases field <;>
  · obtain ⟨value, -, rfl⟩ := Option.map_eq_some_iff.1 h
    rfl

theorem get?_set (fits : found.kind = field.kind) : (draft.set field found).get? field = some found := by
  cases field <;> cases found <;> first | rfl | cases fits

theorem get?_set_of_ne (h : other ≠ field) : (draft.set field found).get? other = draft.get? other := by
  cases field <;> cases found <;> cases other <;> first | rfl | exact absurd rfl h

theorem need_eq_ok_iff {α : Type} {value : Option α} {a : α} :
    need field value = .ok a ↔ value = some a := by
  cases value <;> simp [need]

theorem complete_eq_ok_iff :
    draft.complete = .ok record ↔ ∀ field, draft.get? field = some (record.get field) := by
  simp only [complete, bind_eq_ok_iff, pure_eq_ok_iff, need_eq_ok_iff]
  constructor
  · rintro ⟨id, hasId, title, hasTitle, content, hasContent, views, hasViews, timestamp,
      hasTimestamp, rfl⟩ field
    cases field <;>
      simp [get?, Record.get, hasId, hasTitle, hasContent, hasViews, hasTimestamp]
  · intro h
    refine ⟨record.id, ?_, record.title, ?_, record.content, ?_, record.views, ?_,
      record.timestamp, ?_, rfl⟩
    · simpa [get?, Record.get] using h .id
    · simpa [get?, Record.get] using h .title
    · simpa [get?, Record.get] using h .content
    · simpa [get?, Record.get] using h .views
    · simpa [get?, Record.get] using h .timestamp

/-- A field is filled with a value that stands for one of its kind. -/
theorem run_fill_eq_ok_iff (h : IsValue value) (spaces : Spaces space)
    (ended : NumberText.Ended rest) :
    (draft.fill field).run (space ++ (value ++ rest)) = .ok (next, left) ↔
      (∃ found, Stands value found ∧ found.kind = field.kind ∧ next = draft.set field found) ∧
        left = rest := by
  cases field with
  | id | title | content =>
    rw [fill, Reader.run_map_eq_ok_iff]
    simp only [run_text_eq_ok_iff h spaces]
    constructor
    · rintro ⟨found, ⟨stands, rfl⟩, rfl⟩
      exact ⟨⟨.text found, stands, rfl, rfl⟩, rfl⟩
    · rintro ⟨⟨found, stands, fits, rfl⟩, rfl⟩
      cases found with
      | text found => exact ⟨found, ⟨stands, rfl⟩, rfl⟩
      | number found => cases fits
  | views | timestamp =>
    rw [fill, Reader.run_map_eq_ok_iff]
    simp only [run_integer_eq_ok_iff h spaces ended]
    constructor
    · rintro ⟨found, ⟨stands, rfl⟩, rfl⟩
      exact ⟨⟨.number found, stands, rfl, rfl⟩, rfl⟩
    · rintro ⟨⟨found, stands, fits, rfl⟩, rfl⟩
      cases found with
      | text found => cases fits
      | number found => exact ⟨found, ⟨stands, rfl⟩, rfl⟩

end Draft

/-! Members. -/

variable {members : List (String × List Char)} {member : String × List Char}

/-- The members with the name of a field. -/
def named (field : Field) (members : List (String × List Char)) : List (String × List Char) :=
  members.filter fun member => member.1 = field.name

/-- A field is the key of one member, and its value stands for the given one. -/
def Listed (members : List (String × List Char)) (field : Field) (found : FieldValue) : Prop :=
  ∃ value, named field members = [(field.name, value)] ∧ Stands value found

/-- The members present a record: each of its fields is listed with its value. -/
def Presents (members : List (String × List Char)) (record : Record) : Prop :=
  ∀ field, Listed members field (record.get field)

theorem named_cons_of_ne {name : String} (h : name ≠ field.name) (value : List Char) :
    named field ((name, value) :: members) = named field members :=
  List.filter_cons_of_neg (by simpa using h)

theorem named_cons (field : Field) (value : List Char) :
    named field ((field.name, value) :: members) = (field.name, value) :: named field members :=
  List.filter_cons_of_pos (by simp)

namespace Draft

variable {draft next final : Draft}

/-- What one member makes of a draft. -/
inductive Takes (draft : Draft) : String × List Char → Draft → Prop where
  | other {name : String} {value : List Char} (unknown : Field.ofName? name = none) :
      Takes draft (name, value) draft
  | field {field : Field} {value : List Char} {found : FieldValue} (new : draft.get? field = none)
      (stands : Stands value found) (fits : found.kind = field.kind) :
      Takes draft (field.name, value) (draft.set field found)

/-- What a list of members makes of a draft: a field is either not named, or named once and new. -/
def Extends (draft : Draft) (members : List (String × List Char)) (final : Draft) : Prop :=
  ∀ field, (named field members = [] ∧ final.get? field = draft.get? field) ∨
    (draft.get? field = none ∧ ∃ found, Listed members field found ∧ final.get? field = some found)

theorem extends_nil_iff : draft.Extends [] final ↔ final = draft := by
  constructor
  · intro h
    apply ext_get?
    intro field
    rcases h field with ⟨-, same⟩ | ⟨-, found, ⟨value, none, -⟩, -⟩
    · exact same
    · cases none
  · rintro rfl field
    exact Or.inl ⟨rfl, rfl⟩

theorem extends_cons_of_unknown {name : String} (unknown : Field.ofName? name = none)
    (value : List Char) :
    draft.Extends ((name, value) :: members) final ↔ draft.Extends members final := by
  have other : ∀ field : Field, name ≠ field.name := by
    rintro field rfl
    rw [Field.ofName?_name] at unknown
    cases unknown
  simp only [Extends, Listed, named_cons_of_ne (other _)]

theorem Extends.of_set {value : List Char} (h : (draft.set field found).Extends members final)
    (new : draft.get? field = none) (stands : Stands value found) (fits : found.kind = field.kind) :
    draft.Extends ((field.name, value) :: members) final := by
  intro other
  by_cases same : other = field
  · subst same
    have set := draft.get?_set fits
    rcases h other with ⟨none, kept⟩ | ⟨again, -⟩
    · exact Or.inr ⟨new, found, ⟨value, by rw [named_cons, none], stands⟩, kept.trans set⟩
    · rw [set] at again
      cases again
  · have differs : field.name ≠ other.name := fun eq => same (Field.name_inj eq).symm
    simpa only [Listed, get?_set_of_ne same, named_cons_of_ne differs] using h other

theorem Extends.exists_set {value : List Char}
    (h : draft.Extends ((field.name, value) :: members) final) : ∃ found, draft.get? field = none ∧
      Stands value found ∧ found.kind = field.kind ∧
        (draft.set field found).Extends members final := by
  rcases h field with ⟨none, -⟩ | ⟨new, found, ⟨value', listed, stands⟩, has⟩
  · rw [named_cons] at none
    cases none
  · rw [named_cons] at listed
    obtain ⟨same, none⟩ := List.cons.inj listed
    obtain rfl : value = value' := (Prod.mk.inj same).2
    have fits := kind_of_get? has
    refine ⟨found, new, stands, fits, ?_⟩
    intro other
    by_cases same : other = field
    · subst same
      exact Or.inl ⟨none, has.trans (get?_set fits).symm⟩
    · have differs : field.name ≠ other.name := fun eq => same (Field.name_inj eq).symm
      simpa only [Listed, get?_set_of_ne same, named_cons_of_ne differs] using h other

theorem extends_cons_iff : draft.Extends (member :: members) final ↔
    ∃ next, draft.Takes member next ∧ next.Extends members final := by
  constructor
  · intro h
    obtain ⟨name, value⟩ := member
    cases known : Field.ofName? name with
    | none => exact ⟨draft, Takes.other known, (extends_cons_of_unknown known value).1 h⟩
    | some field =>
      obtain rfl := Field.ofName?_eq_some_iff.1 known
      obtain ⟨found, new, stands, fits, more⟩ := h.exists_set
      exact ⟨draft.set field found, Takes.field new stands fits, more⟩
  · rintro ⟨next, takes, more⟩
    cases takes with
    | other unknown => exact (extends_cons_of_unknown unknown _).2 more
    | field new stands fits => exact more.of_set new stands fits

theorem takes_field_iff {value : List Char} : draft.Takes (field.name, value) next ↔
    draft.get? field = none ∧
      ∃ found, Stands value found ∧ found.kind = field.kind ∧ next = draft.set field found := by
  constructor
  · intro takes
    generalize eq : (field.name, value) = member at takes
    cases takes with
    | other unknown =>
      obtain ⟨rfl, rfl⟩ := Prod.mk.inj eq
      rw [Field.ofName?_name] at unknown
      cases unknown
    | @field other value found new stands fits =>
      obtain ⟨name, rfl⟩ := Prod.mk.inj eq
      obtain rfl := Field.name_inj name
      exact ⟨new, found, stands, fits, rfl⟩
  · rintro ⟨new, found, stands, fits, rfl⟩
    exact Takes.field new stands fits

/-- One value is read as what its member makes of the draft. -/
theorem reads : Reads Draft.member Takes := by
  intro draft next name space value rest left h spaces ended
  cases known : Field.ofName? name with
  | none =>
    simp only [Draft.member, known, Except.ok.injEq, exists_eq_left', Reader.run_map_eq_ok_iff,
      run_skip h spaces ended]
    constructor
    · rintro ⟨_, eq, rfl⟩
      exact ⟨Takes.other known, (Prod.mk.inj eq).2.symm⟩
    · rintro ⟨takes, rfl⟩
      cases takes with
      | other => exact ⟨(), rfl, rfl⟩
      | field => simp [Field.ofName?_name] at known
  | some field =>
    obtain rfl := Field.ofName?_eq_some_iff.1 known
    rw [takes_field_iff]
    simp only [Draft.member, known, has_eq]
    cases draft.get? field with
    | none => simp [run_fill_eq_ok_iff h spaces ended]
    | some found => simp

theorem takesAll_iff_extends : TakesAll Takes draft members final ↔ draft.Extends members final := by
  induction members generalizing draft with
  | nil => rw [takesAll_nil_iff, extends_nil_iff]
  | cons member members ih => simp only [takesAll_cons_iff, extends_cons_iff, ih]

end Draft

/-- The draft of a whole record. -/
def draft (record : Record) : Draft :=
  ⟨some record.id, some record.title, some record.content, some record.views, some record.timestamp⟩

theorem get?_draft (record : Record) (field : Field) :
    record.draft.get? field = some (record.get field) := by
  cases field <;> rfl

theorem exists_extends_empty_iff : (∃ final, Draft.empty.Extends members final ∧
    ∀ field, final.get? field = some (record.get field)) ↔ Presents members record := by
  have new : ∀ field, Draft.empty.get? field = none := by
    intro field
    cases field <;> rfl
  constructor
  · rintro ⟨final, extends', complete⟩ field
    rcases extends' field with ⟨-, same⟩ | ⟨-, found, listed, has⟩
    · rw [complete, new] at same
      cases same
    · rw [complete] at has
      rwa [Option.some.inj has]
  · intro h
    refine ⟨record.draft, ?_, record.get?_draft⟩
    intro field
    exact Or.inr ⟨new field, _, h field, record.get?_draft field⟩

theorem exists_takesAll_iff : (∃ final, TakesAll Draft.Takes shape.start members final ∧
    shape.complete final = .ok record) ↔ Presents members record := by
  rw [← exists_extends_empty_iff]
  exact exists_congr fun _ => and_congr Draft.takesAll_iff_extends Draft.complete_eq_ok_iff

/-- An object is read as the record that its members present. -/
theorem ofJson_objectText_eq_ok_iff {text : List Char} (h : ObjectText members text) :
    ofJson (String.ofList text) = .ok record ↔ Presents members record :=
  (shape.decode_objectText_eq_ok_iff Draft.reads h).trans exists_takesAll_iff

end Record

end Quarry
