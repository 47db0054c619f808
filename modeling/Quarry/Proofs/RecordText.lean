import Quarry.Proofs.Escaping
import Quarry.Proofs.Pieces
import Quarry.Proofs.Presentation

/-! Records as they are written in JSON. The compact and the indented text differ only in the blanks
between their parts, which are passed over. Main statement: a record is read back from either text,
and the compact one is a single line. -/

namespace Quarry

open Json

namespace Json

/-- A key as it is written, with blanks in front of it and of the value. -/
theorem memberText_writeText {before beforeValue value : List Char} (before' : Spaces before)
    (beforeValue' : Spaces beforeValue) (value' : IsValue value) (name : String) :
    MemberText (name, value) (before ++ writeText name ++ ':' :: (beforeValue ++ value)) := by
  have none : Spaces [] := List.forall_mem_nil _
  have text := MemberText.parts before' (spells_flatMap_escaped name.toList) none beforeValue' value' none
  simpa [writeText] using text

end Json

theorem FieldValue.isValue_letters (value : FieldValue) : IsValue value.letters := by
  cases value with
  | text value => exact IsValue.text (spells_flatMap_escaped value.toList).textLiteral
  | number value =>
    have literal := integerLiteral_toText value.toInt
    obtain ⟨number, parts, -⟩ := literal.toNumber (Int64.le_toInt value) (Int64.toInt_lt value)
    exact IsValue.number parts

theorem FieldValue.stands_letters (value : FieldValue) : Stands value.letters value := by
  cases value with
  | text value => exact ⟨_, rfl, spells_flatMap_escaped value.toList⟩
  | number value => exact integerLiteral_toText value.toInt

namespace Record

variable {record : Record}

/-! The text of a record, whatever the blanks in it. -/

/-- The blanks between the parts of a text. -/
structure Layout where
  beforeKey : List Char
  beforeValue : List Char
  beforeEnd : List Char

structure Layout.Spaced (layout : Layout) : Prop where
  beforeKey : Spaces layout.beforeKey
  beforeValue : Spaces layout.beforeValue
  beforeEnd : Spaces layout.beforeEnd

variable {layout : Layout}

def member (layout : Layout) (record : Record) (field : Field) : List Char :=
  layout.beforeKey ++ writeText field.name ++
    ':' :: (layout.beforeValue ++ (record.get field).letters)

def laidOut (layout : Layout) (record : Record) : List Char :=
  '\x7b' :: List.intercalate [','] (Field.all.map (member layout record)) ++
    (layout.beforeEnd ++ ['\x7d'])

theorem compact_eq (record : Record) : record.compact = record.laidOut ⟨[], [], []⟩ := rfl

theorem pretty_eq (indent : Nat) (record : Record) : record.pretty indent =
    record.laidOut ⟨newline (indent + 1), [' '], newline indent⟩ := by
  rw [laidOut, ← List.append_assoc]
  rfl

theorem spaces_newline (indent : Nat) : Spaces (newline indent) := by
  intro c mem
  rw [newline, List.mem_cons, List.mem_replicate] at mem
  rcases mem with rfl | ⟨-, rfl⟩ <;> rfl

theorem Layout.spaced_nil : Layout.Spaced ⟨[], [], []⟩ :=
  ⟨List.forall_mem_nil _, List.forall_mem_nil _, List.forall_mem_nil _⟩

theorem Layout.spaced_newline (indent : Nat) :
    Layout.Spaced ⟨newline (indent + 1), [' '], newline indent⟩ :=
  ⟨spaces_newline _, by simp [Spaces, isSpace], spaces_newline _⟩

/-- The members that a record is written as. -/
def members (record : Record) : List (String × List Char) :=
  Field.all.map fun field => (field.name, (record.get field).letters)

theorem presents_members (record : Record) : Presents record.members record := by
  intro field
  refine ⟨(record.get field).letters, ?_, (record.get field).stands_letters⟩
  cases field <;> rfl

theorem forall₂_memberText (spaced : layout.Spaced) (record : Record) (fields : List Field) :
    List.Forall₂ MemberText (fields.map fun field => (field.name, (record.get field).letters))
      (fields.map (member layout record)) := by
  rw [List.forall₂_map_left_iff, List.forall₂_map_right_iff, List.forall₂_same]
  intro field mem
  exact memberText_writeText spaced.beforeKey spaced.beforeValue
    (record.get field).isValue_letters field.name

theorem objectText_laidOut (spaced : layout.Spaced) (record : Record) :
    ObjectText record.members (record.laidOut layout) := by
  have none : Spaces [] := List.forall_mem_nil _
  have texts : List.Forall₂ MemberText record.members (Field.all.map (member layout record)) :=
    forall₂_memberText spaced record Field.all
  simpa [laidOut] using ObjectText.parts none texts spaced.beforeEnd none

theorem ofJson_laidOut (spaced : layout.Spaced) (record : Record) :
    ofJson (String.ofList (record.laidOut layout)) = .ok record :=
  (ofJson_objectText_eq_ok_iff (objectText_laidOut spaced record)).2 record.presents_members

theorem ofJson_compact (record : Record) : ofJson (String.ofList record.compact) = .ok record := by
  rw [compact_eq]
  exact ofJson_laidOut Layout.spaced_nil record

theorem ofJson_pretty (indent : Nat) (record : Record) :
    ofJson (String.ofList (record.pretty indent)) = .ok record := by
  rw [pretty_eq]
  exact ofJson_laidOut (Layout.spaced_newline indent) record

/-! The compact text is a single line. -/

theorem visible_of_mem_letters {value : FieldValue} {c : Char} (h : c ∈ value.letters) :
    0x20 ≤ c.toNat := by
  cases value with
  | text value => exact visible_of_mem_writeText h
  | number value => exact visible_of_mem_toText h

theorem visible_of_mem_compact {c : Char} (h : c ∈ record.compact) : 0x20 ≤ c.toNat := by
  have members : ∀ c ∈ List.intercalate [','] (Field.all.map (member ⟨[], [], []⟩ record)),
      0x20 ≤ c.toNat := by
    refine forall_mem_intercalate (by decide : 0x20 ≤ ','.toNat) ?_
    intro piece mem c mem'
    obtain ⟨field, -, rfl⟩ := List.mem_map.1 mem
    simp only [member, List.nil_append, List.mem_append, List.mem_cons] at mem'
    rcases mem' with name | rfl | value
    · exact visible_of_mem_writeText name
    · decide
    · exact visible_of_mem_letters value
  rw [compact_eq, laidOut, List.nil_append, List.mem_append, List.mem_cons,
    List.mem_singleton] at h
  rcases h with (rfl | mem) | rfl
  · decide
  · exact members c mem
  · decide

theorem notMem_compact {c : Char} (control : c.toNat < 0x20) : c ∉ record.compact := by
  intro mem
  have := visible_of_mem_compact mem
  omega

end Record

end Quarry
