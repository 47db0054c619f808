import Quarry.Proofs.ListText
import Quarry.Proofs.RecordText
import Quarry.Request

/-! The two texts of an answer. The blanks of the indented one stand outside of strings, since no string that
is written holds a quote or a backslash on its own. Main statement: without these blanks the indented text
is the compact one, and both are read back as the records of the answer. -/

namespace Quarry

namespace Json

variable {text other rest letters left more : List Char} {c : Char} {code : Nat}

/-! The blanks outside of strings. -/

/-- Where the next character of a text stands: outside of strings, in a string, or behind a backslash. -/
inductive Side where
  | outside
  | inside
  | escaped

def Side.next : Side → Char → Side
  | .outside, c => if c = '"' then .inside else .outside
  | .inside, c => if c = '"' then .outside else if c = '\\' then .escaped else .inside
  | .escaped, _ => .inside

/-- The text without the spaces and line feeds that stand outside of strings. -/
def squeeze (side : Side) : List Char → List Char
  | [] => []
  | c :: text =>
    match side with
    | .outside =>
      if c = ' ' ∨ c = '\n' then squeeze .outside text else c :: squeeze (Side.next .outside c) text
    | side => c :: squeeze (side.next c) text

/-- A piece of a text that starts and ends outside of strings, and what is left of it. -/
def Squeezes (piece left : List Char) : Prop :=
  ∀ rest, squeeze .outside (piece ++ rest) = left ++ squeeze .outside rest

theorem squeezes_nil : Squeezes [] [] := fun _ => rfl

theorem Squeezes.append (h : Squeezes text left) (h' : Squeezes other more) :
    Squeezes (text ++ other) (left ++ more) := by
  intro rest
  rw [List.append_assoc, h, h', List.append_assoc]

theorem squeezes_blank (h : c = ' ' ∨ c = '\n') : Squeezes [c] [] := by
  intro rest
  simp [squeeze, h]

theorem squeezes_plain (blank : ¬ (c = ' ' ∨ c = '\n')) (quote : c ≠ '"') : Squeezes [c] [c] := by
  intro rest
  simp [squeeze, blank, quote, Side.next]

theorem squeezes_of_forall (h : ∀ c ∈ text, ¬ (c = ' ' ∨ c = '\n') ∧ c ≠ '"') : Squeezes text text := by
  induction text with
  | nil => exact squeezes_nil
  | cons c text ih =>
    rw [List.forall_mem_cons] at h
    exact (squeezes_plain h.1.1 h.1.2).append (ih h.2)

theorem squeezes_of_blank (h : ∀ c ∈ text, c = ' ' ∨ c = '\n') : Squeezes text [] := by
  induction text with
  | nil => exact squeezes_nil
  | cons c text ih =>
    rw [List.forall_mem_cons] at h
    exact (squeezes_blank h.1).append (ih h.2)

theorem Squeezes.intercalate {pieces lefts : List (List Char)}
    (h : List.Forall₂ Squeezes pieces lefts) :
    Squeezes ([','].intercalate pieces) ([','].intercalate lefts) := by
  have comma : Squeezes [','] [','] := squeezes_plain (by decide) (by decide)
  induction h with
  | nil => exact squeezes_nil
  | cons first more ih =>
    cases more with
    | nil => simpa using first
    | cons next more =>
      rw [List.intercalate_cons_cons, List.intercalate_cons_cons]
      exact (first.append comma).append ih

/-! A string stays as it is, since it ends at the first quote that no backslash stands in front of. -/

theorem squeeze_inside (h : ∀ c ∈ text, c ≠ '"' ∧ c ≠ '\\') (rest : List Char) :
    squeeze .inside (text ++ rest) = text ++ squeeze .inside rest := by
  induction text with
  | nil => rfl
  | cons c text ih =>
    rw [List.forall_mem_cons] at h
    simp [squeeze, Side.next, h.1, ih h.2]

theorem Code.plain (h : Code letters code) : ∀ c ∈ letters, c ≠ '"' ∧ c ≠ '\\' := by
  have digit : ∀ {c : Char} {value : Nat}, hexValue? c = some value → c ≠ '"' ∧ c ≠ '\\' := by
    intro c value known
    constructor <;> (rintro rfl; cases known)
  obtain ⟨first, second, third, fourth⟩ := h
  simp only [List.forall_mem_cons]
  exact ⟨digit first, digit second, digit third, digit fourth, List.forall_mem_nil _⟩

theorem TextLiteral.squeeze (h : TextLiteral letters) (rest : List Char) :
    squeeze .inside (letters ++ '"' :: rest) = letters ++ '"' :: squeeze .outside rest := by
  induction h with
  | nil => simp [Json.squeeze, Side.next]
  | plain quote backslash visible _ ih => simp [Json.squeeze, Side.next, quote, backslash, ih]
  | letter known _ ih => simp [Json.squeeze, Side.next, ih]
  | code hex _ ih => simp [Json.squeeze, Side.next, squeeze_inside hex.plain, ih]

theorem squeezes_writeText (text : String) : Squeezes (writeText text) (writeText text) := by
  have literal := (spells_flatMap_escaped text.toList).textLiteral
  intro rest
  simp [writeText, squeeze, Side.next, literal.squeeze]

theorem squeezes_toText (n : Int) : Squeezes (Integer.toText n) (Integer.toText n) := by
  have digits : ∀ n, ∀ c ∈ Nat.toDigits 10 n, ¬ (c = ' ' ∨ c = '\n') ∧ c ≠ '"' := by
    intro n c mem
    have digit := Nat.isDigit_of_mem_toDigits (by decide) (by decide) mem
    refine ⟨?_, NumberText.ne_of_isDigit digit (by decide)⟩
    rintro (rfl | rfl) <;> cases digit
  apply squeezes_of_forall
  cases n with
  | ofNat n => exact digits n
  | negSucc n => exact List.forall_mem_cons.2 ⟨by decide, digits (n + 1)⟩

end Json

open Json

theorem FieldValue.squeezes_letters (value : FieldValue) : Squeezes value.letters value.letters := by
  cases value with
  | text value => exact squeezes_writeText value
  | number value => exact squeezes_toText value.toInt

namespace Record

variable {layout : Layout}

/-- A layout of nothing but spaces and line feeds. -/
structure Layout.Blank (layout : Layout) : Prop where
  beforeKey : Squeezes layout.beforeKey []
  beforeValue : Squeezes layout.beforeValue []
  beforeEnd : Squeezes layout.beforeEnd []

theorem squeezes_newline (indent : Nat) : Squeezes (newline indent) [] := by
  apply squeezes_of_blank
  intro c mem
  rw [newline, List.mem_cons, List.mem_replicate] at mem
  rcases mem with rfl | ⟨-, rfl⟩
  · exact Or.inr rfl
  · exact Or.inl rfl

/-- Without its blanks, a record is written in one way only. -/
theorem squeezes_laidOut (blank : layout.Blank) (record : Record) :
    Squeezes (record.laidOut layout) record.compact := by
  have opening : Squeezes ['\x7b'] ['\x7b'] := squeezes_plain (by decide) (by decide)
  have colon : Squeezes [':'] [':'] := squeezes_plain (by decide) (by decide)
  have closing : Squeezes ['\x7d'] ['\x7d'] := squeezes_plain (by decide) (by decide)
  have members : ∀ field, Squeezes (member layout record field) (member ⟨[], [], []⟩ record field) := by
    intro field
    have value := blank.beforeValue.append (record.get field).squeezes_letters
    exact (blank.beforeKey.append (squeezes_writeText field.name)).append (colon.append value)
  have all : List.Forall₂ Squeezes (Field.all.map (member layout record))
      (Field.all.map (member ⟨[], [], []⟩ record)) := by
    rw [List.forall₂_map_left_iff, List.forall₂_map_right_iff, List.forall₂_same]
    exact fun field _ => members field
  exact (opening.append (Squeezes.intercalate all)).append (blank.beforeEnd.append closing)

theorem squeezes_prettyList (records : List Record) :
    Squeezes (prettyList records) (compactList records) := by
  have opening : Squeezes ['['] ['['] := squeezes_plain (by decide) (by decide)
  have closing : Squeezes [']'] [']'] := squeezes_plain (by decide) (by decide)
  cases records with
  | nil => exact opening.append closing
  | cons first more =>
    have blank : Layout.Blank ⟨newline 2, [' '], newline 1⟩ :=
      ⟨squeezes_newline 2, squeezes_blank (Or.inl rfl), squeezes_newline 1⟩
    have items : List.Forall₂ Squeezes
        ((first :: more).map fun record => newline 1 ++ record.pretty 1)
        ((first :: more).map compact) := by
      rw [List.forall₂_map_left_iff, List.forall₂_map_right_iff, List.forall₂_same]
      intro record _
      rw [pretty_eq]
      exact (squeezes_newline 1).append (squeezes_laidOut blank record)
    have body := (opening.append (Squeezes.intercalate items)).append (squeezes_newline 0)
    rw [List.append_nil] at body
    exact body.append closing

end Record

/-! Reading the records back. -/

namespace Json

namespace Shape

variable {σ α : Type} {shape : Shape σ α} {value : α} {text rest : List Char}

theorem length_of_read (h : shape.read text = .ok (value, rest)) : rest.length < text.length := by
  have space := length_skipSpace_le text
  unfold read at h
  split at h
  · cases h
  · next c after start =>
    rw [start, List.length_cons] at space
    dsimp only at h
    split_ifs at h with object list
    · simp only [bind_eq_ok_iff, pure_eq_ok_iff, Prod.exists, Prod.mk.injEq] at h
      obtain ⟨final, left, members, -, -, -, rfl⟩ := h
      have := Reader.length_of_readMembers members
      omega
    · simp only [bind_eq_ok_iff, pure_eq_ok_iff, Prod.exists, Prod.mk.injEq] at h
      obtain ⟨final, left, steps, -, -, -, rfl⟩ := h
      have := Reader.length_of_readSteps steps
      omega
    · cases h

/-- The reader of a value among others. -/
def reader (shape : Shape σ α) : Reader α := ⟨shape.read, length_of_read⟩

end Shape

end Json

namespace Record

variable {layout : Layout} {lead ending : List Char}

/-- Decodes a list of records. -/
def listOfJson (text : String) : Except Json.Error (List Record) := do
  let (records, rest) ← (Reader.list shape.reader).run text.toList
  if (skipSpace rest).isEmpty then return records else throw .trailingCharacters

theorem read_laidOut (spaced : layout.Spaced) (record : Record) (rest : List Char) :
    shape.read (record.laidOut layout ++ rest) = .ok (record, rest) := by
  have texts : List.Forall₂ MemberText record.members (Field.all.map (member layout record)) :=
    forall₂_memberText spaced record Field.all
  have read : shape.read ([] ++ '\x7b' :: ([','].intercalate (Field.all.map (member layout record)) ++
      (layout.beforeEnd ++ '\x7d' :: rest))) = .ok (record, rest) :=
    (shape.read_object_eq_ok_iff Draft.reads (List.forall_mem_nil _) texts spaced.beforeEnd).2
      ⟨exists_takesAll_iff.2 record.presents_members, rfl⟩
  simpa [laidOut] using read

/-- The text of a record, and what stands in front of it. -/
def item (lead : List Char) (layout : Layout) (record : Record) : Json.Entry :=
  ⟨lead, record.laidOut layout, []⟩

theorem readsItem_laidOut (spaced : layout.Spaced) (record : Record) :
    ReadsItem shape.reader (fun value found => ofJson (String.ofList value) = .ok found)
      (record.laidOut layout) := by
  intro found rest left _
  have run : shape.reader.run (record.laidOut layout ++ rest) = .ok (record, rest) :=
    read_laidOut spaced record rest
  simp only [run, ofJson_laidOut spaced, Except.ok.injEq, Prod.mk.injEq, @eq_comm _ rest]

theorem listOfJson_laidOut (lead' : Spaces lead) (spaced : layout.Spaced) (ending' : Spaces ending)
    (records : List Record) :
    listOfJson (String.ofList ('[' :: [','].intercalate (records.map fun record =>
      lead ++ record.laidOut layout) ++ (ending ++ [']']))) = .ok records := by
  have none : Spaces [] := List.forall_mem_nil _
  have spaced' : ∀ entry ∈ records.map (item lead layout), entry.Spaced := by
    intro entry mem
    obtain ⟨record, -, rfl⟩ := List.mem_map.1 mem
    exact ⟨lead', ⟨_, _, rfl, by decide, by decide⟩, none⟩
  have reads : ∀ entry ∈ records.map (item lead layout), ReadsItem shape.reader
      (fun value found => ofJson (String.ofList value) = .ok found) entry.value := by
    intro entry mem
    obtain ⟨record, -, rfl⟩ := List.mem_map.1 mem
    exact readsItem_laidOut spaced record
  have items : List.Forall₂ (fun (entry : Json.Entry) found => ofJson (String.ofList entry.value) = .ok found)
      (records.map (item lead layout)) records := by
    rw [List.forall₂_map_left_iff, List.forall₂_same]
    exact fun record _ => ofJson_laidOut spaced record
  have run : (Reader.list shape.reader).run ('[' :: ([','].intercalate ((records.map
      (item lead layout)).map Json.Entry.letters) ++ (ending ++ [']']))) = .ok (records, []) :=
    (run_list_eq_ok_iff spaced' reads ending').2 ⟨items, rfl⟩
  have letters : Json.Entry.letters ∘ item lead layout = fun record => lead ++ record.laidOut layout := by
    funext record
    simp [item, Json.Entry.letters]
  rw [List.map_map, letters] at run
  simp only [listOfJson, String.toList_ofList, List.cons_append]
  rw [run]
  rfl

theorem listOfJson_compactList (records : List Record) :
    listOfJson (String.ofList (compactList records)) = .ok records := by
  have none : Spaces [] := List.forall_mem_nil _
  have read := listOfJson_laidOut none Layout.spaced_nil none records
  simp only [List.nil_append, ← compact_eq] at read
  exact read

theorem listOfJson_prettyList (records : List Record) :
    listOfJson (String.ofList (prettyList records)) = .ok records := by
  cases records with
  | nil => exact listOfJson_compactList []
  | cons first more =>
    have read := listOfJson_laidOut (spaces_newline 1) (Layout.spaced_newline 1) (spaces_newline 0)
      (first :: more)
    simpa [prettyList, pretty_eq] using read

end Record

namespace Session

variable {session : Session} {text : String}

/-- Whether answers are indented has no influence on whether there is one. -/
theorem get_eq (session : Session) (pretty : Bool) (text : String) :
    ({ session with pretty }.get text).1 =
      (session.query text).1.map fun records =>
        String.ofList (if pretty then Record.prettyList records else Record.compactList records) :=
  rfl

/-- A query is refused in the same way whether its answer is indented or not. Otherwise the indented text
without the spaces and line feeds outside of its strings is the compact one, and both are the records. -/
theorem get_renders_query (session : Session) (text : String) :
    (∀ pretty reason, ({ session with pretty }.get text).1 = .error reason ↔
        (session.query text).1 = .error reason) ∧
      ∀ records, (session.query text).1 = .ok records → ∃ indented compact : String,
        ({ session with pretty := true }.get text).1 = .ok indented ∧
          ({ session with pretty := false }.get text).1 = .ok compact ∧
          squeeze .outside indented.toList = compact.toList ∧
          Record.listOfJson indented = .ok records ∧ Record.listOfJson compact = .ok records := by
  constructor
  · intro pretty reason
    rw [get_eq, map_eq_error_iff]
  · intro records answered
    refine ⟨_, _, by rw [get_eq, answered]; rfl, by rw [get_eq, answered]; rfl, ?_,
      Record.listOfJson_prettyList records, Record.listOfJson_compactList records⟩
    have squeezed := Record.squeezes_prettyList records []
    simpa [squeeze] using squeezed

end Session

end Quarry
