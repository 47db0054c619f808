import Quarry.Proofs.Loading
import Quarry.Proofs.RecordText

/-! Posting the text of an object. Main statement: a post stores the record that the members of the object
present, in whichever order they come and whatever stands among them, and it changes nothing if they
present no record. -/

namespace Quarry

open Json

namespace Record

variable {record : Record} {members others : List (String × List Char)}

/-- The members whose keys are fields. -/
def known (members : List (String × List Char)) : List (String × List Char) :=
  members.filter fun member => (Field.ofName? member.1).isSome

theorem named_known (field : Field) (members : List (String × List Char)) :
    named field (known members) = named field members := by
  rw [named, named, known, List.filter_filter]
  apply List.filter_congr
  intro member _
  by_cases h : member.1 = field.name
  · simp [h, Field.ofName?_name]
  · simp [h]

theorem Presents.of_perm (h : Presents members record) (same : (known others).Perm (known members)) :
    Presents others record := by
  intro field
  obtain ⟨value, listed, stands⟩ := h field
  have perm : (named field others).Perm (named field members) := by
    rw [← named_known field others, ← named_known field members]
    exact same.filter _
  rw [listed] at perm
  exact ⟨value, List.perm_singleton.1 perm, stands⟩

theorem presents_perm_iff (same : (known others).Perm (known members)) :
    Presents others record ↔ Presents members record :=
  ⟨fun h => h.of_perm same.symm, fun h => h.of_perm same⟩

end Record

namespace Session

variable {session : Session} {members : List (String × List Char)} {text : String} {record : Record}

theorem post_of_presents (session : Session) (h : ObjectText members text.toList)
    (presents : Record.Presents members record) :
    session.post text = (.ok (), session.upsert record) := by
  apply session.post_of_ok
  rw [← String.ofList_toList (s := text)]
  exact (Record.ofJson_objectText_eq_ok_iff h).2 presents

/-- The record is found under its id afterwards, and what was there under the other ids still is. -/
theorem get?_post_of_presents (unique : session.store.Unique) (h : ObjectText members text.toList)
    (presents : Record.Presents members record) (id : String) :
    (session.post text).2.1.store.get? id =
      if record.id = id then some record else session.store.get? id := by
  rw [session.post_of_presents h presents]
  exact Store.get?_insert unique record id

theorem post_of_not_presents (session : Session) (h : ObjectText members text.toList)
    (none : ∀ record, ¬ Record.Presents members record) :
    ∃ reason, session.post text = (.error reason, session, []) := by
  cases read : Record.ofJson text with
  | error reason => exact ⟨reason, session.post_of_error read⟩
  | ok record =>
    rw [← String.ofList_toList (s := text), Record.ofJson_objectText_eq_ok_iff h] at read
    exact absurd read (none record)

theorem post_eq_ok_iff (session : Session) (h : ObjectText members text.toList) :
    (session.post text).1 = .ok () ↔ ∃ record, Record.Presents members record := by
  constructor
  · intro stored
    by_contra none
    obtain ⟨reason, refused⟩ := session.post_of_not_presents h (not_exists.1 none)
    rw [refused] at stored
    cases stored
  · rintro ⟨record, presents⟩
    rw [session.post_of_presents h presents]

/-- The post of an object succeeds exactly if its members present a record, and then it stores this
record, which is found under its id from then on. Otherwise it is refused and the session stays as it
was. Another object with the same fields, in another order and among other members, does the same. -/
theorem post_objectText (session : Session) (h : ObjectText members text.toList) :
    ((session.post text).1 = .ok () ↔ ∃ record, Record.Presents members record) ∧
      (∀ record, Record.Presents members record →
        session.post text = (.ok (), session.upsert record)) ∧
      (∀ record, Record.Presents members record → session.store.Unique → ∀ id,
        (session.post text).2.1.store.get? id =
          if record.id = id then some record else session.store.get? id) ∧
      ((∀ record, ¬ Record.Presents members record) →
        ∃ reason, session.post text = (.error reason, session, [])) ∧
      ∀ others other, ObjectText others other.toList →
        (Record.known others).Perm (Record.known members) →
          ((session.post other).1 = .ok () ↔ (session.post text).1 = .ok ()) ∧
            (session.post other).2 = (session.post text).2 := by
  refine ⟨session.post_eq_ok_iff h, fun _ => session.post_of_presents h,
    fun _ presents unique => session.get?_post_of_presents unique h presents,
    session.post_of_not_presents h, ?_⟩
  intro others other h' same
  constructor
  · rw [session.post_eq_ok_iff h, session.post_eq_ok_iff h']
    simp only [Record.presents_perm_iff same]
  · by_cases presented : ∃ record, Record.Presents members record
    · obtain ⟨record, presents⟩ := presented
      rw [session.post_of_presents h presents, session.post_of_presents h' (presents.of_perm same)]
    · have none := not_exists.1 presented
      have none' : ∀ record, ¬ Record.Presents others record :=
        fun record presents => none record (presents.of_perm same.symm)
      obtain ⟨reason, refused⟩ := session.post_of_not_presents h none
      obtain ⟨reason', refused'⟩ := session.post_of_not_presents h' none'
      rw [refused, refused']

/-- The fields come in reverse order, behind a member that is none and with blanks in between. -/
theorem post_objectText_reversed :
    let session := Session.empty true
    let record : Record := ⟨"a", "", "b", 7, -3⟩
    let members := ("x", "[null]".toList) ::
      Field.all.reverse.map fun field => (field.name, (record.get field).letters)
    let text := "\x7b\"x\":[null], \"timestamp\":-3, \"views\":7, \"content\":\"b\"," ++
      " \"title\":\"\", \"id\":\"a\"\x7d\n"
    ObjectText members text.toList ∧ session.post text = (.ok (), session.upsert record) ∧
      (session.post text).2.1.store.get? "a" = some record := by
  intro session record members text
  have none : Spaces [] := List.forall_mem_nil _
  have spaced : Record.Layout.Spaced ⟨[' '], [], []⟩ := ⟨by simp [Spaces, isSpace], none, none⟩
  have listed : IsValue "[null]".toList := by
    have word : IsValue "null".toList := IsValue.word List.mem_cons_self
    have entries : ∀ entry ∈ [Entry.mk [] "null".toList []],
        Frame.list.Lead entry.lead ∧ IsValue entry.value ∧ Spaces entry.after := by
      intro entry mem
      rw [List.mem_singleton.1 mem]
      exact ⟨Frame.Lead.item none, word, none⟩
    exact IsValue.nested (fun entry mem => (entries entry mem).1) (fun entry mem => (entries entry mem).2.1)
      (fun entry mem => (entries entry mem).2.2) none
  have texts := List.Forall₂.cons (memberText_writeText none none listed "x")
    (Record.forall₂_memberText spaced record Field.all.reverse)
  have object : ObjectText members text.toList := by
    have parts := ObjectText.parts none texts none (by simp [Spaces, isSpace] : Spaces ['\n'])
    refine (congrArg (ObjectText members) ?_).mpr parts
    decide +kernel
  have presents : Record.Presents members record := by
    intro field
    refine ⟨(record.get field).letters, ?_, (record.get field).stands_letters⟩
    cases field <;> rfl
  obtain ⟨-, stored, found, -⟩ := post_objectText session object
  exact ⟨object, stored record presents, found record presents Store.unique_empty "a"⟩

end Session

end Quarry
