import Mathlib.Data.List.Forall2
import Quarry.Proofs.JsonValue

/-! The text of an object, and how it is read, whatever its keys stand for. Blanks may stand between its
parts, and escapes in its keys. Main statement: an object is read as its members are taken, one after the
other. -/

namespace Quarry.Json

/-- The text of a member: a key and a value, with any blanks around them. -/
inductive MemberText : String × List Char → List Char → Prop where
  | parts {before key beforeColon beforeValue value after : List Char} {name : String}
      (before' : Spaces before) (key' : Spells key name.toList) (beforeColon' : Spaces beforeColon)
      (beforeValue' : Spaces beforeValue) (value' : IsValue value) (after' : Spaces after) :
      MemberText (name, value) (before ++ '"' :: (key ++ '"' :: (beforeColon ++ ':' ::
        (beforeValue ++ (value ++ after)))))

/-- The text of an object with the given members. -/
inductive ObjectText : List (String × List Char) → List Char → Prop where
  | parts {before space after : List Char} {members : List (String × List Char)}
      {texts : List (List Char)} (before' : Spaces before)
      (members' : List.Forall₂ MemberText members texts) (space' : Spaces space)
      (after' : Spaces after) :
      ObjectText members (before ++ '\x7b' :: ([','].intercalate texts ++
        (space ++ '\x7d' :: after)))

variable {σ α β : Type} {before space value text rest left : List Char} {texts : List (List Char)}
  {name : String} {entry : String × List Char} {members : List (String × List Char)}
  {state next final : σ} {member : σ → String → Except Error (Reader σ)}

/-! The readers of values. -/

theorem Reader.run_map_eq_ok_iff {reader : Reader α} {f : α → β} {b : β} :
    (reader.map f).run text = .ok (b, left) ↔ ∃ a, reader.run text = .ok (a, left) ∧ f a = b := by
  simp only [Reader.map]
  cases reader.run text with
  | error e => simp
  | ok read =>
    obtain ⟨a, rest⟩ := read
    simp only [Except.ok.injEq, Prod.mk.injEq]
    constructor
    · rintro ⟨rfl, rfl⟩
      exact ⟨a, ⟨rfl, rfl⟩, rfl⟩
    · rintro ⟨_, ⟨rfl, rfl⟩, rfl⟩
      exact ⟨rfl, rfl⟩

theorem run_skip (h : IsValue value) (spaces : Spaces space) (ended : NumberText.Ended rest) :
    Reader.skip.run (space ++ (value ++ rest)) = .ok ((), rest) := by
  simp only [Reader.skip, skipValue_spaces spaces, h.passedOver [] rest ended, skipFrames_nil]

theorem readMembers_spaces {first : Bool} (spaces : Spaces space) :
    Reader.readMembers member state first (space ++ text) =
      Reader.readMembers member state first text := by
  have key : nextKey first (space ++ text) = nextKey first text := by
    simp only [nextKey, skipSpace_spaces spaces]
  rw [Reader.readMembers_eq, Reader.readMembers_eq, key]

/-! Members that are taken into a state. -/

/-- The members are taken one after the other. -/
inductive TakesAll (takes : σ → String × List Char → σ → Prop) :
    σ → List (String × List Char) → σ → Prop where
  | nil {state : σ} : TakesAll takes state [] state
  | cons {state next final : σ} {entry : String × List Char} {members : List (String × List Char)}
      (first : takes state entry next) (more : TakesAll takes next members final) :
      TakesAll takes state (entry :: members) final

/-- Reading a value takes its member into the state, wherever the value stands in an object. -/
def Reads (member : σ → String → Except Error (Reader σ))
    (takes : σ → String × List Char → σ → Prop) : Prop :=
  ∀ ⦃state next : σ⦄ ⦃name : String⦄ ⦃space value rest left : List Char⦄, IsValue value →
    Spaces space → NumberText.Ended rest →
      ((∃ reader, member state name = .ok reader ∧
          reader.run (space ++ (value ++ rest)) = .ok (next, left)) ↔
        takes state (name, value) next ∧ left = rest)

variable {takes : σ → String × List Char → σ → Prop}

theorem takesAll_nil_iff : TakesAll takes state [] final ↔ final = state := by
  constructor
  · rintro ⟨⟩
    rfl
  · rintro rfl
    exact .nil

theorem takesAll_cons_iff : TakesAll takes state (entry :: members) final ↔
    ∃ next, takes state entry next ∧ TakesAll takes next members final := by
  constructor
  · rintro ⟨⟩
    exact ⟨_, ‹_›, ‹_›⟩
  · rintro ⟨next, first, more⟩
    exact .cons first more

theorem readMembers_member_iff (reads : Reads member takes) (h : MemberText entry text)
    (ended : NumberText.Ended rest) (first : Bool) :
    Reader.readMembers member state first ((if first then text else ',' :: text) ++ rest) =
        .ok (final, left) ↔
      ∃ next, takes state entry next ∧
        Reader.readMembers member next false rest = .ok (final, left) := by
  cases h with
  | @parts before key beforeColon beforeValue value after name before' key' beforeColon' beforeValue'
      value' after' =>
    have item : nextKey first ((if first then before ++ '"' :: (key ++ '"' :: (beforeColon ++ ':' ::
        (beforeValue ++ (value ++ after)))) else ',' :: (before ++ '"' :: (key ++ '"' ::
          (beforeColon ++ ':' :: (beforeValue ++ (value ++ after)))))) ++ rest) =
        .ok (.item (key ++ '"' :: (beforeColon ++ ':' :: (beforeValue ++ (value ++
          (after ++ rest)))))) := by
      cases first with
      | true => simpa using nextKey_first before' _
      | false => simpa using nextKey_comma before' _
    have read : ∀ next left', (∃ reader, member state name = .ok reader ∧
        reader.run (beforeValue ++ (value ++ (after ++ rest))) = .ok (next, left')) ↔
          takes state (name, value) next ∧ left' = after ++ rest :=
      fun _ _ => reads value' beforeValue' (ended_spaces after' ended)
    rw [Reader.readMembers_eq, item, ok_bind]
    simp only [key'.readText, List.reverse_nil, List.nil_append, String.ofList_toList,
      readColon_spaces beforeColon', ok_bind, bind_eq_ok_iff, Prod.exists]
    constructor
    · rintro ⟨reader, known, next, left', run, more⟩
      obtain ⟨taken, rfl⟩ := (read next left').1 ⟨reader, known, run⟩
      rw [readMembers_spaces after'] at more
      exact ⟨next, taken, more⟩
    · rintro ⟨next, taken, more⟩
      obtain ⟨reader, known, run⟩ := (read next _).2 ⟨taken, rfl⟩
      rw [← readMembers_spaces after'] at more
      exact ⟨reader, known, next, _, run, more⟩

theorem readMembers_eq_ok_iff (reads : Reads member takes)
    (h : List.Forall₂ MemberText members texts) (spaces : Spaces space) :
    Reader.readMembers member state false (texts.flatMap (',' :: ·) ++ (space ++ '\x7d' :: rest)) =
        .ok (final, left) ↔ TakesAll takes state members final ∧ left = rest := by
  induction h generalizing state with
  | nil =>
    rw [List.flatMap_nil, List.nil_append, Reader.readMembers_finish (nextKey_finish spaces false rest),
      takesAll_nil_iff, Except.ok.injEq, Prod.mk.injEq, eq_comm, @eq_comm _ rest]
  | @cons entry text members texts first more ih =>
    have ended : NumberText.Ended (texts.flatMap (',' :: ·) ++ (space ++ '\x7d' :: rest)) :=
      ended_pieces .object spaces texts rest
    have step : Reader.readMembers member state false (',' :: text ++ (texts.flatMap (',' :: ·) ++
        (space ++ '\x7d' :: rest))) = .ok (final, left) ↔ _ :=
      readMembers_member_iff reads first ended false
    rw [List.flatMap_cons, List.append_assoc, step, takesAll_cons_iff]
    simp only [ih, ← and_assoc, exists_and_right]

theorem readObject_eq_ok_iff (reads : Reads member takes)
    (h : List.Forall₂ MemberText members texts) (spaces : Spaces space) :
    Reader.readMembers member state true ([','].intercalate texts ++ (space ++ '\x7d' :: rest)) =
        .ok (final, left) ↔ TakesAll takes state members final ∧ left = rest := by
  cases h with
  | nil =>
    have finish : Reader.readMembers member state true (space ++ '\x7d' :: rest) = .ok (state, rest) :=
      Reader.readMembers_finish (nextKey_finish spaces true rest)
    rw [List.intercalate_nil, List.nil_append, finish, takesAll_nil_iff, Except.ok.injEq,
      Prod.mk.injEq, eq_comm, @eq_comm _ rest]
  | @cons entry text members texts first more =>
    have ended : NumberText.Ended (texts.flatMap (',' :: ·) ++ (space ++ '\x7d' :: rest)) :=
      ended_pieces .object spaces texts rest
    have step : Reader.readMembers member state true (text ++ (texts.flatMap (',' :: ·) ++
        (space ++ '\x7d' :: rest))) = .ok (final, left) ↔ _ :=
      readMembers_member_iff reads first ended true
    rw [intercalate_cons, List.append_assoc, step, takesAll_cons_iff]
    simp only [readMembers_eq_ok_iff reads more spaces, ← and_assoc, exists_and_right]

namespace Shape

variable {shape : Shape σ α} {found : α}

/-- The object at the front of a text is read as what its members are completed to. -/
theorem read_object_eq_ok_iff (reads : Reads shape.member takes) (before' : Spaces before)
    (members' : List.Forall₂ MemberText members texts) (space' : Spaces space) :
    shape.read (before ++ '\x7b' :: ([','].intercalate texts ++ (space ++ '\x7d' :: rest))) =
        .ok (found, left) ↔
      (∃ final, TakesAll takes shape.start members final ∧ shape.complete final = .ok found) ∧
        left = rest := by
  have start : skipSpace (before ++ '\x7b' :: ([','].intercalate texts ++
      (space ++ '\x7d' :: rest))) = '\x7b' :: ([','].intercalate texts ++ (space ++ '\x7d' :: rest)) :=
    skipSpace_append before' (by decide) _
  rw [Shape.read, start]
  simp only [if_true, bind_eq_ok_iff, pure_eq_ok_iff, Prod.exists, Prod.mk.injEq,
    readObject_eq_ok_iff reads members' space']
  constructor
  · rintro ⟨final, left', ⟨taken, rfl⟩, found, complete, rfl, rfl⟩
    exact ⟨⟨final, taken, complete⟩, rfl⟩
  · rintro ⟨⟨final, taken, complete⟩, rfl⟩
    exact ⟨final, left, ⟨taken, rfl⟩, found, complete, rfl, rfl⟩

theorem decode_objectText_eq_ok_iff (reads : Reads shape.member takes) (h : ObjectText members text) :
    shape.decode (String.ofList text) = .ok found ↔
      ∃ final, TakesAll takes shape.start members final ∧ shape.complete final = .ok found := by
  cases h with
  | @parts before space after members texts before' members' space' after' =>
    have nothing : skipSpace after = [] := by
      rw [← List.append_nil after, skipSpace_spaces after']
      rfl
    rw [decode, String.toList_ofList]
    simp only [bind_eq_ok_iff, Prod.exists, read_object_eq_ok_iff reads before' members' space']
    constructor
    · rintro ⟨value, left, ⟨complete, rfl⟩, eq⟩
      rw [nothing] at eq
      cases eq
      exact complete
    · intro complete
      refine ⟨found, after, ⟨complete, rfl⟩, ?_⟩
      rw [nothing]
      rfl

end Shape

end Quarry.Json
