import Quarry.Proofs.Lines
import Quarry.Proofs.Replay

/-! Loading a stream against posting its lines one by one. Both stop at the first line that is no text
or that is refused as a record, and both keep what came before it. Main statement: loading leaves the
session that the posts leave, and reports their number, or the line that stopped them. -/

namespace Quarry

/-! Where the lines of a stream lie in it. -/

namespace Text

variable {bytes : List UInt8} {front back : List (List UInt8)}

/-- Lines can be cut off the front of a stream. Each of them ends at a line feed, except for the last
line of the stream. -/
theorem Cut.split (h : Cut bytes (front ++ back)) : ∃ before behind, bytes = before ++ behind ∧
    Cut before front ∧ Cut behind back ∧ (back ≠ [] → before.count lineFeed = front.length) := by
  induction front generalizing bytes with
  | nil => exact ⟨[], bytes, rfl, Cut.nil, h, fun _ => rfl⟩
  | cons first front ih =>
    generalize eq : first :: front ++ back = all at h
    cases h with
    | nil => cases eq
    | @last line filled plain =>
      obtain ⟨rfl, none⟩ := List.cons.inj eq
      obtain ⟨rfl, rfl⟩ := List.append_eq_nil_iff.1 none
      exact ⟨first, [], by simp, Cut.last filled plain, Cut.nil, fun some => absurd rfl some⟩
    | @ended line bytes lines plain more =>
      obtain ⟨rfl, rfl⟩ := List.cons.inj eq
      obtain ⟨before, behind, rfl, cut, cut', count⟩ := ih more
      refine ⟨line ++ lineFeed :: before, behind, by simp, Cut.ended plain cut, cut', ?_⟩
      intro some
      rw [List.count_append, List.count_eq_zero.2 plain, List.count_cons_self, count some,
        List.length_cons, Nat.zero_add]

end Text

namespace Session

variable {session : Session} {lines : List (List UInt8)} {texts : List String}

/-- The posts of texts. -/
def posts (texts : List String) : List Request :=
  texts.map .post

/-- The lines are texts, and the ones among them that are not blank are stored when they are posted. -/
structure Accepts (session : Session) (lines : List (List UInt8)) (texts : List String) : Prop where
  decoded : ∃ all, lines.mapM Text.decode? = some all ∧
    texts = all.filter fun text => !(Text.trim text.toList).isEmpty
  stored : ∀ reply ∈ session.run (posts texts), reply.answer = .stored

/-- Why no more lines are posted, if there are any: the first one is no text, or is not blank and
refused. The first line has the given number. -/
inductive Halts (session : Session) (number : Nat) :
    List (List UInt8) → Option Batch.Error → Prop where
  | finished : Halts session number [] none
  | notText {line : List UInt8} {lines : List (List UInt8)} (decoded : Text.decode? line = none) :
    Halts session number (line :: lines) (some (.unreadable .notText))
  | refused {line : List UInt8} {lines : List (List UInt8)} {text : String} {reason : Json.Error}
    (decoded : Text.decode? line = some text) (filled : Text.trim text.toList ≠ [])
    (refused : (session.post text).1 = .error reason) :
    Halts session number (line :: lines) (some (.invalidRecord number reason))

theorem Halts.renumber {number number' : Nat} {failure : Option Batch.Error}
    (h : session.Halts number lines failure) (same : lines ≠ [] → number = number') :
    session.Halts number' lines failure := by
  cases h with
  | finished => exact Halts.finished
  | notText decoded => exact Halts.notText decoded
  | refused decoded filled refused =>
    rw [same (List.cons_ne_nil _ _)]
    exact Halts.refused decoded filled refused

theorem post_of_error {text : String} {reason : Json.Error} (session : Session)
    (h : Record.ofJson text = .error reason) : session.post text = (.error reason, session, []) := by
  simp [post, h]

theorem post_of_ok {text : String} {record : Record} (session : Session)
    (h : Record.ofJson text = .ok record) : session.post text = (.ok (), session.upsert record) := by
  simp [post, h]

theorem ofJson_of_post {text : String} {reason : Json.Error} (session : Session)
    (h : (session.post text).1 = .error reason) : Record.ofJson text = .error reason := by
  cases read : Record.ofJson text with
  | error other =>
    rw [session.post_of_error read] at h
    exact congrArg Except.error (Except.error.inj h)
  | ok record =>
    rw [session.post_of_ok read] at h
    cases h

theorem accepts_nil (session : Session) : session.Accepts [] [] :=
  ⟨⟨[], rfl, rfl⟩, by simp [posts, run]⟩

theorem Accepts.cons_blank {line : List UInt8} {text : String} (h : session.Accepts lines texts)
    (decoded : Text.decode? line = some text) (blank : (Text.trim text.toList).isEmpty = true) :
    session.Accepts (line :: lines) texts := by
  obtain ⟨all, eq, rfl⟩ := h.decoded
  exact ⟨⟨text :: all, by simp [decoded, eq], by simp [blank]⟩, h.stored⟩

theorem Accepts.cons_record {line : List UInt8} {text : String} {record : Record}
    (h : (session.upsert record).1.Accepts lines texts) (decoded : Text.decode? line = some text)
    (filled : (Text.trim text.toList).isEmpty = false) (read : Record.ofJson text = .ok record) :
    session.Accepts (line :: lines) (text :: texts) := by
  obtain ⟨all, eq, rfl⟩ := h.decoded
  refine ⟨⟨text :: all, by simp [decoded, eq], by simp [filled]⟩, ?_⟩
  have stored := h.stored
  simpa [posts, run, Request.run, post_of_ok session read, Answer.ofExcept] using stored

/-- The lines of a batch are accepted up to the one that reading stops at. -/
theorem receive_ofLines (session : Session) (number : Nat) (lines : List (List UInt8)) :
    ∃ front back texts, lines = front ++ back ∧ session.Accepts front texts ∧
      (session.receive (.ofLines number lines)).2.1 = session.after (posts texts) ∧
      (Batch.ofLines number lines).records.length = texts.length ∧
      (session.after (posts texts)).Halts (number + front.length) back
        (Batch.ofLines number lines).failure := by
  induction lines generalizing session number with
  | nil => exact ⟨[], [], [], rfl, session.accepts_nil, rfl, rfl, Halts.finished⟩
  | cons line lines ih =>
    rw [Batch.ofLines]
    cases decoded : Text.decode? line with
    | none =>
      rw [Batch.readLine_of_not_text number decoded]
      exact ⟨[], line :: lines, [], rfl, session.accepts_nil, rfl, rfl, Halts.notText decoded⟩
    | some text =>
      cases blank : (Text.trim text.toList).isEmpty with
      | true =>
        rw [Batch.readLine_of_blank number decoded blank]
        obtain ⟨front, back, texts, rfl, accepts, same, count, halts⟩ := ih session (number + 1)
        refine ⟨line :: front, back, texts, rfl, accepts.cons_blank decoded blank, same, count, ?_⟩
        rwa [List.length_cons, Nat.add_comm front.length, ← Nat.add_assoc]
      | false =>
        cases read : Record.ofJson text with
        | error reason =>
          rw [Batch.readLine_of_refused number decoded blank read]
          have refused : (session.post text).1 = .error reason := by
            rw [session.post_of_error read]
          exact ⟨[], line :: lines, [], rfl, session.accepts_nil, rfl, rfl,
            Halts.refused decoded (by simpa using blank) refused⟩
        | ok record =>
          rw [Batch.readLine_of_record number decoded blank read]
          obtain ⟨front, back, texts, rfl, accepts, same, count, halts⟩ :=
            ih (session.upsert record).1 (number + 1)
          have step : session.after (posts (text :: texts)) =
              (session.upsert record).1.after (posts texts) := by
            rw [posts, List.map_cons, after_cons, Request.run, session.post_of_ok read]
            rfl
          refine ⟨line :: front, back, text :: texts, rfl,
            accepts.cons_record decoded blank read, ?_, ?_, ?_⟩
          · rw [step, ← same]
            rfl
          · rw [List.length_cons, List.length_cons, count]
          · rw [step, List.length_cons, Nat.add_comm front.length, ← Nat.add_assoc]
            exact halts

/-- Loading a stream is posting the lines in it that are not blank, up to one that is no text or is
refused. The number of such a line counts the line feeds in front of it. -/
theorem load_posts_lines (session : Session) (bytes : List UInt8) :
    ∃ before behind front back texts failure, bytes = before ++ behind ∧
      Text.Cut before front ∧ Text.Cut behind back ∧ Text.Cut bytes (front ++ back) ∧
      session.Accepts front texts ∧
      (session.after (posts texts)).Halts (1 + before.count Text.lineFeed) back failure ∧
      (session.load bytes).2.1 = session.after (posts texts) ∧
      (session.load bytes).1 = match failure with
        | none => .ok texts.length
        | some reason => .error reason := by
  obtain ⟨front, back, texts, eq, accepts, left, count, halts⟩ :=
    session.receive_ofLines 1 (Text.lines bytes)
  have cut : Text.Cut bytes (front ++ back) := Text.cut_iff.2 eq
  obtain ⟨before, behind, split, cut', cut'', feeds⟩ := cut.split
  refine ⟨before, behind, front, back, texts, (Batch.ofBytes bytes).failure, split, cut', cut'',
    cut, accepts, ?_, left, ?_⟩
  · apply halts.renumber
    intro some
    rw [feeds some]
  · rw [load, receive, Batch.ofBytes, ← count]
    cases (Batch.ofLines 1 (Text.lines bytes)).failure <;> rfl

end Session

end Quarry
