import Mathlib.Data.List.Basic
import Mathlib.Tactic.Common
import Quarry.Proofs.JsonSteps
import Quarry.Proofs.Members
import Quarry.Proofs.TextLiteral
import Quarry.Record.Json

/-! A carriage return behind a JSON text. Every reader leaves it where it is, since it goes on with no
value. Main statement: a record that is read from a text with a carriage return behind it is read from the
text alone. -/

namespace Quarry.Json

variable {α σ : Type} {text rest seen letters : List Char} {c : Char} {value : String}

/-- A text that goes on with a carriage return starts as it did. -/
theorem exists_eq_append_of_return (front : List Char) (eq : text ++ ['\r'] = front ++ c :: rest)
    (h : c ≠ '\r') : ∃ left, text = front ++ c :: left ∧ rest = left ++ ['\r'] := by
  obtain rfl | ⟨left, d, rfl⟩ := List.eq_nil_or_concat' rest
  · exact absurd (List.append_inj_right' eq rfl) (by simpa using h.symm)
  · rw [← List.cons_append, ← List.append_assoc] at eq
    obtain ⟨rfl, same⟩ := List.append_inj' eq rfl
    exact ⟨left, rfl, by rw [same]⟩

/-! Strings. -/

theorem readText_of_return (h : readText seen (text ++ ['\r']) = .ok (value, rest)) :
    ∃ left, rest = left ++ ['\r'] ∧ readText seen text = .ok (value, left) := by
  obtain ⟨letters, chars, eq, spells, rfl⟩ := spells_of_readText h
  obtain ⟨left, rfl, rfl⟩ := exists_eq_append_of_return letters eq (by decide)
  exact ⟨left, rfl, spells.readText seen left⟩

theorem skipText_of_return (h : skipText (text ++ ['\r']) = .ok rest) :
    ∃ left, rest = left ++ ['\r'] ∧ skipText text = .ok left := by
  obtain ⟨letters, eq, literal⟩ := textLiteral_of_skipText h
  obtain ⟨left, rfl, rfl⟩ := exists_eq_append_of_return letters eq (by decide)
  exact ⟨left, rfl, literal.skipText left⟩

/-! Numbers. -/

namespace NumberText

variable {atEnd : Error} {digits : List Char} {fraction : Option (List Char)}
  {exponent : Option (Bool × List Char)} {number : NumberText}

theorem takeWhile_append_return (text : List Char) :
    (text ++ ['\r']).takeWhile Char.isDigit = text.takeWhile Char.isDigit := by
  induction text with
  | nil => rfl
  | cons c text ih => simp only [List.cons_append, List.takeWhile_cons, ih]

theorem dropWhile_append_return (text : List Char) :
    (text ++ ['\r']).dropWhile Char.isDigit = text.dropWhile Char.isDigit ++ ['\r'] := by
  induction text with
  | nil => rfl
  | cons c text ih =>
    simp only [List.cons_append, List.dropWhile_cons, ih]
    split <;> rfl

theorem readDigits_of_return (h : readDigits atEnd (text ++ ['\r']) = .ok (digits, rest)) :
    ∃ left, rest = left ++ ['\r'] ∧ readDigits atEnd text = .ok (digits, left) := by
  rw [readDigits, takeWhile_append_return, dropWhile_append_return] at h
  split at h
  · cases h
  · next some =>
    cases h
    exact ⟨_, rfl, if_neg some⟩

theorem readWhole_of_return (h : readWhole atEnd (text ++ ['\r']) = .ok (digits, rest)) :
    ∃ left, rest = left ++ ['\r'] ∧ readWhole atEnd text = .ok (digits, left) := by
  unfold readWhole at h
  split at h
  · cases h
  · cases h
  · next read =>
    cases h
    obtain ⟨left, rfl, read'⟩ := readDigits_of_return read
    refine ⟨left, rfl, ?_⟩
    rw [readWhole, read']
    split <;> simp_all

theorem readFraction_of_return (h : readFraction atEnd (text ++ ['\r']) = .ok (fraction, rest)) :
    ∃ left, rest = left ++ ['\r'] ∧ readFraction atEnd text = .ok (fraction, left) := by
  generalize eq : text ++ ['\r'] = whole at h
  unfold readFraction at h
  split at h
  · obtain ⟨after, rfl, rfl⟩ := exists_eq_append_of_return [] eq (by decide)
    split at h
    · cases h
    · next read =>
      cases h
      obtain ⟨left, rfl, read'⟩ := readDigits_of_return read
      exact ⟨left, rfl, by simp only [List.nil_append, readFraction, read']⟩
  · next noPoint =>
    cases h
    refine ⟨text, eq.symm, ?_⟩
    unfold readFraction
    split
    · exact absurd eq.symm (noPoint _)
    · rfl

theorem sign_append_return (text : List Char) :
    sign (text ++ ['\r']) = ((sign text).1, (sign text).2 ++ ['\r']) := by
  cases text with
  | nil => rfl
  | cons c text =>
    by_cases h : c = '-'
    · rw [h]
      rfl
    · rw [List.cons_append, sign_of_ne h, sign_of_ne h]
      rfl

theorem exponentSign_append_return (text : List Char) :
    exponentSign (text ++ ['\r']) = ((exponentSign text).1, (exponentSign text).2 ++ ['\r']) := by
  cases text with
  | nil => rfl
  | cons c text =>
    by_cases h : c = '+'
    · rw [h]
      rfl
    · by_cases h' : c = '-'
      · rw [h']
        rfl
      · rw [List.cons_append, exponentSign_of_ne h h', exponentSign_of_ne h h']
        rfl

theorem readExponent_of_return (h : readExponent atEnd (text ++ ['\r']) = .ok (exponent, rest)) :
    ∃ left, rest = left ++ ['\r'] ∧ readExponent atEnd text = .ok (exponent, left) := by
  cases text with
  | nil =>
    cases h
    exact ⟨[], rfl, rfl⟩
  | cons c text =>
    rw [List.cons_append] at h
    by_cases mark : c = 'e' ∨ c = 'E'
    · rw [readExponent_of_mark mark, exponentSign_append_return] at h
      obtain ⟨⟨digits, after⟩, read, eq⟩ := map_eq_ok_iff.1 h
      obtain ⟨rfl, rfl⟩ := Prod.mk.inj eq
      obtain ⟨left, rfl, read'⟩ := readDigits_of_return read
      refine ⟨left, rfl, ?_⟩
      rw [readExponent_of_mark mark, read']
      rfl
    · rw [readExponent_of_not_mark mark] at h ⊢
      cases h
      exact ⟨_, rfl, rfl⟩

theorem read_of_return (h : read atEnd (text ++ ['\r']) = .ok (number, rest)) :
    ∃ left, rest = left ++ ['\r'] ∧ read atEnd text = .ok (number, left) := by
  rw [read_eq, sign_append_return] at h
  simp only [bind_eq_ok_iff, pure_eq_ok_iff, Prod.exists, Prod.mk.injEq] at h
  obtain ⟨whole, after, read, fraction, behind, read', exponent, last, read'', rfl, rfl⟩ := h
  obtain ⟨left, rfl, whole'⟩ := readWhole_of_return read
  obtain ⟨left', rfl, fraction'⟩ := readFraction_of_return read'
  obtain ⟨left'', rfl, exponent'⟩ := readExponent_of_return read''
  refine ⟨left'', rfl, ?_⟩
  simp only [read_eq, whole', fraction', exponent', ok_bind]
  rfl

end NumberText

theorem readNumber_of_return {number : Number}
    (h : readNumber (text ++ ['\r']) = .ok (number, rest)) :
    ∃ left, rest = left ++ ['\r'] ∧ readNumber text = .ok (number, left) := by
  unfold readNumber at h
  split at h
  · cases h
  · next read =>
    obtain ⟨left, rfl, read'⟩ := NumberText.read_of_return read
    split at h
    · cases h
    · next value =>
      cases h
      exact ⟨left, rfl, by simp only [readNumber, read', value]⟩

/-! Values that are passed over. -/

theorem skipSpace_of_return (h : skipSpace (text ++ ['\r']) = c :: rest) :
    ∃ left, skipSpace text = c :: left ∧ rest = left ++ ['\r'] := by
  induction text with
  | nil => cases h
  | cons d text ih =>
    rw [List.cons_append, skipSpace] at h
    rw [skipSpace]
    by_cases space : isSpace d
    · rw [List.dropWhile_cons_of_pos space] at h ⊢
      exact ih h
    · rw [List.dropWhile_cons_of_neg space] at h ⊢
      obtain ⟨rfl, rfl⟩ := List.cons.inj h
      exact ⟨text, rfl, rfl⟩

theorem readWord_of_return (plain : '\r' ∉ letters) (h : readWord letters (text ++ ['\r']) = .ok rest) :
    ∃ left, rest = left ++ ['\r'] ∧ readWord letters text = .ok left := by
  induction letters generalizing text with
  | nil =>
    cases h
    exact ⟨text, rfl, rfl⟩
  | cons letter letters ih =>
    rw [List.mem_cons, not_or] at plain
    cases text with
    | nil =>
      rw [List.nil_append, readWord, if_neg plain.1] at h
      cases h
    | cons c text =>
      rw [List.cons_append, readWord] at h
      split at h
      · next same =>
        obtain ⟨left, rfl, read⟩ := ih plain.2 h
        exact ⟨left, rfl, by rw [readWord, if_pos same, read]⟩
      · cases h

theorem readColon_of_return (h : readColon (text ++ ['\r']) = .ok rest) :
    ∃ left, rest = left ++ ['\r'] ∧ readColon text = .ok left := by
  unfold readColon at h
  split at h
  · cases h
  · next colon =>
    cases h
    obtain ⟨left, colon', rfl⟩ := skipSpace_of_return colon
    exact ⟨left, rfl, by simp only [readColon, colon']⟩
  · cases h

def Front.append (back : List Char) : Front → Front
  | .whole rest => .whole (rest ++ back)
  | .opening frame rest => .opening frame (rest ++ back)

def Next.append (back : List Char) : Next → Next
  | .item rest => .item (rest ++ back)
  | .finish rest => .finish (rest ++ back)

theorem readFront_of_return {front : Front} (h : readFront (text ++ ['\r']) = .ok front) :
    ∃ before : Front, front = before.append ['\r'] ∧ readFront text = .ok before := by
  unfold readFront at h
  split at h
  · cases h
  · next first after start =>
    obtain ⟨left, start', rfl⟩ := skipSpace_of_return start
    have word : ∀ {letters : List Char}, '\r' ∉ letters →
        (readWord letters (left ++ ['\r'])).map Front.whole = .ok front →
          ∃ before : Front, front = before.append ['\r'] ∧
            (readWord letters left).map Front.whole = .ok before := by
      intro letters plain h
      obtain ⟨rest, read, rfl⟩ := map_eq_ok_iff.1 h
      obtain ⟨rest, rfl, read'⟩ := readWord_of_return plain read
      exact ⟨.whole rest, rfl, by rw [read']; rfl⟩
    simp only [readFront, start']
    split_ifs at h ⊢ with null true' false' quote list object number
    · exact word (by decide) h
    · exact word (by decide) h
    · exact word (by decide) h
    · obtain ⟨rest, read, rfl⟩ := map_eq_ok_iff.1 h
      obtain ⟨rest, rfl, read'⟩ := skipText_of_return read
      exact ⟨.whole rest, rfl, by rw [read']; rfl⟩
    · cases h
      exact ⟨.opening .list left, rfl, rfl⟩
    · cases h
      exact ⟨.opening .object left, rfl, rfl⟩
    · obtain ⟨⟨number, rest⟩, read, rfl⟩ := map_eq_ok_iff.1 h
      rw [← List.cons_append] at read
      obtain ⟨rest, rfl, read'⟩ := NumberText.read_of_return read
      exact ⟨.whole rest, rfl, by rw [read']; rfl⟩

theorem skipKey_of_return (h : skipKey (text ++ ['\r']) = .ok rest) :
    ∃ left, rest = left ++ ['\r'] ∧ skipKey text = .ok left := by
  unfold skipKey at h
  split at h
  · cases h
  · next start =>
    obtain ⟨left, start', rfl⟩ := skipSpace_of_return start
    split at h
    · cases h
    · next key =>
      obtain ⟨behind, rfl, key'⟩ := skipText_of_return key
      obtain ⟨last, rfl, colon⟩ := readColon_of_return h
      exact ⟨last, rfl, by simp only [skipKey, start', key', colon]⟩
  · cases h

theorem skipItemStart_of_return {frame : Frame}
    (h : skipItemStart frame (text ++ ['\r']) = .ok rest) :
    ∃ left, rest = left ++ ['\r'] ∧ skipItemStart frame text = .ok left := by
  cases frame with
  | list =>
    cases h
    exact ⟨text, rfl, rfl⟩
  | object => exact skipKey_of_return h

theorem skipNext_of_return {frame : Frame} {opened : Bool} {next : Next}
    (h : skipNext frame opened (text ++ ['\r']) = .ok next) :
    ∃ before : Next, next = before.append ['\r'] ∧ skipNext frame opened text = .ok before := by
  cases start : skipSpace (text ++ ['\r']) with
  | nil => exact absurd h (skipNext_of_nil start)
  | cons c after =>
    obtain ⟨left, start', rfl⟩ := skipSpace_of_return start
    have item : ∀ text : List Char,
        (skipItemStart frame (text ++ ['\r'])).map Next.item = .ok next →
          ∃ before : Next, next = before.append ['\r'] ∧
            (skipItemStart frame text).map Next.item = .ok before := by
      intro text h
      obtain ⟨rest, read, rfl⟩ := map_eq_ok_iff.1 h
      obtain ⟨rest, rfl, read'⟩ := skipItemStart_of_return read
      exact ⟨.item rest, rfl, by rw [read']; rfl⟩
    by_cases closing : c = frame.closing
    · subst closing
      rw [skipNext_of_closing opened start] at h
      cases h
      exact ⟨.finish left, rfl, skipNext_of_closing opened start'⟩
    · rw [skipNext_of_ne opened start closing] at h
      rw [skipNext_of_ne opened start' closing]
      split at h
      · next first =>
        rw [if_pos first]
        exact item (c :: left) h
      · next first =>
        rw [if_neg first]
        split at h
        · next comma =>
          rw [if_pos comma]
          exact item left h
        · cases h

/-- The two functions call each other on what is left of the text. -/
theorem skip_of_return (text : List Char) :
    (∀ frames rest, skipValue frames (text ++ ['\r']) = .ok rest →
        ∃ left, rest = left ++ ['\r'] ∧ skipValue frames text = .ok left) ∧
      ∀ frames opened rest, skipFrames frames opened (text ++ ['\r']) = .ok rest →
        ∃ left, rest = left ++ ['\r'] ∧ skipFrames frames opened text = .ok left := by
  induction size : text.length using Nat.strongRecOn generalizing text with
  | ind size ih =>
    subst size
    have value : ∀ text' : List Char, text'.length ≤ text.length → ∀ frames rest,
        skipValue frames (text' ++ ['\r']) = .ok rest →
          ∃ left, rest = left ++ ['\r'] ∧ skipValue frames text' = .ok left := by
      intro text' le frames rest h
      rw [skipValue_eq, bind_eq_ok_iff] at h
      obtain ⟨front, read, h⟩ := h
      obtain ⟨before, rfl, read'⟩ := readFront_of_return read
      have shorter := Nat.lt_of_lt_of_le (length_of_readFront read') le
      rw [skipValue_eq, read', ok_bind]
      cases before with
      | whole left => exact (ih _ shorter left rfl).2 _ _ _ h
      | opening frame left => exact (ih _ shorter left rfl).2 _ _ _ h
    refine ⟨value text (Nat.le_refl _), ?_⟩
    intro frames opened rest h
    cases frames with
    | nil =>
      rw [skipFrames_nil] at h ⊢
      cases h
      exact ⟨text, rfl, rfl⟩
    | cons frame outer =>
      rw [skipFrames_cons, bind_eq_ok_iff] at h
      obtain ⟨next, read, h⟩ := h
      obtain ⟨before, rfl, read'⟩ := skipNext_of_return read
      rw [skipFrames_cons, read', ok_bind]
      cases before with
      | finish left => exact (ih _ (length_of_skipNext_finish read') left rfl).2 _ _ _ h
      | item left => exact value left (length_of_skipNext_item read') _ _ h

/-! Readers. -/

theorem nextElement_of_return {first : Bool} {next : Next}
    (h : nextElement first (text ++ ['\r']) = .ok next) :
    ∃ before : Next, next = before.append ['\r'] ∧ nextElement first text = .ok before := by
  unfold nextElement at h
  split at h
  · cases h
  · next start =>
    cases h
    obtain ⟨left, start', rfl⟩ := skipSpace_of_return start
    exact ⟨.finish left, rfl, by simp only [nextElement, start']⟩
  · next c after notEnd start =>
    obtain ⟨left, start', rfl⟩ := skipSpace_of_return start
    simp only [nextElement, start']
    split at h
    · next isFirst =>
      cases h
      exact ⟨.item (c :: left), rfl, by simp [isFirst]⟩
    · next isFirst =>
      split at h
      · next comma =>
        subst comma
        cases item : skipSpace (left ++ ['\r']) with
        | nil =>
          rw [item] at h
          cases h
        | cons d behind =>
          obtain ⟨last, item', rfl⟩ := skipSpace_of_return item
          rw [item] at h
          split at h
          · cases h
          · cases h
          · next open' =>
            cases h
            refine ⟨.item (d :: last), rfl, ?_⟩
            rw [item', if_neg isFirst, if_pos rfl]
            split <;> simp_all
      · cases h

theorem nextKey_of_return {first : Bool} {next : Next}
    (h : nextKey first (text ++ ['\r']) = .ok next) :
    ∃ before : Next, next = before.append ['\r'] ∧ nextKey first text = .ok before := by
  unfold nextKey at h
  split at h
  · cases h
  · next start =>
    cases h
    obtain ⟨left, start', rfl⟩ := skipSpace_of_return start
    exact ⟨.finish left, rfl, by simp only [nextKey, start']⟩
  · next c after notEnd start =>
    obtain ⟨left, start', rfl⟩ := skipSpace_of_return start
    split at h
    · next isFirst =>
      split at h
      · next quote =>
        cases h
        exact ⟨.item left, rfl, by simp [nextKey, start', isFirst, quote]⟩
      · cases h
    · next isFirst =>
      split at h
      · next comma =>
        subst comma
        split at h
        · cases h
        · next quote =>
          cases h
          obtain ⟨behind, quote', rfl⟩ := skipSpace_of_return quote
          exact ⟨.item behind, rfl, by simp [nextKey, start', isFirst, quote']⟩
        · cases h
        · cases h
      · cases h

namespace Reader

variable {β : Type}

/-- A reader that does not touch the carriage return behind a text. -/
def LeavesReturn (reader : Reader α) : Prop :=
  ∀ text value rest, reader.run (text ++ ['\r']) = .ok (value, rest) →
    ∃ left, rest = left ++ ['\r'] ∧ reader.run text = .ok (value, left)

theorem LeavesReturn.map {reader : Reader α} (h : reader.LeavesReturn) (f : α → β) :
    (reader.map f).LeavesReturn := by
  intro text value rest read
  simp only [Reader.map] at read ⊢
  split at read
  · cases read
  · next read' =>
    cases read
    obtain ⟨left, rfl, read''⟩ := h _ _ _ read'
    exact ⟨left, rfl, by rw [read'']⟩

theorem leavesReturn_skip : skip.LeavesReturn := by
  intro text value rest read
  simp only [skip] at read ⊢
  split at read
  · cases read
  · next read' =>
    cases read
    obtain ⟨left, rfl, read''⟩ := (skip_of_return text).1 _ _ read'
    exact ⟨left, rfl, by rw [read'']⟩

theorem leavesReturn_text (wanted : String) : (Reader.text wanted).LeavesReturn := by
  intro text value rest read
  simp only [Reader.text, readTextValue] at read ⊢
  split at read
  · next start =>
    obtain ⟨left, start', rfl⟩ := skipSpace_of_return start
    obtain ⟨last, rfl, read'⟩ := readText_of_return read
    exact ⟨last, rfl, by simp only [start', read']⟩
  · cases read

theorem leavesReturn_integer : integer.LeavesReturn := by
  intro text value rest read
  simp only [integer, readIntegerValue] at read ⊢
  split at read
  · cases read
  · next start =>
    obtain ⟨left, start', rfl⟩ := skipSpace_of_return start
    split at read
    · next number =>
      split at read
      · cases read
      · next read' =>
        rw [← List.cons_append] at read'
        obtain ⟨last, rfl, read''⟩ := readNumber_of_return read'
        obtain ⟨value, whole, eq⟩ := map_eq_ok_iff.1 read
        obtain ⟨rfl, rfl⟩ := Prod.mk.inj eq
        refine ⟨last, rfl, ?_⟩
        simp only [start', if_pos number, read'', whole]
        rfl
    · cases read

theorem readMembers_of_return {member : σ → String → Except Error (Reader σ)} {state last : σ}
    {first : Bool}
    (leaves : ∀ {state key reader}, member state key = .ok reader → reader.LeavesReturn)
    (h : readMembers member state first (text ++ ['\r']) = .ok (last, rest)) :
    ∃ left, rest = left ++ ['\r'] ∧ readMembers member state first text = .ok (last, left) := by
  induction size : text.length using Nat.strongRecOn generalizing text state first with
  | ind size ih =>
    subst size
    rw [readMembers_eq, bind_eq_ok_iff] at h
    obtain ⟨next, key, h⟩ := h
    obtain ⟨before, rfl, key'⟩ := nextKey_of_return key
    cases before with
    | finish left =>
      cases h
      exact ⟨left, rfl, readMembers_finish key'⟩
    | item left =>
      simp only [Next.append, bind_eq_ok_iff, Prod.exists] at h
      obtain ⟨name, after, read, reader, known, behind, colon, state', back, value, h⟩ := h
      obtain ⟨after, rfl, read'⟩ := readText_of_return read
      obtain ⟨behind, rfl, colon'⟩ := readColon_of_return colon
      obtain ⟨back, rfl, value'⟩ := leaves known _ _ _ value
      have shorter : back.length < text.length := by
        have h1 := length_of_nextKey key'
        have h2 := length_of_readText read'
        have h3 := length_of_readColon colon'
        have h4 := reader.shortens value'
        simp only [Next.rest] at h1
        omega
      obtain ⟨left, rfl, members⟩ := ih _ shorter h rfl
      refine ⟨left, rfl, ?_⟩
      rw [readMembers_eq]
      simp only [key', read', known, colon', value', ok_bind]
      exact members

theorem readSteps_of_return {short : Nat → σ → Except Error σ} {steps : List (σ → Reader σ)}
    {count : Nat} {state last : σ} (leaves : ∀ step ∈ steps, ∀ state, (step state).LeavesReturn)
    (h : readSteps short steps count state (text ++ ['\r']) = .ok (last, rest)) :
    ∃ left, rest = left ++ ['\r'] ∧ readSteps short steps count state text = .ok (last, left) := by
  induction steps generalizing count state text with
  | nil =>
    unfold readSteps at h
    split at h
    · cases h
    · next start =>
      cases h
      obtain ⟨left, start', rfl⟩ := skipSpace_of_return start
      exact ⟨left, rfl, by simp only [readSteps, start']⟩
    · split at h <;> cases h
    · cases h
  | cons step steps ih =>
    rw [List.forall_mem_cons] at leaves
    unfold readSteps at h
    split at h
    · cases h
    · next next =>
      obtain ⟨before, eq, next'⟩ := nextElement_of_return next
      cases before with
      | item left => cases eq
      | finish left =>
        obtain rfl := Next.finish.inj eq
        obtain ⟨state', ended, eq⟩ := map_eq_ok_iff.1 h
        obtain ⟨rfl, rfl⟩ := Prod.mk.inj eq
        refine ⟨left, rfl, ?_⟩
        simp only [readSteps, next', ended]
        rfl
    · next next =>
      obtain ⟨before, eq, next'⟩ := nextElement_of_return next
      cases before with
      | finish left => cases eq
      | item left =>
        obtain rfl := Next.item.inj eq
        split at h
        · cases h
        · next read =>
          obtain ⟨behind, rfl, read'⟩ := leaves.1 _ _ _ _ read
          obtain ⟨last, rfl, steps'⟩ := ih leaves.2 h
          exact ⟨last, rfl, by simp only [readSteps, next', read', steps']⟩

end Reader

/-- Whatever is collected, and in whichever way, the carriage return stays. -/
structure Shape.LeavesReturn {σ α : Type} (shape : Shape σ α) : Prop where
  value {state : σ} {key : String} {reader : Reader σ} :
    shape.member state key = .ok reader → reader.LeavesReturn
  step : ∀ step ∈ shape.steps, ∀ state, (step state).LeavesReturn

theorem Shape.LeavesReturn.read {shape : Shape σ α} {found : α} (leaves : shape.LeavesReturn)
    (h : shape.read (text ++ ['\r']) = .ok (found, rest)) :
    ∃ left, rest = left ++ ['\r'] ∧ shape.read text = .ok (found, left) := by
  unfold Shape.read at h
  split at h
  · cases h
  · next c after start =>
    obtain ⟨left, start', rfl⟩ := skipSpace_of_return start
    dsimp only at h
    split_ifs at h with object list
    · simp only [bind_eq_ok_iff, pure_eq_ok_iff, Prod.exists, Prod.mk.injEq] at h
      obtain ⟨state, behind, fields, value, complete, rfl, rfl⟩ := h
      obtain ⟨last, rfl, members⟩ := Reader.readMembers_of_return leaves.value fields
      refine ⟨last, rfl, ?_⟩
      simp only [Shape.read, start', if_pos object, members, ok_bind, complete]
      rfl
    · simp only [bind_eq_ok_iff, pure_eq_ok_iff, Prod.exists, Prod.mk.injEq] at h
      obtain ⟨state, behind, fields, value, complete, rfl, rfl⟩ := h
      obtain ⟨last, rfl, steps⟩ := Reader.readSteps_of_return leaves.step fields
      refine ⟨last, rfl, ?_⟩
      simp only [Shape.read, start', if_neg object, if_pos list, steps, ok_bind, complete]
      rfl
    · cases h

theorem skipSpace_eq_nil_of_return (h : skipSpace (text ++ ['\r']) = []) : skipSpace text = [] := by
  cases start : skipSpace text with
  | nil => rfl
  | cons c left =>
    have shown : skipSpace (text ++ ['\r']) = c :: left ++ ['\r'] := by
      rw [skipSpace, List.dropWhile_append, ← skipSpace, start]
      rfl
    rw [shown] at h
    cases h

/-- What is read from a text with a carriage return behind it is read from the text alone. -/
theorem Shape.LeavesReturn.decode {shape : Shape σ α} {found : α} (leaves : shape.LeavesReturn)
    (h : shape.decode (String.ofList (text ++ ['\r'])) = .ok found) :
    shape.decode (String.ofList text) = .ok found := by
  simp only [Shape.decode, String.toList_ofList, bind_eq_ok_iff, Prod.exists] at h ⊢
  obtain ⟨value, rest, read, done⟩ := h
  obtain ⟨left, rfl, read'⟩ := leaves.read read
  refine ⟨value, left, read', ?_⟩
  split at done
  · next nothing =>
    rw [List.isEmpty_iff] at nothing
    rwa [skipSpace_eq_nil_of_return nothing]
  · cases done

end Quarry.Json

namespace Quarry.Record

open Json

variable {text : List Char} {record : Record} {draft : Draft} {key : String}

theorem Draft.leavesReturn_fill (field : Field) (draft : Draft) :
    (draft.fill field).LeavesReturn := by
  cases field with
  | id | title | content => exact (Reader.leavesReturn_text _).map _
  | views | timestamp => exact Reader.leavesReturn_integer.map _

theorem Draft.leavesReturn_member {reader : Reader Draft} (h : draft.member key = .ok reader) :
    reader.LeavesReturn := by
  unfold Draft.member at h
  split at h
  · split at h
    · cases h
    · cases h
      exact Draft.leavesReturn_fill _ draft
  · cases h
    exact Reader.leavesReturn_skip.map _

theorem leavesReturn_shape : shape.LeavesReturn where
  value := Draft.leavesReturn_member
  step := by
    intro step mem draft
    obtain ⟨field, -, rfl⟩ := List.mem_map.1 mem
    exact Draft.leavesReturn_fill field draft

theorem ofJson_of_return (h : ofJson (String.ofList (text ++ ['\r'])) = .ok record) :
    ofJson (String.ofList text) = .ok record :=
  leavesReturn_shape.decode h

end Quarry.Record
