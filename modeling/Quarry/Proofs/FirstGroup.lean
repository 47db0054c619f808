import Quarry.Proofs.Balance

/-! The first group of a text. It can also be found by counting the groups that are open, from the first
character of the text on, where nothing may be closed while the count is zero. Main statement: this count
always goes through, and what is cut off is the only balanced group that the text starts with. -/

namespace Quarry.Group

variable {text inner rest : List Char}

/-- One group less is open, if there is one. -/
def closeOne? : Nat → Option Nat
  | 0 => none
  | opened + 1 => some opened

/-- Cuts a text where the count of open groups comes back to zero; `seen` is what was read of it, last
character first. There is no answer when a group is closed and none is open. -/
def scan (opened : Nat) (seen : List Char) : List Char → Option (Option (List Char × List Char))
  | [] => some none
  | c :: text =>
    if c = '(' then scan (opened + 1) (c :: seen) text
    else if c = ')' then do
      let left ← closeOne? opened
      if left = 0 then return some (seen.reverse.tail, text)
      else scan left (c :: seen) text
    else scan opened (c :: seen) text

/-- Cuts the first group off a text by counting. -/
def countedSplit (text : List Char) : Option (Except QueryError (List Char × List Char)) :=
  if text.head? = some '(' then do
    match ← scan 0 [] text with
    | some parts => return .ok parts
    | none => return .error (.malformed (.notClosed (snippet text)))
  else some (.error (.malformed (.notOpened (snippet text))))

/-! The count goes through. -/

/-- The first parenthesis has been read, so one group more is open than inside of it. -/
theorem scan_eq_close? (nested : Nat) (seen text : List Char) :
    scan (nested + 1) (seen ++ ['(']) text = some (close? nested seen text) := by
  induction text generalizing nested seen with
  | nil => rfl
  | cons c text ih =>
    have next : ∀ nested, scan (nested + 1) (c :: (seen ++ ['('])) text =
        some (close? nested (c :: seen) text) := fun nested => ih nested (c :: seen)
    by_cases opening : c = '('
    · subst opening
      simp [scan, close?, next]
    · by_cases closing : c = ')'
      · subst closing
        cases nested with
        | zero => simp [scan, close?, closeOne?]
        | succ nested => simp [scan, close?, closeOne?, next]
      · simp [scan, close?, opening, closing, next]

theorem countedSplit_eq (text : List Char) : countedSplit text = some (split text) := by
  cases text with
  | nil => rfl
  | cons c text =>
    by_cases opening : c = '('
    · subst opening
      have first : scan 0 [] ('(' :: text) = some (close? 0 [] text) := scan_eq_close? 0 [] text
      simp only [countedSplit, first, split]
      cases close? 0 [] text <;> simp
    · simp [countedSplit, split, opening]

/-! When no group is cut off. -/

/-- A group stays open if no front of what follows closes more than is open by then. -/
theorem close?_eq_none_iff {nested : Nat} {seen : List Char} :
    close? nested seen text = none ↔
      ∀ front, front <+: text → front.count ')' ≤ nested + front.count '(' := by
  induction text generalizing nested seen with
  | nil => simp [close?]
  | cons c text ih =>
    rw [forall_prefix_cons_iff]
    by_cases opening : c = '('
    · subst opening
      simp [close?, ih, Nat.add_comm, Nat.add_left_comm]
    · by_cases closing : c = ')'
      · subst closing
        cases nested with
        | zero =>
          simp only [close?, if_pos, reduceCtorEq, if_neg opening, false_iff, not_and]
          intro _ fronts
          simpa using fronts [] List.nil_prefix
        | succ nested => simp [close?, ih, Nat.add_right_comm nested 1]
      · simp [close?, opening, closing, ih]

/-- A text is refused if it does not start with a group, or if this group is open wherever one stops. -/
theorem split_eq_error_iff : (∃ reason, split text = .error (.malformed reason)) ↔
    text.head? ≠ some '(' ∨
      ∀ front, front <+: text → front ≠ [] → front.count ')' < front.count '(' := by
  cases text with
  | nil => simp [split]
  | cons c text =>
    rw [forall_prefix_cons_iff]
    by_cases opening : c = '('
    · subst opening
      have fronts : close? 0 [] text = none ↔
          ∀ front, front <+: text → ('(' :: front).count ')' < ('(' :: front).count '(' := by
        simp only [close?_eq_none_iff, Nat.zero_add, List.count_cons_self,
          List.count_cons_of_ne (by decide : '(' ≠ ')'), Nat.lt_succ_iff]
      cases found : close? 0 [] text with
      | none => simpa [split, found] using fronts.1 found
      | some parts => simpa [split, found] using fronts
    · simp [split, opening]

/-- A text has at most one first group, which is cut off if there is one and missed if there is none.
Counting the open groups, without ever closing one that is not open, cuts off the same. -/
theorem split_cuts_first_group (text : List Char) :
    (∀ inner rest, split text = .ok (inner, rest) ↔
        text = '(' :: inner ++ ')' :: rest ∧ Balanced inner) ∧
      (∀ inner rest inner' rest', text = '(' :: inner ++ ')' :: rest → Balanced inner →
        text = '(' :: inner' ++ ')' :: rest' → Balanced inner' → inner = inner' ∧ rest = rest') ∧
      ((∃ reason, split text = .error (.malformed reason)) ↔
        ¬ ∃ inner rest, text = '(' :: inner ++ ')' :: rest ∧ Balanced inner) ∧
      ((∃ reason, split text = .error (.malformed reason)) ↔ text.head? ≠ some '(' ∨
        ∀ front, front <+: text → front ≠ [] → front.count ')' < front.count '(') ∧
      countedSplit text = some (split text) := by
  refine ⟨fun _ _ => split_eq_ok_iff, ?_, ?_, split_eq_error_iff, countedSplit_eq text⟩
  · intro inner rest inner' rest' eq balanced eq' balanced'
    have cut := split_eq_ok_iff.2 ⟨eq, balanced⟩
    rw [split_eq_ok_iff.2 ⟨eq', balanced'⟩] at cut
    cases cut
    exact ⟨rfl, rfl⟩
  · simp only [← split_eq_ok_iff]
    constructor
    · rintro ⟨reason, refused⟩ ⟨inner, rest, cut⟩
      rw [refused] at cut
      cases cut
    · exact (split_eq_ok_or_error text).resolve_left

end Quarry.Group
