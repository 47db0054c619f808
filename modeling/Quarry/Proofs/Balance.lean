import Mathlib.Tactic.Common
import Quarry.Query.Group

/-! Groups in parentheses. A text starts with a group exactly when what follows its first
character is a balanced text and the closing parenthesis, which settles where the group ends. -/

namespace Quarry.Group

/-- Every group that is opened is closed, and none is closed before it is opened. -/
structure Balanced (text : List Char) : Prop where
  total : text.count '(' = text.count ')'
  front : ∀ front, front <+: text → front.count ')' ≤ front.count '('

/-- How many groups are open at the end of a text that begins with `opened` of them open. A text
that closes one more than there are has no answer. -/
def level? (opened : Nat) : List Char → Option Nat
  | [] => some opened
  | c :: text =>
    if c = '(' then level? (opened + 1) text
    else if c = ')' then
      match opened with
      | 0 => none
      | opened + 1 => level? opened text
    else level? opened text

variable {opened left : Nat} {text inner rest : List Char}

@[simp] theorem level?_nil : level? opened [] = some opened := rfl

@[simp] theorem level?_open : level? opened ('(' :: text) = level? (opened + 1) text := by
  simp [level?]

@[simp] theorem level?_close_zero : level? 0 (')' :: text) = none := by
  simp [level?]

@[simp] theorem level?_close_succ : level? (opened + 1) (')' :: text) = level? opened text := by
  simp [level?]

theorem level?_cons_of_ne {c : Char} (h : c ≠ '(') (h' : c ≠ ')') :
    level? opened (c :: text) = level? opened text := by
  simp [level?, h, h']

theorem level?_append (opened : Nat) (front back : List Char) :
    level? opened (front ++ back) = (level? opened front).bind fun left => level? left back := by
  induction front generalizing opened with
  | nil => rfl
  | cons c front ih =>
    by_cases h : c = '('
    · subst h
      simp [ih]
    · by_cases h' : c = ')'
      · subst h'
        cases opened with
        | zero => simp
        | succ opened => simp [ih]
      · simp [level?_cons_of_ne h h', ih]

/-- Groups that are open further out do not matter. -/
theorem level?_add (h : level? opened text = some left) (more : Nat) :
    level? (opened + more) text = some (left + more) := by
  induction text generalizing opened with
  | nil => simp_all
  | cons c text ih =>
    by_cases hc : c = '('
    · subst hc
      rw [level?_open] at h ⊢
      rw [Nat.add_right_comm]
      exact ih h
    · by_cases hc' : c = ')'
      · subst hc'
        cases opened with
        | zero => simp at h
        | succ opened =>
          rw [level?_close_succ] at h
          rw [Nat.add_right_comm, level?_close_succ]
          exact ih h
      · rw [level?_cons_of_ne hc hc'] at h ⊢
        exact ih h

/-- The empty front apart, the fronts of a text start with its first character. -/
theorem forall_prefix_cons_iff {p : List Char → Prop} {c : Char} :
    (∀ front, front <+: c :: text → p front) ↔ p [] ∧ ∀ front, front <+: text → p (c :: front) := by
  refine ⟨?_, ?_⟩
  · intro h
    exact ⟨h [] List.nil_prefix, fun front hf => h _ (List.cons_prefix_cons.2 ⟨rfl, hf⟩)⟩
  · rintro ⟨empty, h⟩ front hf
    rcases List.prefix_cons_iff.1 hf with rfl | ⟨tail, rfl, ht⟩
    · exact empty
    · exact h _ ht

/-- The answer in terms of counts: no front of the text may close more than is open by then. -/
theorem level?_eq_some_iff : level? opened text = some left ↔
    opened + text.count '(' = left + text.count ')' ∧
      ∀ front, front <+: text → front.count ')' ≤ opened + front.count '(' := by
  induction text generalizing opened with
  | nil => simp
  | cons c text ih =>
    rw [forall_prefix_cons_iff]
    by_cases h : c = '('
    · subst h
      rw [level?_open, ih]
      simp [Nat.add_comm, Nat.add_left_comm]
    · by_cases h' : c = ')'
      · subst h'
        cases opened with
        | zero =>
          simp only [level?_close_zero, reduceCtorEq, false_iff, not_and]
          intro _ _ hf
          simpa using hf [] (List.nil_prefix)
        | succ opened =>
          rw [level?_close_succ, ih]
          simp [Nat.add_right_comm opened 1, ← Nat.add_assoc]
      · rw [level?_cons_of_ne h h', ih]
        simp [h, h']

theorem balanced_iff_level? : Balanced text ↔ level? 0 text = some 0 := by
  rw [level?_eq_some_iff]
  simp only [Nat.zero_add]
  exact ⟨fun h => ⟨h.total, h.front⟩, fun h => ⟨h.1, h.2⟩⟩

instance : Decidable (Balanced text) :=
  decidable_of_iff _ balanced_iff_level?.symm

theorem Balanced.level? (h : Balanced text) (opened : Nat) : level? opened text = some opened := by
  simpa using level?_add (balanced_iff_level?.1 h) opened

theorem balanced_nil : Balanced [] := by
  rw [balanced_iff_level?, level?_nil]

theorem Balanced.append (h : Balanced inner) (h' : Balanced rest) : Balanced (inner ++ rest) := by
  rw [balanced_iff_level?, level?_append, h.level?, Option.bind_some, h'.level?]

theorem Balanced.group (h : Balanced inner) : Balanced ('(' :: inner ++ [')']) := by
  rw [balanced_iff_level?, List.cons_append, level?_open, level?_append, h.level?]
  rfl

/-- A balanced text can be taken away from either end. -/
theorem balanced_append_iff_right (h : Balanced inner) (rest : List Char) :
    Balanced (inner ++ rest) ↔ Balanced rest := by
  rw [balanced_iff_level?, level?_append, h.level?, Option.bind_some, balanced_iff_level?]

theorem balanced_append_iff_left (h : Balanced rest) (inner : List Char) :
    Balanced (inner ++ rest) ↔ Balanced inner := by
  rw [balanced_iff_level?, level?_append, balanced_iff_level?]
  cases level? 0 inner with
  | none => simp
  | some left => simp [h.level?]

/-- The closing parenthesis is the first that no group opened before it takes. -/
theorem close?_eq_some_iff {nested : Nat} {seen : List Char} :
    close? nested seen text = some (inner, rest) ↔
      ∃ body, inner = seen.reverse ++ body ∧ text = body ++ ')' :: rest ∧
        level? nested body = some 0 := by
  induction text generalizing nested seen with
  | nil => simp [close?]
  | cons c text ih =>
    -- the body is empty, or it starts with the character at hand
    have bodies : (∃ body, inner = seen.reverse ++ body ∧ c :: text = body ++ ')' :: rest ∧
          level? nested body = some 0) ↔
        (c = ')' ∧ inner = seen.reverse ∧ text = rest ∧ nested = 0) ∨
          ∃ body, inner = (c :: seen).reverse ++ body ∧ text = body ++ ')' :: rest ∧
            level? nested (c :: body) = some 0 := by
      refine ⟨?_, ?_⟩
      · rintro ⟨body, rfl, h, level⟩
        cases body with
        | nil =>
          obtain ⟨rfl, rfl⟩ := List.cons.inj h
          exact Or.inl ⟨rfl, by simp, rfl, by simpa using level⟩
        | cons b body =>
          obtain ⟨rfl, rfl⟩ := List.cons.inj h
          exact Or.inr ⟨body, by simp, rfl, level⟩
      · rintro (⟨rfl, rfl, rfl, rfl⟩ | ⟨body, rfl, rfl, level⟩)
        · exact ⟨[], by simp, rfl, rfl⟩
        · exact ⟨c :: body, by simp, rfl, level⟩
    rw [bodies]
    by_cases h : c = '('
    · subst h
      simp [close?, ih]
    · by_cases h' : c = ')'
      · subst h'
        cases nested with
        | zero => simp [close?, eq_comm]
        | succ nested => simp [close?, ih]
      · simp [close?, h, h', ih, level?_cons_of_ne h h']

/-- What a text begins with is cut off as a group exactly when it is one. -/
theorem split_eq_ok_iff :
    split text = .ok (inner, rest) ↔ text = '(' :: inner ++ ')' :: rest ∧ Balanced inner := by
  cases text with
  | nil => simp [split]
  | cons c text =>
    by_cases h : c = '('
    · subst h
      have cut : split ('(' :: text) = .ok (inner, rest) ↔ close? 0 [] text = some (inner, rest) := by
        cases h : close? 0 [] text <;> simp [split, h]
      rw [cut, close?_eq_some_iff, balanced_iff_level?]
      simp
    · have none : split (c :: text) ≠ .ok (inner, rest) := by
        simp [split, h]
      simp [none, h]

theorem split_eq_ok_or_error (text : List Char) :
    (∃ inner rest, split text = .ok (inner, rest)) ∨
      ∃ reason, split text = .error (.malformed reason) := by
  unfold split
  split
  · split
    · next parts _ => exact Or.inl ⟨parts.1, parts.2, rfl⟩
    · exact Or.inr ⟨_, rfl⟩
  · exact Or.inr ⟨_, rfl⟩

end Quarry.Group
