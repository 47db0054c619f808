import Mathlib.Data.List.Basic
import Mathlib.Data.List.Forall2

/-! Texts put together from pieces with a separator between them. Pieces can be told apart by their
lengths, or by their commas if each of them holds one. -/

namespace Quarry

variable {rest rest' : List Char} {pieces others : List (List Char)}

theorem intercalate_cons (piece : List Char) (pieces : List (List Char)) :
    [','].intercalate (piece :: pieces) = piece ++ pieces.flatMap (',' :: ·) := by
  induction pieces generalizing piece with
  | nil => simp
  | cons next pieces ih =>
    rw [List.intercalate_cons_cons, ih, List.flatMap_cons]
    simp

/-- The characters of a text come from its pieces, but for the commas. -/
theorem forall_mem_intercalate {p : Char → Prop} (comma : p ',')
    (h : ∀ piece ∈ pieces, ∀ c ∈ piece, p c) : ∀ c ∈ [','].intercalate pieces, p c := by
  intro c mem
  cases pieces with
  | nil => cases mem
  | cons piece pieces =>
    rw [intercalate_cons, List.mem_append, List.mem_flatMap] at mem
    rw [List.forall_mem_cons] at h
    rcases mem with mem | ⟨other, mem, mem'⟩
    · exact h.1 c mem
    · rcases List.mem_cons.1 mem' with rfl | mem'
      · exact comma
      · exact h.2 other mem c mem'

/-- Pieces of the same lengths with separators between them are the same pieces. -/
theorem eq_of_intercalate_eq {separator : List Char}
    (h : List.Forall₂ (fun piece other => piece.length = other.length) pieces others)
    (eq : separator.intercalate pieces = separator.intercalate others) : pieces = others := by
  induction h with
  | nil => rfl
  | cons same more ih =>
    cases more with
    | nil => simpa using eq
    | cons =>
      rw [List.intercalate_cons_cons, List.intercalate_cons_cons, List.append_assoc,
        List.append_assoc] at eq
      obtain ⟨rfl, rest⟩ := List.append_inj eq same
      rw [ih (List.append_cancel_left rest)]

/-! Pieces with one comma each. -/

theorem head?_flatMap_comma {c : Char} (h : c ∈ (pieces.flatMap (',' :: ·)).head?) : c = ',' := by
  cases pieces with
  | nil => simp at h
  | cons piece pieces => simpa [eq_comm] using h

/-- Two texts that go on with a comma, if at all, are the same up to there. -/
theorem append_inj_of_count_comma {front front' : List Char} (once : front.count ',' = 1)
    (once' : front'.count ',' = 1) (h : ∀ c ∈ rest.head?, c = ',')
    (h' : ∀ c ∈ rest'.head?, c = ',') (eq : front ++ rest = front' ++ rest') :
    front = front' ∧ rest = rest' := by
  have plain : ∀ {middle back : List Char}, middle.count ',' = 0 →
      (∀ c ∈ (middle ++ back).head?, c = ',') → middle = [] := by
    intro middle back none edge
    cases middle with
    | nil => rfl
    | cons c middle =>
      obtain rfl := edge c (by simp)
      simp at none
  rcases List.append_eq_append_iff.1 eq with ⟨middle, rfl, rfl⟩ | ⟨middle, rfl, rfl⟩
  · rw [List.count_append] at once'
    obtain rfl := plain (by omega) h
    simp
  · rw [List.count_append] at once
    obtain rfl := plain (by omega) h'
    simp

theorem flatMap_comma_inj (once : ∀ piece ∈ pieces, piece.count ',' = 1)
    (once' : ∀ piece ∈ others, piece.count ',' = 1)
    (eq : pieces.flatMap (',' :: ·) = others.flatMap (',' :: ·)) : pieces = others := by
  induction pieces generalizing others with
  | nil =>
    cases others with
    | nil => rfl
    | cons piece others => simp at eq
  | cons piece pieces ih =>
    cases others with
    | nil => simp at eq
    | cons piece' others =>
      rw [List.forall_mem_cons] at once once'
      rw [List.flatMap_cons, List.flatMap_cons, List.cons_append, List.cons_append] at eq
      obtain ⟨rfl, more⟩ := append_inj_of_count_comma once.1 once'.1
        (fun c => head?_flatMap_comma) (fun c => head?_flatMap_comma) (List.cons.inj eq).2
      rw [ih once.2 once'.2 more]

/-- The commas tell how many pieces there are and where each of them ends. -/
theorem intercalate_inj (once : ∀ piece ∈ pieces, piece.count ',' = 1)
    (once' : ∀ piece ∈ others, piece.count ',' = 1)
    (eq : [','].intercalate pieces = [','].intercalate others) : pieces = others := by
  have ne_nil : ∀ piece : List Char, piece.count ',' = 1 → ∀ rest, piece ++ rest ≠ [] := by
    intro piece once rest
    cases piece with
    | nil => simp at once
    | cons c piece => simp
  cases pieces with
  | nil =>
    cases others with
    | nil => rfl
    | cons piece others =>
      rw [intercalate_cons, List.intercalate_nil] at eq
      exact absurd eq.symm (ne_nil piece (once' piece List.mem_cons_self) _)
  | cons piece pieces =>
    cases others with
    | nil =>
      rw [intercalate_cons, List.intercalate_nil] at eq
      exact absurd eq (ne_nil piece (once piece List.mem_cons_self) _)
    | cons piece' others =>
      rw [intercalate_cons, intercalate_cons] at eq
      apply flatMap_comma_inj once once'
      rw [List.flatMap_cons, List.flatMap_cons, List.cons_append, List.cons_append, eq]

end Quarry
