import Quarry.Json.Reader
import Quarry.Proofs.Outcome

/-! How an object is read, one member after the other. Blanks may stand in front of a key and in front of
the closing brace. -/

namespace Quarry.Json

variable {space rest text : List Char}

/-- Blanks that may stand between the parts of a text. -/
def Spaces (space : List Char) : Prop :=
  ∀ c ∈ space, isSpace c = true

theorem skipSpace_spaces (spaces : Spaces space) (rest : List Char) :
    skipSpace (space ++ rest) = skipSpace rest :=
  List.dropWhile_append_of_pos spaces

theorem skipSpace_cons {c : Char} (h : isSpace c = false) (rest : List Char) :
    skipSpace (c :: rest) = c :: rest :=
  List.dropWhile_cons_of_neg (by simp [h])

theorem skipSpace_append (spaces : Spaces space) {c : Char} (h : isSpace c = false)
    (rest : List Char) : skipSpace (space ++ c :: rest) = c :: rest := by
  rw [skipSpace_spaces spaces, skipSpace_cons h]

theorem nextKey_first (spaces : Spaces space) (rest : List Char) :
    nextKey true (space ++ '"' :: rest) = .ok (.item rest) := by
  simp [nextKey, skipSpace_append spaces (by decide : isSpace '"' = false)]

theorem nextKey_comma (spaces : Spaces space) (rest : List Char) :
    nextKey false (',' :: (space ++ '"' :: rest)) = .ok (.item rest) := by
  have comma : skipSpace (',' :: (space ++ '"' :: rest)) = ',' :: (space ++ '"' :: rest) := rfl
  simp [nextKey, comma, skipSpace_append spaces (by decide : isSpace '"' = false)]

theorem nextKey_finish (spaces : Spaces space) (first : Bool) (rest : List Char) :
    nextKey first (space ++ '\x7d' :: rest) = .ok (.finish rest) := by
  rw [nextKey, skipSpace_append spaces (by decide : isSpace '\x7d' = false)]
  rfl

namespace Reader

variable {σ : Type} {member : σ → String → Except Error (Reader σ)} {state : σ} {first : Bool}

/-- The members of an object in terms of the first of them. -/
theorem readMembers_eq (member : σ → String → Except Error (Reader σ)) (state : σ) (first : Bool)
    (text : List Char) : readMembers member state first text = (do
      match ← nextKey first text with
      | .finish rest => return (state, rest)
      | .item keyText =>
        let (key, afterKey) ← readText [] keyText
        let reader ← member state key
        let valueText ← readColon afterKey
        let (state, rest) ← reader.run valueText
        readMembers member state false rest) := by
  rw [readMembers]
  split
  next found => rw [found, error_bind]
  next found =>
    rw [found]
    rfl
  next found =>
    simp only [found, ok_bind]
    split
    next found => rw [found, error_bind]
    next found =>
      simp only [found, ok_bind]
      split
      next found => rw [found, error_bind]
      next found =>
        simp only [found, ok_bind]
        split
        next found => rw [found, error_bind]
        next found =>
          simp only [found, ok_bind]
          split
          next found => rw [found, error_bind]
          next found => simp only [found, ok_bind]

theorem readMembers_finish (finish : nextKey first text = .ok (.finish rest)) :
    readMembers member state first text = .ok (state, rest) := by
  rw [readMembers_eq, finish]
  rfl

end Reader

end Quarry.Json
