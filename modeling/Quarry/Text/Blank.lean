/-!
Blank characters, those with the Unicode property White_Space, and trimming. A trimmed text neither
starts nor ends with a blank, and what lies between is kept.
-/

namespace Quarry.Text

def isBlank (c : Char) : Bool :=
  let n := c.toNat
  (0x09 ≤ n && n ≤ 0x0D) || n == 0x20 || n == 0x85 || n == 0xA0 || n == 0x1680 ||
    (0x2000 ≤ n && n ≤ 0x200A) || n == 0x2028 || n == 0x2029 || n == 0x202F || n == 0x205F ||
    n == 0x3000

def trimEnd (text : List Char) : List Char :=
  (text.reverse.dropWhile isBlank).reverse

def trim (text : List Char) : List Char :=
  trimEnd (text.dropWhile isBlank)

theorem trimEnd_append_blank {c : Char} (h : isBlank c = true) (text : List Char) :
    trimEnd (text ++ [c]) = trimEnd text := by
  simp [trimEnd, h]

theorem trimEnd_append_of_not_blank {c : Char} (h : isBlank c = false) (text : List Char) :
    trimEnd (text ++ [c]) = text ++ [c] := by
  simp [trimEnd, h]

theorem trim_of_not_blank {first last : Char} (h : isBlank first = false) (h' : isBlank last = false)
    (text : List Char) : trim (first :: text ++ [last]) = first :: text ++ [last] := by
  rw [trim, List.cons_append, List.dropWhile_cons_of_neg (by simp [h]), ← List.cons_append,
    trimEnd_append_of_not_blank h']

theorem dropWhile_isBlank {text : List Char} (h : ∀ c ∈ text, isBlank c = false) :
    text.dropWhile isBlank = text := by
  cases text with
  | nil => rfl
  | cons c text => rw [List.dropWhile_cons_of_neg (by simp [h c List.mem_cons_self])]

theorem trim_of_no_blank {text : List Char} (h : ∀ c ∈ text, isBlank c = false) :
    trim text = text := by
  have backwards : ∀ c ∈ text.reverse, isBlank c = false := fun c mem => h c (List.mem_reverse.1 mem)
  rw [trim, dropWhile_isBlank h, trimEnd, dropWhile_isBlank backwards, List.reverse_reverse]

theorem trim_infix (text : List Char) : trim text <:+: text := by
  have front : trimEnd (text.dropWhile isBlank) <+: text.dropWhile isBlank := by
    rw [← List.reverse_suffix, trimEnd, List.reverse_reverse]
    exact List.dropWhile_suffix _
  exact front.isInfix.trans (List.dropWhile_suffix _).isInfix

end Quarry.Text
