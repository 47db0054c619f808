import Mathlib.Data.List.Basic
import Quarry.Text.Lines

/-! What the lines of a stream are, apart from how they are read. Main statement: there is one way to
cut a stream into lines, and it is the one that is read. -/

namespace Quarry.Text

variable {line start bytes : List UInt8} {ls : List (List UInt8)}

/-- A line without the carriage return that it may end with. -/
def dropReturn (line : List UInt8) : List UInt8 :=
  if line.getLast? = some carriageReturn then line.dropLast else line

/-- The cutting of a stream into lines. Only in front of a line feed is a carriage return dropped. -/
inductive Cut : List UInt8 → List (List UInt8) → Prop where
  | nil : Cut [] []
  | last {line : List UInt8} (filled : line ≠ []) (plain : lineFeed ∉ line) : Cut line [line]
  | ended {line bytes : List UInt8} {ls : List (List UInt8)} (plain : lineFeed ∉ line)
      (more : Cut bytes ls) : Cut (line ++ lineFeed :: bytes) (dropReturn line :: ls)

theorem lineFeed_notMem_dropReturn (plain : lineFeed ∉ line) : lineFeed ∉ dropReturn line := by
  unfold dropReturn
  split
  · exact fun mem => plain (List.dropLast_subset line mem)
  · exact plain

/-- No line holds the end of another. -/
theorem Cut.lineFeed_notMem (h : Cut bytes ls) : ∀ line ∈ ls, lineFeed ∉ line := by
  induction h with
  | nil => exact List.forall_mem_nil _
  | last filled plain => simpa using plain
  | ended plain more ih => exact List.forall_mem_cons.2 ⟨lineFeed_notMem_dropReturn plain, ih⟩

theorem endedLine_reverse (line : List UInt8) : endedLine line.reverse = dropReturn line := by
  obtain rfl | ⟨front, byte, rfl⟩ := List.eq_nil_or_concat' line
  · rfl
  · simp [endedLine, dropReturn]

theorem lines_of_notMem (filled : line ≠ []) (plain : lineFeed ∉ line) : lines line = [line] := by
  have read := linesFrom_append plain [] []
  rw [List.append_nil, List.append_nil] at read
  rw [lines, read]
  simp [linesFrom, filled]

theorem lines_of_cut (h : Cut bytes ls) : lines bytes = ls := by
  induction h with
  | nil => rfl
  | last filled plain => exact lines_of_notMem filled plain
  | ended plain more ih => rw [lines_append_lineFeed plain, endedLine_reverse, ih]

/-- The bytes of the first line that have been read stand in front of the rest of the stream. -/
theorem cut_linesFrom (plain : lineFeed ∉ start) (bytes : List UInt8) :
    Cut (start.reverse ++ bytes) (linesFrom start bytes) := by
  induction bytes generalizing start with
  | nil =>
    by_cases none : start = []
    · subst none
      exact Cut.nil
    · rw [List.append_nil, linesFrom, if_neg (by simpa using none)]
      exact Cut.last (by simpa using none) (by simpa using plain)
  | cons byte bytes ih =>
    by_cases ends : byte = lineFeed
    · subst ends
      rw [linesFrom, if_pos rfl, ← start.reverse_reverse, endedLine_reverse, List.reverse_reverse]
      exact Cut.ended (by simpa using plain) (ih List.not_mem_nil)
    · rw [linesFrom, if_neg ends, List.append_cons, ← List.reverse_cons]
      exact ih fun mem => plain (List.mem_of_ne_of_mem (Ne.symm ends) mem)

theorem cut_iff : Cut bytes ls ↔ lines bytes = ls := by
  refine ⟨lines_of_cut, ?_⟩
  rintro rfl
  exact cut_linesFrom List.not_mem_nil bytes

end Quarry.Text
