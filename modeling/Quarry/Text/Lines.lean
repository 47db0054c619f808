/-!
Lines of text in a stream of bytes. A line ends at a line feed, and one carriage return before the
line feed belongs to the end of the line. A last line without a line feed keeps its carriage return,
and after a final line feed there is no further line.
-/

namespace Quarry.Text

def lineFeed : UInt8 := 10

def carriageReturn : UInt8 := 13

/-- A line that a line feed has ended; its bytes are given last byte first. -/
def endedLine : List UInt8 → List UInt8
  | [] => []
  | byte :: bytes => if byte = carriageReturn then bytes.reverse else (byte :: bytes).reverse

/-- The lines of a stream whose first line starts with the bytes `start`, last byte first. -/
def linesFrom (start : List UInt8) : List UInt8 → List (List UInt8)
  | [] => if start.isEmpty then [] else [start.reverse]
  | byte :: bytes =>
    if byte = lineFeed then endedLine start :: linesFrom [] bytes
    else linesFrom (byte :: start) bytes

def lines (bytes : List UInt8) : List (List UInt8) :=
  linesFrom [] bytes

/-- The text that bytes stand for in UTF-8. -/
def decode? (bytes : List UInt8) : Option String :=
  String.fromUTF8? ⟨bytes.toArray⟩

@[simp] theorem lines_nil : lines [] = [] := rfl

theorem linesFrom_append {line : List UInt8} (h : lineFeed ∉ line) (start bytes : List UInt8) :
    linesFrom start (line ++ bytes) = linesFrom (line.reverse ++ start) bytes := by
  induction line generalizing start with
  | nil => rfl
  | cons byte line ih =>
    have first : byte ≠ lineFeed := fun eq => h (by simp [eq])
    have rest : lineFeed ∉ line := fun mem => h (List.mem_cons_of_mem _ mem)
    simp [linesFrom, first, ih rest]

theorem lines_append_lineFeed {line : List UInt8} (h : lineFeed ∉ line) (bytes : List UInt8) :
    lines (line ++ lineFeed :: bytes) = endedLine line.reverse :: lines bytes := by
  simp [lines, linesFrom_append h, linesFrom]

end Quarry.Text
