/-!
The lines of a text.

A line ends at a newline, which is no part of it; one carriage return right before the newline
goes with it. The text after the last newline is a line only if it is not empty, and it keeps a
carriage return at its end.
-/

namespace ReportRouting.Text

/-- A line without the carriage return that belongs to its newline. -/
def dropReturn (line : List Char) : List Char :=
  if line.getLast? = some '\r' then line.dropLast else line

/-- The lines among the pieces between newlines: a newline ended each of them but the last. -/
def linesOfPieces (pieces : List (List Char)) : List (List Char) :=
  pieces.dropLast.map dropReturn ++ (pieces.getLast?.toList).filter (!·.isEmpty)

def lines (s : List Char) : List (List Char) :=
  linesOfPieces (s.splitOn '\n')

@[simp] theorem linesOfPieces_singleton (last : List Char) :
    linesOfPieces [last] = if last.isEmpty then [] else [last] := by
  cases last <;> simp [linesOfPieces]

@[simp] theorem linesOfPieces_cons_cons (piece next : List Char) (rest : List (List Char)) :
    linesOfPieces (piece :: next :: rest) = dropReturn piece :: linesOfPieces (next :: rest) := by
  simp [linesOfPieces]

@[simp] theorem lines_nil : lines [] = [] := by
  simp [lines, List.splitOn]

example : lines "a\r\n\nb\r".toList = ["a".toList, [], "b\r".toList] := by decide +kernel

example : lines "a\n".toList = ["a".toList] := by decide +kernel

end ReportRouting.Text
