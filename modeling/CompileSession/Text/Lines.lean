/-!
# The lines of a text

A line ends at a line feed, which may follow a carriage return; neither belongs to the line. What
follows the last line feed is a line only if it is not empty, and keeps a carriage return at its
end, since no line feed follows.
-/

namespace CompileSession.Text

/-- `line` without one carriage return at its end. -/
def dropReturn (line : List Char) : List Char :=
  if line.getLast? = some '\r' then line.dropLast else line

/-- The lines of `rest`, the first of which begins with the characters `seen`, last one first. -/
def linesFrom (seen : List Char) : List Char → List (List Char)
  | [] => if seen.isEmpty then [] else [seen.reverse]
  | c :: rest =>
    if c = '\n' then dropReturn seen.reverse :: linesFrom [] rest
    else linesFrom (c :: seen) rest

/-- The lines of `text`. -/
def lines (text : String) : List String := (linesFrom [] text.toList).map String.ofList

/-- `text` up to its first line feed. -/
def firstLine (text : String) : String := String.ofList (text.toList.takeWhile (· != '\n'))

end CompileSession.Text
