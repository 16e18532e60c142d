import CompileSession.Json.Value
import CompileSession.Number.Shortest
import CompileSession.Text.Hexadecimal

/-!
# Writing JSON values

Members are written in the order they are held. In a string the quote, the backslash and the
controls below the blank are escaped, the common ones by a letter and the others by four
hexadecimal digits; everything else stands for itself. `render` leaves no blanks, `renderIndented`
gives each item and member a line of its own, two blanks further in than the value that holds it.
-/

namespace CompileSession.Json

/-- How `c` is written in a string. -/
def escapeChar (c : Char) : List Char :=
  if c = '"' then ['\\', '"']
  else if c = '\\' then ['\\', '\\']
  else if c = '\x08' then ['\\', 'b']
  else if c = '\x0c' then ['\\', 'f']
  else if c = '\n' then ['\\', 'n']
  else if c = '\r' then ['\\', 'r']
  else if c = '\t' then ['\\', 't']
  else if c < ' ' then
    ['\\', 'u', '0', '0', Text.hexDigit (c.toNat / 16), Text.hexDigit (c.toNat % 16)]
  else [c]

/-- A string between quotes. -/
def renderString (s : String) : List Char := '"' :: s.toList.flatMap escapeChar ++ ['"']

/-- The text of a number. -/
def renderNumber : Number → List Char
  | .integer i => (toString i).toList
  | .binary x => x.text.toList

mutual

/-- The text of a value, without blanks. -/
def renderChars : Json → List Char
  | .null => "null".toList
  | .boolean true => "true".toList
  | .boolean false => "false".toList
  | .number n => renderNumber n
  | .text s => renderString s
  | .array items => '[' :: renderItems items ++ [']']
  | .object members => '{' :: renderMembers members ++ ['}']

/-- Items with commas between them. -/
def renderItems : List Json → List Char
  | [] => []
  | [item] => renderChars item
  | item :: items => renderChars item ++ ',' :: renderItems items

/-- Members with commas between them. -/
def renderMembers : List (String × Json) → List Char
  | [] => []
  | [(name, value)] => renderString name ++ ':' :: renderChars value
  | (name, value) :: members =>
    renderString name ++ ':' :: renderChars value ++ ',' :: renderMembers members

end

/-- The text of a value, without blanks. -/
def render (v : Json) : String := String.ofList (renderChars v)

/-- A line feed and `level` steps of two blanks. -/
def newLine (level : Nat) : List Char := '\n' :: List.replicate (2 * level) ' '

mutual

/-- The text of a value that stands `level` steps in. -/
def indentChars (level : Nat) : Json → List Char
  | .array [] => ['[', ']']
  | .array items =>
    '[' :: newLine (level + 1) ++ indentItems (level + 1) items ++ newLine level ++ [']']
  | .object [] => ['{', '}']
  | .object members =>
    '{' :: newLine (level + 1) ++ indentMembers (level + 1) members ++ newLine level ++ ['}']
  | .null => "null".toList
  | .boolean true => "true".toList
  | .boolean false => "false".toList
  | .number n => renderNumber n
  | .text s => renderString s

/-- Items, each on a line of its own. -/
def indentItems (level : Nat) : List Json → List Char
  | [] => []
  | [item] => indentChars level item
  | item :: items => indentChars level item ++ ',' :: newLine level ++ indentItems level items

/-- Members, each on a line of its own. -/
def indentMembers (level : Nat) : List (String × Json) → List Char
  | [] => []
  | [(name, value)] => renderString name ++ ':' :: ' ' :: indentChars level value
  | (name, value) :: members =>
    renderString name ++ ':' :: ' ' :: indentChars level value ++ ',' :: newLine level
      ++ indentMembers level members

end

/-- The text of a value over several lines. -/
def renderIndented (v : Json) : String := String.ofList (indentChars 0 v)

end CompileSession.Json
