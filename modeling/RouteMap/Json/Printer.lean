import RouteMap.Decimal.Style
import RouteMap.Json.Basic
import RouteMap.Text.Numeral

/-!
# Writing JSON

`compact` writes a value without any white space. `pretty` puts each item and each
field on a line of its own, indented by two spaces for every enclosing container;
a container without content is closed on the line that opens it.

In strings the quote, the backslash and the control characters below U+0020 are
escaped, with a letter where JSON has one; everything else stands for itself.
-/

namespace RouteMap.Json

/-- The hexadecimal digit of a number below 16. -/
def hexDigit (n : Nat) : Char := "0123456789abcdef".toList.getD n '0'

/-- A character as it is written in a string. -/
def escape (c : Char) : List Char :=
  if c = '"' then ['\\', '"']
  else if c = '\\' then ['\\', '\\']
  else if c = '\n' then ['\\', 'n']
  else if c = '\r' then ['\\', 'r']
  else if c = '\t' then ['\\', 't']
  else if c = '\x08' then ['\\', 'b']
  else if c = '\x0c' then ['\\', 'f']
  else if c.toNat < 0x20 then
    ['\\', 'u', '0', '0', hexDigit (c.toNat / 16), hexDigit (c.toNat % 16)]
  else [c]

/-- A string between quotes. -/
def quote (s : String) : List Char := '"' :: s.toList.flatMap escape ++ ['"']

/-- A number. The doubles that are no numbers are written as `null`. -/
def Number.write : Number → List Char
  | .integer n => Text.integer n
  | .float x =>
    if x.isNaN || x.isInf then ['n', 'u', 'l', 'l'] else Decimal.jsonStyle.write x

/-! ## Compact form -/

mutual

/-- The compact form of a value. -/
def compact : Json → List Char
  | .null => ['n', 'u', 'l', 'l']
  | .bool true => ['t', 'r', 'u', 'e']
  | .bool false => ['f', 'a', 'l', 's', 'e']
  | .number n => n.write
  | .string s => quote s
  | .array [] => ['[', ']']
  | .array (v :: vs) => '[' :: compact v ++ compactItems vs
  | .object [] => ['\x7b', '\x7d']
  | .object ((k, v) :: fs) => '\x7b' :: quote k ++ ':' :: compact v ++ compactFields fs

/-- The items after the first, and the end of the array. -/
def compactItems : List Json → List Char
  | [] => [']']
  | v :: vs => ',' :: compact v ++ compactItems vs

/-- The fields after the first, and the end of the object. -/
def compactFields : List (String × Json) → List Char
  | [] => ['\x7d']
  | (k, v) :: fs => ',' :: quote k ++ ':' :: compact v ++ compactFields fs

end

/-! ## Pretty form -/

/-- A line end, and the indentation of the next line. -/
def newline (depth : Nat) : List Char := '\n' :: List.replicate (2 * depth) ' '

mutual

/-- The pretty form of a value inside `depth` containers. -/
def prettyAt (depth : Nat) : Json → List Char
  | .null => ['n', 'u', 'l', 'l']
  | .bool true => ['t', 'r', 'u', 'e']
  | .bool false => ['f', 'a', 'l', 's', 'e']
  | .number n => n.write
  | .string s => quote s
  | .array [] => ['[', ']']
  | .array (v :: vs) =>
    '[' :: newline (depth + 1) ++ prettyAt (depth + 1) v ++ prettyItems depth vs
  | .object [] => ['\x7b', '\x7d']
  | .object ((k, v) :: fs) =>
    '\x7b' :: newline (depth + 1) ++ quote k ++ ':' :: ' ' :: prettyAt (depth + 1) v
      ++ prettyFields depth fs

/-- The items after the first, and the end of the array. -/
def prettyItems (depth : Nat) : List Json → List Char
  | [] => newline depth ++ [']']
  | v :: vs => ',' :: newline (depth + 1) ++ prettyAt (depth + 1) v ++ prettyItems depth vs

/-- The fields after the first, and the end of the object. -/
def prettyFields (depth : Nat) : List (String × Json) → List Char
  | [] => newline depth ++ ['\x7d']
  | (k, v) :: fs =>
    ',' :: newline (depth + 1) ++ quote k ++ ':' :: ' ' :: prettyAt (depth + 1) v
      ++ prettyFields depth fs

end

/-- The compact text of a value. -/
def compactText (v : Json) : String := String.ofList (compact v)

/-- The pretty text of a value, without a final line end. -/
def prettyText (v : Json) : String := String.ofList (prettyAt 0 v)

end RouteMap.Json
