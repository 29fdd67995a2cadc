import RouteMap.Text.Split

/-!
# TOML lexemes

White space, comments, strings and keys of TOML 1.0. Every reader takes what it reads
from the beginning of the text and returns what is left; it fails with `none`, since a
document with any fault in it is refused as a whole.
-/

namespace RouteMap.Toml

/-- A reader of something at the beginning of a text. -/
abbrev Reader (α : Type) := List Char → Option (α × List Char)

/-! ## White space and comments -/

/-- A blank inside a line. -/
def isSpace (c : Char) : Bool := c = ' ' || c = '\t'

/-- A character that may stand in a comment or a literal string: no control
character but the tab. -/
def isPrintable (c : Char) : Bool := c = '\t' || (0x20 ≤ c.toNat && c.toNat ≠ 0x7F)

/-- What follows blanks inside the line. -/
def skipSpace (cs : List Char) : List Char := cs.dropWhile isSpace

/-- What follows a line end, if there is one here. -/
def lineEnd? : List Char → Option (List Char)
  | '\n' :: cs => some cs
  | '\r' :: '\n' :: cs => some cs
  | _ => none

/-- What follows the rest of a line that holds nothing more than a comment. -/
def restOfLine (cs : List Char) : Option (List Char) :=
  let cs := skipSpace cs
  let cs := if cs.head? = some '#' then cs.dropWhile isPrintable else cs
  if cs.isEmpty then some [] else lineEnd? cs

/-- What follows blanks, line ends and comments. -/
def skipLines : (inComment : Bool) → List Char → List Char
  | _, [] => []
  | true, c :: cs =>
    if isPrintable c then skipLines true cs
    else if c = '\n' then skipLines false cs
    else if c = '\r' ∧ cs.head? = some '\n' then skipLines true cs
    else c :: cs
  | false, c :: cs =>
    if c = '#' then skipLines true cs
    else if isSpace c ∨ c = '\n' then skipLines false cs
    else if c = '\r' ∧ cs.head? = some '\n' then skipLines false cs
    else c :: cs

/-! ## Strings -/

/-- The value of a hexadecimal digit. -/
def hexValue? (c : Char) : Option Nat :=
  let n := c.toNat
  if 48 ≤ n ∧ n ≤ 57 then some (n - 48)
  else if 65 ≤ n ∧ n ≤ 70 then some (n - 55)
  else if 97 ≤ n ∧ n ≤ 102 then some (n - 87)
  else none

/-- The character of a sequence of hexadecimal digits. -/
def charOfHex? (digits : List Char) : Option Char := do
  let n ← digits.foldlM (fun n c => do return n * 16 + (← hexValue? c)) 0
  if n.isValidChar then some (Char.ofNat n) else none

/-- The character that a letter stands for after a backslash. -/
def escaped? (c : Char) : Option Char :=
  if c = '"' ∨ c = '\\' then some c
  else if c = 'b' then some '\x08'
  else if c = 't' then some '\t'
  else if c = 'n' then some '\n'
  else if c = 'f' then some '\x0c'
  else if c = 'r' then some '\r'
  else none

/-- A character in front of what was read. -/
def cons? (c : Char) (read : Option (List Char × List Char)) : Option (List Char × List Char) :=
  read.map fun (s, rest) => (c :: s, rest)

/-- A basic string in one line, behind its opening quote. -/
def basic : Reader (List Char)
  | [] => none
  | '"' :: cs => some ([], cs)
  | '\\' :: 'u' :: a :: b :: c :: d :: cs => do cons? (← charOfHex? [a, b, c, d]) (basic cs)
  | '\\' :: 'U' :: a :: b :: c :: d :: e :: f :: g :: h :: cs => do
    cons? (← charOfHex? [a, b, c, d, e, f, g, h]) (basic cs)
  | '\\' :: c :: cs => do cons? (← escaped? c) (basic cs)
  | c :: cs => if isPrintable c ∧ c ≠ '\\' then cons? c (basic cs) else none

/-- A literal string in one line, behind its opening quote. -/
def literal : Reader (List Char)
  | [] => none
  | c :: cs =>
    if c = '\'' then some ([], cs)
    else if isPrintable c then cons? c (literal cs)
    else none

/-- The end of a string of several lines, behind three quotes: one or two more quotes
belong to the string. -/
def closing (quote : Char) (cs : List Char) : List Char × List Char :=
  match cs with
  | a :: b :: rest =>
    if a = quote ∧ b = quote then ([a, b], rest)
    else if a = quote then ([a], b :: rest)
    else ([], cs)
  | [a] => if a = quote then ([a], []) else ([], cs)
  | [] => ([], [])

/-- Whether a line goes on with nothing but blanks. -/
def isBlankLine (cs : List Char) : Bool := (lineEnd? (skipSpace cs)).isSome

/-- A basic string of several lines, behind its opening. A backslash at the end of a
line removes all white space up to the next character, and meanwhile `trimming`. -/
def basicLines (trimming : Bool) : Reader (List Char)
  | [] => none
  | '"' :: '"' :: '"' :: cs => some (closing '"' cs)
  | '\r' :: '\n' :: cs =>
    if trimming then basicLines true cs else cons? '\n' (basicLines false cs)
  | '\\' :: 'u' :: a :: b :: c :: d :: cs => do
    cons? (← charOfHex? [a, b, c, d]) (basicLines false cs)
  | '\\' :: 'U' :: a :: b :: c :: d :: e :: f :: g :: h :: cs => do
    cons? (← charOfHex? [a, b, c, d, e, f, g, h]) (basicLines false cs)
  | '\\' :: c :: cs =>
    if isBlankLine (c :: cs) then basicLines true (c :: cs)
    else do cons? (← escaped? c) (basicLines false cs)
  | c :: cs =>
    if trimming ∧ (isSpace c ∨ c = '\n') then basicLines true cs
    else if c = '\n' ∨ (isPrintable c ∧ c ≠ '\\') then cons? c (basicLines false cs)
    else none

/-- A literal string of several lines, behind its opening. -/
def literalLines : Reader (List Char)
  | [] => none
  | '\'' :: '\'' :: '\'' :: cs => some (closing '\'' cs)
  | '\r' :: '\n' :: cs => cons? '\n' (literalLines cs)
  | c :: cs => if c = '\n' ∨ isPrintable c then cons? c (literalLines cs) else none

/-- A string of several lines without the line end that follows its opening. -/
def skipFirstLineEnd (cs : List Char) : List Char := (lineEnd? cs).getD cs

/-- A string of any kind, if one begins here. -/
def string : Reader (List Char)
  | '"' :: '"' :: '"' :: cs => basicLines false (skipFirstLineEnd cs)
  | '"' :: cs => basic cs
  | '\'' :: '\'' :: '\'' :: cs => literalLines (skipFirstLineEnd cs)
  | '\'' :: cs => literal cs
  | _ => none

/-! ## Keys -/

/-- A character of a bare key. -/
def isBare (c : Char) : Bool := c.isAlphanum || c = '_' || c = '-'

/-- One part of a key, with blanks around it. -/
def keyPart (cs : List Char) : Option (String × List Char) := do
  let cs := skipSpace cs
  let (name, rest) ←
    match cs with
    | '"' :: cs => basic cs
    | '\'' :: cs => literal cs
    | cs =>
      let name := cs.takeWhile isBare
      if name.isEmpty then none else some (name, cs.dropWhile isBare)
  return (String.ofList name, skipSpace rest)

/-- The parts of a key, one or more, with points between them. -/
def keyParts (cs : List Char) : Option (List String × List Char) :=
  match keyPart cs with
  | none => none
  | some (name, rest) =>
    match rest with
    | '.' :: rest =>
      if rest.length < cs.length then
        (keyParts rest).map fun (names, rest) => (name :: names, rest)
      else none
    | rest => some ([name], rest)
termination_by cs.length

/-- How many parts a key may have, and how many containers may be open in a value. -/
def maxDepth : Nat := 79

/-- A key. -/
def key (cs : List Char) : Option (List String × List Char) :=
  (keyParts cs).filter fun (names, _) => names.length ≤ maxDepth

end RouteMap.Toml
