import RouteMap.Text.Split
import RouteMap.Text.Word

/-!
# Files of environment variables

`EnvFile.entries?` reads a file of assignments `NAME=value`, one a line, in the order
of the file. A line whose value leaves a quotation open goes on with the next line.

* Behind the name stands the value: pieces that are bare, or between single quotes,
  where every character stands for itself, or between double quotes.
* Outside single quotes a backslash escapes the next character, and `$NAME` and
  `${NAME}` stand for the value of a variable: that of the environment, else that of
  the last entry of the name above.
* A bare blank ends the value; behind it only blanks and a comment may stand. Blanks at
  the end of the assignment are removed before anything is read, so no backslash and no
  `$NAME` in front of them reaches them.

A file with any fault in it is refused as a whole.
-/

namespace RouteMap.EnvFile

/-! ## Lines -/

/-- The lines of a text, each with the line feed that ends it. -/
def fullLines : List Char → List (List Char)
  | [] => []
  | '\n' :: cs => ['\n'] :: fullLines cs
  | c :: cs =>
    match fullLines cs with
    | [] => [[c]]
    | l :: ls => (c :: l) :: ls

/-- Where in its assignments a line is. -/
inductive LineState where
  | complete
  /-- Behind a blank, where a comment may begin. -/
  | blank
  | escape
  | double
  | doubleEscape
  | single
  | singleEscape
deriving DecidableEq, Repr

namespace LineState

/-- The state behind a character that is not quoted. -/
def bare (c : Char) : LineState :=
  if c = '\\' then escape
  else if c = '"' then double
  else if c = '\'' then single
  else complete

/-- The state behind a character. -/
def next (s : LineState) (c : Char) : LineState :=
  match s with
  | blank => bare c
  | complete => if Text.isBlank c ∧ c ≠ '\n' ∧ c ≠ '\r' then blank else bare c
  | escape => complete
  | double => if c = '\\' then doubleEscape else if c = '"' then complete else double
  | doubleEscape => double
  | single => if c = '\\' then singleEscape else if c = '\'' then complete else single
  | singleEscape => single

/-- The state behind a line, or what precedes the comment in it. -/
def run (s : LineState) : List Char → LineState ⊕ List Char
  | [] => .inl s
  | c :: cs =>
    if s = blank ∧ c = '#' then .inr []
    else match (s.next c).run cs with
      | .inl s => .inl s
      | .inr before => .inr (c :: before)

end LineState

/-- The lines that hold the assignments, where `read` precedes the first of the given
lines. There are none if the text ends in the middle of an assignment. -/
def logicalLines (s : LineState) (read : List Char) :
    List (List Char) → Option (List (List Char))
  | [] => if s = .complete then some [] else none
  | l :: ls =>
    let line := read ++ l
    if (Text.trimStart line).head? = some '#' then logicalLines .complete [] ls
    else match s.run l with
      | .inr before => (logicalLines .complete [] ls).map ((read ++ before) :: ·)
      | .inl .complete => (logicalLines .complete [] ls).map (line :: ·)
      | .inl s => logicalLines s line ls

/-! ## Values -/

/-- Where in a value a character stands. -/
inductive Mode where
  | text
  | escape
  | single
  /-- Behind the value. -/
  | ended
  /-- Inside the name of a variable. -/
  | variable (name : List Char)
  /-- Inside the name of a variable between braces. -/
  | braced (name : List Char)
deriving DecidableEq, Repr

/-- The character that stands for itself or for a line feed behind a backslash. -/
def escaped? (c : Char) : Option Char :=
  if ['\\', '\'', '"', '$', ' '].contains c then some c
  else if c = 'n' then some '\n'
  else none

/-- A text in front of a value. -/
def after (text : List Char) (value : Option (List Char)) : Option (List Char) :=
  value.map (text ++ ·)

/-- The value in a text, where `double` tells whether double quotes are open. -/
def value? (lookup : List Char → List Char) :
    (double : Bool) → Mode → List Char → Option (List Char)
  | double, mode, [] =>
    match mode with
    | .single | .braced _ => none
    | .variable name => if double then none else some (lookup name)
    | _ => if double then none else some []
  | double, .ended, c :: cs =>
    if c = ' ' ∨ c = '\t' then value? lookup double .ended cs
    else if c = '#' then some []
    else none
  | double, .escape, c :: cs => do
    after [← escaped? c] (value? lookup double .text cs)
  | double, .single, c :: cs =>
    if c = '\'' then value? lookup double .text cs
    else after [c] (value? lookup double .single cs)
  | double, .variable name, c :: cs =>
    if Text.isAlphanumeric c then value? lookup double (.variable (name ++ [c])) cs
    else if c = '\x7b' ∧ name.isEmpty then value? lookup double (.braced []) cs
    else if c = '$' then after (lookup name) (value? lookup double (.variable []) cs)
    else after (lookup name ++ [c]) (value? lookup double .text cs)
  | double, .braced name, c :: cs =>
    if c = '\x7d' then after (lookup name) (value? lookup double .text cs)
    else value? lookup double (.braced (name ++ [c])) cs
  | double, .text, c :: cs =>
    if c = '$' then value? lookup double (.variable []) cs
    else if c = '\\' then value? lookup double .escape cs
    else if c = '"' then value? lookup (!double) .text cs
    else if double then after [c] (value? lookup true .text cs)
    else if c = '\'' then value? lookup false .single cs
    else if c = ' ' ∨ c = '\t' then value? lookup false .ended cs
    else after [c] (value? lookup false .text cs)

/-! ## Entries -/

/-- Whether a name may begin with a character. -/
def isNameStart (c : Char) : Bool := c.isAlpha || c = '_'

/-- Whether a name may go on with a character. -/
def isNameChar (c : Char) : Bool := c.isAlphanum || c = '_' || c = '.'

/-- The name at the beginning of a text, and what follows it and the blanks behind it. -/
def name? (cs : List Char) : Option (List Char × List Char) :=
  if cs.head?.any isNameStart then
    some (cs.takeWhile isNameChar, Text.trimStart (cs.dropWhile isNameChar))
  else none

/-- The name of an assignment and what follows its equals sign. The word `export` may
stand in front of the name. -/
def target? (cs : List Char) : Option (List Char × List Char) := do
  match ← name? cs with
  | (name, '=' :: cs) => return (name, cs)
  | (name, cs) =>
    if name = ['e', 'x', 'p', 'o', 'r', 't'] then
      match ← name? cs with
      | (name, '=' :: cs) => return (name, cs)
      | _ => none
    else none

/-- Whether a text holds nothing but a comment. -/
def isVoid (cs : List Char) : Bool := cs.isEmpty || cs.head? = some '#'

/-- An entry. One without a value is empty, but unknown to the entries below. -/
structure Entry where
  name : String
  value : Option String
deriving DecidableEq, Repr

/-- The value of a variable for a line below some entries, the last one first. -/
def lookup (environment : String → Option String) (above : List Entry) (name : List Char) :
    List Char :=
  let name := String.ofList name
  let known := (environment name).or ((above.find? fun e => e.name = name).bind Entry.value)
  (known.getD "").toList

/-- The entry of a line, if it holds one; `none` if the line is faulty. -/
def entry? (environment : String → Option String) (above : List Entry) (line : List Char) :
    Option (Option Entry) :=
  let line := Text.trim line
  if isVoid line then some none
  else do
    let (name, rest) ← target? line
    let rest := Text.trimStart rest
    let name := String.ofList name
    if isVoid rest then return some ⟨name, none⟩
    let value ← value? (lookup environment above) false .text rest
    return some ⟨name, some (String.ofList value)⟩

/-- The entries of lines below some entries, the last one first. -/
def entriesBelow (environment : String → Option String) (above : List Entry) :
    List (List Char) → Option (List Entry)
  | [] => some above
  | l :: ls => do
    match ← entry? environment above l with
    | some e => entriesBelow environment (e :: above) ls
    | none => entriesBelow environment above ls

/-- The names and values of a file, in the order of the file. -/
def entries? (environment : String → Option String) (text : String) :
    Option (List (String × String)) := do
  let ls ← logicalLines .complete [] (fullLines text.toList)
  let es ← entriesBelow environment [] ls
  return es.reverse.map fun e => (e.name, e.value.getD "")

end RouteMap.EnvFile
