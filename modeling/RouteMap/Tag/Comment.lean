import RouteMap.Tag.Index
import RouteMap.Text.Word

/-!
# Tags in comments

`Tag.ofComment` reads the tags of a documentation comment. Every line is first freed
of the decoration of the comment: its opening, its closing and a leading star. A
line that then begins with the marker and a letter opens a tag, whose name goes to
the first blank; every other line continues the tag that is open. What stands above
the first tag is not part of any.
-/

namespace RouteMap.Tag

/-- A line without the opening of a comment: `/**`, `///` or `//!`. -/
def withoutOpening (line : List Char) : List Char :=
  match line with
  | '/' :: '*' :: '*' :: rest => rest
  | '/' :: '/' :: '/' :: rest => rest
  | '/' :: '/' :: '!' :: rest => rest
  | _ => line

/-- A line without the closing of a comment. -/
def withoutClosing (line : List Char) : List Char := (Text.before? ['*', '/'] line).getD line

/-- A line without one leading star. -/
def withoutStar : List Char → List Char
  | '*' :: rest => rest
  | line => line

/-- A line without decoration, and without blanks at its ends. -/
def undecorated (line : List Char) : List Char :=
  Text.trim (withoutStar (Text.trimStart (withoutClosing (withoutOpening (Text.trim line)))))

/-- The name and the first text of a line that opens a tag. -/
def opened? : List Char → Option (List Char × List Char)
  | [] => none
  | [_] => none
  | m :: c :: rest =>
    if m = marker ∧ Text.isAlphabetic c then
      match Text.cut Text.isBlank (c :: rest) with
      | some (name, text) => some (name, Text.trim text)
      | none => some (c :: rest, [])
    else none

/-- A tag of its name and the lines of its text. -/
def ofLines (name : List Char) (lines : List (List Char)) : Tag where
  name := String.ofList name
  text := String.ofList (Text.trim (List.intercalate ['\n'] lines))

/-- The lines that continue the open tag, and the tags of the lines after them. -/
def scan : List (List Char) → List (List Char) × List Tag
  | [] => ([], [])
  | line :: lines =>
    let (continued, tags) := scan lines
    match opened? line with
    | some (name, text) => ([], ofLines name (text :: continued) :: tags)
    | none => (line :: continued, tags)

/-- The tags of a documentation comment, in order. -/
def ofComment (comment : String) : List Tag :=
  (scan ((Text.lines comment.toList).map undecorated)).2

end RouteMap.Tag
