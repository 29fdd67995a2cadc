import RouteMap.Endpoint.Basic
import RouteMap.Tag.Index
import RouteMap.Text.Word

/-!
# Path templates

A path template holds placeholders in braces. The name of a placeholder is made of
word characters with at most one hyphen among them, and may be empty; braces around
anything else are part of the path. A placeholder is a path variable if a tag gives
the expression that its values match.
-/

namespace RouteMap.PathTemplate

/-- The name of the placeholder whose content begins a text. -/
def name? (cs : List Char) : Option (List Char) :=
  let name := cs.takeWhile fun c => Text.isWord c || c = '-'
  let rest := cs.dropWhile fun c => Text.isWord c || c = '-'
  if rest.head? = some '\x7d' ∧ name.count '-' ≤ 1 then some name else none

/-- The names of the placeholders of a template, from left to right. -/
def placeholders : List Char → List (List Char)
  | [] => []
  | c :: cs =>
    if c = '\x7b' then (name? cs).toList ++ placeholders cs else placeholders cs

/-- The path variables of a template: its placeholders, one for each occurrence, that
have an expression. -/
def pathVariables (template : String) (tags : Tag.Index) : List PathVariable :=
  (placeholders template.toList).filterMap fun name =>
    let name := String.ofList name
    (tags.get? (Tag.Key.expression ++ name)).map fun expression => { name, expression }

end RouteMap.PathTemplate
