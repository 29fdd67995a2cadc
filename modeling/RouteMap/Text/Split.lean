import RouteMap.Text.Blank

/-!
# Cutting texts into pieces

`pieces` cuts at every occurrence of a separator, `cut` at the first one, and
`lines` at line ends; `join` is the way back. `after?` and `before?` remove a
given beginning or ending.
-/

namespace RouteMap.Text

/-- The text cut at every `sep`; there is always one piece more than separators. -/
def pieces (sep : Char) : List Char → List (List Char)
  | [] => [[]]
  | c :: cs =>
    if c = sep then [] :: pieces sep cs
    else match pieces sep cs with
      | [] => [[c]]
      | p :: ps => (c :: p) :: ps

/-- The text before and after the first character that satisfies `p`, if there is one. -/
def cut (p : Char → Bool) : List Char → Option (List Char × List Char)
  | [] => none
  | c :: cs => if p c then some ([], cs) else (cut p cs).map fun (a, b) => (c :: a, b)

/-- The text before and after the last `sep`, if there is one. -/
def cutLast (sep : Char) (cs : List Char) : Option (List Char × List Char) :=
  (cut (· == sep) cs.reverse).map fun (a, b) => (b.reverse, a.reverse)

/-- What follows `start` in a text that begins with it. -/
def after? : (start cs : List Char) → Option (List Char)
  | [], cs => some cs
  | _ :: _, [] => none
  | s :: start, c :: cs => if s = c then after? start cs else none

/-- What precedes `ending` in a text that ends with it. -/
def before? (ending cs : List Char) : Option (List Char) :=
  (after? ending.reverse cs.reverse).map List.reverse

/-- A line without the carriage return that belongs to its line feed. -/
def withoutReturn (line : List Char) : List Char := (before? ['\r'] line).getD line

/-- The lines of a text. A line ends at a line feed, with or without a carriage
return just before it; what follows the last line feed is a line only if it is
not empty, and keeps its carriage returns. -/
def lines (cs : List Char) : List (List Char) :=
  let ps := pieces '\n' cs
  ps.dropLast.map withoutReturn ++ (ps.getLast?.toList.filter fun p => !p.isEmpty)

/-- The parts with `sep` between each two neighbours. -/
def join (sep : String) (parts : List String) : String :=
  String.ofList (List.intercalate sep.toList (parts.map String.toList))

/-- The pieces of a string cut at every `sep`. -/
def piecesOf (sep : Char) (s : String) : List String := (pieces sep s.toList).map String.ofList

/-! ## Laws -/

theorem pieces_ne_nil (sep : Char) (cs : List Char) : pieces sep cs ≠ [] := by
  cases cs with
  | nil => simp [pieces]
  | cons c cs =>
    simp only [pieces]
    split
    · simp
    · split <;> simp

@[simp] theorem after?_append (start cs : List Char) : after? start (start ++ cs) = some cs := by
  induction start with
  | nil => simp [after?]
  | cons s start ih => simp [after?, ih]

theorem eq_append_of_after? {start cs rest : List Char} (h : after? start cs = some rest) :
    cs = start ++ rest := by
  induction start generalizing cs with
  | nil => simpa [after?] using h
  | cons s start ih =>
    cases cs with
    | nil => simp [after?] at h
    | cons c cs =>
      by_cases hc : s = c
      · subst hc
        simp only [after?, ↓reduceIte] at h
        simp [ih h]
      · simp [after?, hc] at h

end RouteMap.Text
