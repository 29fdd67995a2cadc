import RouteMap.Text.Split

/-!
# Paths

A path is a text whose steps stand between slashes. A single point stays where it is, two
points lead upwards, and any other step is a name. Paths are kept as they are written,
since messages show them so.
-/

namespace RouteMap.Path

/-- Whether a path begins at the root. -/
def isAbsolute (path : String) : Bool := path.toList.head? = some '/'

/-- The steps of a path, one after another. -/
def steps (path : String) : List String := (Text.piecesOf '/' path).filter (· ≠ "")

/-- The steps of a path that lead somewhere. -/
def components (path : String) : List String := (steps path).filter (· ≠ ".")

/-- What follows the last slash of a path. -/
def lastPiece (path : String) : String := ((Text.piecesOf '/' path).getLast?).getD ""

/-- Whether a path can lead to directories only, because it ends with a slash or with
points. -/
def endsInDirectory (path : String) : Bool := ["", ".", ".."].contains (lastPiece path)

/-- A name in a directory. An absolute name stands for itself. -/
def join (dir name : String) : String :=
  if isAbsolute name || dir.isEmpty then name
  else if dir.toList.getLast? = some '/' then dir ++ name
  else dir ++ "/" ++ name

/-- What follows the last point in the last component, unless nothing precedes it. -/
def extension? (path : String) : Option String :=
  match (components path).getLast? with
  | some name =>
    if name = ".." then none
    else match Text.cutLast '.' name.toList with
      | some ([], _) => none
      | some (_, e) => some (String.ofList e)
      | none => none
  | none => none

end RouteMap.Path
