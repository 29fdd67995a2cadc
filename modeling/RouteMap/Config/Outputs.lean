import RouteMap.Config.Error
import RouteMap.Text.Split

/-!
# Outputs

The documents that a run can write, and lists of them: names between commas, with
blanks around them. A list names every output once; one that names none stands for the
mapping.
-/

namespace RouteMap

/-- A document that a run can write. -/
inductive Output where
  | mapping
  | documentation
deriving DecidableEq, Repr, Inhabited

namespace Output

/-- The outputs. -/
def all : List Output := [mapping, documentation]

/-- The name of an output. -/
def name : Output → String
  | mapping => "mapping"
  | documentation => "doc"

/-- The output of an exact name. -/
def ofName? (name : String) : Option Output := all.find? fun o => o.name == name

/-- The output of a name with blanks around it. -/
def ofText (text : String) : Except ConfigError Output :=
  match ofName? (Text.trimmed text) with
  | some o => .ok o
  | none => .error (.unknownOutput (Text.trimmed text))

/-- The outputs of names, without repetitions, behind those that were named before. -/
def add (before : List Output) : List String → Except ConfigError (List Output)
  | [] => .ok before
  | name :: names =>
    match ofText name with
    | .error e => .error e
    | .ok o => add (if before.contains o then before else before ++ [o]) names

/-- The names in a list between commas, without blank ones. -/
def names (text : String) : List String :=
  ((Text.piecesOf ',' text).map Text.trimmed).filter fun name => !name.isEmpty

/-- The outputs of a list between commas. -/
def listOf (text : String) : Except ConfigError (List Output) :=
  match add [] (names text) with
  | .error e => .error e
  | .ok [] => .ok [mapping]
  | .ok os => .ok os

end Output

end RouteMap
