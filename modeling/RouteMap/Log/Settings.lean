import RouteMap.Json.Printer
import RouteMap.Log.Event
import RouteMap.Text.Blank
import RouteMap.Text.Split
import RouteMap.Text.UpperCase
import RouteMap.Text.Word

/-!
# Log settings

Whether events are shown, which of them, and how. Which events are shown is said by
a list of directives: a level for all events, or a level for the events of a place in
the program.
-/

namespace RouteMap.Log

/-- How events are shown. -/
inductive Format where
  /-- Over several lines, for readers. -/
  | pretty
  /-- One JSON object for each event. -/
  | json
deriving DecidableEq, Repr, Inhabited

namespace Format

/-- The formats. -/
def all : List Format := [pretty, json]

/-- The name of a format. -/
def name : Format → String
  | pretty => "pretty"
  | json => "json"

/-- The format of an exact name. -/
def ofName? (name : String) : Option Format := all.find? fun f => f.name == name

/-- The form in which the name of a format is compared. -/
def canonicalName (text : String) : String := Text.lowerAscii (Text.trimmed text)

/-- The format in a text, in letters of either case and with blanks around it. -/
def ofText? (text : String) : Option Format := ofName? (canonicalName text)

/-- The text of the error about an unknown format. -/
def unknownMessage (text : String) : String :=
  "Invalid configuration: unknown log format: " ++ canonicalName text

end Format

/-- Settings of the log. -/
structure Settings where
  enabled : Bool := true
  /-- The directives that say which events are shown. -/
  directives : String := "info"
  format : Format := .pretty
  /-- Whether the beginning and the end of activities are shown. -/
  showsSpans : Bool := false
  /-- Whether the place in the program text is shown. -/
  showsLines : Bool := false
  /-- Whether the module is shown. -/
  showsModules : Bool := false
deriving DecidableEq, Repr, Inhabited

/-- Settings that show everything, for the search for a fault. -/
def Settings.verbose : Settings where
  directives := "debug"
  showsSpans := true
  showsLines := true
  showsModules := true

/-! ## Directives -/

/-- The rank of a level that is given by a name in letters of either case or by a digit:
events of that rank and below are shown. -/
def rank? (cs : List Char) : Option Nat :=
  let level := Text.lowerAscii (String.ofList cs)
  (["off", "error", "warn", "info", "debug", "trace"].idxOf? level).or
    (["0", "1", "2", "3", "4", "5"].idxOf? level)

/-- Whether a text is a level. -/
def isLevel (cs : List Char) : Bool := (rank? cs).isSome

/-- What follows the name of a place: of a module, or of an activity in brackets. -/
def afterPlace? (cs : List Char) : Option (List Char) :=
  match cs with
  | '[' :: cs => (Text.cut (· == ']') cs).map Prod.snd
  | cs =>
    let isPlaceChar (c : Char) : Bool := Text.isWord c || c = ':' || c = '-'
    if cs.head?.any isPlaceChar then some (cs.dropWhile isPlaceChar) else none

/-- Whether a text is nothing, or an equals sign with a level or nothing behind it. -/
def isAssignment : List Char → Bool
  | [] => true
  | '=' :: cs => cs.isEmpty || isLevel cs
  | _ => false

/-- Whether a text is a directive: a level, or one or two places with or without a
level for them. -/
def isDirective (cs : List Char) : Bool :=
  isLevel cs ||
    match afterPlace? cs with
    | some rest => isAssignment rest || (afterPlace? rest).any isAssignment
    | none => false

/-- The directives of a list between commas; empty ones say nothing. -/
def directives (text : String) : List (List Char) :=
  (Text.pieces ',' text.toList).filter fun d => !d.isEmpty

/-- Whether a text is a list of directives. -/
def areDirectives (text : String) : Bool := (directives text).all isDirective

/-- The rank of the level for all events: the last one that is given, else errors. -/
def rankOf (text : String) : Nat := (((directives text).filterMap rank?).getLast?).getD 1

/-- The rank of the level of an event. -/
def Level.rank : Level → Nat
  | .warning => 2
  | .information => 3

/-- Whether an event is shown. -/
def Settings.shows (s : Settings) (e : Event) : Bool :=
  s.enabled && e.level.rank ≤ rankOf s.directives

/-- An event as a line of text. -/
def Event.line (format : Format) (e : Event) : String :=
  match format with
  | .json => String.ofList e.toJson.compact
  | .pretty =>
    e.level.name ++ " " ++ e.message
      ++ String.join (e.fields.map fun (name, v) =>
        ", " ++ name ++ ": " ++ String.ofList v.compact)

end RouteMap.Log
