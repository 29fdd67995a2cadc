import RouteMap.FileSystem.Path

/-!
# File systems

A `FileSystem` holds texts, other files and directories by the list of the
components that leads to them from the root. A path is followed step by step from the
root or from the working directory, and what a step leaves must be a directory.

Writing puts a whole text into a file in one step: it either replaces the file or
leaves everything as it was.
-/

namespace RouteMap

/-- Why a file cannot be read or written. -/
inductive FileError where
  | notFound
  | notDirectory
  | isDirectory
  /-- The file holds no text. -/
  | notText
  | nameTooLong
  /-- The name contains the character zero. -/
  | zeroInName
  /-- Another reason of the operating system. -/
  | other (message : String)
deriving DecidableEq, Repr, Inhabited

/-- The text of the error. -/
def FileError.message : FileError → String
  | notFound => "No such file or directory (os error 2)"
  | notDirectory => "Not a directory (os error 20)"
  | isDirectory => "Is a directory (os error 21)"
  | notText => "stream did not contain valid UTF-8"
  | nameTooLong => "File name too long (os error 36)"
  | zeroInName => "file name contained an unexpected NUL byte"
  | other message => message

/-- What a path leads to. -/
inductive FileSystem.Entry where
  | text (content : String)
  /-- A file that holds no text. -/
  | binary (content : List UInt8)
  | directory
deriving DecidableEq, Repr, Inhabited

/-- Entries by their components from the root, and the working directory. -/
structure FileSystem where
  entries : List (List String × FileSystem.Entry) := []
  workingDirectory : List String := []
deriving DecidableEq, Inhabited

namespace FileSystem

/-- The entry at a place; the root is a directory. -/
def entry? (fs : FileSystem) (place : List String) : Option Entry :=
  if place.isEmpty then some .directory else fs.entries.lookup place

/-- Why a path cannot be followed at all. -/
def unusable (path : String) : Option FileError :=
  if path.toList.contains '\x00' then some .zeroInName
  else if path.isEmpty then some .notFound
  else if 4096 ≤ path.utf8ByteSize then some .nameTooLong
  else none

/-- The place that steps lead to from a place. What they leave must be a directory. -/
def follow (fs : FileSystem) : (place steps : List String) → Except FileError (List String)
  | place, [] => .ok place
  | place, c :: cs =>
    match fs.entry? place with
    | none => .error .notFound
    | some .directory =>
      if c = "." then fs.follow place cs
      else if c = ".." then fs.follow place.dropLast cs
      else if 255 < c.utf8ByteSize then .error .nameTooLong
      else fs.follow (place ++ [c]) cs
    | some _ => .error .notDirectory

/-- Where a path begins: at the root or in the working directory. -/
def start (fs : FileSystem) (path : String) : List String :=
  if Path.isAbsolute path then [] else fs.workingDirectory

/-- The place that a path leads to. -/
def locate (fs : FileSystem) (path : String) : Except FileError (List String) :=
  match unusable path with
  | some e => .error e
  | none => fs.follow (fs.start path) (Path.steps path)

/-- The directory from which the last step of a path is made. -/
def holder (fs : FileSystem) (path : String) : Except FileError (List String) :=
  match unusable path with
  | some e => .error e
  | none => fs.follow (fs.start path) ((Path.steps path).dropLast ++ ["."])

/-- What a path leads to. -/
def look (fs : FileSystem) (path : String) : Except FileError Entry :=
  match fs.locate path with
  | .error e => .error e
  | .ok place =>
    match fs.entry? place with
    | none => .error .notFound
    | some .directory => .ok .directory
    | some e => if Path.endsInDirectory path then .error .notDirectory else .ok e

/-- The text of a file. -/
def read (fs : FileSystem) (path : String) : Except FileError String :=
  match fs.look path with
  | .error e => .error e
  | .ok .directory => .error .isDirectory
  | .ok (.binary _) => .error .notText
  | .ok (.text s) => .ok s

/-- The entries with one place given a text. -/
def put (place : List String) (s : String) :
    List (List String × Entry) → List (List String × Entry)
  | [] => [(place, .text s)]
  | (p, e) :: rest => if p = place then (place, .text s) :: rest else (p, e) :: put place s rest

/-- The place that a text is written to. The file need not exist, but the directory that
holds it must. No file can be made where the path ends as one to a directory, whatever
the name in front of the slash. -/
def writable (fs : FileSystem) (path : String) : Except FileError (List String) :=
  match fs.holder path with
  | .error e => .error e
  | .ok _ =>
    if Path.endsInDirectory path then .error .isDirectory
    else match fs.locate path with
      | .error e => .error e
      | .ok place =>
        if fs.entry? place = some .directory then .error .isDirectory else .ok place

/-- The file system after a text was written. -/
def write (fs : FileSystem) (path s : String) : Except FileError FileSystem :=
  (fs.writable path).map fun place => { fs with entries := put place s fs.entries }

end FileSystem

end RouteMap
