import RouteMap.FileSystem.Basic

/-!
# Document errors

A document is not rendered while a part of it is missing, and not written if its file
cannot be.
-/

namespace RouteMap

/-- Why a document was not produced. -/
inductive DocumentError where
  /-- A part that every document needs was not given. -/
  | missing (part : String)
  | unwritable (path : String) (cause : FileError)
deriving DecidableEq, Repr, Inhabited

/-- The text of the error. -/
def DocumentError.message : DocumentError → String
  | missing part => "Generator missing required field: " ++ part
  | unwritable path cause => "Failed to write " ++ path ++ ": " ++ cause.message

end RouteMap
