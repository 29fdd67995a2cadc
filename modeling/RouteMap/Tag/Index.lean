import RouteMap.Tag.Basic

/-!
# Tag indexes

A `Tag.Index` gives the text of a tag by its name. Of several tags with one name
the first counts. Names are compared in their canonical form, and so are the names
that are asked for.
-/

namespace RouteMap

/-- The texts of tags by canonical name, in the order of their first occurrence. -/
structure Tag.Index where
  texts : Table String
deriving DecidableEq, Inhabited

namespace Tag.Index

/-- The index of a list of tags. -/
def ofTags (tags : List Tag) : Index :=
  ⟨.ofListFirst (tags.map fun t => (canonicalName t.name, t.text))⟩

/-- The text of a tag. -/
def get? (index : Index) (name : String) : Option String :=
  index.texts.get? (canonicalName name)

/-- Whether there is a tag of the name. -/
def contains (index : Index) (name : String) : Bool :=
  index.texts.contains (canonicalName name)

/-- Names and texts, in order. -/
def entries (index : Index) : List (String × String) := index.texts.entries

/-- How many names there are. -/
def size (index : Index) : Nat := index.texts.size

/-- Whether there are no tags. -/
def isEmpty (index : Index) : Bool := index.texts.isEmpty

/-- The tags whose names begin with `start`, by what follows it in the name. -/
def below (index : Index) (start : String) : List (String × String) :=
  index.entries.filterMap fun (name, text) =>
    (Text.after? start.toList name.toList).map fun rest => (String.ofList rest, text)

end Tag.Index

end RouteMap
