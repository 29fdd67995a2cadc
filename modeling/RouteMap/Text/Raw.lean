/-!
# Raw texts

What a process is given, its arguments and the names and values of its variables, is bytes.
Bytes that are no UTF-8 are no text, and a program that asks for a text then panics.
-/

namespace RouteMap

/-- Bytes that a process is given: a text, or bytes that are none. -/
inductive RawText where
  | text (text : String)
  | bytes (bytes : ByteArray) (invalid : ¬ bytes.IsValidUTF8)

namespace RawText

instance : Coe String RawText := ⟨text⟩

/-- The text in some bytes, or the bytes if they are none. -/
def ofBytes (bs : ByteArray) : RawText :=
  if h : bs.IsValidUTF8 then text (.ofByteArray bs h) else bytes bs h

/-- The bytes. -/
def toBytes : RawText → ByteArray
  | text s => s.toUTF8
  | bytes bs _ => bs

/-- The text, if the bytes are one. -/
def text? : RawText → Option String
  | text s => some s
  | bytes _ _ => none

/-- Whether the bytes are a text. -/
def isText (r : RawText) : Bool := r.text?.isSome

/-- What stands behind a beginning, if the bytes begin with it. -/
def behind? (start : ByteArray) (bs : ByteArray) : Option RawText :=
  if start.data.toList.isPrefixOf bs.data.toList then
    some (ofBytes (bs.extract start.size bs.size))
  else none

/-! ## Laws -/

theorem toBytes_ofBytes (bs : ByteArray) : (ofBytes bs).toBytes = bs := by
  unfold ofBytes
  split <;> rfl

theorem ofBytes_toBytes (r : RawText) : ofBytes r.toBytes = r := by
  cases r with
  | text s => exact dif_pos s.isValidUTF8
  | bytes bs invalid => exact dif_neg invalid

theorem isText_iff {r : RawText} : r.isText = true ↔ ∃ s : String, r = s := by
  cases r with
  | text s => exact ⟨fun _ => ⟨s, rfl⟩, fun _ => rfl⟩
  | bytes bs invalid =>
    constructor
    · intro h
      cases h
    · rintro ⟨s, h⟩
      cases h

end RawText

end RouteMap
