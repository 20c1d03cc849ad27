import RawReel.Bytes.Cursor
import RawReel.Error

/-!
Packed records read from their first byte. What follows a record is ignored; a record that ends too
early is malformed.
-/

namespace RawReel.Record

/-- Reads the fields of a record. -/
def fields {α : Type} (read : Cursor.Read α) (c : Cursor) : Except FormatError α :=
  match read c with
  | .ok x _ => .ok x
  | .error e _ => .error (.layout e.toIoError)

def decode {α : Type} (read : Cursor.Read α) (data : Bytes) : Except FormatError α :=
  fields read (.ofBytes data)

/-- Reads a record that starts with a four-character code: any other code is refused, however short
the data after it is. -/
def decodeTagged {α : Type} (code : FourCC) (refused : FourCC → FormatError)
    (read : Cursor.Read α) (data : Bytes) : Except FormatError α :=
  match Cursor.fixed 4 (.ofBytes data) with
  | .error e _ => .error (.layout e.toIoError)
  | .ok found c => if found = code then fields read c else .error (refused found)

end RawReel.Record
