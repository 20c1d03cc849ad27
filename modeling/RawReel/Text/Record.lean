/-!
Records and lists as one line of text: the name of the record, then its fields in braces.
-/

namespace RawReel.Text

/-- A record with at least one field. -/
def record (name : String) (fields : List (String × String)) : String :=
  let shown := fields.map fun (field, value) => field ++ ": " ++ value
  name ++ " \x7b " ++ ", ".intercalate shown ++ " \x7d"

def bracketed (items : List String) : String := "[" ++ ", ".intercalate items ++ "]"

end RawReel.Text
