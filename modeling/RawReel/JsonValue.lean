/-!
Values of JSON texts, as far as they are looked into: numbers are only known to be numbers.
-/

namespace RawReel

inductive JsonValue
  | null
  | bool (value : Bool)
  | number
  | string (value : String)
  | array (items : List JsonValue)
  | object (members : List (String × JsonValue))

namespace JsonValue

/-- The member of an object; null if there is none, or if the value is no object. Of members of one
name the last counts. -/
def member (name : String) : JsonValue → JsonValue
  | object members => ((members.reverse.lookup name)).getD .null
  | _ => .null

def string? : JsonValue → Option String
  | string value => some value
  | _ => none

/-- The items of an array; none for other values. -/
def items : JsonValue → List JsonValue
  | array items => items
  | _ => []

end JsonValue

end RawReel
