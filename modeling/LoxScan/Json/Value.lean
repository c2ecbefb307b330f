import LoxScan.Number.Binary64

/-!
# JSON values

## Main Definitions

* `JsonValue` — the values of JSON, with whole numbers apart from doubles and
  the fields of an object in the order in which they are written
-/

namespace LoxScan

/-- A JSON value. -/
inductive JsonValue where
  | null
  | bool (value : Bool)
  | integer (value : Int)
  | number (value : Binary64)
  | string (text : List Char)
  | array (items : List JsonValue)
  | object (fields : List (String × JsonValue))

end LoxScan
