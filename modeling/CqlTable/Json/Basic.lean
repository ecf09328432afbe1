import CqlTable.Named
import CqlTable.Number.Double

/-!
# JSON documents: values with ordered members
-/

namespace CqlTable

/-- A JSON document. -/
inductive Json
  | null
  | boolean (b : Bool)
  | number (d : Double)
  | string (s : String)
  | array (items : List Json)
  | object (members : List (String × Json))
  deriving Inhabited

namespace Json

/-- The member of an object; other documents have none. -/
def get? (name : String) : Json → Option Json
  | object members => Named.get? name members
  | _ => none

/-- Whether a document is an object. -/
def isObject : Json → Bool
  | object _ => true
  | _ => false

/-- The word for the kind of a document. -/
def kind : Json → String
  | null => "null"
  | boolean _ => "boolean"
  | number _ => "number"
  | string _ => "string"
  | array _ => "array"
  | object _ => "object"

end Json

end CqlTable
