import ScriptHost.Number.Binary64

/-!
# JSON documents

The tree behind a JSON text.  Members of an object are kept in the order of
their keys, and a key occurs once.
-/

namespace ScriptHost

/-- A JSON document. -/
inductive Json where
  | null
  | bool (value : Bool)
  | number (value : Binary64)
  | string (value : String)
  | array (items : List Json)
  | object (members : List (String × Json))
deriving Inhabited

namespace Json

/-- Put a member at its place in an ordered list; a present key takes the new value. -/
def insertMember (key : String) (value : Json) : List (String × Json) → List (String × Json)
  | [] => [(key, value)]
  | (other, old) :: rest =>
      if key < other then (key, value) :: (other, old) :: rest
      else if key = other then (key, value) :: rest
      else (other, old) :: insertMember key value rest

end Json

end ScriptHost
