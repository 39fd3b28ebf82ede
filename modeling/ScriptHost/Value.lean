import ScriptHost.Json.Basic

/-!
# Script values

The data that crosses the border between the host and its scripts.  Objects
keep their members in the order in which they were first set.  A function is a
name and the identity of its body, which is kept elsewhere; JSON has no
functions and no numbers that are not finite, so both are written as null.
-/

namespace ScriptHost

/-- A script value. -/
inductive Value where
  | null
  | bool (value : Bool)
  | number (value : Binary64)
  | string (value : String)
  | array (items : List Value)
  | object (members : List (String × Value))
  | function (name : String) (body : Nat)
deriving Inhabited

namespace Value

/-- Set a member: a present key keeps its place and takes the new value. -/
def setMember (key : String) (value : Value) : List (String × Value) → List (String × Value)
  | [] => [(key, value)]
  | (other, old) :: rest =>
      if other = key then (key, value) :: rest else (other, old) :: setMember key value rest

/-- The value of a member. -/
def member? (key : String) : List (String × Value) → Option Value
  | [] => none
  | (other, value) :: rest => if other = key then some value else member? key rest

/-- The member of an object; other values have none. -/
def get? (value : Value) (key : String) : Option Value :=
  match value with
  | object members => member? key members
  | _ => none

/-- An object with the member set; other values have no members to set. -/
def set? (value : Value) (key : String) (item : Value) : Option Value :=
  match value with
  | object members => some (object (setMember key item members))
  | _ => none

/-- The object with these members, set one after another. -/
def ofMembers (entries : List (String × Value)) : Value :=
  object (entries.foldl (fun members (key, value) => setMember key value members) [])

/-- The text of a string. -/
def asString? : Value → Option String
  | string value => some value
  | _ => none

/-- The number of a number. -/
def asNumber? : Value → Option Binary64
  | number value => some value
  | _ => none

/-- The truth value of a truth value. -/
def asBool? : Value → Option Bool
  | bool value => some value
  | _ => none

/-- Whether the value is null. -/
def isNull : Value → Bool
  | null => true
  | _ => false

mutual

/-- Equality of values: numbers numerically, objects whatever the order of their
members, functions by the identity of their bodies. -/
def same : Value → Value → Bool
  | null, null => true
  | bool a, bool b => a = b
  | number a, number b => a.same b
  | string a, string b => a = b
  | array a, array b => sameItems a b
  | object a, object b => a.length = b.length && sameMembers a b
  | function _ a, function _ b => a = b
  | _, _ => false

/-- Equality of arrays, item by item. -/
def sameItems : List Value → List Value → Bool
  | [], [] => true
  | a :: restA, b :: restB => same a b && sameItems restA restB
  | _, _ => false

/-- Whether each member of the first list has an equal one in the second. -/
def sameMembers : List (String × Value) → List (String × Value) → Bool
  | [], _ => true
  | (key, value) :: rest, others =>
      (match member? key others with
        | some other => same value other
        | none => false) && sameMembers rest others

end

mutual

/-- The JSON document of a value. -/
def toJson : Value → Json
  | null => .null
  | bool value => .bool value
  | number value => if value.isFinite then .number value else .null
  | string value => .string value
  | array items => .array (itemsToJson items)
  | object members => .object (membersToJson members)
  | function _ _ => .null

/-- The documents of the items of an array. -/
def itemsToJson : List Value → List Json
  | [] => []
  | item :: rest => item.toJson :: itemsToJson rest

/-- The members of an object, ordered by their keys. -/
def membersToJson : List (String × Value) → List (String × Json)
  | [] => []
  | (key, value) :: rest => Json.insertMember key value.toJson (membersToJson rest)

end

mutual

/-- The value of a JSON document. -/
def ofJson : Json → Value
  | .null => null
  | .bool value => bool value
  | .number value => number value
  | .string value => string value
  | .array items => array (itemsOfJson items)
  | .object members => object (membersOfJson members)

/-- The values of the items of an array. -/
def itemsOfJson : List Json → List Value
  | [] => []
  | item :: rest => ofJson item :: itemsOfJson rest

/-- The members of an object, in the order of the document. -/
def membersOfJson : List (String × Json) → List (String × Value)
  | [] => []
  | (key, item) :: rest => (key, ofJson item) :: membersOfJson rest

end

/-- How a function introduces itself. -/
def functionText (name : String) : String :=
  "[Function: " ++ name ++ "]"

end Value

end ScriptHost
