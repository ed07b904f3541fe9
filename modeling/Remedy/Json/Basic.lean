/-!
# Json — documents that rules pass around

A document in normal form has the members of an object in the order of their keys, each key once.  A number keeps how
it was written: whole and not negative, whole and negative, or with a fraction or an exponent; numbers of different
kinds differ.
-/
namespace Remedy

inductive Json.Number
  | natural (n : UInt64)
  | negative (n : Int64)
  | float (x : Float)
  deriving BEq

/-- **A document.** -/
inductive Json
  | null
  | bool (b : Bool)
  | number (n : Json.Number)
  | string (s : String)
  | array (items : List Json)
  | object (members : List (String × Json))
  deriving BEq

namespace Json

/-- The members with one more: a key that is there already gets the new document, a new key takes its place in the
order of keys. -/
def insertMember (key : String) (value : Json) : List (String × Json) → List (String × Json)
  | [] => [(key, value)]
  | (k, v) :: rest =>
    if key = k then (k, value) :: rest
    else if key < k then (key, value) :: (k, v) :: rest
    else (k, v) :: insertMember key value rest

mutual

/-- **The normal form of a document**; of members under one key the last counts. -/
def normal : Json → Json
  | .array items => .array (normalItems items)
  | .object members => .object (normalMembers [] members)
  | j => j

def normalItems : List Json → List Json
  | [] => []
  | j :: rest => normal j :: normalItems rest

def normalMembers (before : List (String × Json)) : List (String × Json) → List (String × Json)
  | [] => before
  | (key, j) :: rest => normalMembers (insertMember key (normal j) before) rest

end

def member? (key : String) (members : List (String × Json)) : Option Json :=
  (members.find? (·.1 == key)).map (·.2)

end Json

end Remedy
