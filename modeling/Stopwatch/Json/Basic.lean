/-
  JSON documents.

  A number is an integer or a floating-point number, as it was written: `1` and
  `1.0` are different documents.  The fields of an object keep their order and may
  repeat a name; looking a name up finds the last field of that name.
-/

namespace Stopwatch

/-- A JSON document. -/
inductive Json where
  | null
  | bool (value : Bool)
  | integer (value : Int)
  | float (value : Float)
  | string (value : String)
  | array (items : List Json)
  | object (fields : List (String × Json))
  deriving Inhabited

namespace Json

/-- The last field of a given name. -/
def lookup? (fields : List (String × Json)) (name : String) : Option Json :=
  (fields.reverse.find? fun field => field.1 = name).map Prod.snd

/-- A member of an object; nothing for other documents. -/
def get? (document : Json) (name : String) : Option Json :=
  match document with
  | .object fields => lookup? fields name
  | _ => none

/-- Sets the field of a given name, in its old place if it has one, else at the end. -/
def setField (fields : List (String × Json)) (name : String) (value : Json) : List (String × Json) :=
  if fields.any fun field => field.1 = name then
    fields.map fun field => if field.1 = name then (name, value) else field
  else fields ++ [(name, value)]

end Json

end Stopwatch
