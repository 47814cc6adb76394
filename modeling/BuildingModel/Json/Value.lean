/-!
# JSON values

Values as they are written: numbers by their text, and the members of an object in order, with
repeated names kept.
-/
namespace BuildingModel.Json

inductive Value
  | null
  | boolean (value : Bool)
  | number (text : String)
  | string (text : String)
  | array (elements : List Value)
  | object (members : List (String × Value))
  deriving Inhabited

namespace Value

def ofNat (n : Nat) : Value := .number (Nat.repr n)

/-- A text, or null in its absence. -/
def ofText? (text : Option String) : Value := (text.map Value.string).getD .null

def ofTexts (texts : List String) : Value := .array (texts.map Value.string)

def text? : Value → Option String
  | .string s => some s
  | _ => none

def boolean? : Value → Option Bool
  | .boolean b => some b
  | _ => none

/-- The texts that a list holds, if it holds nothing else. -/
def texts? : Value → Option (List String)
  | .array vs => vs.mapM text?
  | _ => none

end Value

end BuildingModel.Json
