import BuildingModel.Json.Value

/-!
# Writing JSON

Values on one line, or in lines with each level two columns further in. Empty lists and objects
always stay on one line.
-/
namespace BuildingModel.Json

def hexPair (c : Char) : List Char :=
  let ds := Nat.toDigits 16 c.toNat
  List.replicate (2 - ds.length) '0' ++ ds

/-- A character as it stands in a text. -/
def escapedChar (c : Char) : List Char :=
  if c = '"' then ['\\', '"']
  else if c = '\\' then ['\\', '\\']
  else if c = '\n' then ['\\', 'n']
  else if c = '\r' then ['\\', 'r']
  else if c = '\t' then ['\\', 't']
  else if c = '\x08' then ['\\', 'b']
  else if c = '\x0c' then ['\\', 'f']
  else if c.toNat < 0x20 then ['\\', 'u', '0', '0'] ++ hexPair c
  else [c]

def quotedText (s : String) : String :=
  String.ofList ('"' :: s.toList.flatMap escapedChar ++ ['"'])

/-- A new line at some level. -/
def newLine (level : Nat) : String :=
  "\n" ++ "".pushn ' ' (2 * level)

mutual

def Value.pretty (level : Nat) : Value → String
  | .null => "null"
  | .boolean b => if b then "true" else "false"
  | .number text => text
  | .string text => quotedText text
  | .array [] => "[]"
  | .array (v :: vs) =>
    "[" ++ newLine (level + 1) ++ v.pretty (level + 1) ++ prettyElements (level + 1) vs ++
      newLine level ++ "]"
  | .object [] => "\x7b\x7d"
  | .object ((name, v) :: ms) =>
    "\x7b" ++ newLine (level + 1) ++ quotedText name ++ ": " ++ v.pretty (level + 1) ++
      prettyMembers (level + 1) ms ++ newLine level ++ "\x7d"

/-- The elements of a list after the first. -/
def prettyElements (level : Nat) : List Value → String
  | [] => ""
  | v :: vs => "," ++ newLine level ++ v.pretty level ++ prettyElements level vs

/-- The members of an object after the first. -/
def prettyMembers (level : Nat) : List (String × Value) → String
  | [] => ""
  | (name, v) :: ms =>
    "," ++ newLine level ++ quotedText name ++ ": " ++ v.pretty level ++ prettyMembers level ms

end

def Value.write (v : Value) : String := v.pretty 0

mutual

def Value.compact : Value → String
  | .null => "null"
  | .boolean b => if b then "true" else "false"
  | .number text => text
  | .string text => quotedText text
  | .array [] => "[]"
  | .array (v :: vs) => "[" ++ v.compact ++ compactElements vs ++ "]"
  | .object [] => "\x7b\x7d"
  | .object ((name, v) :: ms) =>
    "\x7b" ++ quotedText name ++ ":" ++ v.compact ++ compactMembers ms ++ "\x7d"

/-- The elements of a list after the first, on one line. -/
def compactElements : List Value → String
  | [] => ""
  | v :: vs => "," ++ v.compact ++ compactElements vs

/-- The members of an object after the first, on one line. -/
def compactMembers : List (String × Value) → String
  | [] => ""
  | (name, v) :: ms => "," ++ quotedText name ++ ":" ++ v.compact ++ compactMembers ms

end

end BuildingModel.Json
