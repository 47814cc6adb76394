import BuildingModel.Text.Printable

/-!
# Quoted text

The form in which messages quote a text: between double quotes, with a backslash before quotes and
backslashes, short escapes for the common controls and `\u{…}` for all else that cannot be shown.
-/
namespace BuildingModel.Text

/-- The digits of a number in a base up to sixteen, in lower case. -/
def digits (base n : Nat) : List Char :=
  Nat.toDigits base n

/-- A code point escaped by its number in braces. -/
def bracedEscape (c : Char) : List Char :=
  ['\\', 'u', Char.ofNat 0x7B] ++ digits 16 c.toNat ++ [Char.ofNat 0x7D]

/-- One character as it stands between quotes. -/
def quotedChar (c : Char) : List Char :=
  if c = '"' then ['\\', '"']
  else if c = '\\' then ['\\', '\\']
  else if c = '\n' then ['\\', 'n']
  else if c = '\r' then ['\\', 'r']
  else if c = '\t' then ['\\', 't']
  else if c.toNat = 0 then ['\\', '0']
  else if isJoiningMark c || !isPrintable c then bracedEscape c
  else [c]

def quoted (s : String) : String :=
  String.ofList ('"' :: s.toList.flatMap quotedChar ++ ['"'])

end BuildingModel.Text
