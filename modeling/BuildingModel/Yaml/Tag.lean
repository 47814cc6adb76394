import BuildingModel.Yaml.Cursor

/-!
# Tags and directives

A tag is written in full between angle brackets, or with a handle that stands for its beginning. The
handles and the version of a document are declared in the directives before it.
-/
namespace BuildingModel.Yaml

def isNameChar (c : Char) : Bool := c.isAlphanum || c == '_' || c == '-'

/-- Whether a character may stand in a tag, which between angle brackets has more of them. -/
def isTagChar (verbatim : Bool) (c : Char) : Bool :=
  isNameChar c || ";/?:@&=+$.!~*'()%".toList.contains c || (verbatim && ",[]".toList.contains c)

/-- What each handle of a tag stands for. -/
abbrev Handles := List (String × String)

/-- The handles that need no declaration. -/
def Handles.standard : Handles := [("!", "!"), ("!!", "tag:yaml.org,2002:")]

/-- The name of a core tag in full. -/
def coreTag (name : String) : String := "tag:yaml.org,2002:" ++ name

/-- A tag between angle brackets, from behind the first of them, and the number of characters. -/
def verbatimTag? (cs : List Char) : Option (String × Nat) :=
  let tag := cs.takeWhile (isTagChar true)
  if !tag.isEmpty && (cs.drop tag.length).head? == some '>' then
    some (String.ofList tag, tag.length + 1)
  else none

/-- A tag with a handle, from behind its first mark, and the number of characters. A mark alone is a
tag of its own. -/
def handledTag? (handles : Handles) (cs : List Char) : Option (String × Nat) :=
  let name := cs.takeWhile isNameChar
  let afterName := cs.drop name.length
  if afterName.head? = some '!' then
    let suffix := (afterName.drop 1).takeWhile (isTagChar false)
    if suffix.isEmpty then none
    else (handles.lookup (String.ofList ('!' :: name ++ ['!']))).map fun start =>
      (start ++ String.ofList suffix, name.length + 1 + suffix.length)
  else
    let suffix := cs.takeWhile (isTagChar false)
    if suffix.isEmpty then some ("!", 0)
    else (handles.lookup "!").map fun start => (start ++ String.ofList suffix, suffix.length)

/-- A tag at its first mark and the place after it. -/
def tag? (handles : Handles) (flow : Bool) (c : Cursor) : Option (String × Cursor) := do
  let afterMark := c.rest.drop 1
  let (tag, length) ←
    if afterMark.head? = some '<' then
      (verbatimTag? (afterMark.drop 1)).map fun (t, n) => (t, n + 1)
    else handledTag? handles afterMark
  let next := (c.skip (length + 1)).keys false
  if endsWord next.rest || (flow && next.rest.head? = some ',') then some (tag, next) else none

/-- The name of an anchor or alias behind its mark and the place after it. -/
def anchor? (c : Cursor) : Option (String × Cursor) :=
  let name := (c.rest.drop 1).takeWhile isNameChar
  let next := (c.skip (name.length + 1)).keys false
  if name.isEmpty then none
  else if endsWord next.rest || next.rest.head?.any ("?:,]\x7d%@\x60".toList.contains ·) then
    some (String.ofList name, next)
  else none

/-! ## Directives -/

structure Directives where
  versioned : Bool
  handles : Handles

namespace Directives

def empty : Directives := ⟨false, []⟩

/-- All handles of a document; a declared handle counts before a standard one. -/
def allHandles (d : Directives) : Handles := d.handles ++ .standard

/-- The words on a line before a comment. -/
def lineWords (cs : List Char) : List (List Char) :=
  let runs := cs.splitBy fun a b => isBlank a == isBlank b
  (runs.filter (!·.all isBlank)).takeWhile (·.head? != some '#')

/-- Whether a word is a handle: a name, which may be missing, between marks, or a mark alone. -/
def isHandle (w : List Char) : Bool :=
  w == ['!'] || (2 ≤ w.length && w.head? == some '!' && w.getLast? == some '!' &&
    ((w.drop 1).dropLast).all isNameChar)

/-- The directives with that of one more line. The version is declared once, and so is each
handle. -/
def declare? (d : Directives) (line : List Char) : Option Directives :=
  match (lineWords line).map String.ofList with
  | ["%YAML", version] =>
    if d.versioned then none
    else if version = "1.1" || version = "1.2" then some { d with versioned := true }
    else none
  | ["%TAG", handle, start] =>
    if isHandle handle.toList && start.toList.all (isTagChar true) &&
        (d.handles.lookup handle).isNone then
      some { d with handles := d.handles ++ [(handle, start)] }
    else none
  | _ => none

end Directives

end BuildingModel.Yaml
