/-!
# Files

What a program finds at paths, and what their names tell.
-/
namespace BuildingModel

inductive FileContent
  | missing
  | unreadable
  | text (text : String)
  deriving DecidableEq, Repr

/-- What is found at each path. -/
abbrev Files := String → FileContent

def FileContent.text? : FileContent → Option String
  | .text t => some t
  | _ => none

/-- The characters after the last dot of a file's name, which does not start with that dot. -/
def fileExtension? (path : String) : Option String :=
  let file := path.toList.reverse.takeWhile (· != '/')
  match file.dropWhile (· != '.') with
  | _ :: _ :: _ => some (String.ofList (file.takeWhile (· != '.')).reverse)
  | _ => none

def lowered (s : String) : String :=
  String.ofList (s.toList.map Char.toLower)

end BuildingModel
