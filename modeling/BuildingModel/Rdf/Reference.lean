import BuildingModel.Rdf.Iri

/-!
# References

A reference is an IRI or a text that is read relative to a base IRI, part by part.
-/
namespace BuildingModel.Rdf

/-- The parts of a reference; absent parts differ from empty ones. -/
structure Reference where
  scheme : Option (List Char)
  authority : Option (List Char)
  path : List Char
  query : Option (List Char)
  fragment : Option (List Char)

namespace Reference

/-- Splits a text at the first of some character; the second part is absent without it. -/
def cut (sep : Char) (cs : List Char) : List Char × Option (List Char) :=
  (cs.takeWhile (· != sep),
    if cs.contains sep then some ((cs.dropWhile (· != sep)).drop 1) else none)

def ofChars (cs : List Char) : Reference :=
  let (beforeFragment, fragment) := cut '#' cs
  let (main, query) := cut '?' beforeFragment
  let letters := main.takeWhile Iri.isSchemeChar
  let (scheme, rest) :=
    match main.drop letters.length with
    | ':' :: rest => if letters.head?.any Char.isAlpha then (some letters, rest) else (none, main)
    | _ => (none, main)
  match rest with
  | '/' :: '/' :: more =>
    ⟨scheme, some (more.takeWhile (· != '/')), more.dropWhile (· != '/'), query, fragment⟩
  | path => ⟨scheme, none, path, query, fragment⟩

def chars (r : Reference) : List Char :=
  (match r.scheme with
    | some s => s ++ [':']
    | none => []) ++
  (match r.authority with
    | some a => '/' :: '/' :: a
    | none => []) ++
  r.path ++
  (match r.query with
    | some q => '?' :: q
    | none => []) ++
  (match r.fragment with
    | some f => '#' :: f
    | none => [])

/-- The segments of a path without the dot segments that lead nowhere, the last first. -/
def keepSegments : List (List Char) → List (List Char) → List (List Char)
  | kept, [] => kept
  | kept, [s] =>
    if s = ['.'] then [] :: kept
    else if s = ['.', '.'] then [] :: kept.drop 1
    else s :: kept
  | kept, s :: ss =>
    if s = ['.'] then keepSegments kept ss
    else if s = ['.', '.'] then keepSegments (kept.drop 1) ss
    else keepSegments (s :: kept) ss

def removeDots (path : List Char) : List Char :=
  match path with
  | '/' :: rest =>
    (keepSegments [] (Iri.splitAt '/' rest)).reverse.flatMap fun s => '/' :: s
  | _ =>
    match (keepSegments [] (Iri.splitAt '/' path)).reverse with
    | [] => []
    | s :: ss => s ++ ss.flatMap fun s => '/' :: s

def mergePath (base : Reference) (path : List Char) : List Char :=
  if base.authority.isSome && base.path.isEmpty then '/' :: path
  else (base.path.reverse.dropWhile (· != '/')).reverse ++ path

/-- A reference read relative to a base. -/
def relativeTo (r base : Reference) : Reference :=
  if r.scheme.isSome then r
  else if r.authority.isSome then { r with scheme := base.scheme, path := removeDots r.path }
  else if r.path.isEmpty then
    { base with query := if r.query.isSome then r.query else base.query, fragment := r.fragment }
  else
    let path := if r.path.head? == some '/' then r.path else mergePath base r.path
    { base with path := removeDots path, query := r.query, fragment := r.fragment }

end Reference

/-- The IRI of a text, read relative to a base if there is one. -/
def Iri.resolve? (base : Option Iri) (text : String) : Option Iri :=
  match base with
  | none => Iri.parse? text
  | some b =>
    Iri.parse? (String.ofList
      ((Reference.ofChars text.toList).relativeTo (Reference.ofChars b.text.toList)).chars)

end BuildingModel.Rdf
