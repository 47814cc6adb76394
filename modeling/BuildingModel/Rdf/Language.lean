import BuildingModel.Rdf.Iri

/-!
# Language tags

The tags that name the language of a text: subtags joined by hyphens, in the order language,
extended language, script, region, variants, extensions and private use.
-/
namespace BuildingModel.Rdf.Language

def isAlpha (s : List Char) : Bool := s.all Char.isAlpha

def isAlphanum (s : List Char) : Bool := s.all Char.isAlphanum

def isDigits (s : List Char) : Bool := s.all Char.isDigit

/-- Tags that are kept although they do not follow the order of subtags. -/
def irregular : List String :=
  ["en-gb-oed", "i-ami", "i-bnn", "i-default", "i-enochian", "i-hak", "i-klingon", "i-lux",
    "i-mingo", "i-navajo", "i-pwn", "i-tao", "i-tay", "i-tsu", "sgn-be-fr", "sgn-be-nl",
    "sgn-ch-de", "art-lojban", "cel-gaulish", "no-bok", "no-nyn", "zh-guoyu", "zh-hakka", "zh-min",
    "zh-min-nan", "zh-xiang"]

/-- Whether subtags are parts for private use, of one to eight characters. -/
def isPrivateUse (subtags : List (List Char)) : Bool :=
  !subtags.isEmpty && subtags.all fun s => 1 ≤ s.length && s.length ≤ 8 && isAlphanum s

/-- Whether subtags are extensions, each a single character with parts of two to eight, and then
perhaps a part for private use; `lacks` tells whether the last extension still lacks a part. -/
def isExtended (lacks : Bool) : List (List Char) → Bool
  | [] => !lacks
  | s :: ss =>
    if s = ['x'] ∨ s = ['X'] then !lacks && isPrivateUse ss
    else if s.length = 1 then !lacks && isAlphanum s && isExtended true ss
    else 2 ≤ s.length && s.length ≤ 8 && isAlphanum s && isExtendedPart ss
where
  /-- The same after an extension has a part. -/
  isExtendedPart : List (List Char) → Bool
  | [] => true
  | s :: ss =>
    if s = ['x'] ∨ s = ['X'] then isPrivateUse ss
    else if s.length = 1 then isAlphanum s && isExtended true ss
    else 2 ≤ s.length && s.length ≤ 8 && isAlphanum s && isExtendedPart ss

/-- Whether subtags are extensions that begin with a single character, or nothing. -/
def isExtensions : List (List Char) → Bool
  | [] => true
  | s :: ss => s.length == 1 && isExtended false (s :: ss)

def isVariant (s : List Char) : Bool :=
  isAlphanum s &&
    ((5 ≤ s.length && s.length ≤ 8) || (s.length == 4 && (s.head?.any Char.isDigit)))

def dropRegion : List (List Char) → List (List Char)
  | s :: ss => if (s.length = 2 ∧ isAlpha s) ∨ (s.length = 3 ∧ isDigits s) then ss else s :: ss
  | [] => []

def dropScript : List (List Char) → List (List Char)
  | s :: ss => if s.length = 4 ∧ isAlpha s then ss else s :: ss
  | [] => []

/-- Drops at most `n` subtags that extend a language. -/
def dropExtendedLanguages : Nat → List (List Char) → List (List Char)
  | n + 1, s :: ss =>
    if s.length = 3 ∧ isAlpha s then dropExtendedLanguages n ss else s :: ss
  | _, ss => ss

def isTag (cs : List Char) : Bool :=
  if irregular.contains (String.ofList (cs.map Char.toLower)) then true
  else
    match Iri.splitAt '-' cs with
    | [] => false
    | s :: ss =>
      if s = ['x'] ∨ s = ['X'] then isPrivateUse ss
      else if !isAlpha s || s.length < 2 || 8 < s.length then false
      else
        let rest := if s.length ≤ 3 then dropExtendedLanguages 3 ss else ss
        isExtensions ((dropRegion (dropScript rest)).dropWhile isVariant)

end BuildingModel.Rdf.Language
