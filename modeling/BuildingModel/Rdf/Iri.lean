/-!
# IRIs

An IRI is held as its text. `Iri.parse?` admits the absolute IRIs of the generic syntax; the local
name of an IRI is what follows its last separator.
-/
namespace BuildingModel.Rdf

/-- An internationalised resource identifier, as its text. -/
structure Iri where
  text : String
  deriving DecidableEq, Repr, Inhabited

/-- Whether a character separates the local name of an IRI from what is before it. -/
def isSeparator (c : Char) : Bool :=
  c == '#' || c == '/' || c == ':'

/-- What follows the last separator, or the whole text where nothing does. -/
def localChars (cs : List Char) : List Char :=
  let tail := (cs.reverse.takeWhile (!isSeparator ·)).reverse
  if tail.isEmpty then cs else tail

/-- The local part of an IRI's text: what follows its last `#`, `/` or `:`, or the whole text when
that is empty. -/
def localName (text : String) : String :=
  String.ofList (localChars text.toList)

namespace Iri

/-- The local name of an IRI. -/
def name (iri : Iri) : String :=
  localName iri.text

def written (iri : Iri) : String :=
  "<" ++ iri.text ++ ">"

/-- Whether a code point beyond ASCII may stand in any part of an IRI. -/
def isWide (n : Nat) : Bool :=
  (0xA0 ≤ n && n ≤ 0xD7FF) || (0xF900 ≤ n && n ≤ 0xFDCF) || (0xFDF0 ≤ n && n ≤ 0xFFEF) ||
    (0x10000 ≤ n && n ≤ 0xEFFFD && n % 0x10000 ≤ 0xFFFD && !(0xE0000 ≤ n && n < 0xE1000))

def isPrivate (n : Nat) : Bool :=
  (0xE000 ≤ n && n ≤ 0xF8FF) || (0xF0000 ≤ n && n ≤ 0xFFFFD) || (0x100000 ≤ n && n ≤ 0x10FFFD)

/-- Whether a character may stand unescaped in every part of an IRI. -/
def isPlain (c : Char) : Bool :=
  c.isAlphanum || "!$&'()*+,-.;=_~".toList.contains c || isWide c.toNat

def isHexDigit (c : Char) : Bool :=
  c.isDigit || ('a' ≤ c && c ≤ 'f') || ('A' ≤ c && c ≤ 'F')

/-- Whether a text holds only allowed characters and escaped octets. -/
def allAllowed (allowed : Char → Bool) : List Char → Bool
  | [] => true
  | '%' :: a :: b :: cs => isHexDigit a && isHexDigit b && allAllowed allowed cs
  | c :: cs => c != '%' && allowed c && allAllowed allowed cs

def isPath (cs : List Char) : Bool :=
  allAllowed (fun c => isPlain c || c == ':' || c == '@' || c == '/') cs

def isQuery (cs : List Char) : Bool :=
  allAllowed (fun c => isPlain c || c == ':' || c == '@' || c == '/' || c == '?' ||
    isPrivate c.toNat) cs

def isFragment (cs : List Char) : Bool :=
  allAllowed (fun c => isPlain c || c == ':' || c == '@' || c == '/' || c == '?') cs

/-- The decimal octets of an address of version 4. -/
def isOctet (cs : List Char) : Bool :=
  match cs with
  | [a] => a.isDigit
  | [a, b] => a.isDigit && b.isDigit && a != '0'
  | [a, b, c] =>
    a.isDigit && b.isDigit && c.isDigit && a != '0' &&
      (a.toNat - 48) * 100 + (b.toNat - 48) * 10 + (c.toNat - 48) ≤ 255
  | _ => false

/-- Splits a list at each occurrence of a separator. -/
def splitAt (sep : Char) (cs : List Char) : List (List Char) :=
  cs.foldr
    (fun c parts =>
      match parts with
      | [] => if c == sep then [[], []] else [[c]]
      | p :: ps => if c == sep then [] :: p :: ps else (c :: p) :: ps)
    [[]]

def isAddress4 (cs : List Char) : Bool :=
  let parts := splitAt '.' cs
  parts.length == 4 && parts.all isOctet

/-- The number of 16-bit groups of one side of an address of version 6; a last part may be an
address of version 4. -/
def groupCount? (cs : List Char) : Option Nat :=
  if cs.isEmpty then some 0
  else
    let parts := splitAt ':' cs
    let isGroup (p : List Char) : Bool := !p.isEmpty && p.length ≤ 4 && p.all isHexDigit
    match parts.getLast? with
    | none => none
    | some last =>
      if parts.all isGroup then some parts.length
      else if parts.dropLast.all isGroup && isAddress4 last then some (parts.length + 1)
      else none

/-- The two sides of the first double colon. -/
def splitDoubleColon : List Char → Option (List Char × List Char)
  | ':' :: ':' :: cs => some ([], cs)
  | c :: cs => (splitDoubleColon cs).map fun (a, b) => (c :: a, b)
  | [] => none

def isAddress6 (cs : List Char) : Bool :=
  match splitDoubleColon cs with
  | none => groupCount? cs == some 8
  | some (left, right) =>
    match groupCount? left, groupCount? right with
    | some n, some m => n + m ≤ 7 && !left.contains '.'
    | _, _ => false

/-- Whether a text is an address of a later version. -/
def isAddressFuture : List Char → Bool
  | v :: cs =>
    (v == 'v' || v == 'V') &&
      (let version := cs.takeWhile isHexDigit
       match cs.dropWhile isHexDigit with
       | '.' :: rest =>
         !version.isEmpty && !rest.isEmpty &&
           rest.all fun c => (isPlain c && c.toNat < 0x80) || c == ':'
       | _ => false)
  | [] => false

/-- Whether a text is a colon with digits, or nothing. -/
def isColonNumber : List Char → Bool
  | [] => true
  | c :: cs => c == ':' && cs.all Char.isDigit

/-- Whether a text is a host, with a number behind a colon or without one. -/
def isHostAndNumber (cs : List Char) : Bool :=
  match cs with
  | '[' :: rest =>
    let address := rest.takeWhile (· != ']')
    match rest.dropWhile (· != ']') with
    | _ :: after =>
      (if address.head? == some 'v' || address.head? == some 'V' then isAddressFuture address
        else isAddress6 address) && isColonNumber after
    | [] => false
  | _ =>
    allAllowed isPlain (cs.takeWhile (· != ':')) && isColonNumber (cs.dropWhile (· != ':'))

/-- Whether a text is an authority: user information up to an `@`, a host and its number. -/
def isAuthority (cs : List Char) : Bool :=
  let user := cs.takeWhile fun c => c != '@' && c != '['
  match cs.dropWhile fun c => c != '@' && c != '[' with
  | '@' :: rest => allAllowed (fun c => isPlain c || c == ':') user && isHostAndNumber rest
  | _ => isHostAndNumber cs

/-- Whether a text is what may follow the scheme of an IRI and its colon. -/
def isHierarchy (cs : List Char) : Bool :=
  let upToFragment := cs.takeWhile (· != '#')
  let fragment := (cs.dropWhile (· != '#')).drop 1
  let upToQuery := upToFragment.takeWhile (· != '?')
  let query := (upToFragment.dropWhile (· != '?')).drop 1
  let main :=
    match upToQuery with
    | '/' :: '/' :: rest =>
      isAuthority (rest.takeWhile (· != '/')) && isPath (rest.dropWhile (· != '/'))
    | path => isPath path
  main && isQuery query && isFragment fragment

/-- Whether a character may stand in a scheme after its first letter. -/
def isSchemeChar (c : Char) : Bool :=
  c.isAlphanum || c == '+' || c == '-' || c == '.'

def isAbsolute (cs : List Char) : Bool :=
  match cs with
  | [] => false
  | c :: rest =>
    c.isAlpha &&
      match rest.dropWhile isSchemeChar with
      | ':' :: body => isHierarchy body
      | _ => false

def parse? (text : String) : Option Iri :=
  if isAbsolute text.toList then some ⟨text⟩ else none

def WellFormed (iri : Iri) : Prop :=
  isAbsolute iri.text.toList = true

instance (iri : Iri) : Decidable iri.WellFormed :=
  inferInstanceAs (Decidable (_ = true))

theorem parse?_eq_some_iff {text : String} {iri : Iri} :
    parse? text = some iri ↔ iri.text = text ∧ iri.WellFormed := by
  unfold parse? WellFormed
  constructor
  · intro h
    split at h
    · cases h; exact ⟨rfl, ‹_›⟩
    · cases h
  · rintro ⟨rfl, h⟩
    simp [h]

end Iri

end BuildingModel.Rdf
