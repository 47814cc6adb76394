import BuildingModel.Text.Blank
import BuildingModel.Text.Category
import BuildingModel.Text.LetterCase
import BuildingModel.Text.Word

/-!
# Sets of characters

The classes of a pattern: ranges and named classes, combined by the operations of sets.
-/
namespace BuildingModel.Pattern

/-- A set of characters by how it is written. -/
inductive CharSet
  | range (low high : Nat)
  | word
  | digit
  | blank
  | category (names : List String)
  | complement (s : CharSet)
  | union (s t : CharSet)
  | intersection (s t : CharSet)
  | caseless (s : CharSet)
  deriving DecidableEq, Repr

namespace CharSet

def none : CharSet := .range 1 0

def single (c : Char) : CharSet := .range c.toNat c.toNat

def unions (ss : List CharSet) : CharSet :=
  ss.foldr .union none

def difference (s t : CharSet) : CharSet :=
  .intersection s (.complement t)

def symmetricDifference (s t : CharSet) : CharSet :=
  .union (difference s t) (difference t s)

/-- Whether a code point passes a test of characters. -/
def named (test : Char → Bool) (n : Nat) : Bool :=
  test (Char.ofNat n)

def containsCode : CharSet → Nat → Bool
  | .range low high, n => low ≤ n && n ≤ high
  | .word, n => named Text.isWordChar n
  | .digit, n => named Text.isDecimalDigit n
  | .blank, n => named Text.isBlank n
  | .category names, n => names.contains (Text.categoryOf n)
  | .complement s, n => !s.containsCode n
  | .union s t, n => s.containsCode n || t.containsCode n
  | .intersection s t, n => s.containsCode n && t.containsCode n
  | .caseless s, n => (Text.caseVariants n).any s.containsCode

def contains (s : CharSet) (c : Char) : Bool :=
  s.containsCode c.toNat

/-- The classes of ASCII characters that have a name. -/
def ascii? (name : String) : Option CharSet :=
  let digits : CharSet := .range 0x30 0x39
  let upper : CharSet := .range 0x41 0x5A
  let lower : CharSet := .range 0x61 0x7A
  [("alnum", unions [digits, upper, lower]), ("alpha", .union upper lower),
    ("ascii", .range 0 0x7F), ("blank", .union (.range 9 9) (.range 0x20 0x20)),
    ("cntrl", .union (.range 0 0x1F) (.range 0x7F 0x7F)), ("digit", digits),
    ("graph", .range 0x21 0x7E), ("lower", lower), ("print", .range 0x20 0x7E),
    ("punct", unions [.range 0x21 0x2F, .range 0x3A 0x40, .range 0x5B 0x60, .range 0x7B 0x7E]),
    ("space", .union (.range 9 13) (.range 0x20 0x20)), ("upper", upper),
    ("word", unions [digits, upper, lower, .range 0x5F 0x5F]),
    ("xdigit", unions [digits, .range 0x41 0x46, .range 0x61 0x66])].lookup name

/-- The class of characters that have a property, by its name. -/
def withProperty? (name : String) : Option CharSet :=
  match Text.looseName name with
  | "any" => some (.complement none)
  | "ascii" => some (.range 0 0x7F)
  | "assigned" => some (.complement (.category ["Cn"]))
  | "whitespace" | "wspace" | "space" => some .blank
  | _ => (Text.categoriesNamed? name).map .category

/-- The class of characters whose property has a value; the only property is the category. -/
def withValue? (property value : String) : Option CharSet :=
  if ["generalcategory", "gc"].contains (Text.looseName property) then
    (Text.categoriesNamed? value).map .category
  else .none

end CharSet

end BuildingModel.Pattern
