import BuildingModel.Number.Decimal
import BuildingModel.Rdf.Canonical

/-!
# Order of terms

Answers are sorted by terms: blank nodes by label, then IRIs by text, then literals. Numbers compare
by value, other literals by text, and by datatype and language where their texts agree.
-/
namespace BuildingModel.Ontology

open BuildingModel.Rdf BuildingModel.Number

/-- The value of a number written as a literal, as numerator and positive denominator. -/
def ratio? (l : Literal) : Option (Int × Nat) :=
  match l with
  | .typed text d =>
    if d = Xsd.integer then
      (readSigned64 text).toOption.map fun n => (n, 1)
    else if d = Xsd.decimal then
      (readDecimal? text).map fun n => (n, Nat.pow 10 decimalPlaces)
    else if d = Xsd.double then (readBinary binary64 text).toOption.bind finiteRatio?
    else if d = Xsd.float then (readBinary binary32 text).toOption.bind finiteRatio?
    else none
  | _ => none
where
  /-- The exact value of a finite binary number. -/
  finiteRatio? : Binary → Option (Int × Nat)
  | .finite negative significand exponent =>
    some (Binary.signedRatio negative significand exponent)
  | _ => none

def ratioLe (a b : Int × Nat) : Bool :=
  decide (a.1 * b.2 ≤ b.1 * a.2)

/-- Whether a pair of texts comes no later than another by the first, then by the second. -/
def textsLe (a b : List String) : Bool :=
  match a, b with
  | [], _ => true
  | _ :: _, [] => false
  | s :: ss, t :: ts => s < t || (s == t && textsLe ss ts)

/-- What literals that are not both numbers are compared by. -/
def literalKey (l : Literal) : List String :=
  [l.text, l.datatype.text, l.language?.getD ""]

def literalLe (a b : Literal) : Bool :=
  match ratio? a, ratio? b with
  | some x, some y => ratioLe x y
  | _, _ => textsLe (literalKey a) (literalKey b)

def sortIris (is : List Iri) : List Iri :=
  is.mergeSort fun a b => a.text ≤ b.text

def sortBlanks (bs : List BlankNode) : List BlankNode :=
  bs.mergeSort fun a b => a.label ≤ b.label

def sortNodes (ns : List Node) : List Node :=
  (sortBlanks (ns.filterMap fun n =>
    match n with
    | .blank b => some b
    | .iri _ => none)).map Node.blank ++
  (sortIris (ns.filterMap fun n => n.term.iri?)).map Node.iri

def sortTerms (ts : List Term) : List Term :=
  (sortNodes (ts.filterMap Term.node?)).map Node.term ++
    ((ts.filterMap Term.literal?).mergeSort literalLe).map Term.literal

def termLe : Term → Term → Bool
  | .blank a, .blank b => a.label ≤ b.label
  | .blank _, _ => true
  | .iri _, .blank _ => false
  | .iri a, .iri b => a.text ≤ b.text
  | .iri _, .literal _ => true
  | .literal a, .literal b => literalLe a b
  | .literal _, _ => false

/-- Whether a column of an answer comes no later than another; an absent term is the least. -/
def columnLe : Option Term → Option Term → Bool
  | none, _ => true
  | some _, none => false
  | some a, some b => termLe a b

/-- Whether an answer comes no later than another by its columns from left to right. -/
def columnsLe : List (Option Term) → List (Option Term) → Bool
  | [], _ => true
  | _ :: _, [] => false
  | a :: as, b :: bs => if columnLe a b && columnLe b a then columnsLe as bs else columnLe a b

end BuildingModel.Ontology
