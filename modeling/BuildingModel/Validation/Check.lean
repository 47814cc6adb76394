import BuildingModel.Number.Decimal
import BuildingModel.Text.Blank
import BuildingModel.Validation.ClassMemo
import BuildingModel.Validation.NodeShape

/-!
# Checking a node

A node is checked against each shape that applies to it: the number of values of each path against
its bounds, and each value against each constraint.
-/
namespace BuildingModel.Validation

open BuildingModel.Rdf BuildingModel.Number

variable {o : Dataset}

def hasDatatype (v : Term) (d : Iri) : Bool :=
  v.literal?.any (·.datatype = d)

/-- Whether a term is an instance of a class; a literal is none. -/
def isInstanceTerm (data : Dataset) (v : Term) (c : Iri) : Lookup o Bool :=
  match v.node? with
  | some n => isInstance data n c
  | none => return false

/-- The number that a text stands for, blanks around it ignored. -/
def numberOfText? (text : String) : Option Binary :=
  (readBinary binary64 (Text.trim text)).toOption

namespace Alternative

/-- Whether a value satisfies an alternative; one that asks for nothing is never satisfied. -/
def satisfiedBy (data : Dataset) (a : Alternative) (v : Term) : Lookup o Bool := do
  match a.class? with
  | some c =>
    if ← isInstanceTerm data v c then return a.datatype?.all (hasDatatype v) else return false
  | none => return a.datatype?.any (hasDatatype v)

/-- Whether a value satisfies one of some alternatives. -/
def someSatisfiedBy (data : Dataset) (v : Term) : List Alternative → Lookup o Bool
  | [] => return false
  | a :: as => do
    if ← a.satisfiedBy data v then return true else someSatisfiedBy data v as

end Alternative

/-- Whether the text of a literal satisfies a test; other terms do. -/
def literalSatisfies (v : Term) (test : String → Bool) : Bool :=
  v.literal?.all fun l => test l.text

namespace ValueConstraint

/-- Whether a value satisfies a constraint. Patterns, lengths and numbers are asked of literals
only. -/
def satisfiedBy (data : Dataset) (v : Term) : ValueConstraint → Lookup o Bool
  | .datatype d => return hasDatatype v d
  | .class c => isInstanceTerm data v c
  | .alternatives options => Alternative.someSatisfiedBy data v options
  | .pattern p => return literalSatisfies v p.occursIn
  | .minLength n => return literalSatisfies v fun t => n ≤ t.length
  | .maxLength n => return literalSatisfies v fun t => t.length ≤ n
  | .minInclusive x => return literalSatisfies v fun t => (numberOfText? t).any fun y => !y.lt x
  | .maxInclusive x => return literalSatisfies v fun t => (numberOfText? t).any fun y => !x.lt y
  | .members allowed => return allowed.contains v

end ValueConstraint

def nodeLabel : Node → String
  | .iri i => i.text
  | .blank b => b.written

def termLabel : Term → String
  | .iri i => i.text
  | .blank b => b.written
  | .literal l => l.text

namespace PropertyShape

/-- A result for a focus node, with the message and severity of the property shape if it has
them. -/
def result (p : PropertyShape) (shape : Iri) (n : Node) (constraint : String) (value : Option Term)
    (message : String) : Result :=
  ⟨nodeLabel n, some p.path.text, value.map termLabel, p.message.getD message,
    p.severity.getD .violation, shape.text, some constraint⟩

def countResults (p : PropertyShape) (shape : Iri) (n : Node) (count : Nat) : List Result :=
  (p.minCount.toList.filter (count < ·)).map (fun bound =>
    p.result shape n "sh:minCount" none
      ("Property " ++ p.path.written ++ " must have at least " ++ Nat.repr bound ++ " value(s)")) ++
  (p.maxCount.toList.filter (· < count)).map (fun bound =>
    p.result shape n "sh:maxCount" none
      ("Property " ++ p.path.written ++ " must have at most " ++ Nat.repr bound ++ " value(s)"))

def valueResults (p : PropertyShape) (shape : Iri) (n : Node) (data : Dataset) (v : Term) :
    List ValueConstraint → Lookup o (List Result)
  | [] => return []
  | c :: cs => do
    let satisfied ← c.satisfiedBy data v
    let results ← valueResults p shape n data v cs
    return if satisfied then results
      else p.result shape n c.name (some v) c.message :: results

def valuesResults (p : PropertyShape) (shape : Iri) (n : Node) (data : Dataset) :
    List Term → Lookup o (List Result)
  | [] => return []
  | v :: vs => do
    let results ← p.valueResults shape n data v p.constraints
    let more ← valuesResults p shape n data vs
    return results ++ more

/-- The results of a focus node. -/
def check (p : PropertyShape) (shape : Iri) (data : Dataset) (n : Node) :
    Lookup o (List Result) := do
  let values := data.objects n p.path
  let results ← p.valuesResults shape n data values
  return p.countResults shape n values.length ++ results

end PropertyShape

namespace NodeShape

def someInstance (data : Dataset) (n : Node) : List Iri → Lookup o Bool
  | [] => return false
  | c :: cs => do
    if ← isInstance data n c then return true else someInstance data n cs

/-- Whether a shape applies to a node: it targets the node, or the node is an instance of the shape
itself or of a class that it targets. -/
def appliesTo (s : NodeShape) (data : Dataset) (n : Node) : Lookup o Bool :=
  if s.targetNodes.contains n.term then return true
  else someInstance data n (s.id :: s.targetClasses)

/-- The severity of a property shape's results: its own, or else that of its shape. -/
def graded (s : NodeShape) (p : PropertyShape) : PropertyShape :=
  { p with severity := p.severity.or (some s.severity) }

def propertyResults (s : NodeShape) (data : Dataset) (n : Node) :
    List PropertyShape → Lookup o (List Result)
  | [] => return []
  | p :: ps => do
    let results ← (s.graded p).check s.id data n
    let more ← propertyResults s data n ps
    return results ++ more

def check (s : NodeShape) (data : Dataset) (n : Node) : Lookup o (List Result) := do
  if ← s.appliesTo data n then s.propertyResults data n s.properties else return []

end NodeShape

end BuildingModel.Validation
