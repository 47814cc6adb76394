import BuildingModel.Number.Shortest
import BuildingModel.Pattern
import BuildingModel.Rdf.NTriples.Writer
import BuildingModel.Validation.Report

/-!
# Node shapes

A node shape picks focus nodes and holds property shapes, each with bounds on the number of values
of a path and with constraints on each value.
-/
namespace BuildingModel.Validation

open BuildingModel.Rdf BuildingModel.Number

/-- One of several conditions of which a value has to satisfy one. -/
structure Alternative where
  class? : Option Iri
  datatype? : Option Iri
  deriving DecidableEq, Repr

/-- What a property shape asks of each value. -/
inductive ValueConstraint
  | datatype (expected : Iri)
  | class (expected : Iri)
  | alternatives (options : List Alternative)
  | pattern (pattern : Pattern)
  | minLength (bound : Nat)
  | maxLength (bound : Nat)
  | minInclusive (bound : Binary)
  | maxInclusive (bound : Binary)
  | members (allowed : List Term)

namespace ValueConstraint

def name : ValueConstraint → String
  | .datatype _ => "sh:datatype"
  | .class _ => "sh:class"
  | .alternatives _ => "sh:or"
  | .pattern _ => "sh:pattern"
  | .minLength _ => "sh:minLength"
  | .maxLength _ => "sh:maxLength"
  | .minInclusive _ => "sh:minInclusive"
  | .maxInclusive _ => "sh:maxInclusive"
  | .members _ => "sh:in"

/-- What to say of a value that breaks a constraint. -/
def message : ValueConstraint → String
  | .datatype d => "Value must be a literal with datatype " ++ d.written
  | .class c => "Value must be an instance of " ++ c.written
  | .alternatives options =>
    "Value must satisfy one of: " ++
      ", ".intercalate ((options.filterMap fun a => a.class?.or a.datatype?).map Iri.written)
  | .pattern p => "Value must match pattern: " ++ p.text
  | .minLength n => "Value must have at least " ++ Nat.repr n ++ " characters"
  | .maxLength n => "Value must have at most " ++ Nat.repr n ++ " characters"
  | .minInclusive x => "Value must be >= " ++ x.text binary64
  | .maxInclusive x => "Value must be <= " ++ x.text binary64
  | .members allowed => "Value must be one of: " ++ ", ".intercalate (allowed.map Term.written)

end ValueConstraint

/-- What is asked of the values of a path. -/
structure PropertyShape where
  path : Iri
  minCount : Option Nat
  maxCount : Option Nat
  constraints : List ValueConstraint
  message : Option String
  severity : Option Severity

/-- A shape with the nodes it targets. -/
structure NodeShape where
  id : Iri
  targetClasses : List Iri
  targetNodes : List Term
  properties : List PropertyShape
  severity : Severity

end BuildingModel.Validation
