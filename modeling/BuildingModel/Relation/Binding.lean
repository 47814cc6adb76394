import BuildingModel.Hierarchy.Distance
import BuildingModel.Shape.Catalog

/-!
# Relations and their bindings

A relation is bound to domain classes, and from each of them may point at some targets. What applies
to a class is the binding of the nearest class above it.
-/
namespace BuildingModel

open BuildingModel.Rdf

/-- What a relation may point at: entities of a class or records of a shape. -/
inductive TargetType
  | class (id : ClassId)
  | shape (id : ShapeId)
  deriving DecidableEq, Repr

/-- A domain class of a relation and what the relation may point at from there; no targets mean no
restriction. -/
structure Binding where
  domain : ClassId
  range : List TargetType
  deriving DecidableEq, Repr

structure Relation where
  iri : Iri
  bindings : List Binding
  deriving DecidableEq, Repr

/-- The nearest bindings found so far, with their distance. -/
structure Nearest where
  distance : Nat
  bindings : List Binding

namespace Nearest

/-- Takes one more binding into account: a closer one displaces the others, and one as close joins
them. -/
def consider (best : Option Nearest) (b : Binding) : Option Nat → Option Nearest
  | none => best
  | some distance =>
    match best with
    | none => some ⟨distance, [b]⟩
    | some n =>
      if distance < n.distance then some ⟨distance, [b]⟩
      else if distance = n.distance then some ⟨n.distance, n.bindings ++ [b]⟩
      else some n

/-- The common binding of bindings that are equally near; if one is unrestricted, so is this. -/
def merge? : List Binding → Option Binding
  | [] => none
  | b :: bs =>
    some ⟨b.domain,
      if (b :: bs).any (·.range.isEmpty) then [] else distinct ((b :: bs).flatMap Binding.range)⟩

end Nearest

namespace Relation

def name (r : Relation) : String := r.iri.name

/-- The name of the capability to add to the relation. -/
def capability (r : Relation) : String := "add_" ++ r.name

def domains (r : Relation) : List ClassId := r.bindings.map Binding.domain

/-- What some binding lets the relation point at, or nothing where no binding has a restriction. -/
def range? (r : Relation) : Option (List TargetType) :=
  let all := distinct (r.bindings.flatMap Binding.range)
  if all.isEmpty then none else some all

/-- The bindings with the nearest domains above a class. -/
def nearest? (r : Relation) (h : Hierarchy) (c : ClassId) : Option Nearest :=
  r.bindings.foldl (fun best b => Nearest.consider best b (h.distance? c b.domain)) none

/-- The binding that applies to a class. -/
def bindingFor? (r : Relation) (h : Hierarchy) (c : ClassId) : Option Binding :=
  (r.nearest? h c).bind fun n => Nearest.merge? n.bindings

/-- Whether some domain is above a class. -/
def appliesTo (r : Relation) (h : Hierarchy) (c : ClassId) : Bool :=
  r.domains.any (h.isSubclass c)

end Relation

end BuildingModel
