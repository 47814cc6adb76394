import BuildingModel.Inspection.Summary

/-!
# Details of a class

A class with its place in the hierarchy and what its instances can be related to, in lines or as an
object.
-/
namespace BuildingModel

open BuildingModel.Json

/-- A capability and what it accepts; no names mean no restriction. -/
structure Capability where
  name : String
  accepts : List String
  deriving DecidableEq, Repr

/-- A class by the names of what it is connected with. -/
structure ClassDetail where
  name : String
  iri : Rdf.Iri
  label : String
  definition : Option String
  ancestors : List String
  otherParents : List String
  capabilities : List Capability
  deriving DecidableEq, Repr

namespace Capability

/-- The capability that a relation gives to instances of a class. -/
def ofRelation (s : Schema) (c : ClassId) (r : Relation) : Capability where
  name := r.capability
  accepts := (((r.bindingFor? s.hierarchy c).map Binding.range).getD []).map s.targetName

def line (c : Capability) : String :=
  "    " ++ c.name ++ "(" ++ alternatives c.accepts ++ ")"

def json (c : Capability) : Value :=
  .object [("name", .string c.name), ("accepts", .ofTexts c.accepts)]

end Capability

namespace ClassDetail

def ofEntry (s : Schema) (c : ClassId) (e : ClassEntry) : ClassDetail where
  name := e.name
  iri := e.iri
  label := e.displayLabel
  definition := e.definition
  ancestors := (s.hierarchy.ancestors c).map s.hierarchy.nameOf
  otherParents := e.otherParents.map s.hierarchy.nameOf
  capabilities := (s.relations.forClass s.hierarchy c).map (Capability.ofRelation s c)

def ofName? (s : Schema) (name : String) : Option ClassDetail := do
  let c ← s.hierarchy.byName name
  let e ← s.hierarchy.classAt? c
  return ofEntry s c e

def text (d : ClassDetail) : String :=
  "\n".intercalate
    ([d.name ++ " (" ++ d.iri.text ++ ")", "  label: " ++ d.label] ++
      (d.definition.map ("  definition: " ++ ·)).toList ++
      ["  ancestors: " ++ " > ".intercalate d.ancestors] ++
      (if d.otherParents.isEmpty then []
        else ["  also declared under: " ++ ", ".intercalate d.otherParents]) ++
      ["  capabilities:"] ++ d.capabilities.map Capability.line)

def json (d : ClassDetail) : Value :=
  .object [("name", .string d.name), ("uri", .string d.iri.text), ("label", .string d.label),
    ("definition", .ofText? d.definition), ("ancestors", .ofTexts d.ancestors),
    ("other_parents", .ofTexts d.otherParents),
    ("capabilities", .array (d.capabilities.map Capability.json))]

end ClassDetail

end BuildingModel
