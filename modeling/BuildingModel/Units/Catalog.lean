import BuildingModel.Ontology.Row

/-!
# Units of measurement

The catalog holds one unit for each key, in the order in which the keys were first seen; a later
unit takes the place of an earlier one with its key. Keys are made from labels, character by
character.
-/
namespace BuildingModel

open BuildingModel.Rdf BuildingModel.Ontology

/-- What a character of a label contributes to a key: blanks become underscores, carets are spelled
out and parentheses are left out. -/
def unitKeyChar (c : Char) : List Char :=
  if c = ' ' then ['_']
  else if c = '^' then ['e', 'x', 'p']
  else if c = '(' ∨ c = ')' then []
  else [c]

def unitKey (label : String) : String :=
  String.ofList (label.toList.flatMap unitKeyChar)

structure MeasurementUnit where
  iri : Iri
  name : String
  symbol : Option String
  description : Option String
  deriving DecidableEq, Repr

namespace MeasurementUnit

def key (u : MeasurementUnit) : String := unitKey u.name

/-- The unit of a row; an expression between dollar signs stands in for a missing symbol. -/
def ofRow (r : UnitRow) : MeasurementUnit :=
  ⟨r.iri, r.label, r.symbol.or (r.expression.map fun e => "$" ++ e ++ "$"), r.description⟩

end MeasurementUnit

structure UnitCatalog where
  units : List MeasurementUnit
  deriving DecidableEq, Repr

namespace UnitCatalog

def empty : UnitCatalog := ⟨[]⟩

/-- Enters a unit, in the place of the one with its key if there is one. -/
def insert (c : UnitCatalog) (u : MeasurementUnit) : UnitCatalog :=
  if c.units.any (·.key = u.key) then
    ⟨c.units.map fun v => if v.key = u.key then u else v⟩
  else ⟨c.units ++ [u]⟩

def ofRows (rows : List UnitRow) : UnitCatalog :=
  rows.foldl (fun c r => c.insert (.ofRow r)) empty

def get? (c : UnitCatalog) (key : String) : Option MeasurementUnit :=
  c.units.find? (·.key = key)

/-- The unit of a key, or else the first one whose IRI has that local name. -/
def find? (c : UnitCatalog) (name : String) : Option MeasurementUnit :=
  (c.get? name).or (c.units.find? (·.iri.name = name))

/-- The first unit of an IRI. -/
def byIri (c : UnitCatalog) (iri : Iri) : Option MeasurementUnit :=
  c.units.find? (·.iri = iri)

end UnitCatalog

end BuildingModel
