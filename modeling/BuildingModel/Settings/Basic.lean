import BuildingModel.Hierarchy.Build
import BuildingModel.Text.Quoted

/-!
# Settings

How a schema is derived from an ontology: the namespace and names of its fixed classes, the shapes
compiled in addition, and what is built at all.
-/
namespace BuildingModel

structure Settings where
  ns : String
  baseClass : String
  roots : List String
  entityPropertyClass : String
  extraShapes : List String
  hierarchy : HierarchyPolicy
  loadUnits : Bool
  emitLabels : Bool
  deriving DecidableEq, Repr

inductive SettingsFault
  | openNamespace (ns : String)
  | noBaseClass
  | noRoots
  | emptyRoot
  | noEntityPropertyClass
  deriving DecidableEq, Repr

def SettingsFault.message : SettingsFault → String
  | .openNamespace ns => "namespace " ++ Text.quoted ns ++ " must end with '#' or '/'"
  | .noBaseClass => "base_class must not be empty"
  | .noRoots => "at least one root class is required"
  | .emptyRoot => "root class names must not be empty"
  | .noEntityPropertyClass => "entity_property_class must not be empty"

def HierarchyPolicy.name : HierarchyPolicy → String
  | .firstWins => "first_wins"
  | .strict => "strict"

def HierarchyPolicy.ofName? (name : String) : Option HierarchyPolicy :=
  if name = "first_wins" then some .firstWins
  else if name = "strict" then some .strict
  else none

namespace Settings

/-- The settings where none are given. -/
def standard : Settings where
  ns := "https://brickschema.org/schema/Brick#"
  baseClass := "Entity"
  roots := ["Equipment", "Point", "Location"]
  entityPropertyClass := "EntityProperty"
  extraShapes := []
  hierarchy := .firstWins
  loadUnits := true
  emitLabels := false

/-- Whether a namespace ends where a local name can begin. -/
def closesNamespace (ns : String) : Bool :=
  match ns.toList.getLast? with
  | some c => c == '#' || c == '/'
  | none => false

def fault? (s : Settings) : Option SettingsFault :=
  if !closesNamespace s.ns then some (.openNamespace s.ns)
  else if s.baseClass.isEmpty then some .noBaseClass
  else if s.roots.isEmpty then some .noRoots
  else if s.roots.any String.isEmpty then some .emptyRoot
  else if s.entityPropertyClass.isEmpty then some .noEntityPropertyClass
  else none

/-- The settings, unless they have a fault. -/
def validated (s : Settings) : Except SettingsFault Settings :=
  match s.fault? with
  | some fault => .error fault
  | none => .ok s

/-- The text of the IRI of a local name. -/
def iriText (s : Settings) (name : String) : String := s.ns ++ name

end Settings

end BuildingModel
