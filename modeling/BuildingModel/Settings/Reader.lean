import BuildingModel.Json.Value
import BuildingModel.Settings.Basic

/-!
# Reading settings

Settings are given by name, each at most once and none unknown, or in their order. What is not given
is as in the standard settings.
-/
namespace BuildingModel.Settings

/-- How the values of a document are read as settings. -/
structure ValueReader (ν : Type) where
  text? : ν → Option String
  texts? : ν → Option (List String)
  boolean? : ν → Option Bool
  policy? : ν → Option HierarchyPolicy

def names : List String :=
  ["namespace", "base_class", "roots", "entity_property_class", "extra_shapes", "hierarchy",
    "load_units", "emit_labels"]

variable {ν : Type}

/-- The settings with one of them read from a value. -/
def set? (r : ValueReader ν) (s : Settings) (name : String) (v : ν) : Option Settings :=
  match name with
  | "namespace" => (r.text? v).map fun x => { s with ns := x }
  | "base_class" => (r.text? v).map fun x => { s with baseClass := x }
  | "roots" => (r.texts? v).map fun x => { s with roots := x }
  | "entity_property_class" => (r.text? v).map fun x => { s with entityPropertyClass := x }
  | "extra_shapes" => (r.texts? v).map fun x => { s with extraShapes := x }
  | "hierarchy" => (r.policy? v).map fun x => { s with hierarchy := x }
  | "load_units" => (r.boolean? v).map fun x => { s with loadUnits := x }
  | "emit_labels" => (r.boolean? v).map fun x => { s with emitLabels := x }
  | _ => none

/-- The settings with some of them read from named values. -/
def setAll? (r : ValueReader ν) (s : Settings) : List (String × ν) → Option Settings
  | [] => some s
  | (name, v) :: more => (s.set? r name v).bind fun s => setAll? r s more

def ofMembers? (r : ValueReader ν) (members : List (String × ν)) : Option Settings :=
  if (members.map Prod.fst).Nodup then standard.setAll? r members else none

def ofElements? (r : ValueReader ν) (elements : List ν) : Option Settings :=
  if elements.length ≤ names.length then standard.setAll? r (names.zip elements) else none

/-- How JSON values are read. A policy may also be written as an object with null under its name. -/
def jsonReader : ValueReader Json.Value where
  text? := Json.Value.text?
  texts? := Json.Value.texts?
  boolean? := Json.Value.boolean?
  policy?
    | .string name => HierarchyPolicy.ofName? name
    | .object [(name, .null)] => HierarchyPolicy.ofName? name
    | _ => none

def ofJson? : Json.Value → Option Settings
  | .object members => ofMembers? jsonReader members
  | .array elements => ofElements? jsonReader elements
  | _ => none

def json (s : Settings) : Json.Value :=
  .object [
    ("namespace", .string s.ns), ("base_class", .string s.baseClass), ("roots", .ofTexts s.roots),
    ("entity_property_class", .string s.entityPropertyClass),
    ("extra_shapes", .ofTexts s.extraShapes), ("hierarchy", .string s.hierarchy.name),
    ("load_units", .boolean s.loadUnits), ("emit_labels", .boolean s.emitLabels)]

end BuildingModel.Settings
