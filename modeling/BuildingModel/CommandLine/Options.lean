/-!
# Options of the command line

Options have a name and a form, which says what follows them. Some may be given by the environment
instead, and those that all commands share may stand before the command or behind it.
-/
namespace BuildingModel.CommandLine

inductive Switch
  | config
  | ontology
  | units
  | ns
  | extraShape
  | strictHierarchy
  | noUnits
  | className
  | json
  | data
  | help
  | version
  deriving DecidableEq, Repr

/-- What follows an option: a path, paths between commas, any text, or nothing. Paths between commas
and repeated texts may be given again and again. An option that shows something ends the reading. -/
inductive Form
  | path
  | paths
  | text
  | texts
  | flag
  | notice
  deriving DecidableEq, Repr

namespace Switch

/-- The name behind two hyphens. -/
def name : Switch → String
  | .config => "config"
  | .ontology => "ontology"
  | .units => "units"
  | .ns => "namespace"
  | .extraShape => "extra-shape"
  | .strictHierarchy => "strict-hierarchy"
  | .noUnits => "no-units"
  | .className => "class"
  | .json => "json"
  | .data => "data"
  | .help => "help"
  | .version => "version"

def form : Switch → Form
  | .config | .data => .path
  | .ontology | .units => .paths
  | .ns | .className => .text
  | .extraShape => .texts
  | .strictHierarchy | .noUnits | .json => .flag
  | .help | .version => .notice

/-- The letter behind one hyphen that may stand for the option. -/
def letter? : Switch → Option Char
  | .help => some 'h'
  | .version => some 'V'
  | _ => none

/-- The variable of the environment that may give the option. -/
def environmentName? : Switch → Option String
  | .ontology => some "BRICK_MASON_ONTOLOGY"
  | .units => some "BRICK_MASON_UNITS"
  | .ns => some "BRICK_MASON_NAMESPACE"
  | _ => none

/-- The options of all commands. -/
def shared : List Switch :=
  [.config, .ontology, .units, .ns, .extraShape, .strictHierarchy, .noUnits]

end Switch

namespace Form

/-- Whether an option of this form may be repeated. -/
def isRepeatable : Form → Bool
  | .paths | .texts => true
  | _ => false

/-- The values that a text gives; a path is not empty. -/
def values? : Form → String → Option (List String)
  | .path, v => if v.isEmpty then none else some [v]
  | .paths, v =>
    let vs := (v.toList.splitOn ',').map String.ofList
    if vs.any String.isEmpty then none else some vs
  | .text, v | .texts, v => some [v]
  | .flag, _ | .notice, _ => none

end Form

abbrev Values := List (Switch × List String)

namespace Values

/-- The values with those of one more use of an option. -/
def enter? (vs : Values) (s : Switch) (more : List String) : Option Values :=
  match vs.lookup s with
  | none => some (vs ++ [(s, more)])
  | some _ =>
    if s.form.isRepeatable then
      some (vs.map fun (t, ws) => if t = s then (t, ws ++ more) else (t, ws))
    else none

def ofEnvironment? (env : String → Option String) : Option Values :=
  (Switch.shared.filterMap fun s => (s.environmentName?.bind env).map (s, ·)).mapM
    fun (s, v) => (s.form.values? v).map (s, ·)

/-- The values of an option in the first place that has any. -/
def first? (places : List Values) (s : Switch) : Option (List String) :=
  places.findSome? (·.lookup s)

end Values

end BuildingModel.CommandLine
