import BuildingModel.CommandLine.Options
import BuildingModel.Settings.File

/-!
# Arguments

What the words of a command line ask for. Options are read from left to right, and a faulty value
counts when the next option is read or the words end. So a command that shows help comes before it.
-/
namespace BuildingModel.CommandLine

inductive Command
  | inspect (className : Option String) (json : Bool)
  | validate (data : String)
  deriving DecidableEq, Repr

/-- What the words of a command line ask for. -/
structure Arguments where
  configFile : Option String
  ontologies : List String
  units : List String
  ns : Option String
  extraShapes : List String
  strictHierarchy : Bool
  noUnits : Bool
  command : Command
  deriving DecidableEq, Repr

/-- Why there is nothing to do. Help is shown also where nothing was asked for. -/
inductive Refusal
  | usage
  | help (asked : Bool)
  | version
  deriving DecidableEq, Repr

def Refusal.exitCode : Refusal → Nat
  | .usage | .help false => 2
  | .help true | .version => 0

/-- The options and commands that words are read by. -/
structure Scope where
  switches : List Switch
  commands : List String

namespace Scope

/-- What stands before a command. -/
def top : Scope := ⟨Switch.shared ++ [.help, .version], ["inspect", "validate", "help"]⟩

/-- What stands behind the command to inspect. -/
def inspect : Scope := ⟨Switch.shared ++ [.className, .json, .help], []⟩

/-- What stands behind the command to validate. -/
def validate : Scope := ⟨Switch.shared ++ [.data, .help], []⟩

/-- The option of a word and the value attached to it. -/
def switch? (s : Scope) (word : String) : Option (Switch × Option String) :=
  match word.toList with
  | '-' :: '-' :: cs =>
    let name := String.ofList (cs.takeWhile (· != '='))
    let value :=
      match cs.dropWhile (· != '=') with
      | _ :: v => some (String.ofList v)
      | [] => none
    (s.switches.find? (·.name = name)).map (·, value)
  | '-' :: c :: _ => (s.switches.find? (·.letter? = some c)).map (·, none)
  | _ => none

end Scope

/-- Whether a word cannot be the value of an option. -/
def isOptionLike (word : String) : Bool :=
  word.startsWith "-" && word != "-"

/-- What has been read: the values of options, and whether the last value was faulty. -/
structure Progress where
  values : Values
  faulty : Bool

namespace Progress

def start : Progress := ⟨[], false⟩

/-- Enters the values of an option, if there are any. -/
def enter (p : Progress) (s : Switch) (values : Option (List String)) : Progress :=
  match values.bind (p.values.enter? s) with
  | some vs => ⟨vs, p.faulty⟩
  | none => { p with faulty := true }

/-- The same, unless something is faulty. -/
def sound (p : Progress) : Except Refusal Progress :=
  if p.faulty then .error .usage else .ok p

end Progress

/-- What shows an option instead of reading on. -/
def Switch.notice : Switch → Refusal
  | .version => .version
  | _ => .help true

/-- Reads the words up to a command, and gives it with the words behind it. -/
def scan (s : Scope) : List String → Progress →
    Except Refusal (Progress × Option (String × List String))
  | [], p => .ok (p, none)
  | word :: rest, p =>
    if s.commands.contains word then .ok (p, some (word, rest))
    else if word = "--" then if rest.isEmpty then .ok (p, none) else .error .usage
    else do
      let p ← p.sound
      match s.switch? word, rest with
      | none, _ => .error .usage
      | some (o, attached), rest =>
        match o.form, attached, rest with
        | .notice, none, _ => .error o.notice
        | .flag, none, rest => scan s rest (← (p.enter o (some [])).sound)
        | form, some v, rest => scan s rest (← (p.enter o (form.values? v)).sound)
        | form, none, v :: more =>
          if isOptionLike v then .error .usage else scan s more (p.enter o (form.values? v))
        | _, none, [] => .error .usage

/-- What the command that shows help answers: it may name one command. -/
def helpOn (words : List String) : Refusal :=
  match words with
  | [] => .help true
  | [word] => if Scope.top.commands.contains word then .help true else .usage
  | _ => .usage

/-- Reads the words behind a command, which end with it. -/
def scanCommand (s : Scope) (words : List String) (env : String → Option String) :
    Except Refusal Values := do
  let (p, _) ← scan s words .start
  let p ← p.sound
  if (Values.ofEnvironment? env).isNone then .error .usage else .ok p.values

namespace Arguments

def ofValues (places : List Values) (command : Command) : Arguments :=
  let first (s : Switch) : Option (List String) := Values.first? places s
  let text? (s : Switch) : Option String := (first s).bind List.head?
  { configFile := text? .config
    ontologies := (first .ontology).getD []
    units := (first .units).getD []
    ns := text? .ns
    extraShapes := (first .extraShape).getD []
    strictHierarchy := (first .strictHierarchy).isSome
    noUnits := (first .noUnits).isSome
    command }

/-- The command that values behind its name give. -/
def command? (name : String) (own : Values) : Option Command :=
  if name = "inspect" then
    some (.inspect ((own.lookup .className).bind List.head?) (own.lookup .json).isSome)
  else ((own.lookup .data).bind List.head?).map Command.validate

/-- What words ask for in an environment. Values behind the command come before those in front of
it, and these before the environment. -/
def parse (env : String → Option String) (words : List String) : Except Refusal Arguments := do
  let (p, found) ← scan .top words .start
  match found with
  | some ("help", rest) => .error (helpOn rest)
  | some (name, rest) =>
    let own ← scanCommand (if name = "inspect" then .inspect else .validate) rest env
    let p ← p.sound
    match Values.ofEnvironment? env, command? name own with
    | some given, some command => .ok (ofValues [own, p.values, given] command)
    | _, _ => .error .usage
  | none =>
    let p ← p.sound
    match Values.ofEnvironment? env with
    | none => .error .usage
    | some given => .error (if p.values.isEmpty && given.isEmpty then .help false else .usage)

def settings (a : Arguments) (files : Files) : Except SettingsError Settings := do
  let s ←
    match a.configFile with
    | some path => Settings.load files path
    | none => .ok .standard
  Settings.checked { s with
    ns := a.ns.getD s.ns
    extraShapes := s.extraShapes ++ a.extraShapes
    hierarchy := if a.strictHierarchy then .strict else s.hierarchy
    loadUnits := s.loadUnits && !a.noUnits }

end Arguments

end BuildingModel.CommandLine
