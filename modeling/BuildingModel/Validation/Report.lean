import BuildingModel.Rdf.Vocabulary

/-!
# Validation reports

A report lists results, each with a severity. Data conform if no result is a violation.
-/
namespace BuildingModel.Validation

open BuildingModel.Rdf

/-- How grave a result is. -/
inductive Severity
  | info
  | warning
  | violation
  deriving DecidableEq, Repr

namespace Severity

def name : Severity → String
  | .info => "Info"
  | .warning => "Warning"
  | .violation => "Violation"

def iri (s : Severity) : Iri := inNamespace Shacl.namespaceText s.name

/-- The severity of an IRI; an unknown one is a violation. -/
def ofIri (i : Iri) : Severity :=
  if i = info.iri then .info else if i = warning.iri then .warning else .violation

def rank : Severity → Nat
  | .info => 0
  | .warning => 1
  | .violation => 2

theorem ofIri_iri (s : Severity) : ofIri s.iri = s := by
  cases s <;> decide +kernel

end Severity

/-- One finding about a focus node. -/
structure Result where
  focusNode : String
  path : Option String
  value : Option String
  message : String
  severity : Severity
  shape : String
  constraint : Option String
  deriving DecidableEq, Repr

def Result.text (r : Result) : String :=
  "[" ++ r.severity.name ++ "] " ++ r.focusNode ++
    (r.path.map (" " ++ ·)).getD "" ++ (r.value.map (" = " ++ ·)).getD "" ++ ": " ++ r.message ++
    match r.constraint with
    | some c => " (" ++ c ++ ", shape " ++ r.shape ++ ")"
    | none => " (shape " ++ r.shape ++ ")"

structure Report where
  results : List Result
  deriving DecidableEq, Repr

namespace Report

def empty : Report := ⟨[]⟩

def add (r : Report) (x : Result) : Report := ⟨r.results ++ [x]⟩

def ofSeverity (r : Report) (s : Severity) : List Result :=
  r.results.filter (·.severity = s)

def violations (r : Report) : List Result := r.ofSeverity .violation

def warnings (r : Report) : List Result := r.ofSeverity .warning

/-- Whether data that conform so far still do with one more result. -/
def keepsConforming (soFar : Bool) (x : Result) : Bool :=
  if x.severity = .violation then false else soFar

/-- Whether the data conform: at first they do, and one result after another is looked at. -/
def conforms (r : Report) : Bool :=
  r.results.foldl keepsConforming true

def text (r : Report) : String :=
  "Validation Report\nConforms: " ++ (if r.conforms then "true" else "false") ++ "\nResults (" ++
    Nat.repr r.results.length ++ "):" ++ String.join (r.results.map fun x => "\n  " ++ x.text)

theorem foldl_keepsConforming (xs : List Result) (soFar : Bool) :
    xs.foldl keepsConforming soFar = true ↔
      soFar = true ∧ ∀ x ∈ xs, x.severity ≠ .violation := by
  induction xs generalizing soFar with
  | nil => simp
  | cons x xs ih =>
    rw [List.foldl_cons, ih, keepsConforming]
    by_cases hx : x.severity = .violation <;> simp [hx]

theorem conforms_iff {r : Report} :
    r.conforms = true ↔ ∀ x ∈ r.results, x.severity ≠ .violation := by
  simp [conforms, foldl_keepsConforming]

end Report

end BuildingModel.Validation
