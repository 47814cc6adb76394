import BuildingModel.Ontology.Solution

/-!
# Rows of answers

The answers of the fixed queries as records. Decoding the answers of a query is all or nothing: if
some cannot be decoded, each of those is reported with its place.
-/
namespace BuildingModel.Ontology

open BuildingModel.Rdf

structure SubclassRow where
  iri : Iri
  label : Option String
  definition : Option String
  deriving DecidableEq, Repr

/-- A property with its declared domain and range. -/
structure RelationshipRow where
  property : Iri
  domain : Option Iri
  range : Option Iri
  deriving DecidableEq, Repr

/-- Instances of a target class may point along a path at instances of the allowed class. -/
structure ShapeRelationRow where
  path : Iri
  targetClass : Iri
  allowed : Iri
  deriving DecidableEq, Repr

/-- A property shape with the head of its list of members. -/
structure PropertyRow where
  path : Iri
  members : Option Term
  datatype : Option Iri
  allowed : Option Iri
  minCount : Option Int
  deriving DecidableEq, Repr

structure UnitRow where
  iri : Iri
  label : String
  symbol : Option String
  expression : Option String
  description : Option String
  deriving DecidableEq, Repr

def SubclassRow.decode (s : Solution) : Except BindingError SubclassRow := do
  let iri ← s.iri "class"
  return ⟨iri, s.text? "label", s.text? "defn"⟩

/-- Reads a relationship; a domain or range that is no IRI counts as absent. -/
def RelationshipRow.decode (s : Solution) : Except BindingError RelationshipRow := do
  let property ← s.iri "prop"
  return ⟨property, s.iri? "dom", s.iri? "rng"⟩

def ShapeRelationRow.decode (s : Solution) : Except BindingError ShapeRelationRow := do
  let path ← s.iri "path"
  let targetClass ← s.iri "cls"
  let allowed ← s.iri "allowed"
  return ⟨path, targetClass, allowed⟩

/-- The answer that binds just the columns of a row. -/
def ShapeRelationRow.answer (r : ShapeRelationRow) : Solution :=
  ⟨[("path", .iri r.path), ("cls", .iri r.targetClass), ("allowed", .iri r.allowed)]⟩

theorem ShapeRelationRow.decode_answer (r : ShapeRelationRow) : decode r.answer = .ok r := rfl

def PropertyRow.decode (s : Solution) : Except BindingError PropertyRow := do
  let path ← s.iri "path"
  let minCount ← s.integer? "min"
  return ⟨path, s.term? "list", s.iri? "datatype", s.iri? "class", minCount⟩

/-- Reads a unit; the label is asked for first. -/
def UnitRow.decode (s : Solution) : Except BindingError UnitRow := do
  let label ← s.text "label"
  let iri ← s.iri "unit"
  return ⟨iri, label, s.text? "symbol", s.text? "expr", s.text? "defn"⟩

/-- An answer that could not be decoded. -/
structure RowFault where
  row : Nat
  error : BindingError
  deriving DecidableEq, Repr

def RowFault.message (f : RowFault) : String :=
  "Row " ++ Nat.repr f.row ++ ": Binding error: " ++ f.error.message

def faultsMessage (faults : List RowFault) : String :=
  "Multiple errors occurred:\n" ++ "\n".intercalate (faults.map RowFault.message)

variable {α : Type}

/-- The answers that cannot be decoded, in order, counted from `first`. -/
def rowFaults (decode : Solution → Except BindingError α) (first : Nat) :
    List Solution → List RowFault
  | [] => []
  | s :: ss =>
    match decode s with
    | .ok _ => rowFaults decode (first + 1) ss
    | .error e => ⟨first, e⟩ :: rowFaults decode (first + 1) ss

/-- Decodes all answers, or reports all that cannot be decoded. -/
def decodeAll (decode : Solution → Except BindingError α) (answers : List Solution) :
    Except (List RowFault) (List α) :=
  match rowFaults decode 0 answers with
  | [] => .ok (answers.filterMap fun s => (decode s).toOption)
  | faults => .error faults

theorem rowFaults_map_eq_nil {β : Type} {decode : Solution → Except BindingError α}
    {answer : β → Solution} {row : β → α} (h : ∀ b, decode (answer b) = .ok (row b)) (bs : List β)
    (first : Nat) : rowFaults decode first (bs.map answer) = [] := by
  induction bs generalizing first with
  | nil => rfl
  | cons b bs ih => rw [List.map_cons, rowFaults, h b, ih]

/-- Answers that are made to be decoded are decoded into what they are made for. -/
theorem decodeAll_map {β : Type} {decode : Solution → Except BindingError α}
    {answer : β → Solution} {row : β → α} (h : ∀ b, decode (answer b) = .ok (row b))
    (bs : List β) : decodeAll decode (bs.map answer) = .ok (bs.map row) := by
  have hdecode : (fun s => (decode s).toOption) ∘ answer = some ∘ row := by
    funext b
    rw [Function.comp_apply, h b]
    rfl
  rw [decodeAll, rowFaults_map_eq_nil h, List.filterMap_map, hdecode, List.filterMap_eq_map]

end BuildingModel.Ontology
