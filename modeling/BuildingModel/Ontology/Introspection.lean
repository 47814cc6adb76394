import BuildingModel.Closure
import BuildingModel.Distinct
import BuildingModel.Ontology.Row
import BuildingModel.Ontology.TermOrder
import BuildingModel.Rdf.Collection

/-!
# Introspection

The fixed questions that a schema asks of an ontology. They read the default graph, apart from the
elements of collections, which are read from all graphs. Their answers are in order, so that they
depend on the statements alone and not on the order in which these were entered.
-/
namespace BuildingModel.Rdf.Dataset

open BuildingModel.Ontology

/-- The values of an optional column; without any the column is absent. -/
def orAbsent {α : Type} (xs : List α) : List (Option α) :=
  if xs.isEmpty then [none] else xs.map some

/-- A binding of a variable, if there is a term to bind it to. -/
def bound (v : String) (t : Option Term) : List (String × Term) :=
  (t.map fun t => (v, t)).toList

/-- The IRIs that the default graph declares as immediate subclasses of a class, in order. -/
def subclassIris (d : Dataset) (parent : Iri) : List Iri :=
  sortIris (distinct ((d.defaultSubjects Vocabulary.subClassOf (.iri parent)).filterMap
    fun n => n.term.iri?))

/-- A subclass with one of its labels and one of its definitions, if it has any. -/
structure LabelledSubclass where
  iri : Iri
  label : Option Term
  definition : Option Term

namespace LabelledSubclass

def answer (x : LabelledSubclass) : Solution :=
  ⟨("class", .iri x.iri) :: (bound "label" x.label ++ bound "defn" x.definition)⟩

/-- The row of that answer: labels and definitions are literals, or they are passed over. -/
def row (x : LabelledSubclass) : SubclassRow :=
  ⟨x.iri, (x.label.bind Term.literal?).map Literal.text,
    (x.definition.bind Term.literal?).map Literal.text⟩

theorem decode_answer (x : LabelledSubclass) : SubclassRow.decode x.answer = .ok x.row := by
  obtain ⟨iri, label, definition⟩ := x
  cases label <;> cases definition <;> rfl

end LabelledSubclass

/-- The immediate subclasses of a class in order, each with each pair of its labels and
definitions. -/
def labelledSubclasses (d : Dataset) (parent : Iri) : List LabelledSubclass :=
  (d.subclassIris parent).flatMap fun c =>
    (orAbsent (sortTerms (d.defaultObjects (.iri c) Vocabulary.label))).flatMap fun label =>
      (orAbsent (sortTerms (d.defaultObjects (.iri c) Vocabulary.definition))).map fun definition =>
        ⟨c, label, definition⟩

/-- The answers on the immediate subclasses of a class. -/
def subclassAnswers (d : Dataset) (parent : Iri) : List Solution :=
  (d.labelledSubclasses parent).map LabelledSubclass.answer

theorem decodeAll_subclassAnswers (d : Dataset) (parent : Iri) :
    decodeAll SubclassRow.decode (d.subclassAnswers parent) =
      .ok ((d.labelledSubclasses parent).map LabelledSubclass.row) :=
  decodeAll_map LabelledSubclass.decode_answer _

/-- The immediate subclasses of a class, each by the first of its rows. That an answer on them
cannot be decoded does not happen. -/
def subclasses (d : Dataset) (parent : Iri) : List SubclassRow :=
  match h : decodeAll SubclassRow.decode (d.subclassAnswers parent) with
  | .ok rows => firstPer SubclassRow.iri rows
  | .error _ => nomatch (d.decodeAll_subclassAnswers parent).symm.trans h

/-- The text of the least object of a subject and a predicate, if that is a literal. -/
def leastText? (d : Dataset) (s : Iri) (p : Iri) : Option String :=
  ((sortTerms (d.defaultObjects (.iri s) p)).head?.bind Term.literal?).map Literal.text

theorem orAbsent_eq_cons {α : Type} (xs : List α) :
    orAbsent xs = xs.head? :: xs.tail.map some := by
  cases xs <;> rfl

/-- The first row of a subclass has its least label and its least definition. -/
theorem subclasses_eq_map (d : Dataset) (parent : Iri) :
    d.subclasses parent = (d.subclassIris parent).map fun c =>
      ⟨c, d.leastText? c Vocabulary.label, d.leastText? c Vocabulary.definition⟩ := by
  have hrows : d.subclasses parent =
      firstPer SubclassRow.iri ((d.labelledSubclasses parent).map LabelledSubclass.row) := by
    unfold subclasses
    split
    · rename_i rows h
      rw [Except.ok.inj ((d.decodeAll_subclassAnswers parent).symm.trans h)]
    · rename_i faults h
      cases (d.decodeAll_subclassAnswers parent).symm.trans h
  have hnodup : (d.subclassIris parent).Nodup :=
    (List.mergeSort_perm _ _).nodup_iff.2 (nodup_distinct _)
  rw [hrows, labelledSubclasses, List.map_flatMap]
  refine firstPer_flatMap hnodup ?_ ?_
  · intro c r hr
    simp only [List.map_flatMap, List.map_map, List.mem_flatMap, List.mem_map] at hr
    obtain ⟨label, -, definition, -, rfl⟩ := hr
    rfl
  · intro c
    simp [orAbsent_eq_cons, LabelledSubclass.row, leastText?]

/-- Each instance of a class with each pair of its domains and ranges, as answers. -/
def typedProperties (d : Dataset) (typeClass : Iri) : List Solution :=
  (sortNodes (d.defaultSubjects Vocabulary.type (.iri typeClass))).flatMap fun property =>
    (orAbsent (sortTerms (d.defaultObjects property Vocabulary.domain))).flatMap fun domain =>
      (orAbsent (sortTerms (d.defaultObjects property Vocabulary.range))).map fun range =>
        ⟨("prop", property.term) :: (bound "dom" domain ++ bound "rng" range)⟩

/-- The properties between objects, with their domains and ranges. -/
def relationships (d : Dataset) : Except (List RowFault) (List RelationshipRow) :=
  decodeAll RelationshipRow.decode (d.typedProperties Vocabulary.objectProperty)

/-- The instances of a class of properties, with their domains and ranges. -/
def entityProperties (d : Dataset) (typeClass : Iri) :
    Except (List RowFault) (List RelationshipRow) :=
  decodeAll RelationshipRow.decode (d.typedProperties typeClass)

/-- The objects of a term in the default graph; a literal has none. -/
def objectsOfTerm (d : Dataset) (t : Term) (p : Iri) : List Term :=
  match t.node? with
  | some n => d.defaultObjects n p
  | none => []

theorem mem_map_object_of_objectsOfTerm {d : Dataset} {t u : Term} {p : Iri}
    (hu : u ∈ d.objectsOfTerm t p) : u ∈ d.quads.map fun q => q.object := by
  unfold objectsOfTerm at hu
  cases hn : t.node? with
  | none => simp [hn] at hu
  | some n =>
    rw [hn] at hu
    exact List.mem_map.2 ⟨_, mem_quads.2 (mem_defaultObjects.1 hu), rfl⟩

/-- The steps from the cells of lists to the rests behind them. -/
def restSteps (d : Dataset) : Steps Term where
  next t := d.objectsOfTerm t Vocabulary.rest
  targets := d.quads.map fun q => q.object
  mem_targets := mem_map_object_of_objectsOfTerm

/-- The classes that a property shape names, directly or as alternatives. -/
def allowedClasses (d : Dataset) (property : Term) : List Term :=
  d.objectsOfTerm property Shacl.class ++
    (d.objectsOfTerm property Shacl.alternatives).flatMap fun head =>
      (d.restSteps.reached head).flatMap fun cell =>
        (d.objectsOfTerm cell Vocabulary.first).flatMap fun member =>
          d.objectsOfTerm member Shacl.class

/-- Whether a row comes no later than another by path, target class and allowed class. -/
def shapeRelationLe (a b : ShapeRelationRow) : Bool :=
  textsLe [a.path.text, a.targetClass.text, a.allowed.text]
    [b.path.text, b.targetClass.text, b.allowed.text]

/-- What the node shapes say of relations, each row once. -/
def shapeRelations (d : Dataset) : List ShapeRelationRow :=
  (distinct ((d.defaultSubjects Vocabulary.type (.iri Shacl.nodeShape)).flatMap fun shape =>
    ((d.defaultObjects shape Shacl.targetClass).filterMap Term.iri?).flatMap fun targetClass =>
      (d.defaultObjects shape Shacl.property).flatMap fun property =>
        ((d.objectsOfTerm property Shacl.path).filterMap Term.iri?).flatMap fun path =>
          ((d.allowedClasses property).filterMap Term.iri?).map fun allowed =>
            ⟨path, targetClass, allowed⟩)).mergeSort shapeRelationLe

/-- What the node shapes say of relations, as answers. -/
def shapeRelationAnswers (d : Dataset) : List Solution :=
  d.shapeRelations.map ShapeRelationRow.answer

theorem decodeAll_shapeRelationAnswers (d : Dataset) :
    decodeAll ShapeRelationRow.decode d.shapeRelationAnswers = .ok d.shapeRelations := by
  have hdecoded := decodeAll_map ShapeRelationRow.decode_answer d.shapeRelations
  rwa [List.map_id'] at hdecoded

def isNodeShape (d : Dataset) (shape : Iri) : Bool :=
  decide ((⟨.iri shape, Vocabulary.type, .iri Shacl.nodeShape⟩ : Triple).inDefault ∈ d)

/-- The node shapes that some instance of a class of properties ranges over, in order. -/
def entityPropertyShapes (d : Dataset) (typeClass : Iri) : List Iri :=
  sortIris (distinct (((d.defaultSubjects Vocabulary.type (.iri typeClass)).flatMap fun property =>
    (d.defaultObjects property Vocabulary.range).filterMap Term.iri?).filter d.isNodeShape))

/-- The property shapes of a shape as answers, in the order in which they are read. -/
def propertyAnswers (d : Dataset) (shape : Iri) : List Solution :=
  (d.defaultObjects (.iri shape) Shacl.property).flatMap fun property =>
    ((d.objectsOfTerm property Shacl.path).filterMap Term.iri?).flatMap fun path =>
      (orAbsent (d.objectsOfTerm property Shacl.members)).flatMap fun list =>
        (orAbsent (d.objectsOfTerm property Shacl.datatype)).flatMap fun datatype =>
          (orAbsent (d.objectsOfTerm property Shacl.class)).flatMap fun allowed =>
            (orAbsent (d.objectsOfTerm property Shacl.minCount)).map fun least =>
              ⟨("path", .iri path) :: (bound "list" list ++ bound "datatype" datatype ++
                bound "class" allowed ++ bound "min" least)⟩

/-- The columns that property shapes are sorted by. -/
def propertyColumns (s : Solution) : List (Option Term) :=
  ["path", "class", "datatype", "min"].map s.term?

/-- The property shapes of a shape, sorted by path, class, datatype and least count. -/
def propertyRows (d : Dataset) (shape : Iri) : Except (List RowFault) (List PropertyRow) :=
  decodeAll PropertyRow.decode ((d.propertyAnswers shape).mergeSort fun a b =>
    columnsLe (propertyColumns a) (propertyColumns b))

/-- Every labelled unit as answers, sorted by unit and label. -/
def unitAnswers (d : Dataset) : List Solution :=
  (sortIris ((d.defaultSubjects Vocabulary.type (.iri Vocabulary.unit)).filterMap
    fun n => n.term.iri?)).flatMap fun unit =>
    (sortTerms (d.defaultObjects (.iri unit) Vocabulary.label)).flatMap fun label =>
      (orAbsent (d.defaultObjects (.iri unit) Vocabulary.symbol)).flatMap fun symbol =>
        (orAbsent (d.defaultObjects (.iri unit) Vocabulary.expression)).flatMap fun expression =>
          (orAbsent (d.defaultObjects (.iri unit) Vocabulary.description)).map fun description =>
            ⟨[("unit", .iri unit), ("label", label)] ++ bound "symbol" symbol ++
              bound "expr" expression ++ bound "defn" description⟩

/-- The labelled units, each once. -/
def unitRows (d : Dataset) : Except (List RowFault) (List UnitRow) :=
  (decodeAll UnitRow.decode d.unitAnswers).map (firstPer UnitRow.iri)

end BuildingModel.Rdf.Dataset
