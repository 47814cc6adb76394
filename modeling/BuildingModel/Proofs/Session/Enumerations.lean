import BuildingModel.Proofs.Graph.Records
import BuildingModel.Proofs.Session.Capabilities
import BuildingModel.Proofs.Shape.Catalog
import BuildingModel.Proofs.Shape.Properties

/-!
# Enumerated fields

A field whose property shape names a list takes members of the list only. The field of units takes
the IRIs among them, and is as free as without a list if there are none.
-/
namespace BuildingModel

open BuildingModel.Rdf BuildingModel.Ontology BuildingModel.Validation

/-- A property shape names a list that has a term for an element. -/
def Enumerates (d : Dataset) (m : Node) (t : Term) : Prop :=
  ∃ head, d.Says m Shacl.members head ∧ d.Listed head t

variable {d : Dataset} {settings : Settings} {schema : Schema} {rows : List ConstraintRow}
  {m : Node} {i p : Iri} {t : Term}

/-- The shapes of a schema are compiled from its ontology, whichever validator it has. -/
theorem Schema.ComesFrom.faithful (hs : schema.ComesFrom d settings) :
    schema.shapes.Faithful d := by
  induction hs with
  | built hb =>
    obtain ⟨_, _, hparts⟩ := parts_of_build hb
    exact ShapeCatalog.faithful_of_build hparts.shapes
  | withValidator _ _ ih => exact ih

theorem SoleOnPath.mem_values_iff_enumerates {s : Iri} (h : SoleOnPath d s m p)
    (hrows : ShapeCatalog.shapeConstraints d s = .ok rows)
    (hlists : ∀ head, d.Says m Shacl.members head → d.Linear head) :
    t ∈ (PathDraft.ofRows rows p).values ↔ Enumerates d m t := by
  rw [h.mem_values_iff hrows]
  exact exists_congr fun head => and_congr_right fun hhead =>
    Dataset.mem_members_iff (hlists head hhead)

/-! ## What a path with a list admits -/

section Draft

variable {draft : PathDraft} {s : Session schema}

theorem mem_units_iff (hvalues : ∀ t, t ∈ draft.values ↔ Enumerates d m t) :
    i ∈ draft.values.filterMap Term.iri? ↔ Enumerates d m (.iri i) := by
  simp [List.mem_filterMap, Term.iri?_eq_some_iff, hvalues]

/-- What a field admits is on a list, if there are units on the lists of the field of units. -/
theorem exists_enumerates_of_admissible (hvalues : ∀ t, t ∈ draft.values ↔ Enumerates d m t)
    (ht : Enumerates d m t)
    (hunit : draft.path.name = "hasUnit" → ∃ i, Enumerates d m (.iri i)) {v : FieldValue}
    (hv : s.Admissible draft.field.kind v) : ∃ t, v = .term t ∧ Enumerates d m t := by
  rw [PathDraft.kind_field] at hv
  by_cases hname : draft.path.name = "hasUnit"
  · rw [PathDraft.kind_of_unit hname] at hv
    cases hv with
    | @unit _ i hi =>
      obtain ⟨j, hj⟩ := hunit hname
      have hmem := hi.resolve_left (List.ne_nil_of_mem ((mem_units_iff hvalues).2 hj))
      exact ⟨.iri i, rfl, (mem_units_iff hvalues).1 hmem⟩
  · rw [PathDraft.kind_of_values hname (List.ne_nil_of_mem ((hvalues t).2 ht))] at hv
    cases hv with
    | member hmem => exact ⟨_, rfl, (hvalues _).1 hmem⟩

/-- An IRI is accepted if it is on a list, and in place of a unit also if no IRI is. -/
theorem fieldValue_unit_iff (hvalues : ∀ t, t ∈ draft.values ↔ Enumerates d m t)
    (ht : Enumerates d m t) {shapeName : String} :
    s.fieldValue shapeName draft.field (.unit i) = .ok (.term (.iri i)) ↔
      Enumerates d m (.iri i) ∨
        draft.path.name = "hasUnit" ∧ ∀ j, ¬ Enumerates d m (.iri j) := by
  -- The field of units knows the IRIs of the list only, other fields the whole of it.
  by_cases hname : draft.path.name = "hasUnit"
  · have hopen : draft.values.filterMap Term.iri? = [] ↔ ∀ j, ¬ Enumerates d m (.iri j) := by
      rw [List.eq_nil_iff_forall_not_mem]
      exact forall_congr' fun j => not_congr (mem_units_iff hvalues)
    simp only [Session.fieldValue, PathDraft.kind_field, PathDraft.kind_of_unit hname,
      Session.unitOf]
    rw [← mem_units_iff hvalues, ← hopen, and_iff_right hname]
    generalize draft.values.filterMap Term.iri? = allowed
    by_cases hi : i ∈ allowed
    · simp [hi, bind, Except.bind, pure, Except.pure]
    · by_cases hnil : allowed = []
      · simp [hnil, bind, Except.bind, pure, Except.pure]
      · simp [hi, hnil, bind, Except.bind]
  · have hne : draft.values ≠ [] := List.ne_nil_of_mem ((hvalues t).2 ht)
    have hmatch : draft.values.find? (memberMatches · (.unit i)) = some (.iri i) ↔
        .iri i ∈ draft.values := by
      have hkey : draft.values.find? (id · = Term.iri i) = some (.iri i) ↔
          .iri i ∈ draft.values ∧ id (Term.iri i) = .iri i :=
        find?_eq_some_iff_of_inj fun _ _ _ _ heq => heq
      simpa [memberMatches] using hkey
    simp only [Session.fieldValue, PathDraft.kind_field, PathDraft.kind_of_values hname hne]
    rw [or_iff_left (fun h => hname h.1), ← hvalues, ← hmatch]
    cases hfound : draft.values.find? (memberMatches · (.unit i)) with
    | none => simp
    | some x => simp

end Draft

/-- Where the property shape of a field names a list with elements, the field of every record that
is built has one of them for a value if it has a value at all. For the field of units this takes an
IRI among the elements. If there is none, the field takes every IRI; apart from that IRIs are taken
just if they are elements. -/
theorem enumerated_field_closed {shapeId : ShapeId} {shape : RecordShape} {f : Field}
    (hs : schema.ComesFrom d settings) (hshape : schema.shapes.get? shapeId = some shape)
    (hf : f ∈ shape.fields) (hm : SoleOnPath d shape.iri m f.path)
    (hlists : ∀ head, d.Says m Shacl.members head → d.Linear head) (ht : Enumerates d m t)
    (number : ℕ) (rs : List Request) :
    ((f.name = "hasUnit" → ∃ i, Enumerates d m (.iri i)) →
      ∀ id r v, ((Session.start schema number).run rs).IsRecord id r → r.shape = shapeId →
        r.get? f.name = some v → ∃ t, v = .term t ∧ Enumerates d m t) ∧
    ∀ i, ((Session.start schema number).run rs).fieldValue shape.name f (.unit i) =
        .ok (.term (.iri i)) ↔
      Enumerates d m (.iri i) ∨ f.name = "hasUnit" ∧ ∀ j, ¬ Enumerates d m (.iri j) := by
  have hmem : shape ∈ schema.shapes.shapes := List.mem_of_getElem? hshape
  obtain ⟨rows, hrows, hcompiled⟩ := hs.faithful.compiled shape hmem
  have hnames : (shape.fields.map Field.name).Nodup := by
    rw [hcompiled]
    exact nodup_names_ofRows shape.iri rows
  obtain ⟨p, -, rfl⟩ := mem_fields_ofRows_iff.1 (hcompiled ▸ hf)
  have hvalues : ∀ t, t ∈ (PathDraft.ofRows rows p).values ↔ Enumerates d m t :=
    fun t => hm.mem_values_iff_enumerates hrows hlists
  refine ⟨?_, fun i => fieldValue_unit_iff hvalues ht⟩
  rintro hunit id r v hr rfl hv
  have hwell := Session.wellFormed_run (Session.wellFormed_start schema number) rs
  obtain ⟨x, hfills, hentry⟩ := Session.exists_fills hwell hr hshape hnames hf
  exact exists_enumerates_of_admissible hvalues ht hunit
    (hfills.admissible v (hentry.symm.trans hv))

/-! ## Units by name -/

/-- The name of a unit, which is no IRI. -/
def litreName : Term := .literal (.plain "litre")

def litre : Iri := ⟨"urn:b#Litre"⟩

/-- A unit that is on no list. -/
def metre : Iri := ⟨"urn:b#Metre"⟩

/-- What may be on the list: the name of a unit or the unit itself. -/
def litres : List Term := [litreName, .iri litre]

/-- An ontology with a shape of flows, whose unit is to be on a list with one element. -/
def flowStatements (t : Term) : List Triple :=
  [⟨.iri ⟨"urn:b#Flow"⟩, Vocabulary.type, .iri Shacl.nodeShape⟩,
    ⟨.iri ⟨"urn:b#Flow"⟩, Shacl.property, .blank ⟨"p"⟩⟩,
    ⟨.blank ⟨"p"⟩, Shacl.path, .iri ⟨"urn:b#hasUnit"⟩⟩,
    ⟨.blank ⟨"p"⟩, Shacl.members, .blank ⟨"l"⟩⟩,
    ⟨.blank ⟨"l"⟩, Vocabulary.first, t⟩,
    ⟨.blank ⟨"l"⟩, Vocabulary.rest, .iri Vocabulary.nil⟩]

def flowOntology (t : Term) : Dataset := .ofTriples (flowStatements t)

/-- The settings under which the shape of flows is compiled. -/
def flowSettings : Settings :=
  { Settings.standard with
    ns := "urn:b#", roots := [], extraShapes := ["Flow"], loadUnits := false }

/-- The field of units, which allows those on the list. -/
def unitField (t : Term) : Field := ⟨⟨"urn:b#hasUnit"⟩, .unit ([t].filterMap Term.iri?), false⟩

def flowShape (t : Term) : RecordShape := ⟨⟨"urn:b#Flow"⟩, [unitField t]⟩

def unitPropertyShape (t : Term) : PropertyShape :=
  ⟨⟨"urn:b#hasUnit"⟩, none, none, [.members [t]], none, none⟩

def flowNodeShape (t : Term) : NodeShape where
  id := ⟨"urn:b#Flow"⟩
  targetClasses := []
  targetNodes := []
  properties := [unitPropertyShape t]
  severity := .violation

def flowSchema (t : Term) : Schema where
  settings := flowSettings
  hierarchy := .ofClasses [⟨⟨"urn:b#Entity"⟩, some "Entity", none, none, []⟩]
  relations := .ofRelations []
  shapes := .ofShapes [flowShape t]
  units := .empty
  validator := ShapeValidator.graphValidator ⟨flowOntology t, [flowNodeShape t]⟩

section Flow

variable (ht : t ∈ litres)

include ht

theorem cells_flow : (flowOntology t).objects (.blank ⟨"l"⟩) Vocabulary.first = [t] ∧
    (flowOntology t).objects (.blank ⟨"l"⟩) Vocabulary.rest = [.iri Vocabulary.nil] := by
  revert t
  decide

theorem members_flow : (flowOntology t).members (.blank ⟨"l"⟩) = [t] := by
  obtain ⟨hfirst, hrest⟩ := cells_flow ht
  have hlist : (flowOntology t).Collects (Node.blank ⟨"l"⟩).term [t] :=
    .of_objects_eq (by decide) hfirst hrest .nil
  exact hlist.members_eq

theorem linear_flow : (flowOntology t).Linear (.blank ⟨"l"⟩) := by
  obtain ⟨hfirst, hrest⟩ := cells_flow ht
  intro n hn
  have hcell : n = .blank ⟨"l"⟩ := by
    rcases (Dataset.cell_iff (n := .blank ⟨"l"⟩) (by decide)).1 hn with rfl | ⟨next, hnext, hcell⟩
    · rfl
    · rw [hrest, List.mem_singleton] at hnext
      exact absurd (hnext ▸ hcell) Dataset.not_cell_nil
  rw [hcell, Dataset.AtMostOne, Dataset.AtMostOne, hfirst, hrest]
  simp

theorem loadProperty_flow :
    loadProperty (flowOntology t) (.blank ⟨"p"⟩) .expressions =
      .ok (some (unitPropertyShape t)) := by
  have helements : elementsOf (flowOntology t) (.blank ⟨"p"⟩) Shacl.members = [t] := by
    have hlist : (flowOntology t).object? (.blank ⟨"p"⟩) Shacl.members = some (.blank ⟨"l"⟩) := by
      revert t
      decide
    rw [elementsOf, hlist]
    exact members_flow ht
  rw [loadProperty, helements]
  simp only [litres, List.mem_cons, List.not_mem_nil, or_false] at ht
  rcases ht with rfl | rfl <;> rfl

theorem loadShapes_flow : loadShapes (flowOntology t) .expressions = .ok [flowNodeShape t] := by
  have hiris : shapeIris (flowOntology t) = [⟨"urn:b#Flow"⟩] := by
    revert t
    decide
  have hnodes : ((flowOntology t).objects (.iri ⟨"urn:b#Flow"⟩) Shacl.property).filterMap
      Term.node? = [.blank ⟨"p"⟩] := by
    revert t
    decide
  have hshape : loadShape (flowOntology t) .expressions ⟨"urn:b#Flow"⟩ = .ok (flowNodeShape t) := by
    rw [loadShape, hnodes, loadProperties, loadProperty_flow ht]
    simp only [litres, List.mem_cons, List.not_mem_nil, or_false] at ht
    rcases ht with rfl | rfl <;> rfl
  rw [loadShapes, hiris, loadShapesOf, hshape]
  simp [loadShapesOf, Except.map, bind, Except.bind, pure, Except.pure]

theorem compile_flow :
    ShapeCatalog.build (flowOntology t) ⟨"urn:b#EntityProperty"⟩ "urn:b#" ["Flow"] =
      .ok (flowSchema t).shapes := by
  have hrows : ShapeCatalog.shapeConstraints (flowOntology t) ⟨"urn:b#Flow"⟩ =
      .ok [⟨⟨"urn:b#hasUnit"⟩, some t, none, none, none⟩] := by
    have hread : (flowOntology t).propertyRows ⟨"urn:b#Flow"⟩ =
        .ok [⟨⟨"urn:b#hasUnit"⟩, some (.blank ⟨"l"⟩), none, none, none⟩] := by
      revert t
      decide +kernel
    rw [ShapeCatalog.shapeConstraints, hread]
    simp [Except.map, ShapeCatalog.constraintRows, members_flow ht, Dataset.orAbsent]
  have hnone : (flowOntology t).entityPropertyShapes ⟨"urn:b#EntityProperty"⟩ = [] := by
    revert t
    decide +kernel
  have hdeclared : (flowOntology t).isNodeShape ⟨"urn:b#Flow"⟩ = true := by
    revert t
    decide +kernel
  have hiri : Iri.parse? (ShapeCatalog.extraText "urn:b#" "Flow") = some ⟨"urn:b#Flow"⟩ := by
    decide
  have hcompiled :
      RecordShape.ofRows ⟨"urn:b#Flow"⟩ [⟨⟨"urn:b#hasUnit"⟩, some t, none, none, none⟩] =
        flowShape t := by
    clear hrows hnone hdeclared
    revert t
    decide +kernel
  have hcompile : ShapeCatalog.compile (flowOntology t) .empty ⟨"urn:b#Flow"⟩ =
      .ok (flowSchema t).shapes := by
    rw [ShapeCatalog.compile, if_neg (by decide), hrows]
    simp only [hcompiled]
    exact congrArg Except.ok (ShapeCatalog.ext rfl)
  have hextra : ShapeCatalog.compileExtra (flowOntology t) "urn:b#" .empty "Flow" =
      .ok (flowSchema t).shapes := by
    rw [ShapeCatalog.compileExtra, hiri]
    exact (if_pos hdeclared).trans hcompile
  rw [ShapeCatalog.build, hnone, List.foldlM_nil]
  simp [hextra, bind, Except.bind, pure, Except.pure]

theorem build_flowSchema : Schema.build (flowOntology t) flowSettings = .ok (flowSchema t) := by
  have hparts : Schema.Parts (flowOntology t) flowSettings .expressions (flowSchema t)
      ⟨"urn:b#EntityProperty"⟩ ⟨flowOntology t, [flowNodeShape t]⟩ := by
    constructor
    · rfl
    · decide
    · have hroots : Hierarchy.withRoots "urn:b#" "Entity" [] = .ok (flowSchema t).hierarchy := by
        revert t
        decide
      refine Hierarchy.build_eq_ok_of_withRoots hroots ?_
      revert t
      decide
    · rfl
    · exact compile_flow ht
    · revert t
      decide +kernel
    · rw [ShapeValidator.ofDataset, loadShapes_flow ht]
      rfl
    · rfl
  exact hparts.build_eq_ok

theorem soleOnPath_flow : SoleOnPath (flowOntology t) ⟨"urn:b#Flow"⟩ (.blank ⟨"p"⟩)
    ⟨"urn:b#hasUnit"⟩ := by
  have hproperties : (flowOntology t).defaultObjects (.iri ⟨"urn:b#Flow"⟩) Shacl.property =
      [.blank ⟨"p"⟩] := by
    revert t
    decide
  constructor
  · revert t
    decide
  · revert t
    decide
  · intro m' hm' _
    have hmem := Dataset.mem_defaultObjects.2 hm'
    rw [hproperties] at hmem
    exact Node.term_injective (List.mem_singleton.1 hmem)

theorem says_members_flow_iff {head : Term} :
    (flowOntology t).Says (.blank ⟨"p"⟩) Shacl.members head ↔ head = .blank ⟨"l"⟩ := by
  have hlists : (flowOntology t).defaultObjects (.blank ⟨"p"⟩) Shacl.members = [.blank ⟨"l"⟩] := by
    revert t
    decide
  rw [Dataset.Says, ← Dataset.mem_defaultObjects, hlists, List.mem_singleton]

theorem enumerates_flow_iff {x : Term} : Enumerates (flowOntology t) (.blank ⟨"p"⟩) x ↔ x = t := by
  simp only [Enumerates, says_members_flow_iff ht, exists_eq_left]
  rw [← Dataset.mem_members_iff (linear_flow ht), members_flow ht, List.mem_singleton]

end Flow

/-- The session in which a flow with a unit is built. -/
def flowSession (t : Term) (unit : Iri) : Session (flowSchema t) :=
  (Session.start (flowSchema t) 0).run [.build "Flow" [⟨"hasUnit", .unit unit⟩]]

def flowRecord (unit : Iri) : Record := ⟨⟨0⟩, [⟨"hasUnit", some (.term (.iri unit))⟩]⟩

/-- Where the list has the litre for an element, a flow that is built has it for its unit, and the
metre is not taken. -/
theorem enumerated_field_closed_of_litre :
    (flowSession (.iri litre) litre).IsRecord ⟨0, 0⟩ (flowRecord litre) ∧
    (∃ x, FieldValue.term (.iri litre) = .term x ∧
      Enumerates (flowOntology (.iri litre)) (.blank ⟨"p"⟩) x) ∧
    ¬ (flowSession (.iri litre) litre).fieldValue "Flow" (unitField (.iri litre)) (.unit metre) =
      .ok (.term (.iri metre)) := by
  have ht : .iri litre ∈ litres := by decide
  have hlists : ∀ head, (flowOntology (.iri litre)).Says (.blank ⟨"p"⟩) Shacl.members head →
      (flowOntology (.iri litre)).Linear head := by
    intro head hhead
    rw [(says_members_flow_iff ht).1 hhead]
    exact linear_flow ht
  have hlitre := (enumerates_flow_iff ht).2 rfl
  have hrecord : (flowSession (.iri litre) litre).IsRecord ⟨0, 0⟩ (flowRecord litre) := by
    constructor <;> decide
  have hshape : (flowSchema (.iri litre)).shapes.get? ⟨0⟩ = some (flowShape (.iri litre)) := rfl
  obtain ⟨hclosed, htaken⟩ := enumerated_field_closed (.built (build_flowSchema ht)) hshape
    List.mem_cons_self (soleOnPath_flow ht) hlists hlitre 0
    [.build "Flow" [⟨"hasUnit", .unit litre⟩]]
  refine ⟨hrecord, hclosed (fun _ => ⟨_, hlitre⟩) _ _ _ hrecord rfl rfl, ?_⟩
  intro hmetre
  rcases (htaken metre).1 hmetre with hlisted | ⟨-, hnone⟩
  · exact absurd ((enumerates_flow_iff ht).1 hlisted) (by decide)
  · exact hnone _ hlitre

/-- Where the list has the name of the litre only, a flow in metres is built. The unit is not on the
list of the property shape, which is the only one on its path. -/
theorem unit_beside_list_taken :
    Schema.build (flowOntology litreName) flowSettings = .ok (flowSchema litreName) ∧
    SoleOnPath (flowOntology litreName) ⟨"urn:b#Flow"⟩ (.blank ⟨"p"⟩) ⟨"urn:b#hasUnit"⟩ ∧
    (flowOntology litreName).Says (.blank ⟨"p"⟩) Shacl.members (.blank ⟨"l"⟩) ∧
    (flowOntology litreName).Linear (.blank ⟨"l"⟩) ∧
    Enumerates (flowOntology litreName) (.blank ⟨"p"⟩) litreName ∧
    ¬ Enumerates (flowOntology litreName) (.blank ⟨"p"⟩) (.iri metre) ∧
    (flowSession litreName metre).IsRecord ⟨0, 0⟩ (flowRecord metre) ∧
    (flowRecord metre).get? "hasUnit" = some (.term (.iri metre)) := by
  have ht : litreName ∈ litres := by decide
  refine ⟨build_flowSchema ht, soleOnPath_flow ht, (says_members_flow_iff ht).2 rfl, linear_flow ht,
    (enumerates_flow_iff ht).2 rfl, ?_, ?_, rfl⟩
  · rw [enumerates_flow_iff ht]
    decide
  · constructor <;> decide

end BuildingModel
