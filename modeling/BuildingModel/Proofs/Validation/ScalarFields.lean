import BuildingModel.Proofs.Shape.Compilable
import BuildingModel.Proofs.Validation.Acceptance
import BuildingModel.Proofs.Validation.WholeGraph

/-!
# Scalar fields in the graph

A scalar field takes literals of its datatype. In the graph they are in normal form, and the normal
form of a valid whole number has the datatype of all whole numbers, whichever derived datatype it
was given. So the validator objects to such values of a derived datatype and to no others.
-/
namespace BuildingModel

open BuildingModel.Rdf BuildingModel.Ontology BuildingModel.Validation BuildingModel.Number

/-! ## Whole numbers -/

namespace Rdf.Literal

/-- A literal is a valid whole number of a datatype derived from that of all whole numbers. -/
def DerivedInteger (l : Literal) : Prop :=
  l.datatype ∈ integerDatatypes ∧ l.datatype ≠ Xsd.integer ∧ ∃ n, readSigned64 l.text = .ok n

/-- A literal is valid for a datatype derived from another: that of all whole numbers, or that of
all moments. -/
def Derived (l : Literal) : Prop :=
  l.DerivedInteger ∨
    l.datatype = Xsd.dateTimeStamp ∧ ∃ text, Calendar.canonicalDateTime? l.text = some text

/-- Normal forms keep the datatypes of all literals but the derived ones. -/
theorem normal_keeps_datatype_iff {l : Literal} :
    l.normal.datatype = l.datatype ↔ ¬ l.Derived := by
  rw [datatype_normal_eq_iff]
  by_cases hinteger : l.datatype ∈ integerDatatypes
  · have hvalid : (canonicalText? l.text l.datatype).isSome ↔
        ∃ n, readSigned64 l.text = .ok n := by
      rw [canonicalText?, if_pos hinteger]
      cases readSigned64 l.text <;> simp [Except.toOption]
    have hstamp : l.datatype ≠ Xsd.dateTimeStamp := by
      intro heq
      exact absurd (heq ▸ hinteger) (show Xsd.dateTimeStamp ∉ integerDatatypes by decide)
    have hkept : normalDatatype l.datatype = l.datatype ↔ l.datatype = Xsd.integer := by
      rw [normalDatatype, if_pos hinteger, eq_comm]
    rw [hvalid, hkept]
    simp only [Derived, DerivedInteger, hinteger, hstamp, true_and, false_and, or_false, not_and,
      not_imp_not, ne_eq]
  · by_cases hstamp : l.datatype = Xsd.dateTimeStamp
    · have hvalid : canonicalText? l.text l.datatype = Calendar.canonicalDateTime? l.text := by
        rw [hstamp]
        rfl
      have hkept : normalDatatype l.datatype ≠ l.datatype := by
        rw [hstamp]
        decide
      have hderived : l.Derived ↔ ∃ text, Calendar.canonicalDateTime? l.text = some text := by
        constructor
        · rintro (hl | ⟨-, hl⟩)
          · exact absurd hl.1 hinteger
          · exact hl
        · exact fun hl => .inr ⟨hstamp, hl⟩
      rw [hvalid, hderived, Option.isSome_iff_exists]
      simp only [hkept, imp_false]
    · simp [normalDatatype, Derived, DerivedInteger, hinteger, hstamp]

end Rdf.Literal

namespace Validation

variable {o data : Dataset} {S p dt : Iri} {m n : Node} {E : PatternEngine}

/-! ## Shapes of an ontology -/

theorem exists_mem_loadShapesOf {ids : List Iri} {ss : List NodeShape}
    (h : loadShapesOf o E ids = .ok ss) {id : Iri} (hid : id ∈ ids) :
    ∃ s ∈ ss, loadShape o E id = .ok s := by
  induction ids generalizing ss with
  | nil => cases hid
  | cons id' ids ih =>
    obtain ⟨s, hs, h⟩ := bind_eq_ok h
    obtain ⟨rest, hrest, h⟩ := bind_eq_ok h
    cases h
    rcases List.mem_cons.1 hid with rfl | hid
    · exact ⟨s, List.mem_cons_self, hs⟩
    · obtain ⟨s', hs', hload⟩ := ih hrest hid
      exact ⟨s', List.mem_cons_of_mem s hs', hload⟩

/-- The path and the datatype of a constraint that has been read are stated of a property shape. -/
theorem exists_of_mem_shapeConstraints {rows : List ConstraintRow}
    (hrows : ShapeCatalog.shapeConstraints o S = .ok rows) {c : ConstraintRow} (hc : c ∈ rows) :
    ∃ m : Node, m.term ∈ o.objects (.iri S) Shacl.property ∧
      .iri c.path ∈ o.objects m Shacl.path ∧
      ∀ d, c.datatype = some d → .iri d ∈ o.objects m Shacl.datatype := by
  have hsaid : ∀ {n : Node} {q : Iri} {t : Term}, o.Says n q t → t ∈ o.objects n q :=
    fun h => Dataset.mem_objects.2 ⟨none, h⟩
  obtain ⟨properties, hproperties, rfl⟩ := map_eq_ok hrows
  obtain ⟨row, hrow, hc⟩ := List.mem_flatMap.1 hc
  obtain ⟨-, hread⟩ := ShapeCatalog.mem_constraintRows_iff.1 hc
  obtain ⟨t, ht, hstated⟩ := (Dataset.mem_propertyRows_iff hproperties).1 hrow
  obtain ⟨m, rfl, hpath⟩ := Dataset.mem_objectsOfTerm.1 hstated.path
  rw [hread]
  refine ⟨m, hsaid (Dataset.mem_defaultObjects.1 ht), hsaid hpath, ?_⟩
  intro d hd
  obtain ⟨t, hpicks, hdatatype⟩ := hstated.datatype
  rw [show row.datatype = some d from hd] at hdatatype
  cases hpicks with
  | value ht =>
    obtain rfl := Term.iri?_eq_some_iff.1 hdatatype.symm
    obtain ⟨m', heq, hnamed⟩ := Dataset.mem_objectsOfTerm.1 ht
    obtain rfl := Node.term_injective heq
    exact hsaid hnamed
  | absent => cases hdatatype

/-- A declared node shape is among those that are loaded. -/
theorem exists_mem_loadShapes {ss : List NodeShape} (h : loadShapes o E = .ok ss)
    (hS : o.isNodeShape S = true) : ∃ s ∈ ss, loadShape o E S = .ok s := by
  obtain ⟨loaded, hloaded, rfl⟩ := map_eq_ok h
  have hdeclared : S ∈ shapeIris o := by
    have htyped : Node.iri S ∈ o.subjects Vocabulary.type (.iri Shacl.nodeShape) :=
      Dataset.mem_subjects.2 ⟨none, ShapeCatalog.isNodeShape_iff.1 hS⟩
    exact List.mem_filterMap.2 ⟨_, htyped, rfl⟩
  obtain ⟨s, hs, hload⟩ := exists_mem_loadShapesOf hloaded hdeclared
  exact ⟨s, List.mem_mergeSort.2 hs, hload⟩

/-- A value that breaks a constraint is reported where the shape applies. -/
theorem mem_check_of_broken {s : NodeShape} {memo : ClassMemo o} {q : PropertyShape} {t : Term}
    {c : ValueConstraint} (hq : q ∈ s.properties) (hn : InstanceOf o data n s.id)
    (ht : t ∈ data.objects n q.path) (hc : c ∈ q.constraints) (hbroken : ¬ Holds o data t c) :
    (s.graded q).result s.id n c.name (some t) c.message ∈
      ((s.check data n : Lookup o (List Result)) memo).1 := by
  rw [shape_check_fst s memo memo, if_pos (.inr ⟨s.id, List.mem_cons_self, hn⟩)]
  refine List.mem_flatMap.2 ⟨q, hq, ?_⟩
  rw [property_check_fst]
  apply List.mem_append_right
  rw [← map_object_statementsOf] at ht
  obtain ⟨x, hx, rfl⟩ := List.mem_map.1 ht
  refine List.mem_flatMap.2 ⟨x, hx, List.mem_flatMap.2 ⟨c, hc, ?_⟩⟩
  rw [if_neg hbroken]
  exact List.mem_singleton_self _

theorem not_ofDatatype_normal_iff {l : Literal} :
    ¬ OfDatatype (.literal l.normal) l.datatype ↔ l.Derived := by
  rw [not_iff_comm, ← Literal.normal_keeps_datatype_iff]
  constructor
  · intro hsame
    exact ⟨l.normal, rfl, hsame⟩
  · rintro ⟨l', heq, hsame⟩
    cases heq
    exact hsame

theorem not_ofDatatype_iri {i : Iri} : ¬ OfDatatype (.iri i) dt := by
  rintro ⟨l, heq, -⟩
  cases heq

/-! ## A property shape alone on its path -/

/-- A property shape is the only one of its shape on a path, has no other path and names at most one
datatype. -/
structure AloneOnPath (o : Dataset) (S : Iri) (m : Node) (p : Iri) : Prop where
  property : m.term ∈ o.objects (.iri S) Shacl.property
  path : .iri p ∈ o.objects m Shacl.path
  onePath : o.AtMostOne m Shacl.path
  alone : ∀ m' : Node, m'.term ∈ o.objects (.iri S) Shacl.property →
    .iri p ∈ o.objects m' Shacl.path → m' = m
  datatype : o.AtMostOne m Shacl.datatype

namespace AloneOnPath

/-- The datatype of the field on the path is the one that the property shape names. -/
theorem mem_datatype (h : AloneOnPath o S m p) {rows : List ConstraintRow}
    (hrows : ShapeCatalog.shapeConstraints o S = .ok rows) {f : Field}
    (hf : f ∈ (RecordShape.ofRows S rows).fields) (hpath : f.path = p)
    (hkind : f.kind = .scalar dt) : .iri dt ∈ o.objects m Shacl.datatype := by
  obtain ⟨p', -, rfl⟩ := mem_fields_ofRows_iff.1 hf
  obtain rfl : p' = p := hpath
  have hdatatype : (PathDraft.ofRows rows p').datatype = some dt :=
    PathDraft.datatype_of_kind hkind
  obtain ⟨c, hc, hcd⟩ := List.mem_filterMap.1 (List.mem_of_getLast? hdatatype)
  obtain ⟨hc, hcp⟩ := List.mem_filter.1 hc
  obtain ⟨m', hm', hcpath, hnamed⟩ := exists_of_mem_shapeConstraints hrows hc
  have hsame : c.path = p' := by simpa using hcp
  obtain rfl := h.alone m' hm' (hsame ▸ hcpath)
  exact hnamed dt hcd

/-- The property shape is among those that are loaded of its shape. -/
theorem exists_loaded (h : AloneOnPath o S m p) {s : NodeShape} (hload : loadShape o E S = .ok s) :
    ∃ q ∈ s.properties, q.path = p := by
  obtain ⟨-, -, -, hread, hproperties⟩ := loadShape_spec hload
  have hpath : iriOf? o m Shacl.path = some p := (iriOf?_eq_some_iff h.onePath).2 h.path
  cases hq : propertyAt? o E m with
  | none =>
    rw [iriOf?_path_of_loadProperty ((hread m h.property).trans (congrArg Except.ok hq))] at hpath
    cases hpath
  | some q =>
    have hloaded := loadProperty_spec ((hread m h.property).trans (congrArg Except.ok hq))
    refine ⟨q, ?_, Option.some.inj (hloaded.1.symm.trans hpath)⟩
    have hm := h.property
    rw [← map_object_statementsOf] at hm
    obtain ⟨x, hx, hxm⟩ := List.mem_map.1 hm
    rw [hproperties]
    refine List.mem_flatMap.2 ⟨x, hx, ?_⟩
    rw [hxm, Term.node?_term, Option.bind_some, hq]
    exact List.mem_singleton_self q

/-- What is loaded with the path asks for the datatype of the property shape and for no other. -/
theorem datatype_mem_iff (h : AloneOnPath o S m p) (hdt : .iri dt ∈ o.objects m Shacl.datatype)
    {s : NodeShape} (hload : loadShape o E S = .ok s) {q : PropertyShape} (hq : q ∈ s.properties)
    (hpath : q.path = p) {d : Iri} : .datatype d ∈ q.constraints ↔ d = dt := by
  obtain ⟨m', hm', hloaded⟩ := exists_node_of_mem_properties hload hq
  obtain ⟨hqpath, -, -, hdatatype, -⟩ := loadProperty_spec hloaded
  obtain rfl := h.alone m' hm' (hpath ▸ mem_objects_of_iriOf? hqpath)
  rw [hdatatype, (iriOf?_eq_some_iff h.datatype).2 hdt, Option.some_inj, eq_comm]

/-- The datatype is reported for a path just if one of its values is no literal of the datatype. -/
theorem reported_iff (h : AloneOnPath o S m p) (hdt : .iri dt ∈ o.objects m Shacl.datatype)
    {s : NodeShape} (hload : loadShape o E S = .ok s) (hn : InstanceOf o data n S)
    (memo : ClassMemo o) :
    (∃ x ∈ ((s.check data n : Lookup o (List Result)) memo).1,
      x.path = some p.text ∧ x.constraint = some "sh:datatype") ↔
      ∃ t ∈ data.objects n p, ¬ OfDatatype t dt := by
  obtain ⟨rfl, -⟩ := loadShape_spec hload
  constructor
  · rintro ⟨x, hx, hpath, hconstraint⟩
    obtain ⟨q, hq, hx | ⟨t, ht, c, hc, hbroken, rfl⟩⟩ := exists_property_of_mem_check hx
    · rcases List.mem_append.1 hx with hx | hx
      · obtain ⟨k, -, rfl⟩ := List.mem_map.1 hx
        exact absurd (Option.some.inj hconstraint) (by decide)
      · obtain ⟨k, -, rfl⟩ := List.mem_map.1 hx
        exact absurd (Option.some.inj hconstraint) (by decide)
    · obtain rfl : q.path = p := congrArg Iri.mk (Option.some.inj hpath)
      cases c with
      | datatype d =>
        obtain rfl := (h.datatype_mem_iff hdt hload hq rfl).1 hc
        exact ⟨t, ht, hbroken⟩
      | _ => exact absurd (Option.some.inj hconstraint) (by simp [ValueConstraint.name])
  · rintro ⟨t, ht, hbroken⟩
    obtain ⟨q, hq, rfl⟩ := h.exists_loaded hload
    have hc := (h.datatype_mem_iff hdt hload hq rfl).2 rfl
    exact ⟨_, mem_check_of_broken hq hn ht hc hbroken, rfl, rfl⟩

/-- The validator over an ontology reports the datatype for a path of a shape just if one of the
values is no literal of the datatype. -/
theorem reported_by_validator_iff (h : AloneOnPath o S m p)
    (hdt : .iri dt ∈ o.objects m Shacl.datatype) (hS : o.isNodeShape S = true)
    {validator : ShapeValidator} (hv : ShapeValidator.ofDataset o E = .ok validator)
    (hn : InstanceOf o data n S) :
    (∃ x ∈ validator.validateNode data n,
      x.shape = S.text ∧ x.path = some p.text ∧ x.constraint = some "sh:datatype") ↔
      ∃ t ∈ data.objects n p, ¬ OfDatatype t dt := by
  obtain ⟨shapes, hshapes, rfl⟩ := map_eq_ok hv
  obtain ⟨s, hs, hload⟩ := exists_mem_loadShapes hshapes hS
  rw [ShapeValidator.validateNode, checkShapes_fst _ _ (.empty _)]
  constructor
  · rintro ⟨x, hx, hshape, hrest⟩
    obtain ⟨s', hs', hx⟩ := List.mem_flatMap.1 hx
    obtain ⟨S', hload'⟩ := exists_loadShape hshapes hs'
    have hS' : S' = S := by
      obtain ⟨rfl, -⟩ := loadShape_spec hload'
      exact congrArg Iri.mk ((shape_of_mem_check hx).symm.trans hshape)
    rw [hS'] at hload'
    exact (h.reported_iff hdt hload' hn _).1 ⟨x, hx, hrest⟩
  · intro hbroken
    obtain ⟨x, hx, hrest⟩ := (h.reported_iff hdt hload hn (.empty o)).2 hbroken
    have hshape : x.shape = S.text := by
      obtain ⟨rfl, -⟩ := loadShape_spec hload
      exact shape_of_mem_check hx
    exact ⟨x, List.mem_flatMap.2 ⟨s, hs, hx⟩, hshape, hrest⟩

end AloneOnPath

/-! ## Scalar fields of records -/

section Record

variable {schema : Schema} {s : Session schema} {ts : List Triple} {id : RecordId} {r : Record}
  {shape : RecordShape} {f : Field} {v : FieldValue}

theorem type_of_record (hemits : s.Emits ts) (hr : s.IsRecord id r)
    (hshape : schema.shapes.get? r.shape = some shape) : Term.iri shape.iri ∈
      (Emitted.ofList ts).store.objects (.blank id.node) Vocabulary.type := by
  rw [(Emitted.isGraph_store_ofList ts).mem_objects_iff, Emitted.mem_store_ofList]
  exact ⟨_, (hemits.mem_iff_of_record hr hshape).2 (.inl ⟨rfl, rfl⟩), rfl⟩

/-- The value of a scalar field is a literal of its datatype, which the graph has in normal form. -/
theorem exists_literal_of_scalar (hs : s.WellFormed) (hemits : s.Emits ts) (hr : s.IsRecord id r)
    (hshape : schema.shapes.get? r.shape = some shape)
    (hnames : (shape.fields.map Field.name).Nodup) (hf : f ∈ shape.fields)
    (hkind : f.kind = .scalar dt) (hv : r.get? f.name = some v) :
    ∃ l : Literal, v = .term (.literal l) ∧ l.datatype = dt ∧
      ∀ t, t ∈ (Emitted.ofList ts).store.objects (.blank id.node) f.path ↔
        t = .literal l.normal ∨ f.path = Vocabulary.type ∧ t = .iri shape.iri := by
  obtain ⟨x, hfills, hentry⟩ := Session.exists_fills hs hr hshape hnames hf
  have hadmissible := hfills.admissible v (hentry.symm.trans hv)
  rw [hkind] at hadmissible
  generalize hscalar : FieldKind.scalar dt = kind at hadmissible
  cases hadmissible with
  | @literal l =>
    cases hscalar
    refine ⟨l, rfl, rfl, fun t => ?_⟩
    rw [hemits.mem_objects_iff_or_shape hr hshape hf, or_comm]
    refine or_congr_left ?_
    constructor
    · rintro ⟨v', t', hv', hdenotes, rfl⟩
      rw [hv] at hv'
      cases hv'
      cases hdenotes
      rfl
    · rintro rfl
      exact ⟨_, .literal l, hv, .term, rfl⟩
  | member => cases hscalar
  | unit => cases hscalar
  | iri => cases hscalar
  | entity => cases hscalar
  | record => cases hscalar

end Record

/-- A scalar field of a record is read back from the graph as the normal form of the literal that it
was given, which is of the declared datatype. The normal form has this datatype, and the validator
over the same ontology, which checks every record, does not object to it, if and only if the literal
is not valid for a derived datatype. A field on the path of types is reported in any case, for the
shape is a value of that path too. -/
theorem scalar_field_read_back {settings : Settings} {schema : Schema} {shapeId : ShapeId}
    {shape : RecordShape} {f : Field} (hb : Schema.build o settings E = .ok schema)
    (hshape : schema.shapes.get? shapeId = some shape) (hf : f ∈ shape.fields)
    (hkind : f.kind = .scalar dt) (hm : AloneOnPath o shape.iri m f.path)
    (number : ℕ) (rs : List Request) :
    ∃ validator data,
      ShapeValidator.ofDataset o E = .ok validator ∧
      schema.validator = validator.graphValidator ∧
      ((Session.start schema number).run rs).graph = .ok data ∧
      (∀ bindings v g, ((Session.start schema number).run rs).compileWith bindings v = .ok g →
        g.store = data) ∧
      (validator.validate data).results =
        (validator.focusNodes data).flatMap (validator.validateNode data) ∧
      ∀ id r v, ((Session.start schema number).run rs).IsRecord id r → r.shape = shapeId →
        r.get? f.name = some v → .blank id.node ∈ validator.focusNodes data ∧
        ∃ l : Literal, v = .term (.literal l) ∧ l.datatype = dt ∧
          (∀ t, t ∈ data.objects (.blank id.node) f.path ↔
            t = .literal l.normal ∨ f.path = Vocabulary.type ∧ t = .iri shape.iri) ∧
          (l.normal.datatype = dt ↔ ¬ l.Derived) ∧
          ((∃ x ∈ validator.validateNode data (.blank id.node), x.shape = shape.iri.text ∧
              x.path = some f.path.text ∧ x.constraint = some "sh:datatype") ↔
            l.Derived ∨ f.path = Vocabulary.type) := by
  obtain ⟨propertyClass, validator, hparts⟩ := Schema.parts_of_build hb
  have hs := Session.wellFormed_run (Session.wellFormed_start schema number) rs
  obtain ⟨ts, hemits, hgraph⟩ := Session.exists_graph hs
  refine ⟨validator, (Emitted.ofList ts).store, hparts.loaded, hparts.validator_eq, hgraph, ?_,
    validate_results validator _, ?_⟩
  · intro bindings v g hg
    rw [Session.graph_of_compileWith hg] at hgraph
    exact Except.ok.inj hgraph
  · rintro id r v hr rfl hv
    have hmem : shape ∈ schema.shapes.shapes := List.mem_of_getElem? hshape
    obtain ⟨rows, hrows, hcompiled⟩ :=
      (ShapeCatalog.faithful_of_build hparts.shapes).compiled shape hmem
    have hnames : (shape.fields.map Field.name).Nodup := by
      rw [hcompiled]
      exact nodup_names_ofRows shape.iri rows
    have hdt : .iri dt ∈ o.objects m Shacl.datatype :=
      hm.mem_datatype hrows (hcompiled ▸ hf) rfl hkind
    obtain ⟨l, rfl, rfl, hobjects⟩ :=
      exists_literal_of_scalar hs hemits hr hshape hnames hf hkind hv
    have htype := type_of_record hemits hr hshape
    obtain ⟨g, hq⟩ := Dataset.mem_objects.1 htype
    refine ⟨ShapeValidator.mem_focusNodes_iff.2 (.inl ⟨_, Dataset.mem_quads.2 hq, rfl⟩),
      l, rfl, rfl, hobjects, Literal.normal_keeps_datatype_iff, ?_⟩
    rw [hm.reported_by_validator_iff hdt (ShapeCatalog.declared_of_build hparts.shapes shape hmem)
      hparts.loaded ⟨shape.iri, .inl htype, .refl⟩]
    simp only [hobjects]
    constructor
    · rintro ⟨t, rfl | ⟨hpath, rfl⟩, hother⟩
      · exact .inl (not_ofDatatype_normal_iff.1 hother)
      · exact .inr hpath
    · rintro (hl | hpath)
      · exact ⟨_, .inl rfl, not_ofDatatype_normal_iff.2 hl⟩
      · exact ⟨_, .inr ⟨hpath, rfl⟩, not_ofDatatype_iri⟩

/-! ## A shape of counts -/

/-- The datatype of numbers of 32 bits. -/
def intDatatype : Iri := Xsd.datatype "int"

/-- An ontology with a shape of counts, which have a number of 32 bits for their value. -/
def countStatements : List Triple :=
  [⟨.iri ⟨"urn:b#Count"⟩, Vocabulary.type, .iri Shacl.nodeShape⟩,
    ⟨.iri ⟨"urn:b#Count"⟩, Shacl.property, .blank ⟨"p"⟩⟩,
    ⟨.blank ⟨"p"⟩, Shacl.path, .iri ⟨"urn:b#value"⟩⟩,
    ⟨.blank ⟨"p"⟩, Shacl.datatype, .iri intDatatype⟩]

def countOntology : Dataset := .ofTriples countStatements

/-- The settings under which the shape of counts is compiled. -/
def countSettings : Settings :=
  { Settings.standard with
    ns := "urn:b#", roots := [], extraShapes := ["Count"], loadUnits := false }

def countField : Field := ⟨⟨"urn:b#value"⟩, .scalar intDatatype, false⟩

def countShape : RecordShape := ⟨⟨"urn:b#Count"⟩, [countField]⟩

def countValidator : ShapeValidator where
  ontology := countOntology
  shapes := [{
    id := ⟨"urn:b#Count"⟩
    targetClasses := []
    targetNodes := []
    properties := [⟨⟨"urn:b#value"⟩, none, none, [.datatype intDatatype], none, none⟩]
    severity := .violation }]

def countSchema : Schema where
  settings := countSettings
  hierarchy := .ofClasses [⟨⟨"urn:b#Entity"⟩, some "Entity", none, none, []⟩]
  relations := .ofRelations []
  shapes := .ofShapes [countShape]
  units := .empty
  validator := countValidator.graphValidator

theorem build_countHierarchy : Hierarchy.build countOntology "urn:b#" "Entity" [] .firstWins =
    .ok countSchema.hierarchy :=
  Hierarchy.build_eq_ok_of_withRoots (by decide) (by decide)

theorem ofDataset_countOntology : ShapeValidator.ofDataset countOntology = .ok countValidator := by
  have hload : loadShapes countOntology .expressions = .ok countValidator.shapes :=
    loadShapes_of_single (by rfl)
  rw [ShapeValidator.ofDataset, hload]
  rfl

theorem build_countSchema : Schema.build countOntology countSettings = .ok countSchema := by
  have hparts : Schema.Parts countOntology countSettings .expressions countSchema
      ⟨"urn:b#EntityProperty"⟩ countValidator := by
    constructor
    · rfl
    · decide
    · exact build_countHierarchy
    · rfl
    · decide +kernel
    · decide +kernel
    · exact ofDataset_countOntology
    · rfl
  exact hparts.build_eq_ok

theorem aloneOnPath_count :
    AloneOnPath countOntology ⟨"urn:b#Count"⟩ (.blank ⟨"p"⟩) countField.path := by
  have hproperties : countOntology.objects (.iri ⟨"urn:b#Count"⟩) Shacl.property =
      [.blank ⟨"p"⟩] := by decide
  constructor
  · decide
  · decide
  · decide
  · intro m' hm' _
    rw [hproperties] at hm'
    exact Node.term_injective (List.mem_singleton.1 hm')
  · decide

/-- The session in which a count of seven is built. -/
def countSession : Session countSchema :=
  (Session.start countSchema 0).run [.build "Count" [⟨"value", .integer 7⟩]]

def sevenRecord : Record :=
  ⟨⟨0⟩, [⟨"value", some (.term (.literal (.typed "7" intDatatype)))⟩]⟩

theorem isRecord_seven : countSession.IsRecord ⟨0, 0⟩ sevenRecord := by
  constructor <;> decide

/-- The count of seven is valid, and the validator objects to what the graph makes of it. -/
theorem scalar_field_read_back_count : ∃ validator data,
    ShapeValidator.ofDataset countOntology = .ok validator ∧ countSession.graph = .ok data ∧
    .literal (.typed "7" Xsd.integer) ∈ data.objects (.blank ⟨"r0"⟩) ⟨"urn:b#value"⟩ ∧
    ∃ x ∈ validator.validateNode data (.blank ⟨"r0"⟩), x.shape = "urn:b#Count" ∧
      x.path = some "urn:b#value" ∧ x.constraint = some "sh:datatype" := by
  have hshape : countSchema.shapes.get? ⟨0⟩ = some countShape := rfl
  have hkind : countField.kind = .scalar intDatatype := rfl
  obtain ⟨validator, data, hload, -, hgraph, -, -, hfield⟩ :=
    scalar_field_read_back build_countSchema hshape List.mem_cons_self hkind aloneOnPath_count 0
      [.build "Count" [⟨"value", .integer 7⟩]]
  obtain ⟨-, l, hl, -, hobjects, -, hreported⟩ := hfield _ _ _ isRecord_seven rfl rfl
  cases hl
  refine ⟨validator, data, hload, hgraph, (hobjects _).2 (.inl (by decide +kernel)),
    hreported.2 (.inl ?_)⟩
  exact .inl ⟨by decide +kernel, by decide +kernel, 7, by decide +kernel⟩

def countTriples : List Triple :=
  [⟨.blank ⟨"r0"⟩, Vocabulary.type, .iri ⟨"urn:b#Count"⟩⟩,
    ⟨.blank ⟨"r0"⟩, ⟨"urn:b#value"⟩, .literal (.typed "7" intDatatype)⟩]

theorem graph_countSession : countSession.graph = .ok (Emitted.ofList countTriples).store := by
  have hstatements : countSession.statements = .ok countTriples := by decide
  rw [Session.graph, hstatements]
  rfl

/-- A count of seven is built. The graph has it as a number of no particular size, and is refused.
-/
theorem int_field_reported :
    Schema.build countOntology countSettings = .ok countSchema ∧
    countSession.IsRecord ⟨0, 0⟩ sevenRecord ∧
    sevenRecord.get? countField.name = some (.term (.literal (.typed "7" intDatatype))) ∧
    (∃ data, countSession.graph = .ok data ∧
      data.objects (.blank ⟨"r0"⟩) countField.path = [.literal (.typed "7" Xsd.integer)]) ∧
    countSession.compile [] = .error (.nonconforming ⟨[⟨"_:r0", some "urn:b#value", some "7",
      "Value must be a literal with datatype <http://www.w3.org/2001/XMLSchema#int>", .violation,
      "urn:b#Count", some "sh:datatype"⟩]⟩) := by
  refine ⟨build_countSchema, isRecord_seven, rfl, ⟨_, graph_countSession, by decide +kernel⟩, ?_⟩
  exact Session.compileWith_of_nonconforming (by decide +kernel) graph_countSession
    (by decide +kernel) (by decide +kernel)

end Validation

end BuildingModel
