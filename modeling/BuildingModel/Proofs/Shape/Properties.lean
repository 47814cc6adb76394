import BuildingModel.Proofs.Ontology.RelationRows
import BuildingModel.Proofs.Rdf.Collection
import BuildingModel.Proofs.Rdf.Graph
import BuildingModel.Proofs.Shape.Drafts
import BuildingModel.Shape.Catalog

/-!
# Fields and property shapes

A field of a compiled shape says what is stated of the property shape on its path: whether a value
is required, the members of an enumeration, the datatype. This takes property shapes that can be
told apart by the local names of their paths.
-/
namespace BuildingModel

open BuildingModel.Rdf BuildingModel.Ontology

/-- A constraint says what is stated of a property shape, one of the values for each column. -/
structure ConstraintRow.StatedBy (d : Dataset) (m : Node) (c : ConstraintRow) : Prop where
  path : .iri c.path ∈ d.objects m Shacl.path
  value : ∃ list, Picks (d.objects m Shacl.members) list ∧
    Picks ((list.map d.members).getD []) c.value
  datatype : ∃ t, Picks (d.objects m Shacl.datatype) t ∧ c.datatype = t.bind Term.iri?
  allowed : ∃ t, Picks (d.objects m Shacl.class) t ∧ c.allowed = t.bind Term.iri?
  minCount : ∃ t, Picks (d.objects m Shacl.minCount) t ∧ ReadsInteger t c.minCount

variable {d : Dataset} {s p : Iri} {m : Node} {rows : List ConstraintRow}

theorem mem_objectsOfTerm_iff (hd : d.IsGraph) {q : Iri} {x : Term} :
    x ∈ d.objectsOfTerm m.term q ↔ x ∈ d.objects m q := by
  rw [Dataset.objectsOfTerm, Term.node?_term, Dataset.mem_defaultObjects, hd.mem_objects_iff]

namespace ShapeCatalog

theorem mem_constraintRows_iff {r : PropertyRow} {c : ConstraintRow} :
    c ∈ constraintRows d r ↔ Picks ((r.members.map d.members).getD []) c.value ∧
      c = ⟨r.path, c.value, r.datatype, r.allowed, r.minCount⟩ := by
  simp only [constraintRows, List.mem_map, mem_orAbsent_iff]
  constructor
  · rintro ⟨v, hv, rfl⟩
    exact ⟨hv, rfl⟩
  · rintro ⟨hv, hc⟩
    exact ⟨c.value, hv, hc.symm⟩

/-- The constraints of a shape are those that are stated of one of its property shapes. -/
theorem mem_shapeConstraints_iff (hd : d.IsGraph) (h : shapeConstraints d s = .ok rows)
    {c : ConstraintRow} :
    c ∈ rows ↔ ∃ m : Node, m.term ∈ d.objects (.iri s) Shacl.property ∧ c.StatedBy d m := by
  obtain ⟨properties, hproperties, rfl⟩ := map_eq_ok h
  have hmem : ∀ x, x ∈ d.defaultObjects (.iri s) Shacl.property ↔
      x ∈ d.objects (.iri s) Shacl.property := by
    intro x
    rw [Dataset.mem_defaultObjects, hd.mem_objects_iff]
  have hsame : ∀ (m : Node) (q : Iri) (x : Option Term),
      Picks (d.objectsOfTerm m.term q) x ↔ Picks (d.objects m q) x :=
    fun m q x => Picks.congr fun _ => mem_objectsOfTerm_iff hd
  simp only [List.mem_flatMap, Dataset.mem_propertyRows_iff hproperties, mem_constraintRows_iff]
  constructor
  · rintro ⟨r, ⟨t, ht, hpath, hmembers, hdatatype, hallowed, hminCount⟩, hvalue, hc⟩
    cases hnode : t.node? with
    | none =>
      simp [Dataset.objectsOfTerm, hnode] at hpath
    | some m =>
      obtain rfl := Term.node?_eq_some_iff.1 hnode
      simp only [hsame, mem_objectsOfTerm_iff hd] at hpath hmembers hdatatype hallowed hminCount
      refine ⟨m, (hmem _).1 ht, ?_⟩
      rw [hc]
      exact ⟨hpath, ⟨_, hmembers, hvalue⟩, hdatatype, hallowed, hminCount⟩
  · rintro ⟨m, hm, hpath, ⟨list, hlist, hvalue⟩, hdatatype, hallowed, hminCount⟩
    refine ⟨⟨c.path, list, c.datatype, c.allowed, c.minCount⟩, ⟨m.term, (hmem _).2 hm, ?_⟩,
      hvalue, rfl⟩
    constructor
    · exact (mem_objectsOfTerm_iff hd).2 hpath
    · exact (hsame _ _ _).2 hlist
    · simpa only [hsame] using hdatatype
    · simpa only [hsame] using hallowed
    · simpa only [hsame] using hminCount

end ShapeCatalog

/-- A property shape is the only one of its shape on a path. -/
structure SoleOnPath (d : Dataset) (s : Iri) (m : Node) (p : Iri) : Prop where
  property : d.Says (.iri s) Shacl.property m.term
  path : d.Says m Shacl.path (.iri p)
  sole : ∀ m' : Node, d.Says (.iri s) Shacl.property m'.term → d.Says m' Shacl.path (.iri p) →
    m' = m

namespace ShapeCatalog

theorem exists_mem_constraintRows (d : Dataset) (r : PropertyRow) :
    ∃ c, c ∈ constraintRows d r := by
  obtain ⟨value, hvalue⟩ := exists_picks ((r.members.map d.members).getD [])
  exact ⟨⟨r.path, value, r.datatype, r.allowed, r.minCount⟩, mem_constraintRows_iff.2 ⟨hvalue, rfl⟩⟩

theorem filterMap_value_constraintRows (d : Dataset) (r : PropertyRow) :
    (constraintRows d r).filterMap ConstraintRow.value = (r.members.map d.members).getD [] := by
  simp only [constraintRows, Dataset.orAbsent]
  split
  · next hnil =>
    rw [List.isEmpty_iff.1 hnil]
    rfl
  · rw [List.filterMap_map, List.filterMap_map]
    exact List.filterMap_some

/-- The values of a path are those of the property shapes on it. -/
theorem values_ofRows (d : Dataset) (properties : List PropertyRow) (p : Iri) :
    (PathDraft.ofRows (properties.flatMap (constraintRows d)) p).values =
      distinct ((properties.filter (·.path = p)).flatMap fun r =>
        (r.members.map d.members).getD []) := by
  have hkept : (properties.flatMap (constraintRows d)).filter (·.path = p) =
      (properties.filter (·.path = p)).flatMap (constraintRows d) := by
    induction properties with
    | nil => rfl
    | cons r properties ih =>
      have hown : (constraintRows d r).filter (·.path = p) =
          if r.path = p then constraintRows d r else [] := by
        by_cases hr : r.path = p
        · rw [if_pos hr, List.filter_eq_self]
          intro c hc
          rw [(mem_constraintRows_iff.1 hc).2]
          simpa using hr
        · rw [if_neg hr, List.filter_eq_nil_iff]
          intro c hc
          rw [(mem_constraintRows_iff.1 hc).2]
          simpa using hr
      by_cases hr : r.path = p
      · simp [hown, hr, ih]
      · simp [hown, hr, ih]
  simp only [PathDraft.ofRows, hkept, List.filterMap_flatMap, filterMap_value_constraintRows]

/-- A path is required if a property shape on it has a least count above zero. -/
theorem required_ofRows_iff {properties : List PropertyRow} :
    (PathDraft.ofRows (properties.flatMap (constraintRows d)) p).required = true ↔
      ∃ r ∈ properties, r.path = p ∧ ∃ k, r.minCount = some k ∧ 0 < k := by
  simp only [PathDraft.ofRows, List.any_eq_true, Option.any_eq_true, decide_eq_true_eq,
    List.mem_filter, List.mem_flatMap]
  constructor
  · rintro ⟨c, ⟨⟨r, hr, hc⟩, hpath⟩, hcount⟩
    rw [(mem_constraintRows_iff.1 hc).2] at hpath hcount
    exact ⟨r, hr, hpath, hcount⟩
  · rintro ⟨r, hr, hpath, hcount⟩
    obtain ⟨c, hc⟩ := exists_mem_constraintRows d r
    have hread := (mem_constraintRows_iff.1 hc).2
    refine ⟨c, ⟨⟨r, hr, hc⟩, ?_⟩, ?_⟩
    · rw [hread]
      exact hpath
    · rw [hread]
      exact hcount

end ShapeCatalog

namespace SoleOnPath

variable {properties : List PropertyRow}

theorem mem_objectsOfTerm_term_iff {q : Iri} {x : Term} :
    x ∈ d.objectsOfTerm m.term q ↔ d.Says m q x := by
  rw [Dataset.objectsOfTerm, Term.node?_term, Dataset.mem_defaultObjects]
  rfl

/-- What is read on a path is stated of its only property shape. -/
theorem statedBy (h : SoleOnPath d s m p) (hproperties : d.propertyRows s = .ok properties)
    {r : PropertyRow} (hr : r ∈ properties) (hpath : r.path = p) : r.StatedBy d m.term := by
  obtain ⟨t, ht, hstated⟩ := (Dataset.mem_propertyRows_iff hproperties).1 hr
  obtain ⟨m', rfl, hon⟩ := Dataset.mem_objectsOfTerm.1 hstated.path
  rw [hpath] at hon
  rwa [h.sole m' (Dataset.mem_defaultObjects.1 ht) hon] at hstated

/-- For each choice of a list and of a least count something is read on the path. -/
theorem exists_row (h : SoleOnPath d s m p) (hproperties : d.propertyRows s = .ok properties)
    {list least : Option Term} (hlist : Picks (d.objectsOfTerm m.term Shacl.members) list)
    (hleast : Picks (d.objectsOfTerm m.term Shacl.minCount) least) :
    ∃ r ∈ properties, r.path = p ∧ r.members = list ∧ ReadsInteger least r.minCount := by
  have hterm : m.term ∈ d.defaultObjects (.iri s) Shacl.property :=
    Dataset.mem_defaultObjects.2 h.property
  have hpath := mem_objectsOfTerm_term_iff.2 h.path
  obtain ⟨datatype, hdatatype⟩ := exists_picks (d.objectsOfTerm m.term Shacl.datatype)
  obtain ⟨allowed, hallowed⟩ := exists_picks (d.objectsOfTerm m.term Shacl.class)
  obtain ⟨k, hk⟩ := Dataset.exists_readsInteger hproperties hterm hpath hleast
  refine ⟨⟨p, list, datatype.bind Term.iri?, allowed.bind Term.iri?, k⟩, ?_, rfl, rfl, hk⟩
  exact (Dataset.mem_propertyRows_iff hproperties).2 ⟨m.term, hterm, hpath, hlist,
    ⟨_, hdatatype, rfl⟩, ⟨_, hallowed, rfl⟩, ⟨_, hleast, hk⟩⟩

/-- Where paths of one name are one, all of them lead, and there is a field for each. -/
theorem mem_fields (h : SoleOnPath d s m p) (hrows : ShapeCatalog.shapeConstraints d s = .ok rows)
    (hpaths : ∀ n n' : Node, d.Says (.iri s) Shacl.property n.term →
      d.Says (.iri s) Shacl.property n'.term → ∀ q q' : Iri, d.Says n Shacl.path (.iri q) →
      d.Says n' Shacl.path (.iri q') → q.name = q'.name → q = q') :
    (PathDraft.ofRows rows p).field ∈ (RecordShape.ofRows s rows).fields := by
  obtain ⟨properties, hproperties, rfl⟩ := map_eq_ok hrows
  have hstated : ∀ c ∈ properties.flatMap (ShapeCatalog.constraintRows d), ∃ n : Node,
      d.Says (.iri s) Shacl.property n.term ∧ d.Says n Shacl.path (.iri c.path) := by
    intro c hc
    obtain ⟨r, hr, hc⟩ := List.mem_flatMap.1 hc
    obtain ⟨t, ht, hstated⟩ := (Dataset.mem_propertyRows_iff hproperties).1 hr
    obtain ⟨n, rfl, hon⟩ := Dataset.mem_objectsOfTerm.1 hstated.path
    rw [(ShapeCatalog.mem_constraintRows_iff.1 hc).2]
    exact ⟨n, Dataset.mem_defaultObjects.1 ht, hon⟩
  refine mem_fields_ofRows_iff.2 ⟨p, mem_leading_of_mem ?_ ?_, rfl⟩
  · intro i hi j hj hname
    obtain ⟨c, hc, rfl⟩ := List.mem_map.1 hi
    obtain ⟨c', hc', rfl⟩ := List.mem_map.1 hj
    obtain ⟨n, hn, hpath⟩ := hstated c hc
    obtain ⟨n', hn', hpath'⟩ := hstated c' hc'
    exact hpaths n n' hn hn' _ _ hpath hpath' hname
  · obtain ⟨list, hlist⟩ := exists_picks (d.objectsOfTerm m.term Shacl.members)
    obtain ⟨least, hleast⟩ := exists_picks (d.objectsOfTerm m.term Shacl.minCount)
    obtain ⟨r, hr, rfl, -⟩ := h.exists_row hproperties hlist hleast
    obtain ⟨c, hc⟩ := ShapeCatalog.exists_mem_constraintRows d r
    refine List.mem_map.2 ⟨c, List.mem_flatMap.2 ⟨r, hr, hc⟩, ?_⟩
    rw [(ShapeCatalog.mem_constraintRows_iff.1 hc).2]

/-- The values of a path are the members of the lists that its only property shape names. -/
theorem mem_values_iff (h : SoleOnPath d s m p)
    (hrows : ShapeCatalog.shapeConstraints d s = .ok rows) {x : Term} :
    x ∈ (PathDraft.ofRows rows p).values ↔
      ∃ head, d.Says m Shacl.members head ∧ x ∈ d.members head := by
  obtain ⟨properties, hproperties, rfl⟩ := map_eq_ok hrows
  simp only [ShapeCatalog.values_ofRows, mem_distinct, List.mem_flatMap, List.mem_filter,
    decide_eq_true_eq]
  constructor
  · rintro ⟨r, ⟨hr, hpath⟩, hx⟩
    have hlist := (h.statedBy hproperties hr hpath).members
    generalize r.members = list at hlist hx
    cases hlist with
    | value hhead => exact ⟨_, mem_objectsOfTerm_term_iff.1 hhead, hx⟩
    | absent => cases hx
  · rintro ⟨head, hhead, hx⟩
    obtain ⟨least, hleast⟩ := exists_picks (d.objectsOfTerm m.term Shacl.minCount)
    obtain ⟨r, hr, hpath, hlist, -⟩ :=
      h.exists_row hproperties (.value (mem_objectsOfTerm_term_iff.2 hhead)) hleast
    refine ⟨r, ⟨hr, hpath⟩, ?_⟩
    rw [hlist]
    exact hx

/-- The values of a path are the members of the only list that its only property shape names, in
order. -/
theorem values_eq (h : SoleOnPath d s m p) (hrows : ShapeCatalog.shapeConstraints d s = .ok rows)
    {head : Term} (hhead : d.Says m Shacl.members head)
    (hone : ∀ head', d.Says m Shacl.members head' → head' = head) :
    (PathDraft.ofRows rows p).values = distinct (d.members head) := by
  obtain ⟨properties, hproperties, rfl⟩ := map_eq_ok hrows
  have hlists : ∀ r ∈ properties.filter (·.path = p),
      (r.members.map d.members).getD [] = d.members head := by
    intro r hr
    obtain ⟨hr, hpath⟩ := List.mem_filter.1 hr
    have hlist := (h.statedBy hproperties hr (by simpa using hpath)).members
    generalize r.members = list at hlist
    cases hlist with
    | value hhead' =>
      rw [hone _ (mem_objectsOfTerm_term_iff.1 hhead')]
      rfl
    | absent hnil =>
      have hmem := mem_objectsOfTerm_term_iff.2 hhead
      rw [hnil] at hmem
      cases hmem
  obtain ⟨least, hleast⟩ := exists_picks (d.objectsOfTerm m.term Shacl.minCount)
  obtain ⟨r, hr, hpath, -⟩ :=
    h.exists_row hproperties (.value (mem_objectsOfTerm_term_iff.2 hhead)) hleast
  have hkept : properties.filter (·.path = p) ≠ [] :=
    List.ne_nil_of_mem (List.mem_filter.2 ⟨hr, by simpa using hpath⟩)
  rw [ShapeCatalog.values_ofRows, List.flatMap_def, List.map_congr_left hlists]
  exact distinct_flatten_map_const hkept _

theorem required_iff (h : SoleOnPath d s m p)
    (hrows : ShapeCatalog.shapeConstraints d s = .ok rows) :
    (PathDraft.ofRows rows p).required = true ↔ ∃ l k, d.Says m Shacl.minCount (.literal l) ∧
      Number.readSigned64 (Text.trim l.text) = .ok k ∧ 0 < k := by
  obtain ⟨properties, hproperties, rfl⟩ := map_eq_ok hrows
  rw [ShapeCatalog.required_ofRows_iff]
  constructor
  · rintro ⟨r, hr, hpath, k, hk, hpos⟩
    obtain ⟨least, hleast, hread⟩ := (h.statedBy hproperties hr hpath).minCount
    rw [hk] at hread
    cases hread with
    | literal hread =>
      cases hleast with
      | value hl => exact ⟨_, k, mem_objectsOfTerm_term_iff.1 hl, hread, hpos⟩
  · rintro ⟨l, k, hl, hk, hpos⟩
    obtain ⟨list, hlist⟩ := exists_picks (d.objectsOfTerm m.term Shacl.members)
    obtain ⟨r, hr, hpath, -, hread⟩ :=
      h.exists_row hproperties hlist (.value (mem_objectsOfTerm_term_iff.2 hl))
    generalize hcount : r.minCount = count at hread
    cases hread with
    | literal hk' =>
      rw [hk] at hk'
      cases hk'
      exact ⟨r, hr, hpath, k, hcount, hpos⟩

end SoleOnPath

/-- The property shapes of a shape have one path each and can be told apart by its local name. -/
structure Separated (d : Dataset) (s : Iri) : Prop where
  path : ∀ m : Node, m.term ∈ d.objects (.iri s) Shacl.property → d.AtMostOne m Shacl.path
  names : ∀ m m' : Node, m.term ∈ d.objects (.iri s) Shacl.property →
    m'.term ∈ d.objects (.iri s) Shacl.property → ∀ p p' : Iri, .iri p ∈ d.objects m Shacl.path →
    .iri p' ∈ d.objects m' Shacl.path → p.name = p'.name → m = m'

/-- Constraints have been read from a shape whose property shapes can be told apart, and one of
these is on a path. -/
structure OnPath (d : Dataset) (s : Iri) (rows : List ConstraintRow) (m : Node) (p : Iri) :
    Prop where
  graph : d.IsGraph
  separated : Separated d s
  constraints : ShapeCatalog.shapeConstraints d s = .ok rows
  property : m.term ∈ d.objects (.iri s) Shacl.property
  path : .iri p ∈ d.objects m Shacl.path

namespace OnPath

theorem statedBy (h : OnPath d s rows m p) {c : ConstraintRow} (hc : c ∈ rows)
    (hpath : c.path = p) :
    c.StatedBy d m := by
  obtain ⟨m', hm', hstated⟩ :=
    (ShapeCatalog.mem_shapeConstraints_iff h.graph h.constraints).1 hc
  have hsame : m' = m := by
    refine h.separated.names m' m hm' h.property c.path p hstated.path h.path ?_
    rw [hpath]
  rwa [hsame] at hstated

theorem soleOnPath (h : OnPath d s rows m p) : SoleOnPath d s m p where
  property := h.graph.mem_objects_iff.1 h.property
  path := h.graph.mem_objects_iff.1 h.path
  sole m' hm' hpath :=
    h.separated.names m' m (h.graph.mem_objects_iff.2 hm') h.property p p
      (h.graph.mem_objects_iff.2 hpath) h.path rfl

/-- Paths of one name are one, so there is a field for each. -/
theorem mem_fields (h : OnPath d s rows m p) :
    (PathDraft.ofRows rows p).field ∈ (RecordShape.ofRows s rows).fields := by
  apply h.soleOnPath.mem_fields h.constraints
  intro n n' hn hn' q q' hq hq' hname
  have hproperty := h.graph.mem_objects_iff.2 hn
  have hpath := h.graph.mem_objects_iff.2 hq
  have hpath' := h.graph.mem_objects_iff.2 hq'
  obtain rfl := h.separated.names n n' hproperty (h.graph.mem_objects_iff.2 hn') _ _ hpath hpath'
    hname
  exact Term.iri.inj (h.separated.path n hproperty _ hpath _ hpath')

theorem mem_values_iff (h : OnPath d s rows m p) {x : Term} :
    x ∈ (PathDraft.ofRows rows p).values ↔
      ∃ head ∈ d.objects m Shacl.members, x ∈ d.members head := by
  rw [h.soleOnPath.mem_values_iff h.constraints]
  simp only [h.graph.mem_objects_iff, Dataset.Says]

theorem required_iff (h : OnPath d s rows m p) :
    (PathDraft.ofRows rows p).required = true ↔ ∃ l k, .literal l ∈ d.objects m Shacl.minCount ∧
      Number.readSigned64 (Text.trim l.text) = .ok k ∧ 0 < k := by
  rw [h.soleOnPath.required_iff h.constraints]
  simp only [h.graph.mem_objects_iff, Dataset.Says]

end OnPath

end BuildingModel
