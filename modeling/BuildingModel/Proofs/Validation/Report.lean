import BuildingModel.Proofs.Validation.Finding
import BuildingModel.Validation.Validator

/-!
# What is reported

The results of a shape for a node are those of its property shapes, of their values and of the
constraints on them. Put together they are one for each finding, if the shape applies to the node.
-/
namespace BuildingModel.Validation

open BuildingModel.Rdf

variable {o data : Dataset} {n : Node} {memo : ClassMemo o} {E : PatternEngine}

/-! ## Results without the memo -/

open Classical in
theorem valueResults_fst (p : PropertyShape) (shape : Iri) (v : Term) (cs : List ValueConstraint)
    (memo : ClassMemo o) :
    ((p.valueResults shape n data v cs : Lookup o (List Result)) memo).1 =
      cs.flatMap fun c => if Holds o data v c then []
        else [p.result shape n c.name (some v) c.message] := by
  induction cs generalizing memo with
  | nil => rfl
  | cons c cs ih =>
    rw [PropertyShape.valueResults, List.flatMap_cons]
    simp only [bind_fst, pure_fst]
    rw [ih]
    by_cases hc : Holds o data v c
    · rw [if_pos (ValueConstraint.satisfiedBy_iff.2 hc), if_pos hc]
      rfl
    · rw [if_neg (fun h => hc (ValueConstraint.satisfiedBy_iff.1 h)), if_neg hc]
      rfl

open Classical in
theorem valuesResults_fst (p : PropertyShape) (shape : Iri) (vs : List Term) (memo : ClassMemo o) :
    ((p.valuesResults shape n data vs : Lookup o (List Result)) memo).1 =
      vs.flatMap fun v => p.constraints.flatMap fun c => if Holds o data v c then []
        else [p.result shape n c.name (some v) c.message] := by
  induction vs generalizing memo with
  | nil => rfl
  | cons v vs ih =>
    rw [PropertyShape.valuesResults, List.flatMap_cons]
    simp only [bind_fst, pure_fst]
    rw [ih, valueResults_fst]

open Classical in
theorem property_check_fst (p : PropertyShape) (shape : Iri) (memo : ClassMemo o) :
    ((p.check shape data n : Lookup o (List Result)) memo).1 =
      p.countResults shape n (data.objects n p.path).length ++
        (statementsOf data n p.path).flatMap fun x => p.constraints.flatMap fun c =>
          if Holds o data x.object c then []
          else [p.result shape n c.name (some x.object) c.message] := by
  rw [PropertyShape.check]
  simp only [bind_fst, pure_fst]
  rw [valuesResults_fst, ← map_object_statementsOf, List.flatMap_map, List.length_map]

theorem propertyResults_fst (s : NodeShape) (ps : List PropertyShape) (memo memo' : ClassMemo o) :
    ((s.propertyResults data n ps : Lookup o (List Result)) memo).1 =
      ps.flatMap fun p => (((s.graded p).check s.id data n : Lookup o (List Result)) memo').1 := by
  induction ps generalizing memo with
  | nil => rfl
  | cons p ps ih =>
    rw [NodeShape.propertyResults, List.flatMap_cons]
    simp only [bind_fst, pure_fst]
    rw [ih, property_check_fst, property_check_fst]

theorem someInstance_iff {cs : List Iri} :
    ((NodeShape.someInstance data n cs : Lookup o Bool) memo).1 = true ↔
      ∃ c ∈ cs, InstanceOf o data n c := by
  induction cs generalizing memo with
  | nil => simp [NodeShape.someInstance]
  | cons c cs ih =>
    rw [NodeShape.someInstance, bind_fst]
    by_cases hc : InstanceOf o data n c
    · rw [if_pos (isInstance_iff.2 hc), pure_fst]
      simp [hc]
    · rw [if_neg (fun h => hc (isInstance_iff.1 h)), ih]
      simp [hc]

open Classical in
theorem shape_check_fst (s : NodeShape) (memo memo' : ClassMemo o) :
    ((s.check data n : Lookup o (List Result)) memo).1 =
      if n.term ∈ s.targetNodes ∨ ∃ c ∈ s.id :: s.targetClasses, InstanceOf o data n c then
        s.properties.flatMap fun p =>
          (((s.graded p).check s.id data n : Lookup o (List Result)) memo').1
      else [] := by
  have happlies : ((s.appliesTo data n : Lookup o Bool) memo).1 = true ↔
      n.term ∈ s.targetNodes ∨ ∃ c ∈ s.id :: s.targetClasses, InstanceOf o data n c := by
    unfold NodeShape.appliesTo
    by_cases ht : n.term ∈ s.targetNodes
    · simp [ht]
    · simp only [ht, false_or]
      rw [if_neg (by simpa using ht), someInstance_iff]
  rw [NodeShape.check]
  simp only [bind_fst]
  by_cases h : n.term ∈ s.targetNodes ∨ ∃ c ∈ s.id :: s.targetClasses, InstanceOf o data n c
  · rw [if_pos (happlies.2 h), if_pos h, propertyResults_fst]
  · rw [if_neg (fun ha => h (happlies.1 ha)), if_neg h, pure_fst]

theorem shape_check_fst_congr (s : NodeShape) (memo memo' : ClassMemo o) :
    ((s.check data n : Lookup o (List Result)) memo).1 =
      ((s.check data n : Lookup o (List Result)) memo').1 := by
  rw [shape_check_fst s memo memo, shape_check_fst s memo' memo]

theorem checkShapes_fst (ss : List NodeShape) (memo memo' : ClassMemo o) :
    ((ShapeValidator.checkShapes data n ss : Lookup o (List Result)) memo).1 =
      ss.flatMap fun s => ((s.check data n : Lookup o (List Result)) memo').1 := by
  induction ss generalizing memo with
  | nil => rfl
  | cons s ss ih =>
    rw [ShapeValidator.checkShapes, List.flatMap_cons]
    simp only [bind_fst, pure_fst]
    rw [ih, shape_check_fst_congr s memo memo']

theorem checkNodes_fst (v : ShapeValidator) (data : Dataset) (ns : List Node)
    (memo memo' : ClassMemo v.ontology) :
    ((v.checkNodes data ns : Lookup v.ontology (List Result)) memo).1 = ns.flatMap fun n =>
      ((ShapeValidator.checkShapes data n v.shapes : Lookup v.ontology (List Result)) memo').1 := by
  induction ns generalizing memo with
  | nil => rfl
  | cons n ns ih =>
    rw [ShapeValidator.checkNodes, List.flatMap_cons]
    simp only [bind_fst, pure_fst]
    rw [ih, checkShapes_fst v.shapes memo memo', ← checkShapes_fst v.shapes memo' memo']

/-- The report on a dataset has the results of its nodes, node by node. -/
theorem validate_results (v : ShapeValidator) (data : Dataset) :
    (v.validate data).results = (v.focusNodes data).flatMap (v.validateNode data) :=
  checkNodes_fst v data _ _ _

/-- What a shape reports at a node is due to one of its property shapes: a number of values out of
bounds, or a value that breaks a constraint. -/
theorem exists_property_of_mem_check {s : NodeShape} {x : Result}
    (hx : x ∈ ((s.check data n : Lookup o (List Result)) memo).1) :
    ∃ p ∈ s.properties,
      x ∈ (s.graded p).countResults s.id n (data.objects n p.path).length ∨
      ∃ t ∈ data.objects n p.path, ∃ c ∈ p.constraints, ¬ Holds o data t c ∧
        x = (s.graded p).result s.id n c.name (some t) c.message := by
  rw [shape_check_fst s memo memo] at hx
  split at hx
  · obtain ⟨p, hp, hx⟩ := List.mem_flatMap.1 hx
    rw [property_check_fst, List.mem_append, List.mem_flatMap] at hx
    refine ⟨p, hp, hx.imp id ?_⟩
    intro ⟨q, hq, hx⟩
    obtain ⟨c, hc, hx⟩ := List.mem_flatMap.1 hx
    by_cases hholds : Holds o data q.object c
    · rw [if_pos hholds] at hx
      cases hx
    · rw [if_neg hholds] at hx
      refine ⟨q.object, ?_, c, hc, hholds, List.mem_singleton.1 hx⟩
      rw [← map_object_statementsOf]
      exact List.mem_map_of_mem hq
  · cases hx

theorem shape_of_mem_check {s : NodeShape} {x : Result}
    (hx : x ∈ ((s.check data n : Lookup o (List Result)) memo).1) : x.shape = s.id.text := by
  obtain ⟨p, -, hx⟩ := exists_property_of_mem_check hx
  rcases hx with hx | ⟨t, -, c, -, -, rfl⟩
  · rcases List.mem_append.1 hx with hx | hx
    · obtain ⟨k, -, rfl⟩ := List.mem_map.1 hx
      rfl
    · obtain ⟨k, -, rfl⟩ := List.mem_map.1 hx
      rfl
  · rfl

/-! ## One result for each finding -/

section PropertyShape

variable {s : NodeShape} {q : Quad} {m : Node} {p : PropertyShape}

theorem reports_result (hp : ReadsAs o E m p) (hq : Declares o s.id q m p.path)
    {constraint : String}
    (value : Option Quad) {message : String}
    (hmessage : (∀ l, Term.literal l ∉ o.objects m Shacl.message) →
      Says o E m p.path constraint message) :
    Reports o E s n ⟨q, constraint, value⟩
      ((s.graded p).result s.id n constraint (value.map (·.object)) message) := by
  have hsays : Says o E m p.path constraint (p.message.getD message) := by
    cases hm : p.message with
    | some t =>
      obtain ⟨l, hl, rfl⟩ := (hp.message_iff t).1 hm
      exact .own hl
    | none =>
      apply hmessage
      intro l hl
      rw [(hp.message_iff l.text).2 ⟨l, hl, rfl⟩] at hm
      cases hm
  have hgraded : GradedAs o m s.severity ((p.severity.or (some s.severity)).getD .violation) := by
    cases hs : p.severity with
    | some severity =>
      obtain ⟨i, hi, rfl⟩ := (hp.severity_iff severity).1 hs
      exact .own hi
    | none =>
      apply GradedAs.shape
      intro i hi
      rw [(hp.severity_iff _).2 ⟨i, hi, rfl⟩] at hs
      cases hs
  have h := Reports.intro (f := ⟨q, constraint, value⟩) (n := n) hq hsays hgraded
  cases value <;> exact h

theorem onePer_counts (hp : ReadsAs o E m p) (hq : Declares o s.id q m p.path) (count : ℕ) :
    OnePer (Reports o E s n)
      (fun f => (f = ⟨q, "sh:minCount", none⟩ ∧
          ∃ k, p.minCount = some k ∧ decide (count < k) = true) ∨
        (f = ⟨q, "sh:maxCount", none⟩ ∧ ∃ k, p.maxCount = some k ∧ decide (k < count) = true))
      ((s.graded p).countResults s.id n count) := by
  apply OnePer.append
  · apply OnePer.bound
    intro k hk _
    apply reports_result hp hq none
    intro hno
    obtain ⟨l, hl, hbound⟩ := (hp.minCount_iff k).1 hk
    exact .minCount hno hl hbound
  · apply OnePer.bound
    intro k hk _
    apply reports_result hp hq none
    intro hno
    obtain ⟨l, hl, hbound⟩ := (hp.maxCount_iff k).1 hk
    exact .maxCount hno hl hbound
  · rintro f ⟨rfl, -⟩ ⟨hf, -⟩
    simp at hf

open Classical in
theorem onePer_value (data : Dataset) (n : Node) (hp : ReadsAs o E m p)
    (hq : Declares o s.id q m p.path) (x : Quad) :
    OnePer (Reports o E s n)
      (fun f => ∃ c ∈ p.constraints, f = ⟨q, c.name, some x⟩ ∧ ¬ Holds o data x.object c)
      (p.constraints.flatMap fun c => if Holds o data x.object c then []
        else [(s.graded p).result s.id n c.name (some x.object) c.message]) := by
  apply OnePer.flatMap (List.Nodup.of_map _ hp.names)
  · intro c hc
    by_cases hholds : Holds o data x.object c
    · rw [if_pos hholds]
      exact OnePer.nil fun f hf => hf.2 hholds
    · rw [if_neg hholds]
      refine (OnePer.singleton ?_).congr fun f => (and_iff_left hholds).symm
      exact reports_result hp hq (some x) fun hno => .value hno (hp.asks c hc)
  · rintro c hc c' hc' f ⟨rfl, -⟩ ⟨hf, -⟩
    simp only [Finding.mk.injEq, true_and, and_true] at hf
    exact List.inj_on_of_nodup_map hp.names hc hc' hf

/-- A property shape that has been read gives one result for each finding of its statement. -/
theorem onePer_property (hp : ReadsAs o E m p) (hq : Declares o s.id q m p.path)
    (memo : ClassMemo o) :
    OnePer (Reports o E s n) (fun f => f.property = q ∧ Violated o E data s.id n f)
      (((s.graded p).check s.id data n : Lookup o (List Result)) memo).1 := by
  rw [property_check_fst]
  have hvalues := OnePer.flatMap (nodup_statementsOf data n p.path)
    (fun x _ => onePer_value data n hp hq x) ?_
  refine ((onePer_counts hp hq (data.objects n p.path).length).append hvalues ?_).congr ?_
  · rintro f (⟨rfl, -⟩ | ⟨rfl, -⟩) ⟨x, -, c, -, hf, -⟩
    · simp at hf
    · simp at hf
  · intro f
    have hsame : ∀ {m' : Node} {path : Iri}, Declares o s.id q m' path →
        m' = m ∧ path = p.path := by
      intro m' path hq'
      have hm : m' = m := Node.term_injective (hq'.object.symm.trans hq.object)
      subst hm
      exact ⟨rfl, (hp.path_iff path).1 hq'.path⟩
    constructor
    · rintro ((⟨rfl, k, hk, hlt⟩ | ⟨rfl, k, hk, hlt⟩) | ⟨x, hx, c, hc, rfl, hbroken⟩)
      · obtain ⟨l, hl, hbound⟩ := (hp.minCount_iff k).1 hk
        exact ⟨rfl, .minCount hq hl hbound (by simpa using hlt)⟩
      · obtain ⟨l, hl, hbound⟩ := (hp.maxCount_iff k).1 hk
        exact ⟨rfl, .maxCount hq hl hbound (by simpa using hlt)⟩
      · obtain ⟨hmem, hsubject, hpredicate⟩ := mem_statementsOf.1 hx
        exact ⟨rfl, .value hq (hp.asks c hc) hmem hsubject hpredicate hbroken⟩
    · rintro ⟨rfl, hf⟩
      cases hf with
      | minCount hq' hl hbound hlt =>
        obtain ⟨rfl, rfl⟩ := hsame hq'
        exact .inl (.inl ⟨rfl, _, (hp.minCount_iff _).2 ⟨_, hl, hbound⟩, by simpa using hlt⟩)
      | maxCount hq' hl hbound hlt =>
        obtain ⟨rfl, rfl⟩ := hsame hq'
        exact .inl (.inr ⟨rfl, _, (hp.maxCount_iff _).2 ⟨_, hl, hbound⟩, by simpa using hlt⟩)
      | value hq' hc hx hsubject hpredicate hbroken =>
        obtain ⟨rfl, rfl⟩ := hsame hq'
        obtain ⟨c', hc', hname, hiff⟩ := hp.complete _ hc
        refine .inr ⟨_, mem_statementsOf.2 ⟨hx, hsubject, hpredicate⟩, c', hc', ?_, ?_⟩
        · rw [hname]
        · rwa [hiff]
  · rintro x hx y hy f ⟨c, -, rfl, -⟩ ⟨c', -, hf, -⟩
    simp only [Finding.mk.injEq, true_and, Option.some.injEq] at hf
    exact hf.2

end PropertyShape

/-! ## Node shapes -/

/-- The property shape of a node, if it has been read and is one. -/
def propertyAt? (o : Dataset) (E : PatternEngine) (m : Node) : Option PropertyShape :=
  (loadProperty o m E).toOption.join

theorem loadProperties_spec {ns : List Node} {ps : List PropertyShape}
    (h : loadProperties o E ns = .ok ps) :
    (∀ m ∈ ns, loadProperty o m E = .ok (propertyAt? o E m)) ∧
      ps = ns.flatMap fun m => (propertyAt? o E m).toList := by
  induction ns generalizing ps with
  | nil =>
    cases h
    exact ⟨by simp, rfl⟩
  | cons m ns ih =>
    obtain ⟨p, hp, h⟩ := bind_eq_ok h
    obtain ⟨rest, hrest, h⟩ := bind_eq_ok h
    cases h
    obtain ⟨hall, rfl⟩ := ih hrest
    have hm : propertyAt? o E m = p := by
      rw [propertyAt?, hp]
      rfl
    constructor
    · intro m' hm'
      rcases List.mem_cons.1 hm' with rfl | hm'
      · rw [hm, hp]
      · exact hall m' hm'
    · rw [List.flatMap_cons, hm]

theorem flatMap_propertyAt? (qs : List Quad) :
    ((qs.map (·.object)).filterMap Term.node?).flatMap (fun m => (propertyAt? o E m).toList) =
      qs.flatMap fun q => (q.object.node?.bind (propertyAt? o E)).toList := by
  induction qs with
  | nil => rfl
  | cons q qs ih =>
    rw [List.map_cons, List.filterMap_cons, List.flatMap_cons, ← ih]
    cases q.object.node? <;> rfl

theorem loadShapesOf_spec {ids : List Iri} {ss : List NodeShape} (h : loadShapesOf o E ids = .ok ss)
    {s : NodeShape} (hs : s ∈ ss) : ∃ id, loadShape o E id = .ok s := by
  induction ids generalizing ss with
  | nil =>
    cases h
    cases hs
  | cons id ids ih =>
    obtain ⟨s', hs', h⟩ := bind_eq_ok h
    obtain ⟨rest, hrest, h⟩ := bind_eq_ok h
    cases h
    rcases List.mem_cons.1 hs with rfl | hs
    · exact ⟨id, hs'⟩
    · exact ih hrest hs

theorem exists_loadShape {ss : List NodeShape} (h : loadShapes o E = .ok ss) {s : NodeShape}
    (hs : s ∈ ss) : ∃ id, loadShape o E id = .ok s := by
  obtain ⟨ss', hss', rfl⟩ := map_eq_ok h
  exact loadShapesOf_spec hss' (List.mem_mergeSort.1 hs)

/-- The property shapes of a shape that has been loaded come from its statements. -/
theorem loadShape_spec {id : Iri} {s : NodeShape} (h : loadShape o E id = .ok s) :
    s.id = id ∧
    s.targetNodes = o.objects (.iri id) Shacl.targetNode ∧
    s.targetClasses = (o.objects (.iri id) Shacl.targetClass).filterMap Term.iri? ∧
    (∀ m : Node, m.term ∈ o.objects (.iri id) Shacl.property →
      loadProperty o m E = .ok (propertyAt? o E m)) ∧
    s.properties = (statementsOf o (.iri id) Shacl.property).flatMap fun q =>
      (q.object.node?.bind (propertyAt? o E)).toList := by
  unfold loadShape at h
  obtain ⟨ps, hps, h⟩ := bind_eq_ok h
  cases h
  obtain ⟨hall, rfl⟩ := loadProperties_spec hps
  refine ⟨rfl, rfl, rfl, ?_, ?_⟩
  · intro m hm
    exact hall m (List.mem_filterMap.2 ⟨m.term, hm, by simp⟩)
  · rw [← flatMap_propertyAt?, map_object_statementsOf]

theorem applies_iff {s : NodeShape}
    (hnodes : s.targetNodes = o.objects (.iri s.id) Shacl.targetNode)
    (hclasses : s.targetClasses =
      (o.objects (.iri s.id) Shacl.targetClass).filterMap Term.iri?) :
    (n.term ∈ s.targetNodes ∨ ∃ c ∈ s.id :: s.targetClasses, InstanceOf o data n c) ↔
      Applies o data s.id n := by
  rw [hnodes, hclasses, Applies]
  simp [Term.iri?_eq_some_iff]

theorem Violated.declares {id : Iri} {f : Finding} (h : Violated o E data id n f) :
    ∃ m path, Declares o id f.property m path := by
  cases h with
  | minCount hq => exact ⟨_, _, hq⟩
  | maxCount hq => exact ⟨_, _, hq⟩
  | value hq => exact ⟨_, _, hq⟩

/-- A statement about a shape gives one result for each finding that is due to it. It gives none if
its object is no property shape with an IRI for its path. -/
theorem onePer_statement (data : Dataset) (n : Node) {s : NodeShape} {q : Quad}
    (hq : q ∈ statementsOf o (.iri s.id) Shacl.property)
    (hone : ∀ m : Node, m.term ∈ o.objects (.iri s.id) Shacl.property → Unambiguous o m)
    (hread : ∀ m : Node, m.term ∈ o.objects (.iri s.id) Shacl.property →
      loadProperty o m E = .ok (propertyAt? o E m))
    (memo : ClassMemo o) :
    OnePer (Reports o E s n) (fun f => f.property = q ∧ Violated o E data s.id n f)
      ((q.object.node?.bind (propertyAt? o E)).toList.flatMap fun p =>
        (((s.graded p).check s.id data n : Lookup o (List Result)) memo).1) := by
  have hobject : q.object ∈ o.objects (.iri s.id) Shacl.property := by
    rw [← map_object_statementsOf]
    exact List.mem_map_of_mem hq
  obtain ⟨hmem, hsubject, hpredicate⟩ := mem_statementsOf.1 hq
  cases hnode : q.object.node? with
  | none =>
    apply OnePer.nil
    rintro f ⟨rfl, hf⟩
    obtain ⟨m, path, hdeclares⟩ := hf.declares
    rw [hdeclares.object] at hnode
    simp at hnode
  | some m =>
    have hterm : q.object = m.term := Term.node?_eq_some_iff.1 hnode
    rw [hterm] at hobject
    have hload := hread m hobject
    rw [Option.bind_some]
    cases hp : propertyAt? o E m with
    | none =>
      rw [hp] at hload
      apply OnePer.nil
      rintro f ⟨rfl, hf⟩
      obtain ⟨m', path, hdeclares⟩ := hf.declares
      have hm : m' = m := Node.term_injective (hdeclares.object.symm.trans hterm)
      rw [hm] at hdeclares
      exact not_path_of_loadProperty (hone m hobject) hload path hdeclares.path
    | some p =>
      rw [hp] at hload
      have hreads := readsAs_of_loadProperty (hone m hobject) hload
      have hdeclares : Declares o s.id q m p.path :=
        ⟨hmem, hsubject, hpredicate, hterm, (hreads.path_iff p.path).2 rfl⟩
      simpa using onePer_property hreads hdeclares memo

/-- A shape that has been loaded gives one result for each finding where it applies. -/
theorem onePer_shape {id : Iri} {s : NodeShape} (hload : loadShape o E id = .ok s)
    (hone : ∀ m : Node, m.term ∈ o.objects (.iri s.id) Shacl.property → Unambiguous o m)
    (memo : ClassMemo o) :
    OnePer (Reports o E s n) (fun f => Applies o data s.id n ∧ Violated o E data s.id n f)
      ((s.check data n : Lookup o (List Result)) memo).1 := by
  obtain ⟨rfl, hnodes, hclasses, hread, hproperties⟩ := loadShape_spec hload
  rw [shape_check_fst s memo memo]
  by_cases happlies : Applies o data s.id n
  · rw [if_pos ((applies_iff hnodes hclasses).2 happlies), hproperties, List.flatMap_assoc]
    have hstatements := OnePer.flatMap (nodup_statementsOf o (.iri s.id) Shacl.property)
      (fun q hq => onePer_statement data n hq hone hread memo) ?_
    refine hstatements.congr ?_
    · intro f
      constructor
      · rintro ⟨q, -, -, hf⟩
        exact ⟨happlies, hf⟩
      · rintro ⟨-, hf⟩
        obtain ⟨m, path, hdeclares⟩ := hf.declares
        exact ⟨f.property, mem_statementsOf.2
          ⟨hdeclares.mem, hdeclares.subject, hdeclares.predicate⟩, rfl, hf⟩
    · rintro q - q' - f ⟨rfl, -⟩ ⟨h, -⟩
      exact h
  · rw [if_neg (fun h => happlies ((applies_iff hnodes hclasses).1 h))]
    exact OnePer.nil fun f hf => happlies hf.1

/-- The results for a node are those of the shapes that have been loaded, shape by shape. Each shape
gives one result for each finding where it applies, and none where it does not. -/
theorem onePer_of_loadShapes {shapes : List NodeShape} (hload : loadShapes o E = .ok shapes)
    (data : Dataset) (n : Node) (memo : ClassMemo o) :
    ((ShapeValidator.checkShapes data n shapes : Lookup o (List Result)) memo).1 =
      shapes.flatMap (fun s => ((s.check data n : Lookup o (List Result)) memo).1) ∧
    ∀ s ∈ shapes,
      (∀ m : Node, m.term ∈ o.objects (.iri s.id) Shacl.property → Unambiguous o m) →
      OnePer (Reports o E s n) (fun f => Applies o data s.id n ∧ Violated o E data s.id n f)
        ((s.check data n : Lookup o (List Result)) memo).1 := by
  refine ⟨checkShapes_fst shapes memo memo, ?_⟩
  intro s hs hone
  obtain ⟨id, hid⟩ := exists_loadShape hload hs
  exact onePer_shape hid hone memo

/-- A shape for one node, which asks for two numbers under a path. -/
def feederShapes : Dataset :=
  Dataset.empty.insertAll (List.map Triple.inDefault [
    ⟨.iri ⟨"urn:S"⟩, Vocabulary.type, .iri Shacl.nodeShape⟩,
    ⟨.iri ⟨"urn:S"⟩, Shacl.targetNode, .iri ⟨"urn:a"⟩⟩,
    ⟨.iri ⟨"urn:S"⟩, Shacl.property, .blank ⟨"p"⟩⟩,
    ⟨.blank ⟨"p"⟩, Shacl.path, .iri ⟨"urn:feeds"⟩⟩,
    ⟨.blank ⟨"p"⟩, Shacl.minCount, .literal (.plain "2")⟩,
    ⟨.blank ⟨"p"⟩, Shacl.datatype, .iri Xsd.integer⟩])

/-- The node has one text under the path. -/
def feederData : Dataset :=
  Dataset.empty.insertAll
    [(⟨.iri ⟨"urn:a"⟩, ⟨"urn:feeds"⟩, .literal (.plain "x")⟩ : Triple).inDefault]

def feederShape : NodeShape where
  id := ⟨"urn:S"⟩
  targetClasses := []
  targetNodes := [.iri ⟨"urn:a"⟩]
  properties := [⟨⟨"urn:feeds"⟩, some 2, none, [.datatype Xsd.integer], none, none⟩]
  severity := .violation

/-- The number of values is too small, and the one value is no number. -/
def feederResults : List Result :=
  [⟨"urn:a", some "urn:feeds", none, "Property <urn:feeds> must have at least 2 value(s)",
      .violation, "urn:S", some "sh:minCount"⟩,
    ⟨"urn:a", some "urn:feeds", some "x",
      "Value must be a literal with datatype <http://www.w3.org/2001/XMLSchema#integer>",
      .violation, "urn:S", some "sh:datatype"⟩]

theorem onePer_feederShape :
    OnePer (Reports feederShapes .expressions feederShape (.iri ⟨"urn:a"⟩))
      (fun f => Applies feederShapes feederData ⟨"urn:S"⟩ (.iri ⟨"urn:a"⟩) ∧
        Violated feederShapes .expressions feederData ⟨"urn:S"⟩ (.iri ⟨"urn:a"⟩) f)
      feederResults := by
  have hload : loadShapes feederShapes .expressions = .ok [feederShape] :=
    loadShapes_of_single (by rfl)
  have hshape := (onePer_of_loadShapes hload feederData (.iri ⟨"urn:a"⟩) (.empty feederShapes)).2
    feederShape List.mem_cons_self ?_
  · have hresults : ((feederShape.check feederData (.iri ⟨"urn:a"⟩) :
        Lookup feederShapes (List Result)) (.empty feederShapes)).1 =
        feederResults := by
      decide +kernel
    rwa [hresults] at hshape
  · intro m hm
    have hobjects : feederShapes.objects (.iri ⟨"urn:S"⟩) Shacl.property = [.blank ⟨"p"⟩] := by
      decide +kernel
    have hnode : m = .blank ⟨"p"⟩ := by
      apply Node.term_injective
      have hid : feederShape.id = ⟨"urn:S"⟩ := rfl
      rw [hid, hobjects] at hm
      exact List.mem_singleton.1 hm
    subst hnode
    have hmembers : feederShapes.objects (.blank ⟨"p"⟩) Shacl.members = [] := by decide +kernel
    have halternatives : feederShapes.objects (.blank ⟨"p"⟩) Shacl.alternatives = [] := by
      decide +kernel
    constructor
    · decide +kernel
    · rw [hmembers]
      simp
    · rw [halternatives]
      simp
    · rw [halternatives]
      simp

end BuildingModel.Validation
