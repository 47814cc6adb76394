import BuildingModel.Proofs.Lists
import BuildingModel.Proofs.Validation.Report

/-!
# Validation of a whole graph

A report has the results of all focus nodes one after the other, and of no other nodes. Focus nodes
are the subjects of the data and the nodes that shapes target, each once and in the order in which
they are written. What has been looked up for one node changes nothing for the next, and a node that
is neither a focus node nor typed in the ontology has no results.
-/
namespace BuildingModel.Rdf

theorem Node.written_injective {a b : Node} (h : a.written = b.written) : a = b := by
  have hchars := congrArg String.toList h
  cases a with
  | iri i =>
    cases b with
    | iri j =>
      have hiri : i.text = j.text := String.toList_inj.1 (by
        simpa [Node.written, Iri.written] using hchars)
      exact congrArg (fun t => Node.iri ⟨t⟩) hiri
    | blank c => simp [Node.written, Iri.written, BlankNode.written] at hchars
  | blank c =>
    cases b with
    | iri j => simp [Node.written, Iri.written, BlankNode.written] at hchars
    | blank c' =>
      have hlabel : c.label = c'.label := String.toList_inj.1 (by
        simpa [Node.written, BlankNode.written] using hchars)
      exact congrArg (fun t => Node.blank ⟨t⟩) hlabel

end BuildingModel.Rdf

namespace BuildingModel.Validation

open BuildingModel.Rdf

variable {o data : Dataset} {n : Node} {v : ShapeValidator} {E : PatternEngine}

/-! ## Order -/

/-- The shapes of a validator are in the order of their IRIs. -/
theorem pairwise_shapes (hv : ShapeValidator.ofDataset o E = .ok v) :
    v.shapes.Pairwise fun s s' => s.id.text ≤ s'.id.text := by
  obtain ⟨shapes, hshapes, rfl⟩ := map_eq_ok hv
  obtain ⟨loaded, -, rfl⟩ := map_eq_ok hshapes
  exact pairwise_mergeSort_text (fun s : NodeShape => s.id.text) loaded

namespace ShapeValidator

theorem mem_focusNodes_iff : n ∈ v.focusNodes data ↔
    (∃ q ∈ data.quads, q.subject = n) ∨ ∃ s ∈ v.shapes, n.term ∈ s.targetNodes := by
  simp [focusNodes, Term.node?_eq_some_iff]

/-- Focus nodes are in the order in which they are written, and none of them occurs twice. -/
theorem pairwise_focusNodes (v : ShapeValidator) (data : Dataset) :
    (v.focusNodes data).Pairwise fun a b => a.written < b.written :=
  pairwise_lt_mergeSort_text (fun _ _ h => Node.written_injective h) (nodup_distinct _)

/-! ## One node -/

/-- What has been looked up before makes no difference to the results of a node. -/
theorem checkShapes_fst_eq_validateNode (v : ShapeValidator) (data : Dataset) (n : Node)
    (memo : ClassMemo v.ontology) :
    ((checkShapes data n v.shapes : Lookup v.ontology (List Result)) memo).1 =
      v.validateNode data n := by
  rw [validateNode, checkShapes_fst v.shapes memo memo, checkShapes_fst v.shapes _ memo]

/-- The results of a node are in the order of the IRIs of their shapes. -/
theorem pairwise_validateNode (hv : ofDataset o E = .ok v) (data : Dataset) (n : Node) :
    (v.validateNode data n).Pairwise fun x y => x.shape ≤ y.shape := by
  rw [validateNode, checkShapes_fst v.shapes _ (.empty v.ontology), List.pairwise_flatMap]
  constructor
  · intro s _
    apply List.pairwise_of_forall_mem_list
    intro x hx y hy
    have hsame : x.shape = y.shape := (shape_of_mem_check hx).trans (shape_of_mem_check hy).symm
    exact hsame ▸ String.le_refl x.shape
  · refine (pairwise_shapes hv).imp ?_
    intro s s' hle x hx y hy
    rw [shape_of_mem_check hx, shape_of_mem_check hy]
    exact hle

/-- A node without any types that no shape targets has no results. -/
theorem validateNode_eq_nil (hdata : data.objects n Vocabulary.type = [])
    (hontology : v.ontology.objects n Vocabulary.type = [])
    (htarget : ∀ s ∈ v.shapes, n.term ∉ s.targetNodes) : v.validateNode data n = [] := by
  have huntyped : ∀ c, ¬ InstanceOf v.ontology data n c := by
    rintro c ⟨t, htype | ⟨-, htype⟩, -⟩
    · rw [hdata] at htype
      cases htype
    · rw [hontology] at htype
      cases htype
  rw [validateNode, checkShapes_fst v.shapes _ (.empty v.ontology), List.flatMap_eq_nil_iff]
  intro s hs
  rw [shape_check_fst s _ (.empty v.ontology), if_neg]
  rintro (hnode | ⟨c, -, hc⟩)
  · exact htarget s hs hnode
  · exact huntyped c hc

/-! ## The report -/

/-- The report on data has the results of the focus nodes, node by node, and of no other node, and
it conforms if none of them is a violation. -/
theorem validate_whole_graph (hv : ofDataset o E = .ok v) (data : Dataset) :
    (∃ ns : List Node,
      (∀ n, n ∈ ns ↔ (∃ q ∈ data.quads, q.subject = n) ∨ ∃ s ∈ v.shapes, n.term ∈ s.targetNodes) ∧
      ns.Pairwise (fun a b => a.written < b.written) ∧
      (v.validate data).results = ns.flatMap (v.validateNode data)) ∧
    (∀ n, (v.validateNode data n).Pairwise fun x y => x.shape ≤ y.shape) ∧
    (∀ n memo, ((checkShapes data n v.shapes : Lookup v.ontology (List Result)) memo).1 =
      v.validateNode data n) ∧
    (∀ n, (∀ q ∈ data.quads, q.subject ≠ n) → (∀ s ∈ v.shapes, n.term ∉ s.targetNodes) →
      o.objects n Vocabulary.type = [] → v.validateNode data n = []) ∧
    ((v.validate data).conforms = true ↔
      ∀ x ∈ (v.validate data).results, x.severity ≠ .violation) := by
  refine ⟨⟨v.focusNodes data, fun n => mem_focusNodes_iff, pairwise_focusNodes v data,
    validate_results v data⟩, pairwise_validateNode hv data,
    checkShapes_fst_eq_validateNode v data, ?_, Report.conforms_iff⟩
  intro n hsubject htarget htype
  have hontology : v.ontology = o := by
    obtain ⟨shapes, -, rfl⟩ := map_eq_ok hv
    rfl
  refine validateNode_eq_nil ?_ (by rw [hontology, htype]) htarget
  rw [List.eq_nil_iff_forall_not_mem]
  intro t ht
  obtain ⟨g, hq⟩ := Dataset.mem_objects.1 ht
  exact hsubject _ (Dataset.mem_quads.2 hq) rfl

/-- Data that say nothing of the node that a shape targets. -/
def strayData : Dataset :=
  Dataset.empty.insertAll
    [(⟨.iri ⟨"urn:b"⟩, ⟨"urn:feeds"⟩, .literal (.plain "x")⟩ : Triple).inDefault]

/-- What the targeted node lacks is reported, though the data do not mention it. -/
theorem validate_stray_graph : ∃ v, ofDataset feederShapes = .ok v ∧
    (∃ x ∈ (v.validate strayData).results, x.focusNode = "urn:a") ∧
    (v.validate strayData).conforms = false ∧
    v.validateNode strayData (.iri ⟨"urn:c"⟩) = [] := by
  have hload : ofDataset feederShapes = .ok ⟨feederShapes, [feederShape]⟩ := by
    have hshapes : loadShapes feederShapes .expressions = .ok [feederShape] :=
      loadShapes_of_single (by rfl)
    rw [ofDataset, hshapes]
    rfl
  obtain ⟨⟨ns, hfocus, -, hresults⟩, -, -, hnone, hconforms⟩ :=
    validate_whole_graph hload strayData
  have hmissing : ⟨"urn:a", some "urn:feeds", none,
      "Property <urn:feeds> must have at least 2 value(s)", .violation, "urn:S",
      some "sh:minCount"⟩ ∈ (ShapeValidator.validate ⟨feederShapes, [feederShape]⟩
        strayData).results := by
    rw [hresults, List.mem_flatMap]
    exact ⟨.iri ⟨"urn:a"⟩, (hfocus _).2 (.inr (by decide +kernel)), by decide +kernel⟩
  refine ⟨_, hload, ⟨_, hmissing, rfl⟩, ?_, ?_⟩
  · rw [Bool.eq_false_iff, Ne, hconforms]
    intro h
    exact h _ hmissing rfl
  · exact hnone _ (by decide +kernel) (by decide +kernel) (by decide +kernel)

end ShapeValidator

end BuildingModel.Validation
