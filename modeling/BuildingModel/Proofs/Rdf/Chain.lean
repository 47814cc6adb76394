import BuildingModel.Proofs.Rdf.Collection
import BuildingModel.Proofs.Rdf.Graph
import BuildingModel.Proofs.Shape.Properties
import BuildingModel.Validation.Loading

/-!
# Chains of cells

Reading a collection walks along the tails of its cells. The walk comes to no cell twice, and it
ends at the empty list, at a literal, behind a cell without a tail or at a cell that it has passed.
Where no cell has two tails there is one such walk, and what is read are the elements along it.
Fields and property shapes read their lists alike.
-/
namespace BuildingModel

open BuildingModel.Rdf BuildingModel.Ontology

namespace Rdf.Dataset

variable {d : Dataset} {visited cells cells' : List Node} {head current : Term}
  {stop stop' : Option Term}

/-! ## Walks -/

/-- From a term on, cells follow one another, each of them the tail of the one before. They stop at
a term, or at nothing where the last of them has no tail. -/
inductive Chain (d : Dataset) : Term → List Node → Option Term → Prop
  | stop (t : Term) : Chain d t [] (some t)
  | last {n : Node} (hn : n.term ≠ .iri Vocabulary.nil) (hrest : d.objects n Vocabulary.rest = []) :
      Chain d n.term [n] none
  | cell {n : Node} {next : Term} {cells : List Node} {stop : Option Term}
      (hn : n.term ≠ .iri Vocabulary.nil) (hnext : next ∈ d.objects n Vocabulary.rest)
      (h : Chain d next cells stop) : Chain d n.term (n :: cells) stop

/-- A walk goes along a chain up to where no new cell follows: it ends at the empty list, at a
literal, at nothing, or at a cell that it has passed or that was visited before. -/
structure Walk (d : Dataset) (visited : List Node) (head : Term) (cells : List Node)
    (stop : Option Term) : Prop where
  chain : d.Chain head cells stop
  nodup : cells.Nodup
  new : ∀ n ∈ cells, n ∉ visited
  ended : ∀ t, stop = some t →
    t = .iri Vocabulary.nil ∨ t.node? = none ∨ ∃ n ∈ visited ++ cells, t = n.term

theorem Chain.cell_of_mem (h : d.Chain head cells stop) {n : Node} (hn : n ∈ cells) :
    d.Cell head n := by
  induction h with
  | stop => cases hn
  | last hne =>
    obtain rfl := List.mem_singleton.1 hn
    exact .head hne
  | cell hne hnext _ ih =>
    rcases List.mem_cons.1 hn with rfl | hn
    · exact .head hne
    · exact .tail hne hnext (ih hn)

namespace Walk

/-- Where a walk does not go on, it has ended. -/
theorem not_mem_of_stop {n : Node} (h : d.Walk visited n.term [] (some n.term))
    (hn : n.term ≠ .iri Vocabulary.nil) : n ∈ visited := by
  rcases h.ended n.term rfl with hnil | hnode | ⟨m, hm, heq⟩
  · exact absurd hnil hn
  · simp at hnode
  · rw [List.append_nil] at hm
    rwa [Node.term_injective heq]

theorem tail {n : Node} {next : Term} (h : d.Walk visited n.term (n :: cells) stop)
    (hchain : d.Chain next cells stop) : d.Walk (n :: visited) next cells stop where
  chain := hchain
  nodup := (List.nodup_cons.1 h.nodup).2
  new m hm := by
    rw [List.mem_cons, not_or]
    refine ⟨?_, h.new m (List.mem_cons_of_mem n hm)⟩
    rintro rfl
    exact (List.nodup_cons.1 h.nodup).1 hm
  ended t ht := by
    refine (h.ended t ht).imp id (Or.imp id ?_)
    rintro ⟨m, hm, rfl⟩
    exact ⟨m, by simpa [or_left_comm] using hm, rfl⟩

theorem cons {n : Node} {next : Term} (hn : n.term ≠ .iri Vocabulary.nil)
    (hnext : next ∈ d.objects n Vocabulary.rest) (hnew : n ∉ visited)
    (h : d.Walk (n :: visited) next cells stop) : d.Walk visited n.term (n :: cells) stop where
  chain := .cell hn hnext h.chain
  nodup := List.nodup_cons.2 ⟨fun hmem => h.new n hmem List.mem_cons_self, h.nodup⟩
  new m hm := by
    rcases List.mem_cons.1 hm with rfl | hm
    · exact hnew
    · exact fun hv => h.new m hm (List.mem_cons_of_mem n hv)
  ended t ht := by
    refine (h.ended t ht).imp id (Or.imp id ?_)
    rintro ⟨m, hm, rfl⟩
    exact ⟨m, by simpa [or_left_comm] using hm, rfl⟩

/-- Where no cell has two tails, there is one walk from a term. -/
theorem unique (hlinear : d.Linear head) (h : d.Walk visited head cells stop)
    (h' : d.Walk visited head cells' stop') : cells = cells' ∧ stop = stop' := by
  have hchain := h.chain
  induction hchain generalizing visited cells' with
  | stop t =>
    have hchain' := h'.chain
    cases hchain' with
    | stop => exact ⟨rfl, rfl⟩
    | @last n hn => exact absurd (h.not_mem_of_stop hn) (h'.new n List.mem_cons_self)
    | @cell n _ _ _ hn => exact absurd (h.not_mem_of_stop hn) (h'.new n List.mem_cons_self)
  | @last n hn hrest =>
    have hchain' := h'.chain
    generalize hc : n.term = current at hchain'
    cases hchain' with
    | stop =>
      subst hc
      exact absurd (h'.not_mem_of_stop hn) (h.new n List.mem_cons_self)
    | last =>
      rw [Node.term_injective hc]
      exact ⟨rfl, rfl⟩
    | cell _ hnext =>
      rw [← Node.term_injective hc, hrest] at hnext
      cases hnext
  | @cell n next cells stop hn hnext hchain ih =>
    have hchain' := h'.chain
    generalize hc : n.term = current at hchain'
    cases hchain' with
    | stop =>
      subst hc
      exact absurd (h'.not_mem_of_stop hn) (h.new n List.mem_cons_self)
    | last _ hrest =>
      rw [← Node.term_injective hc] at hrest
      rw [hrest] at hnext
      cases hnext
    | cell _ hnext' hchain' =>
      obtain rfl := Node.term_injective hc
      obtain rfl := (hlinear n (.head hn)).2 _ hnext _ hnext'
      obtain ⟨rfl, rfl⟩ := ih (hlinear.tail hn hnext) (h.tail hchain) (h'.tail hchain')
      exact ⟨rfl, rfl⟩

end Walk

/-- What is read from a term on are the newest elements of the cells along a walk. -/
theorem exists_walk (d : Dataset) (visited : List Node) (current : Term) :
    ∃ cells stop, d.Walk visited current cells stop ∧
      d.membersFrom visited current = cells.filterMap (d.object? · Vocabulary.first) := by
  fun_induction d.membersFrom visited current with
  | case1 visited =>
    refine ⟨[], _, ⟨.stop _, List.nodup_nil, by simp, ?_⟩, rfl⟩
    rintro t ⟨⟩
    exact .inl rfl
  | case2 visited current hnil hnode =>
    refine ⟨[], _, ⟨.stop _, List.nodup_nil, by simp, ?_⟩, rfl⟩
    rintro t ⟨⟩
    exact .inr (.inl hnode)
  | case3 visited current hnil cell hnode hv =>
    refine ⟨[], _, ⟨.stop _, List.nodup_nil, by simp, ?_⟩, rfl⟩
    rintro t ⟨⟩
    exact .inr (.inr ⟨cell, List.mem_append_left _ hv, Term.node?_eq_some_iff.1 hnode⟩)
  | case4 visited current hnil cell hnode hv element hnone =>
    obtain rfl := Term.node?_eq_some_iff.1 hnode
    refine ⟨[cell], none, ⟨.last hnil (List.head?_eq_none_iff.1 hnone), List.nodup_singleton _,
      by simpa using hv, by simp⟩, ?_⟩
    simp only [element, List.filterMap_cons, List.filterMap_nil]
    cases d.object? cell Vocabulary.first <;> rfl
  | case5 visited current hnil cell hnode hv element next hnext ih =>
    obtain rfl := Term.node?_eq_some_iff.1 hnode
    obtain ⟨cells, stop, hwalk, hread⟩ := ih
    refine ⟨cell :: cells, stop, .cons hnil (mem_objects_of_object? hnext) hv hwalk, ?_⟩
    simp only [hread, element, List.filterMap_cons]
    cases d.object? cell Vocabulary.first <;> rfl

/-! ## Collections with given cells -/

/-- The term that the collection with some cells and elements starts with. -/
def headOf : List (Node × Term) → Term
  | [] => .iri Vocabulary.nil
  | (n, _) :: _ => n.term

/-- The statements of a collection: of each cell its element and its tail. -/
def collectionTriples : List (Node × Term) → List Triple
  | [] => []
  | (n, x) :: cells =>
    ⟨n, Vocabulary.first, x⟩ :: ⟨n, Vocabulary.rest, headOf cells⟩ :: collectionTriples cells

theorem collects_of_collectionTriples {cells : List (Node × Term)}
    (hcells : ∀ c ∈ cells, c.1.term ≠ .iri Vocabulary.nil) (hlinear : d.Linear (headOf cells))
    (hsaid : ∀ t ∈ collectionTriples cells, ∃ g, (⟨t, g⟩ : Quad) ∈ d) :
    d.Collects (headOf cells) (cells.map Prod.snd) := by
  induction cells with
  | nil => exact .nil
  | cons c cells ih =>
    obtain ⟨n, x⟩ := c
    have hn : n.term ≠ .iri Vocabulary.nil := hcells (n, x) List.mem_cons_self
    have hx : x ∈ d.objects n Vocabulary.first := mem_objects.2 (hsaid _ List.mem_cons_self)
    have hnext : headOf cells ∈ d.objects n Vocabulary.rest :=
      mem_objects.2 (hsaid _ (List.mem_cons_of_mem _ List.mem_cons_self))
    obtain ⟨hfirst, hrest⟩ := hlinear n (.head hn)
    refine .cons hn hx hfirst hnext hrest (ih (fun c hc => hcells c (List.mem_cons_of_mem _ hc))
      (Linear.tail hlinear hn hnext) fun t ht => hsaid t ?_)
    exact List.mem_cons_of_mem _ (List.mem_cons_of_mem _ ht)

end Rdf.Dataset

namespace Validation

theorem elementsOf_eq_members {d : Dataset} {s : Node} {p : Iri} {head : Term}
    (h : d.object? s p = some head) : elementsOf d s p = d.members head := by
  rw [elementsOf, h]
  rfl

end Validation

namespace Rdf.Dataset

/-- Where no cell of a collection has two elements or two tails, there is one walk along its cells,
and what is read are the elements that they have, in order. If a collection was entered with some
elements in some cells, it is read with just these elements; and they are what the fields of a
record and the shapes of the validator have of a list that starts with its head. -/
theorem members_along_walk {d : Dataset} {head : Term} (hlinear : d.Linear head) :
    (∃ cells stop, d.Walk [] head cells stop ∧
      (∀ cells' stop', d.Walk [] head cells' stop' → cells' = cells ∧ stop' = stop) ∧
      (∀ n ∈ cells, ∀ x, d.object? n Vocabulary.first = some x ↔
        x ∈ d.objects n Vocabulary.first) ∧
      d.members head = cells.filterMap (d.object? · Vocabulary.first)) ∧
    (∀ cells : List (Node × Term), (∀ c ∈ cells, c.1.term ≠ .iri Vocabulary.nil) →
      head = headOf cells → (∀ t ∈ collectionTriples cells, ∃ g, (⟨t, g⟩ : Quad) ∈ d) →
      d.members head = cells.map Prod.snd) ∧
    (∀ r : PropertyRow, r.members = some head →
      (ShapeCatalog.constraintRows d r).filterMap ConstraintRow.value = d.members head) ∧
    ∀ s p, d.object? s p = some head → Validation.elementsOf d s p = d.members head := by
  refine ⟨?_, ?_, fun r hr => ?_, fun s p h => Validation.elementsOf_eq_members h⟩
  · obtain ⟨cells, stop, hwalk, hread⟩ := d.exists_walk [] head
    refine ⟨cells, stop, hwalk, fun cells' stop' h' => h'.unique hlinear hwalk, fun n hn x => ?_,
      hread⟩
    exact object?_eq_some_iff (hlinear n (hwalk.chain.cell_of_mem hn)).1
  · rintro cells hcells rfl hsaid
    exact (collects_of_collectionTriples hcells hlinear hsaid).members_eq
  · rw [ShapeCatalog.filterMap_value_constraintRows, hr]
    rfl

/-- Two cells that are the tails of each other. -/
def loopTriples : List Triple :=
  [⟨.blank ⟨"a"⟩, Vocabulary.first, .literal (.plain "low")⟩,
    ⟨.blank ⟨"a"⟩, Vocabulary.rest, .blank ⟨"b"⟩⟩,
    ⟨.blank ⟨"b"⟩, Vocabulary.first, .literal (.plain "high")⟩,
    ⟨.blank ⟨"b"⟩, Vocabulary.rest, .blank ⟨"a"⟩⟩]

theorem atMostOne_of_forall_quads {d : Dataset} {p : Iri}
    (h : ∀ q ∈ d.quads, ∀ q' ∈ d.quads, q.predicate = p → q'.predicate = p →
      q.subject = q'.subject → q.object = q'.object) (n : Node) : d.AtMostOne n p := by
  intro a ha b hb
  obtain ⟨g, hg⟩ := mem_objects.1 ha
  obtain ⟨g', hg'⟩ := mem_objects.1 hb
  exact h _ hg _ hg' rfl rfl rfl

/-- A loop is read once around. -/
theorem members_along_loop :
    (ofTriples loopTriples).Linear (.blank ⟨"a"⟩) ∧
      (ofTriples loopTriples).members (.blank ⟨"a"⟩) =
        [.literal (.plain "low"), .literal (.plain "high")] := by
  have hlinear : (ofTriples loopTriples).Linear (.blank ⟨"a"⟩) := fun n _ =>
    ⟨atMostOne_of_forall_quads (by decide +kernel) n,
      atMostOne_of_forall_quads (by decide +kernel) n⟩
  have hwalk : (ofTriples loopTriples).Walk [] (Node.blank ⟨"a"⟩).term [.blank ⟨"a"⟩, .blank ⟨"b"⟩]
      (some (Node.blank ⟨"a"⟩).term) := by
    have hturn : (ofTriples loopTriples).Walk [.blank ⟨"b"⟩, .blank ⟨"a"⟩]
        (Node.blank ⟨"a"⟩).term [] (some (Node.blank ⟨"a"⟩).term) := by
      refine ⟨.stop _, List.nodup_nil, by simp, ?_⟩
      rintro t ⟨⟩
      exact .inr (.inr ⟨.blank ⟨"a"⟩, by simp, rfl⟩)
    have hsecond : (ofTriples loopTriples).Walk [.blank ⟨"a"⟩] (Node.blank ⟨"b"⟩).term
        [.blank ⟨"b"⟩] (some (Node.blank ⟨"a"⟩).term) :=
      hturn.cons (by decide) (by decide +kernel) (by decide)
    exact hsecond.cons (by decide) (by decide +kernel) (by decide)
  obtain ⟨⟨cells, stop, -, hunique, -, hread⟩, -⟩ := members_along_walk hlinear
  obtain ⟨rfl, -⟩ := hunique _ _ hwalk
  refine ⟨hlinear, ?_⟩
  rw [hread]
  decide +kernel

end Rdf.Dataset

end BuildingModel
