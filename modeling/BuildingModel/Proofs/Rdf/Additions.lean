import BuildingModel.Ontology.Introspection
import BuildingModel.Proofs.Rdf.Collection
import BuildingModel.Proofs.Rdf.Graph

/-!
# Additions about new blank nodes

What is entered into a dataset comes before what it holds already. If all of it is about blank nodes
of which nothing was said before, and under few predicates, then most questions do not see it: those
about IRIs, those that keep nothing but IRIs, and those about other predicates have the same answers
in the same order.
-/
namespace BuildingModel.Rdf.Dataset

variable {α : Type} {d d' : Dataset} {ps : List Iri} {p : Iri}

/-- One dataset holds what another one does and, entered later, statements under some predicates
about blank nodes of which the other one says nothing. -/
def AddsNewBlanks (ps : List Iri) (d d' : Dataset) : Prop :=
  ∃ news, d'.quads = news ++ d.quads ∧ ∀ q ∈ news, q.predicate ∈ ps ∧
    ∃ b, q.subject = .blank b ∧ ∀ r ∈ d, r.subject ≠ .blank b

theorem addsNewBlanks_insertAll {qs : List Quad} (hqs : ∀ q ∈ qs, q.predicate ∈ ps ∧
    ∃ b, q.subject = .blank b ∧ ∀ r ∈ d, r.subject ≠ .blank b) :
    AddsNewBlanks ps d (d.insertAll qs) := by
  obtain ⟨news, hquads, hnews⟩ := exists_quads_insertAll d qs
  refine ⟨news, hquads, fun q hq => ?_⟩
  obtain ⟨r, hr, rfl⟩ := hnews q hq
  exact hqs r hr

namespace AddsNewBlanks

variable (h : AddsNewBlanks ps d d')
include h

theorem mem_of_mem {q : Quad} (hq : q ∈ d) : q ∈ d' := by
  obtain ⟨news, hquads, -⟩ := h
  rw [← mem_quads, hquads]
  exact List.mem_append_right news hq

/-- Nothing is added about what something is said of. -/
theorem mem_of_subject {q r : Quad} (hq : q ∈ d') (hr : r ∈ d) (hs : r.subject = q.subject) :
    q ∈ d := by
  obtain ⟨news, hquads, hnews⟩ := h
  rw [← mem_quads, hquads, List.mem_append] at hq
  rcases hq with hq | hq
  · obtain ⟨-, b, hb, hnone⟩ := hnews q hq
    exact absurd (hs.trans hb) (hnone r hr)
  · exact hq

theorem filterMap_quads_eq {f : Quad → Option α}
    (hf : ∀ b o g, ∀ p ∈ ps, f ⟨⟨.blank b, p, o⟩, g⟩ = none) :
    d'.quads.filterMap f = d.quads.filterMap f := by
  obtain ⟨news, hquads, hnews⟩ := h
  have hnone : news.filterMap f = [] := by
    rw [List.filterMap_eq_nil_iff]
    rintro ⟨⟨s, p, o⟩, g⟩ hq
    obtain ⟨hp, b, rfl, -⟩ := hnews _ hq
    exact hf b o g p hp
  rw [hquads, List.filterMap_append, hnone, List.nil_append]

theorem filterMap_defaultTriples_eq {f : Triple → Option α}
    (hf : ∀ b o, ∀ p ∈ ps, f ⟨.blank b, p, o⟩ = none) :
    d'.defaultTriples.filterMap f = d.defaultTriples.filterMap f := by
  rw [defaultTriples, defaultTriples, List.filterMap_filterMap, List.filterMap_filterMap]
  apply h.filterMap_quads_eq
  intro b o g p hp
  cases g with
  | none => exact hf b o p hp
  | some g => rfl

theorem objects_eq (hp : p ∉ ps) (s : Node) : d'.objects s p = d.objects s p := by
  apply h.filterMap_quads_eq
  intro b o g q hq
  exact if_neg fun hsp : _ ∧ q = p => hp (hsp.2 ▸ hq)

theorem objects_iri_eq (i p : Iri) : d'.objects (.iri i) p = d.objects (.iri i) p := by
  apply h.filterMap_quads_eq
  intro b o g q hq
  exact if_neg fun hsp => Node.noConfusion hsp.1

theorem defaultObjects_eq (hp : p ∉ ps) (s : Node) :
    d'.defaultObjects s p = d.defaultObjects s p := by
  apply h.filterMap_defaultTriples_eq
  intro b o q hq
  exact if_neg fun hsp : _ ∧ q = p => hp (hsp.2 ▸ hq)

theorem defaultObjects_iri_eq (i p : Iri) :
    d'.defaultObjects (.iri i) p = d.defaultObjects (.iri i) p := by
  apply h.filterMap_defaultTriples_eq
  intro b o q hq
  exact if_neg fun hsp => Node.noConfusion hsp.1

theorem iris_subjects_eq (p : Iri) (o : Term) :
    ((d'.subjects p o).filterMap fun n => n.term.iri?) =
      (d.subjects p o).filterMap fun n => n.term.iri? := by
  rw [subjects, subjects, List.filterMap_filterMap, List.filterMap_filterMap]
  apply h.filterMap_quads_eq
  intro b o' g q hq
  split_ifs <;> rfl

theorem iris_defaultSubjects_eq (p : Iri) (o : Term) :
    ((d'.defaultSubjects p o).filterMap fun n => n.term.iri?) =
      (d.defaultSubjects p o).filterMap fun n => n.term.iri? := by
  rw [defaultSubjects, defaultSubjects, List.filterMap_filterMap, List.filterMap_filterMap]
  apply h.filterMap_defaultTriples_eq
  intro b o' q hq
  split_ifs <;> rfl

theorem objectsOfTerm_eq (hp : p ∉ ps) (t : Term) : d'.objectsOfTerm t p = d.objectsOfTerm t p := by
  unfold objectsOfTerm
  cases t.node? with
  | none => rfl
  | some n => exact h.defaultObjects_eq hp n

theorem object?_eq (hp : p ∉ ps) (s : Node) : d'.object? s p = d.object? s p := by
  rw [object?, object?, h.objects_eq hp]

/-- Collections have the same elements. -/
theorem members_eq (hfirst : Vocabulary.first ∉ ps) (hrest : Vocabulary.rest ∉ ps) (head : Term) :
    d'.members head = d.members head :=
  membersFrom_congr (h.object?_eq hfirst) (h.object?_eq hrest) [] head

end AddsNewBlanks

end BuildingModel.Rdf.Dataset
