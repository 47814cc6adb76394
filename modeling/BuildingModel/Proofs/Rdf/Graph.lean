import BuildingModel.Rdf.Dataset
import Mathlib.Tactic

/-!
# Graphs

A graph is a dataset that says everything in the default graph. It makes no difference there whether
one graph is read or all of them, and no object is met twice.
-/
namespace BuildingModel.Rdf.Dataset

variable {d : Dataset}

/-- All statements are in the default graph. -/
def IsGraph (d : Dataset) : Prop := ∀ q ∈ d, q.graph = none

/-- The graph of some statements. -/
def ofTriples (ts : List Triple) : Dataset := empty.insertAll (ts.map Triple.inDefault)

/-- Statements are entered in front of those that a dataset holds. -/
theorem exists_quads_insertAll (d : Dataset) (qs : List Quad) :
    ∃ news, (d.insertAll qs).quads = news ++ d.quads ∧ ∀ q ∈ news, ∃ r ∈ qs, q = r.normal := by
  unfold insertAll
  induction qs generalizing d with
  | nil => exact ⟨[], rfl, by simp⟩
  | cons r qs ih =>
    obtain ⟨news, hquads, hnews⟩ := ih (d.insert r)
    have hlater : ∀ q ∈ news, ∃ r' ∈ r :: qs, q = r'.normal := by
      intro q hq
      obtain ⟨r', hr', rfl⟩ := hnews q hq
      exact ⟨r', List.mem_cons_of_mem r hr', rfl⟩
    rw [List.foldl_cons, hquads]
    by_cases hr : r.normal ∈ d
    · rw [insert, dif_pos hr]
      exact ⟨news, rfl, hlater⟩
    · rw [insert, dif_neg hr]
      refine ⟨news ++ [r.normal], by simp, fun q hq => ?_⟩
      rcases List.mem_append.1 hq with hq | hq
      · exact hlater q hq
      · exact ⟨r, List.mem_cons_self, List.mem_singleton.1 hq⟩

theorem mem_ofTriples_iff {ts : List Triple} {q : Quad} :
    q ∈ ofTriples ts ↔ ∃ t ∈ ts, q = t.normal.inDefault := by
  simp only [ofTriples, mem_insertAll, List.map_map, List.mem_map, not_mem_empty, or_false]
  constructor
  · rintro ⟨t, ht, rfl⟩
    exact ⟨t, ht, rfl⟩
  · rintro ⟨t, ht, rfl⟩
    exact ⟨t, ht, rfl⟩

theorem isGraph_ofTriples (ts : List Triple) : (ofTriples ts).IsGraph := by
  intro q hq
  obtain ⟨t, -, rfl⟩ := mem_ofTriples_iff.1 hq
  rfl

theorem IsGraph.mem_objects_iff (hd : d.IsGraph) {s : Node} {p : Iri} {o : Term} :
    o ∈ d.objects s p ↔ (⟨s, p, o⟩ : Triple).inDefault ∈ d := by
  rw [mem_objects]
  constructor
  · intro ⟨g, hq⟩
    have hg : g = none := hd _ hq
    rwa [hg] at hq
  · intro hq
    exact ⟨none, hq⟩

end BuildingModel.Rdf.Dataset
