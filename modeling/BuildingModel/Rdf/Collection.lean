import BuildingModel.Rdf.Dataset

/-!
# Collections

A collection is a chain of cells, each with an element and the cells after it. Reading one visits
each cell once, and ends at the empty list, at a literal, at a cell with nothing after it or at a
cell visited before.
-/
namespace BuildingModel.Rdf.Dataset

/-- Statements about nodes that have not been visited. -/
def unvisited (d : Dataset) (visited : List Node) : List Quad :=
  d.quads.filter fun q => q.subject ∉ visited

theorem length_unvisited_lt {d : Dataset} {visited : List Node} {n : Node} {p : Iri} {o : Term}
    (hn : n ∉ visited) (ho : o ∈ d.objects n p) :
    (d.unvisited (n :: visited)).length < (d.unvisited visited).length := by
  obtain ⟨g, hq⟩ := mem_objects.1 ho
  have hsub : d.unvisited (n :: visited) =
      (d.unvisited visited).filter fun q => decide (q.subject ≠ n) := by
    simp only [unvisited, List.filter_filter]
    congr 1
    funext q
    simp [List.mem_cons, not_or]
  rw [hsub]
  apply List.length_filter_lt_length_iff_exists.2
  exact ⟨_, List.mem_filter.2 ⟨hq, by simpa using hn⟩, by simp⟩

/-- The elements of the cells from a term on, for cells not visited before. -/
def membersFrom (d : Dataset) (visited : List Node) (current : Term) : List Term :=
  if current = .iri Vocabulary.nil then []
  else
    match current.node? with
    | none => []
    | some cell =>
      if _ : cell ∈ visited then []
      else
        let element := (d.object? cell Vocabulary.first).toList
        match _ : d.object? cell Vocabulary.rest with
        | none => element
        | some next => element ++ d.membersFrom (cell :: visited) next
termination_by (d.unvisited visited).length
decreasing_by exact length_unvisited_lt ‹_› (List.mem_of_mem_head? (Option.mem_def.2 ‹_›))

/-- The elements of the collection that starts at a term. -/
def members (d : Dataset) (head : Term) : List Term :=
  d.membersFrom [] head

end BuildingModel.Rdf.Dataset
