import BuildingModel.Rdf.Collection
import Mathlib.Tactic

/-!
# The elements of collections

Where no cell has two elements or two tails, reading a collection finds the elements of exactly the
cells that its head leads to, however the cells are linked: a cell that has been visited leads to
nothing new. If it ends with the empty list, no cell comes twice, and the elements come in order.
-/
namespace BuildingModel.Rdf.Dataset

variable {d : Dataset}

/-- A dataset says of a subject at most one thing under a predicate. -/
def AtMostOne (d : Dataset) (n : Node) (p : Iri) : Prop :=
  ∀ a ∈ d.objects n p, ∀ b ∈ d.objects n p, a = b

instance (d : Dataset) (n : Node) (p : Iri) : Decidable (d.AtMostOne n p) :=
  inferInstanceAs (Decidable (∀ a ∈ d.objects n p, ∀ b ∈ d.objects n p, a = b))

theorem mem_objects_of_object? {n : Node} {p : Iri} {x : Term} (h : d.object? n p = some x) :
    x ∈ d.objects n p :=
  List.mem_of_mem_head? h

theorem object?_eq_some_iff {n : Node} {p : Iri} {x : Term} (h : d.AtMostOne n p) :
    d.object? n p = some x ↔ x ∈ d.objects n p := by
  constructor
  · exact mem_objects_of_object?
  · intro hx
    cases ho : d.object? n p with
    | none =>
      have hnil : d.objects n p = [] := List.head?_eq_none_iff.1 ho
      rw [hnil] at hx
      cases hx
    | some y => rw [h y (mem_objects_of_object? ho) x hx]

/-- The cells of the collection that starts at a term. -/
inductive Cell (d : Dataset) : Term → Node → Prop
  | head {n : Node} (hn : n.term ≠ .iri Vocabulary.nil) : Cell d n.term n
  | tail {n m : Node} {next : Term} (hn : n.term ≠ .iri Vocabulary.nil)
      (hnext : next ∈ d.objects n Vocabulary.rest) (h : Cell d next m) : Cell d n.term m

/-- A term is an element of the collection that starts at another one. -/
def Listed (d : Dataset) (head x : Term) : Prop :=
  ∃ n, d.Cell head n ∧ x ∈ d.objects n Vocabulary.first

/-- No cell of the collection that starts at a term has two elements or two tails. -/
def Linear (d : Dataset) (head : Term) : Prop :=
  ∀ n, d.Cell head n → d.AtMostOne n Vocabulary.first ∧ d.AtMostOne n Vocabulary.rest

theorem Linear.tail {n : Node} {next : Term} (h : d.Linear n.term)
    (hn : n.term ≠ .iri Vocabulary.nil) (hnext : next ∈ d.objects n Vocabulary.rest) :
    d.Linear next :=
  fun _ hm => h _ (.tail hn hnext hm)

/-- The cells visited so far lead to one another and to the current term, and to nothing else. -/
def Trail (d : Dataset) (visited : List Node) (current : Term) : Prop :=
  ∀ v ∈ visited, ∀ next ∈ d.objects v Vocabulary.rest,
    next = current ∨ ∃ w ∈ visited, next = w.term

theorem Trail.cell_mem {visited : List Node} {n m : Node} (h : d.Trail visited n.term)
    (hn : n ∈ visited) {current : Term} (hcurrent : ∃ w ∈ visited, current = w.term)
    (hm : d.Cell current m) : m ∈ visited := by
  induction hm with
  | head =>
    obtain ⟨w, hw, heq⟩ := hcurrent
    rwa [Node.term_injective heq]
  | tail hne hnext hcell ih =>
    apply ih
    obtain ⟨w, hw, heq⟩ := hcurrent
    rw [Node.term_injective heq] at hnext
    rcases h w hw _ hnext with rfl | hlater
    · exact ⟨n, hn, rfl⟩
    · exact hlater

theorem not_cell_nil {m : Node} : ¬ d.Cell (.iri Vocabulary.nil) m := by
  intro h
  generalize hc : Term.iri Vocabulary.nil = current at h
  cases h with
  | head hn => exact hn hc.symm
  | tail hn => exact hn hc.symm

theorem not_cell_of_node?_eq_none {current : Term} {m : Node} (h : current.node? = none) :
    ¬ d.Cell current m := by
  intro hm
  cases hm with
  | head => simp at h
  | tail => simp at h

theorem cell_iff {n m : Node} (hn : n.term ≠ .iri Vocabulary.nil) :
    d.Cell n.term m ↔ m = n ∨ ∃ next ∈ d.objects n Vocabulary.rest, d.Cell next m := by
  constructor
  · intro h
    generalize hc : n.term = current at h
    cases h with
    | head => exact .inl (Node.term_injective hc).symm
    | tail hne hnext hcell =>
      rw [← Node.term_injective hc] at hnext
      exact .inr ⟨_, hnext, hcell⟩
  · rintro (rfl | ⟨next, hnext, hcell⟩)
    · exact .head hn
    · exact .tail hn hnext hcell

theorem membersFrom_of_not_cell {visited : List Node} {current : Term}
    (h : current = .iri Vocabulary.nil ∨ current.node? = none ∨
      ∃ n ∈ visited, current = n.term) : d.membersFrom visited current = [] := by
  rw [membersFrom]
  by_cases hnil : current = .iri Vocabulary.nil
  · rw [if_pos hnil]
  · rw [if_neg hnil]
    rcases h with h | h | ⟨n, hn, rfl⟩
    · exact absurd h hnil
    · simp [h]
    · simp [hn]

theorem membersFrom_cell {visited : List Node} {n : Node} (hn : n.term ≠ .iri Vocabulary.nil)
    (hv : n ∉ visited) :
    d.membersFrom visited n.term = (d.object? n Vocabulary.first).toList ++
      ((d.object? n Vocabulary.rest).map (d.membersFrom (n :: visited))).getD [] := by
  rw [membersFrom, if_neg hn]
  simp only [Term.node?_term, hv, dite_false]
  split
  · rename_i hrest
    rw [hrest]
    simp
  · rename_i next hrest
    rw [hrest]
    rfl

/-- Reading asks for nothing but the newest elements and the newest tails of cells. -/
theorem membersFrom_congr {d' : Dataset}
    (hfirst : ∀ n, d'.object? n Vocabulary.first = d.object? n Vocabulary.first)
    (hrest : ∀ n, d'.object? n Vocabulary.rest = d.object? n Vocabulary.rest)
    (visited : List Node) (current : Term) :
    d'.membersFrom visited current = d.membersFrom visited current := by
  fun_induction d.membersFrom visited current with
  | case1 visited => rw [membersFrom_of_not_cell (.inl rfl)]
  | case2 visited current hnil hnode => rw [membersFrom_of_not_cell (.inr (.inl hnode))]
  | case3 visited current hnil cell hnode hv =>
    rw [membersFrom_of_not_cell (.inr (.inr ⟨cell, hv, Term.node?_eq_some_iff.1 hnode⟩))]
  | case4 visited current hnil cell hnode hv element hnone =>
    obtain rfl := Term.node?_eq_some_iff.1 hnode
    rw [membersFrom_cell hnil hv, hrest, hnone, hfirst]
    simp [element]
  | case5 visited current hnil cell hnode hv element next hnext ih =>
    obtain rfl := Term.node?_eq_some_iff.1 hnode
    rw [membersFrom_cell hnil hv, hrest, hnext, hfirst, Option.map_some, Option.getD_some, ih]

/-- Reading goes on with the newest element and the newest tail of a cell. -/
theorem membersFrom_of_object? {visited : List Node} {n : Node} {x next : Term}
    (hn : n.term ≠ .iri Vocabulary.nil) (hv : n ∉ visited)
    (hfirst : d.object? n Vocabulary.first = some x)
    (hrest : d.object? n Vocabulary.rest = some next) :
    d.membersFrom visited n.term = x :: d.membersFrom (n :: visited) next := by
  rw [membersFrom_cell hn hv, hfirst, hrest]
  rfl

theorem mem_membersFrom_cell {visited : List Node} {n : Node} {x : Term}
    (hn : n.term ≠ .iri Vocabulary.nil) (hv : n ∉ visited) (hlinear : d.Linear n.term) :
    x ∈ d.membersFrom visited n.term ↔ x ∈ d.objects n Vocabulary.first ∨
      ∃ next ∈ d.objects n Vocabulary.rest, x ∈ d.membersFrom (n :: visited) next := by
  obtain ⟨hfirst, hrest⟩ := hlinear n (.head hn)
  rw [membersFrom_cell hn hv, List.mem_append, Option.mem_toList,
    object?_eq_some_iff hfirst]
  refine or_congr Iff.rfl ?_
  cases ho : d.object? n Vocabulary.rest with
  | none =>
    have hnil : d.objects n Vocabulary.rest = [] := List.head?_eq_none_iff.1 ho
    simp [hnil]
  | some next =>
    have hnext := mem_objects_of_object? ho
    constructor
    · intro hx
      exact ⟨next, hnext, hx⟩
    · intro ⟨next', hnext', hx⟩
      rw [hrest next' hnext' next hnext] at hx
      exact hx

/-- What is read from a term on are the elements of the cells it leads to that have not been
visited, provided that those visited lead nowhere else. -/
theorem mem_membersFrom_iff {visited : List Node} {current x : Term}
    (htrail : d.Trail visited current) (hlinear : d.Linear current) :
    x ∈ d.membersFrom visited current ↔
      ∃ n, d.Cell current n ∧ n ∉ visited ∧ x ∈ d.objects n Vocabulary.first := by
  induction hsize : (d.unvisited visited).length using Nat.strong_induction_on
    generalizing visited current with
  | _ size ih =>
  by_cases hnil : current = .iri Vocabulary.nil
  · rw [membersFrom_of_not_cell (.inl hnil)]
    simp [hnil, not_cell_nil]
  · cases hnode : current.node? with
    | none =>
      rw [membersFrom_of_not_cell (.inr (.inl hnode))]
      simp [not_cell_of_node?_eq_none hnode]
    | some n =>
      obtain rfl := Term.node?_eq_some_iff.1 hnode
      by_cases hv : n ∈ visited
      · -- From here on only visited cells come.
        rw [membersFrom_of_not_cell (.inr (.inr ⟨n, hv, rfl⟩))]
        constructor
        · intro hx
          cases hx
        · rintro ⟨m, hm, hnew, -⟩
          exact absurd (htrail.cell_mem hv ⟨n, hv, rfl⟩ hm) hnew
      · rw [mem_membersFrom_cell hnil hv hlinear]
        have hstep : ∀ next ∈ d.objects n Vocabulary.rest,
            (x ∈ d.membersFrom (n :: visited) next ↔
              ∃ m, d.Cell next m ∧ m ∉ n :: visited ∧ x ∈ d.objects m Vocabulary.first) := by
          intro next hnext
          refine ih _ ?_ ?_ (hlinear.tail hnil hnext) rfl
          · rw [← hsize]
            exact length_unvisited_lt hv hnext
          · intro v hv' y hy
            rcases List.mem_cons.1 hv' with rfl | hv'
            · exact .inl ((hlinear v (.head hnil)).2 y hy next hnext)
            · rcases htrail v hv' y hy with rfl | ⟨w, hw, rfl⟩
              · exact .inr ⟨n, List.mem_cons_self, rfl⟩
              · exact .inr ⟨w, List.mem_cons_of_mem n hw, rfl⟩
        constructor
        · rintro (hx | ⟨next, hnext, hx⟩)
          · exact ⟨n, .head hnil, hv, hx⟩
          · obtain ⟨m, hm, hnew, hx⟩ := (hstep next hnext).1 hx
            exact ⟨m, .tail hnil hnext hm, fun hmem => hnew (List.mem_cons_of_mem n hmem), hx⟩
        · intro ⟨m, hm, hnew, hx⟩
          by_cases hmn : m = n
          · rw [hmn] at hx
            exact .inl hx
          · obtain ⟨next, hnext, hcell⟩ := ((cell_iff hnil).1 hm).resolve_left hmn
            refine .inr ⟨next, hnext, (hstep next hnext).2 ⟨m, hcell, ?_, hx⟩⟩
            simp [hmn, hnew]

/-- Whatever is read is an element of the collection, also where cells have several. -/
theorem listed_of_mem_membersFrom {visited : List Node} {current x : Term}
    (hx : x ∈ d.membersFrom visited current) : d.Listed current x := by
  induction hsize : (d.unvisited visited).length using Nat.strong_induction_on
    generalizing visited current with
  | _ size ih =>
  by_cases hnil : current = .iri Vocabulary.nil
  · rw [membersFrom_of_not_cell (.inl hnil)] at hx
    cases hx
  · cases hnode : current.node? with
    | none =>
      rw [membersFrom_of_not_cell (.inr (.inl hnode))] at hx
      cases hx
    | some n =>
      obtain rfl := Term.node?_eq_some_iff.1 hnode
      by_cases hv : n ∈ visited
      · rw [membersFrom_of_not_cell (.inr (.inr ⟨n, hv, rfl⟩))] at hx
        cases hx
      · rw [membersFrom_cell hnil hv, List.mem_append, Option.mem_toList] at hx
        rcases hx with hx | hx
        · exact ⟨n, .head hnil, mem_objects_of_object? hx⟩
        · cases ho : d.object? n Vocabulary.rest with
          | none =>
            rw [ho] at hx
            cases hx
          | some next =>
            rw [ho] at hx
            have hnext := mem_objects_of_object? ho
            obtain ⟨m, hm, hfirst⟩ := ih _ (hsize ▸ length_unvisited_lt hv hnext) hx rfl
            exact ⟨m, .tail hnil hnext hm, hfirst⟩

theorem exists_mem_objects_of_mem_members {head x : Term} (hx : x ∈ d.members head) :
    ∃ n, x ∈ d.objects n Vocabulary.first := by
  obtain ⟨n, -, hfirst⟩ := listed_of_mem_membersFrom hx
  exact ⟨n, hfirst⟩

theorem mem_members_iff {head x : Term} (h : d.Linear head) :
    x ∈ d.members head ↔ d.Listed head x := by
  rw [members, mem_membersFrom_iff (by simp [Trail]) h]
  simp [Listed]

/-! ## Collections in order -/

/-- A collection is well-formed and has some elements in order: each of its cells has one element
and one tail, and it ends with the empty list. -/
inductive Collects (d : Dataset) : Term → List Term → Prop
  | nil : Collects d (.iri Vocabulary.nil) []
  | cons {n : Node} {x next : Term} {xs : List Term} (hn : n.term ≠ .iri Vocabulary.nil)
      (hx : x ∈ d.objects n Vocabulary.first) (hfirst : d.AtMostOne n Vocabulary.first)
      (hnext : next ∈ d.objects n Vocabulary.rest) (hrest : d.AtMostOne n Vocabulary.rest)
      (h : Collects d next xs) : Collects d n.term (x :: xs)

namespace Collects

variable {head : Term} {xs ys : List Term}

theorem of_objects_eq {n : Node} {x next : Term} (hn : n.term ≠ .iri Vocabulary.nil)
    (hfirst : d.objects n Vocabulary.first = [x]) (hrest : d.objects n Vocabulary.rest = [next])
    (h : d.Collects next xs) : d.Collects n.term (x :: xs) :=
  .cons hn (by simp [hfirst]) (by simp [AtMostOne, hfirst]) (by simp [hrest])
    (by simp [AtMostOne, hrest]) h

theorem unique (h : d.Collects head xs) (h' : d.Collects head ys) : xs = ys := by
  induction h generalizing ys with
  | nil =>
    generalize hc : Term.iri Vocabulary.nil = current at h'
    cases h' with
    | nil => rfl
    | cons hn => exact absurd hc.symm hn
  | @cons n x next xs hn hx hfirst hnext hrest _ ih =>
    generalize hc : n.term = current at h'
    cases h' with
    | nil => exact absurd hc hn
    | cons _ hx' _ hnext' _ h' =>
      obtain rfl := Node.term_injective hc
      rw [hrest _ hnext' _ hnext] at h'
      rw [hfirst _ hx' _ hx, ih h']

/-- What starts at a cell of a well-formed collection is no longer than the collection. -/
theorem exists_of_cell (h : d.Collects head xs) {m : Node} (hm : d.Cell head m) :
    ∃ ys, d.Collects m.term ys ∧ ys.length ≤ xs.length := by
  induction h with
  | nil => exact absurd hm not_cell_nil
  | @cons n x next xs hn hx hfirst hnext hrest h ih =>
    rcases (cell_iff hn).1 hm with rfl | ⟨next', hnext', hcell⟩
    · exact ⟨x :: xs, .cons hn hx hfirst hnext hrest h, le_rfl⟩
    · rw [hrest _ hnext' _ hnext] at hcell
      obtain ⟨ys, hys, hlength⟩ := ih hcell
      exact ⟨ys, hys, hlength.trans (Nat.le_succ _)⟩

theorem membersFrom_eq (h : d.Collects head xs) {visited : List Node}
    (hvisited : ∀ v ∈ visited, ¬ d.Cell head v) : d.membersFrom visited head = xs := by
  induction h generalizing visited with
  | nil => exact membersFrom_of_not_cell (.inl rfl)
  | @cons n x next xs hn hx hfirst hnext hrest h ih =>
    -- A cell does not come again behind itself: what starts at it would be too short.
    have hnew : ¬ d.Cell next n := by
      intro hcell
      obtain ⟨ys, hys, hlength⟩ := h.exists_of_cell hcell
      have hsame := hys.unique (.cons hn hx hfirst hnext hrest h)
      rw [hsame, List.length_cons] at hlength
      omega
    have hn' : n ∉ visited := fun hmem => hvisited n hmem (.head hn)
    rw [membersFrom_of_object? hn hn' ((object?_eq_some_iff hfirst).2 hx)
      ((object?_eq_some_iff hrest).2 hnext), ih]
    intro v hv
    rcases List.mem_cons.1 hv with rfl | hv
    · exact hnew
    · exact fun hcell => hvisited v hv (.tail hn hnext hcell)

/-- A well-formed collection is read with its elements in order. -/
theorem members_eq (h : d.Collects head xs) : d.members head = xs :=
  h.membersFrom_eq (by simp)

end Collects

end BuildingModel.Rdf.Dataset
