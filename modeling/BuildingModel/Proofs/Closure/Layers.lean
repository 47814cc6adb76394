import BuildingModel.Closure
import BuildingModel.Proofs.Closure.Reachability
import Mathlib.Order.Bounds.Basic

/-!
# The search goes layer by layer

What waits in the queue is the rest of one layer and, behind it, what has been found of the next
one. A layer holds just the elements that one number of steps leads to and no fewer, so that the
search visits each element at its distance, and all that steps lead to.
-/
namespace BuildingModel.Steps

variable {α : Type} {s : Steps α} {a b : α} {k n : ℕ} {seen layer : List α}

/-! ## What a layer holds -/

/-- A search from an element that has gone a number of steps: its layer holds what lies at just this
distance, and it has seen all that lies nearer or as near. -/
structure Frontier (s : Steps α) (a : α) (k : ℕ) (seen layer : List α) : Prop where
  mem_seen_iff : ∀ b, b ∈ seen ↔ ∃ n ≤ k, LeadsIn s.next a n b
  mem_layer_iff : ∀ b, b ∈ layer ↔ IsLeast {n | LeadsIn s.next a n b} k

namespace Frontier

theorem start (s : Steps α) (a : α) : s.Frontier a 0 [a] [a] := by
  have hzero : ∀ b, LeadsIn s.next a 0 b ↔ b = a := fun b =>
    ⟨fun h => by cases h; rfl, fun h => h ▸ .zero⟩
  constructor
  · intro b
    simp [hzero]
  · intro b
    rw [List.mem_singleton, ← hzero b]
    exact ⟨fun h => ⟨h, fun n _ => n.zero_le⟩, fun h => h.1⟩

/-- Behind an empty layer there is nothing: a shortest path to it would pass the layer. -/
theorem lt_of_nil (hf : s.Frontier a k seen []) (hn : IsLeast {n | LeadsIn s.next a n b} n) :
    n < k := by
  by_contra hkn
  obtain ⟨c, hc, hcb⟩ := hn.1.exists_of_le (not_lt.1 hkn)
  refine List.not_mem_nil ((hf.mem_layer_iff c).2 ⟨hc, fun m hm => ?_⟩)
  have hle : n ≤ m + (n - k) := hn.2 (LeadsIn.append hm hcb)
  omega

end Frontier

theorem map_fst_queue (queue : List (α × ℕ)) (new : List α) (k : ℕ) :
    (queue ++ new.map (·, k)).map Prod.fst = queue.map Prod.fst ++ new := by
  simp [Function.comp_def]

variable [DecidableEq α]

/-! ## From one layer to the next -/

/-- What steps from a layer lead to and has not been seen. -/
def nextLayer (s : Steps α) (seen layer : List α) : List α :=
  (distinct (layer.flatMap s.next)).filter (· ∉ seen)

theorem mem_nextLayer : b ∈ s.nextLayer seen layer ↔ (∃ c ∈ layer, b ∈ s.next c) ∧ b ∉ seen := by
  simp [nextLayer]

theorem nodup_nextLayer (s : Steps α) (seen layer : List α) : (s.nextLayer seen layer).Nodup :=
  (nodup_distinct _).filter _

/-- What the first element of a layer leads to is seen before what the others lead to. -/
theorem nextLayer_cons (s : Steps α) (seen layer : List α) (a : α) :
    s.nextLayer seen (a :: layer) =
      s.unseen seen a ++ s.nextLayer (seen ++ s.unseen seen a) layer := by
  rw [nextLayer, nextLayer, List.flatMap_cons, distinct_append, List.filter_append,
    List.filter_filter, unseen]
  congr 1
  apply List.filter_congr
  intro b _
  by_cases hb : b ∈ seen <;> simp [hb]

/-- A queue that holds a layer and the beginning of the next one goes through the layer first. -/
theorem visits_layer (s : Steps α) (seen layer next : List α) (k : ℕ) :
    s.visits seen (layer.map (·, k) ++ next.map (·, k + 1)) =
      layer.map (·, k) ++ s.visits (seen ++ s.nextLayer seen layer)
        ((next ++ s.nextLayer seen layer).map (·, k + 1)) := by
  induction layer generalizing seen next with
  | nil => simp [nextLayer]
  | cons a layer ih =>
    have hqueue : layer.map (·, k) ++ next.map (·, k + 1) ++ (s.unseen seen a).map (·, k + 1) =
        layer.map (·, k) ++ (next ++ s.unseen seen a).map (·, k + 1) := by
      rw [List.map_append, List.append_assoc]
    rw [List.map_cons, List.cons_append, visits, hqueue, ih, nextLayer_cons, List.cons_append,
      List.append_assoc, List.append_assoc]

namespace Frontier

/-- A last step from the layer to something that has not been seen makes a shortest path, and every
shortest path that is one step longer ends so. -/
theorem mem_nextLayer_iff (hf : s.Frontier a k seen layer) :
    b ∈ s.nextLayer seen layer ↔ IsLeast {n | LeadsIn s.next a n b} (k + 1) := by
  rw [mem_nextLayer, hf.mem_seen_iff]
  constructor
  · rintro ⟨⟨c, hc, hcb⟩, hunseen⟩
    refine ⟨((hf.mem_layer_iff c).1 hc).1.succ hcb, fun n hn => ?_⟩
    by_contra hlt
    exact hunseen ⟨n, by omega, hn⟩
  · rintro ⟨hb, hleast⟩
    cases hb with
    | @succ _ c _ hac hcb =>
      have hc : IsLeast {n | LeadsIn s.next a n c} k := by
        refine ⟨hac, fun n hn => ?_⟩
        have hle : k + 1 ≤ n + 1 := hleast (LeadsIn.succ hn hcb)
        omega
      refine ⟨⟨c, (hf.mem_layer_iff c).2 hc, hcb⟩, ?_⟩
      rintro ⟨n, hnk, hn⟩
      have hle : k + 1 ≤ n := hleast hn
      omega

theorem next (hf : s.Frontier a k seen layer) :
    s.Frontier a (k + 1) (seen ++ s.nextLayer seen layer) (s.nextLayer seen layer) := by
  refine ⟨fun b => ?_, fun b => hf.mem_nextLayer_iff⟩
  rw [List.mem_append, hf.mem_seen_iff, hf.mem_nextLayer_iff]
  constructor
  · rintro (⟨n, hnk, hn⟩ | hleast)
    · exact ⟨n, by omega, hn⟩
    · exact ⟨k + 1, le_rfl, hleast.1⟩
  · rintro ⟨n, hnk, hn⟩
    by_cases hseen : ∃ n ≤ k, LeadsIn s.next a n b
    · exact Or.inl hseen
    · have hfar : ∀ m, LeadsIn s.next a m b → k + 1 ≤ m := by
        intro m hm
        by_contra hlt
        exact hseen ⟨m, by omega, hm⟩
      have heq : n = k + 1 := le_antisymm hnk (hfar n hn)
      exact Or.inr ⟨heq ▸ hn, hfar⟩

/-- From a layer on, the search visits what lies there or farther, each element at its distance. -/
theorem mem_visits_iff (hf : s.Frontier a k seen layer) :
    (b, n) ∈ s.visits seen (layer.map (·, k)) ↔
      k ≤ n ∧ IsLeast {m | LeadsIn s.next a m b} n := by
  -- with a layer gone, less is unseen and waiting, as for the search itself
  induction hsize : (s.targets.filter (· ∉ seen)).length + layer.length
    using Nat.strong_induction_on
    generalizing k seen layer with
  | _ size ih =>
    by_cases hlayer : layer = []
    · subst hlayer
      rw [List.map_nil, visits]
      refine iff_of_false List.not_mem_nil ?_
      rintro ⟨hkn, hn⟩
      exact absurd (hf.lt_of_nil hn) (not_lt.2 hkn)
    · have hsmaller : (s.targets.filter (· ∉ seen ++ s.nextLayer seen layer)).length +
          (s.nextLayer seen layer).length < size := by
        have hle := length_filter_not_mem_append (l := s.targets) (s.nodup_nextLayer seen layer)
          fun b hb => by
            obtain ⟨⟨c, -, hcb⟩, hunseen⟩ := mem_nextLayer.1 hb
            exact ⟨s.mem_targets hcb, hunseen⟩
        have hpos := List.length_pos_iff.2 hlayer
        omega
      have hvisits := s.visits_layer seen layer [] k
      rw [List.map_nil, List.append_nil, List.nil_append] at hvisits
      rw [hvisits, List.mem_append, ih _ hsmaller hf.next rfl]
      constructor
      · rintro (hb | ⟨hkn, hn⟩)
        · obtain ⟨c, hc, heq⟩ := List.mem_map.1 hb
          cases heq
          exact ⟨le_rfl, (hf.mem_layer_iff b).1 hc⟩
        · exact ⟨by omega, hn⟩
      · rintro ⟨hkn, hn⟩
        rcases hkn.eq_or_lt with rfl | hlt
        · exact .inl (List.mem_map_of_mem ((hf.mem_layer_iff b).2 hn))
        · exact .inr ⟨hlt, hn⟩

end Frontier

/-! ## What the search finds -/

theorem mem_visits_iff : (b, n) ∈ s.visits [a] [(a, 0)] ↔ IsLeast {k | LeadsIn s.next a k b} n := by
  have hfrontier := (Frontier.start s a).mem_visits_iff (b := b) (n := n)
  rwa [List.map_singleton, and_iff_right n.zero_le] at hfrontier

theorem mem_reached_iff : b ∈ s.reached a ↔ LeadsTo s.next a b := by
  classical
  rw [leadsTo_iff_exists_leadsIn, reached, List.mem_map]
  constructor
  · rintro ⟨⟨_, n⟩, hb, rfl⟩
    exact ⟨n, (mem_visits_iff.1 hb).1⟩
  · intro hb
    exact ⟨(b, Nat.find hb), mem_visits_iff.2 ⟨Nat.find_spec hb, fun _ hn => Nat.find_min' hb hn⟩,
      rfl⟩

/-- What is visited waits in the queue or has not been seen. -/
theorem mem_visits_fst {queue : List (α × ℕ)} (hb : b ∈ (s.visits seen queue).map Prod.fst) :
    b ∈ queue.map Prod.fst ∨ b ∉ seen := by
  induction seen, queue using visits.induct s with
  | case1 seen => simp [visits] at hb
  | case2 seen a n queue ih =>
    rw [visits, List.map_cons, List.mem_cons] at hb
    rcases hb with rfl | hb
    · exact .inl List.mem_cons_self
    · rw [map_fst_queue, List.mem_append, List.mem_append] at ih
      rcases ih hb with (hqueue | hnew) | hunseen
      · exact .inl (List.mem_cons_of_mem a hqueue)
      · exact .inr (mem_unseen.1 hnew).2
      · exact .inr fun hin => hunseen (.inl hin)

/-- What waits in the queue has been seen, so that nothing is visited twice. -/
theorem nodup_visits {queue : List (α × ℕ)} (hseen : ∀ b ∈ queue.map Prod.fst, b ∈ seen)
    (hn : (queue.map Prod.fst).Nodup) : ((s.visits seen queue).map Prod.fst).Nodup := by
  induction seen, queue using visits.induct s with
  | case1 seen => simp [visits]
  | case2 seen a n queue ih =>
    obtain ⟨ha, hqueue⟩ := List.nodup_cons.1 hn
    obtain ⟨haseen, hseen⟩ := List.forall_mem_cons.1 hseen
    rw [map_fst_queue] at ih
    rw [visits, List.map_cons, List.nodup_cons]
    constructor
    · intro hagain
      rcases mem_visits_fst hagain with hwaits | hunseen
      · rw [map_fst_queue, List.mem_append] at hwaits
        exact hwaits.elim ha fun hnew => (mem_unseen.1 hnew).2 haseen
      · exact hunseen (List.mem_append_left _ haseen)
    · apply ih
      · intro b hb
        exact List.mem_append.2 ((List.mem_append.1 hb).imp (hseen b) id)
      · exact hqueue.append (s.nodup_unseen seen a) fun b hb hnew =>
          (mem_unseen.1 hnew).2 (hseen b hb)

/-- What is reached is listed once. -/
theorem nodup_reached (s : Steps α) (a : α) : (s.reached a).Nodup :=
  nodup_visits (by simp) (List.nodup_singleton a)

theorem isSome_distance? : (s.distance? a b).isSome ↔ b ∈ s.reached a := by
  rw [distance?, reached]
  simp

theorem distance?_eq_some_iff :
    s.distance? a b = some n ↔ IsLeast {k | LeadsIn s.next a k b} n := by
  have hfound : ∀ m, s.distance? a b = some m → IsLeast {k | LeadsIn s.next a k b} m := by
    intro m hm
    obtain ⟨before, after, hvisits, -⟩ := List.lookup_eq_some_iff.1 hm
    apply mem_visits_iff.1
    rw [hvisits]
    simp
  constructor
  · exact hfound n
  · intro hn
    have hreached : b ∈ s.reached a := List.mem_map.2 ⟨_, mem_visits_iff.2 hn, rfl⟩
    obtain ⟨m, hm⟩ := Option.isSome_iff_exists.1 (isSome_distance?.2 hreached)
    rw [hm, (hfound m hm).unique hn]

end BuildingModel.Steps
