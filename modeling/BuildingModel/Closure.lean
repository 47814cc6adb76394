import BuildingModel.Distinct

/-!
# Search in breadth

From some element steps lead to further ones. A search visits what waits in a queue, and lets what
it has not yet seen wait behind. It sees only targets of steps, each once, and so comes to an end.
-/
namespace BuildingModel

/-- Steps from elements to others, of which there are finitely many. -/
structure Steps (α : Type) where
  next : α → List α
  targets : List α
  mem_targets : ∀ {a b}, b ∈ next a → b ∈ targets

variable {α : Type} [DecidableEq α]

theorem length_filter_not_mem_append {seen new l : List α} (hn : new.Nodup)
    (hnew : ∀ a ∈ new, a ∈ l ∧ a ∉ seen) :
    (l.filter (· ∉ seen ++ new)).length + new.length ≤ (l.filter (· ∉ seen)).length := by
  induction new generalizing seen with
  | nil => simp
  | cons b new ih =>
    obtain ⟨hb, hn⟩ := List.nodup_cons.1 hn
    obtain ⟨hbl, hbs⟩ := hnew b List.mem_cons_self
    have hone : (l.filter (· ∉ seen ++ [b])).length < (l.filter (· ∉ seen)).length := by
      have hsub : l.filter (· ∉ seen ++ [b]) = (l.filter (· ∉ seen)).filter (· ∉ [b]) := by
        rw [List.filter_filter]
        congr 1
        funext a
        simp [not_or, Bool.and_comm]
      rw [hsub]
      exact List.length_filter_lt_length_iff_exists.2
        ⟨b, List.mem_filter.2 ⟨hbl, by simpa using hbs⟩, by simp⟩
    have hrest : (l.filter (· ∉ seen ++ [b] ++ new)).length + new.length ≤
        (l.filter (· ∉ seen ++ [b])).length := by
      apply ih hn
      intro a ha
      obtain ⟨hal, has⟩ := hnew a (List.mem_cons_of_mem b ha)
      refine ⟨hal, ?_⟩
      rw [List.mem_append, List.mem_singleton, not_or]
      exact ⟨has, fun hab => hb (hab ▸ ha)⟩
    rw [List.append_assoc, List.singleton_append] at hrest
    rw [List.length_cons]
    omega

namespace Steps

/-- What steps from an element lead to and has not been seen. -/
def unseen (s : Steps α) (seen : List α) (a : α) : List α :=
  (distinct (s.next a)).filter (· ∉ seen)

theorem mem_unseen {s : Steps α} {seen : List α} {a b : α} :
    b ∈ s.unseen seen a ↔ b ∈ s.next a ∧ b ∉ seen := by
  simp [unseen]

variable (s : Steps α)

theorem nodup_unseen (seen : List α) (a : α) : (s.unseen seen a).Nodup :=
  (nodup_distinct _).filter _

/-- What is visited from a queue on, with the number of steps to it, where all that is in the queue
has been seen. -/
def visits (seen : List α) : List (α × Nat) → List (α × Nat)
  | [] => []
  | (a, n) :: queue =>
    (a, n) :: visits (seen ++ s.unseen seen a) (queue ++ (s.unseen seen a).map (·, n + 1))
  termination_by queue => (s.targets.filter (· ∉ seen)).length + queue.length
  decreasing_by
    have hle := length_filter_not_mem_append (l := s.targets) (s.nodup_unseen seen a)
      fun b hb => ⟨s.mem_targets (mem_unseen.1 hb).1, (mem_unseen.1 hb).2⟩
    simp only [List.length_append, List.length_map, List.length_cons]
    omega

/-- All that steps from an element lead to, itself first. -/
def reached (a : α) : List α :=
  (s.visits [a] [(a, 0)]).map Prod.fst

/-- The least number of steps from one element to another. -/
def distance? (a b : α) : Option Nat :=
  (s.visits [a] [(a, 0)]).lookup b

end Steps

end BuildingModel
