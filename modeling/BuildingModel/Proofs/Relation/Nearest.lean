import BuildingModel.Proofs.Hierarchy.Descent
import BuildingModel.Relation.Binding

/-!
# Nearest bindings

The bindings of a relation are considered one after another, and those that are nearest to a class
so far are kept. In the end these are all of the nearest bindings, or none if no domain is above the
class. A relation therefore has a binding for just those classes that it applies to, and this
binding is put together from the nearest ones, wherever they stand among the others.
-/
namespace BuildingModel

variable {dist : Binding → Option ℕ} {bs bs' : List Binding} {best : Option Nearest}
  {r : Relation} {h : Hierarchy} {c : ClassId}

namespace Nearest

/-- What is kept of some bindings: nothing if none of them has a distance, or else those that have
the least one, in order. -/
inductive Keeps (dist : Binding → Option ℕ) (bs : List Binding) : Option Nearest → Prop
  | nothing (hnone : ∀ b ∈ bs, dist b = none) : Keeps dist bs none
  | nearest {n : Nearest} (hbindings : n.bindings = bs.filter (dist · = some n.distance))
      (hne : n.bindings ≠ []) (hleast : ∀ b ∈ bs, ∀ k, dist b = some k → n.distance ≤ k) :
      Keeps dist bs (some n)

/-- A binding without a distance changes nothing of what is kept. -/
theorem Keeps.of_none (hk : Keeps dist bs best) {b : Binding} (hb : dist b = none) :
    Keeps dist (bs ++ [b]) best := by
  cases hk with
  | nothing hnone =>
    exact .nothing (List.forall_mem_append.2 ⟨hnone, List.forall_mem_singleton.2 hb⟩)
  | nearest hbindings hne hleast =>
    refine .nearest ?_ hne (List.forall_mem_append.2 ⟨hleast, List.forall_mem_singleton.2 ?_⟩)
    · rw [List.filter_append, hbindings]
      simp [hb]
    · simp [hb]

/-- A binding that is nearer than all others displaces them. -/
theorem Keeps.of_closer {b : Binding} {k : ℕ} (hb : dist b = some k)
    (hcloser : ∀ x ∈ bs, ∀ j, dist x = some j → k < j) :
    Keeps dist (bs ++ [b]) (some ⟨k, [b]⟩) := by
  refine .nearest ?_ (by simp) (List.forall_mem_append.2 ⟨fun x hx j hxj => (hcloser x hx j hxj).le,
    List.forall_mem_singleton.2 ?_⟩)
  · have hrest : bs.filter (dist · = some k) = [] := by
      rw [List.filter_eq_nil_iff]
      intro x hx hxk
      have hlt := hcloser x hx k (by simpa using hxk)
      omega
    rw [List.filter_append, hrest]
    simp [hb]
  · simp [hb]

theorem Keeps.consider (hk : Keeps dist bs best) (b : Binding) :
    Keeps dist (bs ++ [b]) (Nearest.consider best b (dist b)) := by
  cases hb : dist b with
  | none => exact hk.of_none hb
  | some k =>
    cases hk with
    | nothing hnone =>
      apply Keeps.of_closer hb
      intro x hx j hxj
      rw [hnone x hx] at hxj
      cases hxj
    | @nearest n hbindings hne hleast =>
      simp only [Nearest.consider]
      by_cases hlt : k < n.distance
      · rw [if_pos hlt]
        exact .of_closer hb fun x hx j hxj => hlt.trans_le (hleast x hx j hxj)
      · rw [if_neg hlt]
        have hstays : ∀ x ∈ bs ++ [b], ∀ j, dist x = some j → n.distance ≤ j := by
          refine List.forall_mem_append.2 ⟨hleast, List.forall_mem_singleton.2 ?_⟩
          simpa [hb] using hlt
        by_cases heq : k = n.distance
        · rw [if_pos heq]
          refine .nearest ?_ (by simp) hstays
          rw [List.filter_append, ← hbindings]
          simp [hb, heq]
        · rw [if_neg heq]
          refine .nearest ?_ hne hstays
          rw [List.filter_append, ← hbindings]
          simp [hb, heq]

theorem Keeps.foldl (hk : Keeps dist bs best) (bs' : List Binding) :
    Keeps dist (bs ++ bs') (bs'.foldl (fun best b => Nearest.consider best b (dist b)) best) := by
  induction bs' generalizing bs best with
  | nil => simpa using hk
  | cons b bs' ih => simpa using ih (hk.consider b)

theorem keeps_none_iff : Keeps dist bs none ↔ ∀ b ∈ bs, dist b = none := by
  constructor
  · rintro ⟨hnone⟩
    exact hnone
  · exact .nothing

theorem keeps_some_iff {n : Nearest} :
    Keeps dist bs (some n) ↔ IsLeast {k | ∃ b ∈ bs, dist b = some k} n.distance ∧
      n.bindings = bs.filter (dist · = some n.distance) := by
  constructor
  · rintro (_ | ⟨hbindings, hne, hleast⟩)
    refine ⟨⟨?_, ?_⟩, hbindings⟩
    · obtain ⟨b, hb⟩ := List.exists_mem_of_ne_nil _ hne
      rw [hbindings, List.mem_filter] at hb
      exact ⟨b, hb.1, by simpa using hb.2⟩
    · rintro k ⟨b, hb, hbk⟩
      exact hleast b hb k hbk
  · rintro ⟨⟨⟨b, hb, hbn⟩, hleast⟩, hbindings⟩
    refine .nearest hbindings ?_ fun b hb k hbk => hleast ⟨b, hb, hbk⟩
    rw [hbindings]
    exact List.ne_nil_of_mem (List.mem_filter.2 ⟨hb, by simpa using hbn⟩)

/-- There is only one thing that can be kept of some bindings. -/
theorem Keeps.unique {best' : Option Nearest} (hk : Keeps dist bs best)
    (hk' : Keeps dist bs best') : best = best' := by
  have hnot : ∀ n, Keeps dist bs none → ¬ Keeps dist bs (some n) := by
    intro n hnone hsome
    obtain ⟨⟨⟨b, hb, hbn⟩, -⟩, -⟩ := keeps_some_iff.1 hsome
    rw [keeps_none_iff.1 hnone b hb] at hbn
    cases hbn
  cases best with
  | none =>
    cases best' with
    | none => rfl
    | some n' => exact absurd hk' (hnot n' hk)
  | some n =>
    cases best' with
    | none => exact absurd hk (hnot n hk')
    | some n' =>
      obtain ⟨hleast, hbindings⟩ := keeps_some_iff.1 hk
      obtain ⟨hleast', hbindings'⟩ := keeps_some_iff.1 hk'
      have hdistance : n.distance = n'.distance := hleast.unique hleast'
      rw [← hdistance, ← hbindings] at hbindings'
      cases n
      cases n'
      dsimp only at hdistance hbindings'
      rw [hdistance, hbindings']

theorem isSome_merge?_iff : (merge? bs).isSome ↔ bs ≠ [] := by
  cases bs <;> simp [merge?]

theorem merge?_eq_some_iff {found : Binding} :
    merge? bs = some found ↔ ∃ first rest, bs = first :: rest ∧ found = ⟨first.domain,
      if ∃ b ∈ first :: rest, b.range = [] then []
      else distinct ((first :: rest).flatMap Binding.range)⟩ := by
  have hany : ∀ l : List Binding, l.any (·.range.isEmpty) = true ↔ ∃ b ∈ l, b.range = [] := by
    simp
  cases bs with
  | nil => simp [merge?]
  | cons first rest =>
    simp only [merge?, hany, Option.some_inj, List.cons.injEq]
    constructor
    · rintro rfl
      exact ⟨first, rest, ⟨rfl, rfl⟩, rfl⟩
    · rintro ⟨_, _, ⟨rfl, rfl⟩, rfl⟩
      rfl

end Nearest

namespace Relation

/-- The nearest bindings are those with the least distance from the class to their domains. -/
theorem keeps_nearest? (r : Relation) (h : Hierarchy) (c : ClassId) :
    Nearest.Keeps (fun b => h.distance? c b.domain) r.bindings (r.nearest? h c) := by
  have hstart : Nearest.Keeps (fun b => h.distance? c b.domain) [] none := .nothing (by simp)
  exact hstart.foldl r.bindings

theorem nearest?_eq_iff :
    r.nearest? h c = best ↔ Nearest.Keeps (fun b => h.distance? c b.domain) r.bindings best :=
  ⟨fun hbest => hbest ▸ keeps_nearest? r h c, (keeps_nearest? r h c).unique⟩

theorem isSome_bindingFor?_iff : (r.bindingFor? h c).isSome ↔ r.appliesTo h c = true := by
  have happlies : r.appliesTo h c = true ↔ ∃ b ∈ r.bindings, (h.distance? c b.domain).isSome := by
    simp [appliesTo, domains, Hierarchy.isSubclass]
  rw [happlies, bindingFor?]
  cases hn : r.nearest? h c with
  | none =>
    cases nearest?_eq_iff.1 hn with
    | nothing hnone =>
      simp only [Option.bind_none, Option.isSome_none, Bool.false_eq_true, false_iff]
      rintro ⟨b, hb, hsome⟩
      rw [hnone b hb] at hsome
      cases hsome
  | some n =>
    cases nearest?_eq_iff.1 hn with
    | nearest hbindings hne _ =>
      obtain ⟨b, hb⟩ := List.exists_mem_of_ne_nil _ hne
      rw [hbindings, List.mem_filter] at hb
      simp only [Option.bind_some, Nearest.isSome_merge?_iff]
      have hsome : h.distance? c b.domain = some n.distance := by simpa using hb.2
      exact ⟨fun _ => ⟨b, hb.1, by rw [hsome]; rfl⟩, fun _ => hne⟩

theorem bindingFor?_eq_none_iff :
    r.bindingFor? h c = none ↔ ∀ b ∈ r.bindings, ¬ h.Descends c b.domain := by
  rw [← Option.isNone_iff_eq_none, ← Option.isSome_eq_false_iff, ← Bool.not_eq_true,
    isSome_bindingFor?_iff]
  simp [appliesTo, domains, Hierarchy.isSubclass_iff]

/-- A relation has no binding for a class if none of its domains is the class or above it. Otherwise
the binding is put together from those whose domains are the fewest steps above the class, in their
order: it has the domain of the first of them, and is unrestricted if one of them is. -/
theorem bindingFor?_is_merge_of_nearest (r : Relation) (h : Hierarchy) (c : ClassId) :
    (r.bindingFor? h c = none ↔ ∀ b ∈ r.bindings, ¬ h.Descends c b.domain) ∧
    ∀ found, r.bindingFor? h c = some found ↔ ∃ m first rest,
      IsLeast {k | ∃ b ∈ r.bindings, h.IsDistance c b.domain k} m ∧
      r.bindings.filter (h.IsDistance c ·.domain m) = first :: rest ∧
      found = ⟨first.domain,
        if ∃ b ∈ first :: rest, b.range = [] then []
        else distinct ((first :: rest).flatMap Binding.range)⟩ := by
  refine ⟨bindingFor?_eq_none_iff, fun found => ?_⟩
  simp only [bindingFor?, Option.bind_eq_some_iff, nearest?_eq_iff, Nearest.keeps_some_iff,
    Nearest.merge?_eq_some_iff, Hierarchy.distance?_eq_some_iff]
  constructor
  · rintro ⟨n, ⟨hleast, hbindings⟩, first, rest, hcons, hfound⟩
    exact ⟨n.distance, first, rest, hleast, hbindings ▸ hcons, hfound⟩
  · rintro ⟨m, first, rest, hleast, hcons, hfound⟩
    exact ⟨⟨m, first :: rest⟩, ⟨hleast, hcons.symm⟩, first, rest, rfl, hfound⟩

end Relation

end BuildingModel
