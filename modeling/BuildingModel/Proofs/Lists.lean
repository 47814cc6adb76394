import Mathlib.Data.List.Forall2
import Mathlib.Tactic

/-!
# Lists

Of two lists that correspond element by element each has a counterpart to every element of the
other, and what corresponds to two lists one after the other is in two parts as well. Where no
element has two counterparts, no list has. A list without repeats whose elements are all the same
has at most one. Where keys tell the elements apart, lists with the same keys are one, what is found
under a key is the element that has it, and lists with the same elements are sorted by their keys in
the same way.
-/
namespace BuildingModel

variable {α β : Type} {R : α → β → Prop} {xs : List α} {ys : List β}

theorem exists_of_mem_right (h : List.Forall₂ R xs ys) {y : β} (hy : y ∈ ys) : ∃ x ∈ xs, R x y := by
  induction h with
  | nil => cases hy
  | @cons x y' xs ys hx _ ih =>
    rcases List.mem_cons.1 hy with rfl | hy
    · exact ⟨x, List.mem_cons_self, hx⟩
    · obtain ⟨x', hx', hR⟩ := ih hy
      exact ⟨x', List.mem_cons_of_mem x hx', hR⟩

theorem exists_of_mem_left (h : List.Forall₂ R xs ys) {x : α} (hx : x ∈ xs) : ∃ y ∈ ys, R x y :=
  exists_of_mem_right h.flip hx

/-- What corresponds to two lists one after the other is in two parts as well. -/
theorem forall₂_append_left_iff {xs' : List α} : List.Forall₂ R (xs ++ xs') ys ↔
    ∃ zs zs', ys = zs ++ zs' ∧ List.Forall₂ R xs zs ∧ List.Forall₂ R xs' zs' := by
  constructor
  · intro h
    have htake := List.forall₂_take xs.length h
    have hdrop := List.forall₂_drop xs.length h
    rw [List.take_left] at htake
    rw [List.drop_left] at hdrop
    exact ⟨_, _, (List.take_append_drop xs.length ys).symm, htake, hdrop⟩
  · rintro ⟨zs, zs', rfl, h, h'⟩
    exact List.rel_append h h'

theorem eq_of_forall₂ {ys' : List β} (h : List.Forall₂ R xs ys) (h' : List.Forall₂ R xs ys')
    (hunique : ∀ x y y', R x y → R x y' → y = y') : ys = ys' :=
  Relator.RightUnique.forall₂ (fun x y y' => hunique x y y') h h'

theorem eq_of_map_eq {f : α → β} {xs xs' : List α} (h : xs.map f = xs'.map f)
    (hinj : ∀ x ∈ xs, ∀ x' ∈ xs', f x = f x' → x = x') : xs = xs' := by
  induction xs generalizing xs' with
  | nil => exact (List.map_eq_nil_iff.1 h.symm).symm
  | cons x xs ih =>
    cases xs' with
    | nil => cases h
    | cons x' xs' =>
      obtain ⟨hx, hxs⟩ := List.cons.inj h
      rw [hinj x List.mem_cons_self x' List.mem_cons_self hx, ih hxs fun a ha b hb =>
        hinj a (List.mem_cons_of_mem x ha) b (List.mem_cons_of_mem x' hb)]

/-- The first place of an element cuts a list in one way only. -/
theorem append_cons_inj {a : α} {as as' bs bs' : List α} (h : as ++ a :: bs = as' ++ a :: bs')
    (ha : a ∉ as) (ha' : a ∉ as') : as = as' ∧ bs = bs' := by
  rcases List.append_eq_append_iff.1 h with ⟨cs, hcs, hrest⟩ | ⟨cs, hcs, hrest⟩
  · cases cs with
    | nil => simp_all
    | cons c cs =>
      obtain ⟨rfl, -⟩ := List.cons.inj hrest
      exact absurd (by simp [hcs]) ha'
  · cases cs with
    | nil => simp_all
    | cons c cs =>
      obtain ⟨rfl, -⟩ := List.cons.inj hrest
      exact absurd (by simp [hcs]) ha

theorem find?_eq_some_iff_of_inj [DecidableEq β] {f : α → β}
    (hinj : ∀ ⦃x⦄, x ∈ xs → ∀ ⦃y⦄, y ∈ xs → f x = f y → x = y) {k : β} {x : α} :
    xs.find? (f · = k) = some x ↔ x ∈ xs ∧ f x = k := by
  constructor
  · intro hx
    exact ⟨List.mem_of_find?_eq_some hx, by simpa using List.find?_some hx⟩
  · rintro ⟨hx, rfl⟩
    cases hf : xs.find? (f · = f x) with
    | none => simpa using List.find?_eq_none.1 hf x hx
    | some y =>
      have hkey : f y = f x := by simpa using List.find?_some hf
      rw [hinj (List.mem_of_find?_eq_some hf) hx hkey]

/-! ## Sorting -/

/-- Where no two elements come both before and after each other, sorting forgets the order that
there was. -/
theorem mergeSort_eq_of_perm {le : α → α → Bool} {xs ys : List α}
    (htrans : ∀ a b c, le a b = true → le b c = true → le a c = true)
    (htotal : ∀ a b, (le a b || le b a) = true)
    (hanti : ∀ a b, le a b = true → le b a = true → a = b) (hp : xs.Perm ys) :
    xs.mergeSort le = ys.mergeSort le := by
  have hsorted : (xs.mergeSort le).Perm (ys.mergeSort le) :=
    ((List.mergeSort_perm xs le).trans hp).trans (List.mergeSort_perm ys le).symm
  exact hsorted.eq_of_pairwise (fun a b _ _ => hanti a b)
    (List.pairwise_mergeSort htrans htotal xs) (List.pairwise_mergeSort htrans htotal ys)

theorem textLe_trans (text : α → String) (a b c : α) (hab : decide (text a ≤ text b) = true)
    (hbc : decide (text b ≤ text c) = true) : decide (text a ≤ text c) = true :=
  decide_eq_true (String.le_trans (of_decide_eq_true hab) (of_decide_eq_true hbc))

theorem textLe_total (text : α → String) (a b : α) :
    (decide (text a ≤ text b) || decide (text b ≤ text a)) = true := by
  simpa using String.le_total (text a) (text b)

/-- Sorting by a text puts the elements in the order of their texts. -/
theorem pairwise_mergeSort_text (text : α → String) (xs : List α) :
    (xs.mergeSort fun a b => text a ≤ text b).Pairwise fun a b => text a ≤ text b := by
  have hsorted := List.pairwise_mergeSort (textLe_trans text) (textLe_total text) xs
  simpa using hsorted

/-- Without repeats they are in strict order, if their texts tell the elements apart. -/
theorem pairwise_lt_mergeSort_text {text : α → String} (hinj : ∀ a b, text a = text b → a = b)
    {xs : List α} (hn : xs.Nodup) :
    (xs.mergeSort fun a b => text a ≤ text b).Pairwise fun a b => text a < text b := by
  have hnodup : (xs.mergeSort fun a b => text a ≤ text b).Nodup :=
    (List.mergeSort_perm _ _).nodup_iff.2 hn
  refine (pairwise_mergeSort_text text xs).imp₂ ?_ hnodup
  intro a b hle hne
  by_contra hlt
  exact hne (hinj a b (String.le_antisymm hle (String.not_lt.1 hlt)))

theorem mergeSort_text_eq_of_perm {text : α → String} (hinj : ∀ a b, text a = text b → a = b)
    {xs ys : List α} (hp : xs.Perm ys) :
    (xs.mergeSort fun a b => text a ≤ text b) = ys.mergeSort fun a b => text a ≤ text b :=
  mergeSort_eq_of_perm (textLe_trans text) (textLe_total text)
    (fun a b hab hba =>
      hinj a b (String.le_antisymm (of_decide_eq_true hab) (of_decide_eq_true hba))) hp

end BuildingModel
