/-!
# Lists without repeats

`distinct` keeps the first occurrence of each element and the order of first occurrences. `firstPer`
keeps the first element of each key.
-/
namespace BuildingModel

section Distinct

variable {α : Type} [DecidableEq α]

/-- The elements of a list in the order of their first occurrence, each once. -/
def distinct : List α → List α
  | [] => []
  | a :: l => a :: (distinct l).filter (· ≠ a)

@[simp] theorem distinct_nil : distinct ([] : List α) = [] := rfl

@[simp] theorem mem_distinct {a : α} {l : List α} : a ∈ distinct l ↔ a ∈ l := by
  induction l with
  | nil => simp
  | cons b l ih => by_cases h : a = b <;> simp [distinct, ih, h]

theorem nodup_distinct (l : List α) : (distinct l).Nodup := by
  induction l with
  | nil => simp
  | cons b l ih =>
    rw [distinct, List.nodup_cons]
    exact ⟨by simp, ih.filter _⟩

theorem distinct_of_nodup {l : List α} (h : l.Nodup) : distinct l = l := by
  induction l with
  | nil => rfl
  | cons b l ih =>
    rw [List.nodup_cons] at h
    rw [distinct, ih h.2, List.filter_eq_self.2]
    intro a ha
    simpa using fun he : a = b => h.1 (he ▸ ha)

theorem distinct_append_singleton (l : List α) (a : α) :
    distinct (l ++ [a]) = if a ∈ l then distinct l else distinct l ++ [a] := by
  induction l with
  | nil => rfl
  | cons b l ih =>
    rw [List.cons_append, distinct, ih, distinct]
    by_cases hab : a = b
    · subst hab
      by_cases ha : a ∈ l
      · simp [ha]
      · simp [ha]
    · by_cases ha : a ∈ l
      · simp [hab, ha]
      · simp [hab, ha]

theorem distinct_append (l₁ l₂ : List α) :
    distinct (l₁ ++ l₂) = distinct l₁ ++ (distinct l₂).filter (· ∉ l₁) := by
  induction l₁ with
  | nil =>
    symm
    apply List.filter_eq_self.2
    simp
  | cons b l ih =>
    rw [List.cons_append, distinct, ih, distinct, List.filter_append, List.filter_filter,
      List.cons_append]
    congr 2
    apply List.filter_congr
    intro a _
    simp

/-- Elements that have come before add nothing. -/
theorem distinct_append_of_subset {l₁ l₂ : List α} (h : l₂ ⊆ l₁) :
    distinct (l₁ ++ l₂) = distinct l₁ := by
  have hnone : (distinct l₂).filter (· ∉ l₁) = [] := by
    rw [List.filter_eq_nil_iff]
    intro a ha
    simpa using h (mem_distinct.1 ha)
  rw [distinct_append, hnone, List.append_nil]

/-- A list that is repeated adds nothing after the first time. -/
theorem distinct_flatten_map_const {β : Type} {xs : List β} (h : xs ≠ []) (l : List α) :
    distinct (xs.map fun _ => l).flatten = distinct l := by
  obtain ⟨x, xs, rfl⟩ := List.exists_cons_of_ne_nil h
  rw [List.map_cons, List.flatten_cons]
  apply distinct_append_of_subset
  intro a ha
  obtain ⟨l', hl', ha⟩ := List.mem_flatten.1 ha
  obtain ⟨y, -, rfl⟩ := List.mem_map.1 hl'
  exact ha

/-- What is put in between moves nothing, if none of it comes again later. -/
theorem distinct_append_sublist {l₁ l l₂ : List α} (h : ∀ a ∈ l, a ∉ l₂) :
    (distinct (l₁ ++ l₂)).Sublist (distinct (l₁ ++ l ++ l₂)) := by
  have hkept : (distinct l₂).filter (· ∉ l₁ ++ l) = (distinct l₂).filter (· ∉ l₁) := by
    apply List.filter_congr
    intro a ha
    have hnew : a ∉ l := fun hl => h a hl (mem_distinct.1 ha)
    simp [hnew]
  rw [distinct_append (l₁ ++ l), hkept, distinct_append l₁ l, distinct_append l₁ l₂,
    List.append_assoc]
  exact List.Sublist.append (List.Sublist.refl _) (List.sublist_append_right _ _)

end Distinct

/-! ## First of their key -/

section FirstPer

variable {α β : Type} [DecidableEq β] {key : α → β} {a : α} {as bs : List α}

/-- The elements of a list that are the first ones with their key. -/
def firstPer (key : α → β) : List α → List α
  | [] => []
  | a :: as => a :: (firstPer key as).filter (key · ≠ key a)

theorem firstPer_subset (as : List α) : firstPer key as ⊆ as := by
  induction as with
  | nil => exact List.Subset.refl _
  | cons a as ih =>
    intro b hb
    rcases List.mem_cons.1 hb with rfl | hb
    · exact List.mem_cons_self
    · exact List.mem_cons_of_mem a (ih (List.mem_filter.1 hb).1)

theorem nodup_map_firstPer (as : List α) : ((firstPer key as).map key).Nodup := by
  induction as with
  | nil => exact List.nodup_nil
  | cons a as ih =>
    rw [firstPer, List.map_cons, List.nodup_cons]
    refine ⟨?_, ih.sublist (List.filter_sublist.map _)⟩
    intro ha
    obtain ⟨b, hb, heq⟩ := List.mem_map.1 ha
    have hne := (List.mem_filter.1 hb).2
    simp [heq] at hne

/-- Of elements with one key the first is kept. -/
theorem firstPer_block (has : ∀ b ∈ as, key b = key a) :
    firstPer key (a :: (as ++ bs)) = a :: (firstPer key bs).filter (key · ≠ key a) := by
  induction as generalizing a with
  | nil => rfl
  | cons b as ih =>
    have hb : key b = key a := has b List.mem_cons_self
    have hrest : ∀ b' ∈ as, key b' = key b := by
      intro b' hb'
      rw [hb]
      exact has b' (List.mem_cons_of_mem b hb')
    rw [firstPer, List.cons_append, ih hrest, hb]
    simp [hb]

/-- Of blocks of elements, one for each key, the first of each block is kept. -/
theorem firstPer_flatMap {ks : List β} {block : β → List α} {first : β → α} (hn : ks.Nodup)
    (hkey : ∀ k, ∀ b ∈ block k, key b = k)
    (hfirst : ∀ k, (block k).head? = some (first k)) :
    firstPer key (ks.flatMap block) = ks.map first := by
  induction ks with
  | nil => rfl
  | cons k ks ih =>
    obtain ⟨hk, hn⟩ := List.nodup_cons.1 hn
    obtain ⟨rest, hblock⟩ := List.head?_eq_some_iff.1 (hfirst k)
    have hkeyFirst : key (first k) = k := hkey k _ (by simp [hblock])
    have hrest : ∀ b ∈ rest, key b = key (first k) := by
      intro b hb
      rw [hkeyFirst]
      exact hkey k b (by simp [hblock, hb])
    have hothers : ∀ b ∈ firstPer key (ks.flatMap block),
        decide (key b ≠ key (first k)) = true := by
      intro b hb
      obtain ⟨k', hk', hb'⟩ := List.mem_flatMap.1 (firstPer_subset _ hb)
      have hne : key b ≠ key (first k) := by
        rw [hkeyFirst, hkey k' b hb']
        intro heq
        rw [heq] at hk'
        exact hk hk'
      simpa using hne
    rw [List.flatMap_cons, hblock, List.cons_append, firstPer_block hrest,
      List.filter_eq_self.2 hothers, ih hn, List.map_cons]

end FirstPer

end BuildingModel
