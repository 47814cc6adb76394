/-!
# Indexes

An index gives the place of each key in a list. It is kept while the list grows at its end: a key
that comes again either takes the new place or keeps the old one.
-/
namespace BuildingModel

/-- Places by key, the newest first. -/
structure Index (κ : Type) where
  entries : List (κ × Nat)
  deriving DecidableEq, Repr

namespace Index

variable {κ : Type}

def insert (i : Index κ) (k : κ) (n : Nat) : Index κ := ⟨(k, n) :: i.entries⟩

/-- The index of the last place of each key. -/
def last (ks : List κ) : Index κ :=
  ks.zipIdx.foldl (fun i e => i.insert e.1 e.2) ⟨[]⟩

theorem last_append_singleton (ks : List κ) (k : κ) :
    last (ks ++ [k]) = (last ks).insert k ks.length := by
  simp [last, List.zipIdx_append]

theorem getElem?_append_singleton_eq_some_iff {ks : List κ} {k k' : κ} {m : Nat} :
    (ks ++ [k'])[m]? = some k ↔ ks[m]? = some k ∨ m = ks.length ∧ k' = k := by
  rcases Nat.lt_trichotomy m ks.length with hlt | rfl | hlt
  · rw [List.getElem?_append_left hlt]
    simp [Nat.ne_of_lt hlt]
  · simp
  · have hbehind : (ks ++ [k']).length ≤ m := by simpa using Nat.succ_le_of_lt hlt
    rw [List.getElem?_eq_none (Nat.le_of_lt hlt), List.getElem?_eq_none hbehind]
    simp [Nat.ne_of_gt hlt]

variable [DecidableEq κ] {i : Index κ} {k k' : κ} {ks : List κ} {n : Nat}

def get? (i : Index κ) (k : κ) : Option Nat := i.entries.lookup k

/-- Enters a place for a key that has none. -/
def insertNew (i : Index κ) (k : κ) (n : Nat) : Index κ :=
  if (i.get? k).isSome then i else i.insert k n

theorem get?_insert : (i.insert k n).get? k' = if k' = k then some n else i.get? k' := by
  rw [get?, insert, List.lookup_cons]
  by_cases h : k' = k
  · simp [h]
  · have hne : (k' == k) = false := by simpa using h
    rw [hne, if_neg h, get?]

theorem get?_insertNew :
    (i.insertNew k n).get? k' = (i.get? k').or (if k' = k then some n else none) := by
  unfold insertNew
  by_cases hk : k' = k
  · subst hk
    cases h : i.get? k' <;> simp [h, get?_insert]
  · cases h : (i.get? k).isSome <;> simp [hk, get?_insert]

/-- The index of the first place of each key. -/
def first (ks : List κ) : Index κ :=
  ks.zipIdx.foldl (fun i e => i.insertNew e.1 e.2) ⟨[]⟩

theorem first_append_singleton (ks : List κ) (k : κ) :
    first (ks ++ [k]) = (first ks).insertNew k ks.length := by
  simp [first, List.zipIdx_append]

theorem get?_last_eq_some_iff : (last ks).get? k = some n ↔
    ks[n]? = some k ∧ ∀ m, n < m → ks[m]? ≠ some k := by
  -- from the end of the list, where it grows
  rw [← ks.reverse_reverse]
  induction ks.reverse generalizing n with
  | nil => simp [last, get?]
  | cons k' l ih =>
    rw [List.reverse_cons, last_append_singleton, get?_insert]
    simp only [ne_eq, getElem?_append_singleton_eq_some_iff]
    by_cases hk : k = k'
    · subst hk
      rw [if_pos rfl]
      constructor
      · intro hn
        obtain rfl := Option.some.inj hn
        refine ⟨.inr ⟨rfl, rfl⟩, ?_⟩
        rintro m hm (hat | ⟨rfl, -⟩)
        · exact Nat.lt_asymm hm (List.getElem?_eq_some_iff.1 hat).1
        · exact Nat.lt_irrefl _ hm
      · rintro ⟨hat | ⟨rfl, -⟩, hlast⟩
        · exact absurd (.inr ⟨rfl, rfl⟩) (hlast _ (List.getElem?_eq_some_iff.1 hat).1)
        · rfl
    · rw [if_neg hk, ih]
      simp [Ne.symm hk]

theorem get?_last_eq_some_iff_of_nodup (hn : ks.Nodup) :
    (last ks).get? k = some n ↔ ks[n]? = some k := by
  rw [get?_last_eq_some_iff]
  refine and_iff_left_of_imp fun hk m hnm hm => ?_
  obtain ⟨hlt, -⟩ := List.getElem?_eq_some_iff.1 hk
  exact Nat.ne_of_lt hnm ((List.getElem?_inj hlt hn).1 (hk.trans hm.symm))

theorem get?_last_eq_none_iff : (last ks).get? k = none ↔ k ∉ ks := by
  rw [← ks.reverse_reverse]
  induction ks.reverse with
  | nil => simp [last, get?]
  | cons k' l ih =>
    rw [List.reverse_cons, last_append_singleton, get?_insert]
    by_cases hk : k = k'
    · simp [hk]
    · rw [if_neg hk, ih]
      simp [hk]

theorem get?_first_eq_none_iff : (first ks).get? k = none ↔ k ∉ ks := by
  rw [← ks.reverse_reverse]
  induction ks.reverse with
  | nil => simp [first, get?]
  | cons k' l ih =>
    rw [List.reverse_cons, first_append_singleton, get?_insertNew, Option.or_eq_none_iff, ih]
    by_cases hk : k = k' <;> simp [hk]

theorem get?_first_eq_some_iff : (first ks).get? k = some n ↔
    ks[n]? = some k ∧ ∀ m, m < n → ks[m]? ≠ some k := by
  rw [← ks.reverse_reverse]
  induction ks.reverse generalizing n with
  | nil => simp [first, get?]
  | cons k' l ih =>
    rw [List.reverse_cons, first_append_singleton, get?_insertNew]
    simp only [ne_eq, getElem?_append_singleton_eq_some_iff]
    cases hold : (first l.reverse).get? k with
    | none =>
      have hnew : ∀ m, l.reverse[m]? ≠ some k := fun m hm =>
        get?_first_eq_none_iff.1 hold (List.mem_of_getElem? hm)
      by_cases hk : k = k'
      · subst hk
        simp only [if_true, Option.none_or, Option.some.injEq, hnew, and_true, false_or]
        exact ⟨fun hn => ⟨hn.symm, fun m hm => Nat.ne_of_lt (hn ▸ hm)⟩, fun hn => hn.1.symm⟩
      · simp [hk, Ne.symm hk, hnew]
    | some o =>
      obtain ⟨ho, hfirst⟩ := ih.1 hold
      have holt := (List.getElem?_eq_some_iff.1 ho).1
      rw [Option.some_or]
      constructor
      · intro hn
        obtain rfl := Option.some.inj hn
        refine ⟨.inl ho, ?_⟩
        rintro m hm (hat | ⟨rfl, -⟩)
        · exact hfirst m hm hat
        · exact Nat.lt_asymm hm holt
      · rintro ⟨hat | ⟨rfl, -⟩, hleast⟩
        · rw [← hold]
          exact ih.2 ⟨hat, fun m hm hk => hleast m hm (.inl hk)⟩
        · exact absurd (.inl ho) (hleast o holt)

end Index

end BuildingModel
