import BuildingModel.Proofs.Lists
import BuildingModel.Rdf.Iri
import Mathlib.Tactic

/-!
# Leading IRIs

Of the IRIs that share a local name the one that comes first leads, and the others do not count.
Shapes choose the paths of their fields in this way, and ontologies their relations. Both read rows
one after the other and keep a draft for each name. What becomes of the rows can be said at once:
each leading IRI gets the rows that have this very IRI, and no others.
-/
namespace BuildingModel.Rdf

/-- The IRIs of a list that come first with their local names. -/
def leading (is : List Iri) : List Iri :=
  is.foldl (fun ls i => if ls.any (·.name = i.name) then ls else ls ++ [i]) []

variable {is : List Iri} {i j : Iri} {name : String}

theorem leading_append_singleton (is : List Iri) (i : Iri) :
    leading (is ++ [i]) =
      if (leading is).any (·.name = i.name) then leading is else leading is ++ [i] := by
  simp [leading]

/-- Looking for a name among the leading IRIs finds what looking for it among all of them finds. -/
theorem find?_leading (is : List Iri) (name : String) :
    (leading is).find? (·.name = name) = is.find? (·.name = name) := by
  induction is using List.reverseRecOn with
  | nil => rfl
  | append_singleton is i ih =>
    rw [leading_append_singleton, List.find?_append]
    by_cases hany : (leading is).any (·.name = i.name) = true
    · rw [if_pos hany, ih]
      by_cases hi : i.name = name
      · have hsome : (is.find? (·.name = name)).isSome := by
          rw [← ih, List.find?_isSome]
          simpa [hi] using hany
        obtain ⟨j, hj⟩ := Option.isSome_iff_exists.1 hsome
        simp [hj]
      · simp [hi]
    · rw [if_neg hany, List.find?_append, ih]

theorem mem_of_mem_leading (hi : i ∈ leading is) : i ∈ is := by
  induction is using List.reverseRecOn with
  | nil => cases hi
  | append_singleton is j ih =>
    rw [leading_append_singleton] at hi
    split at hi
    · exact List.mem_append_left _ (ih hi)
    · rcases List.mem_append.1 hi with hi | hi
      · exact List.mem_append_left _ (ih hi)
      · exact List.mem_append_right _ hi

theorem any_name_leading_iff (is : List Iri) (name : String) :
    (leading is).any (·.name = name) = true ↔ name ∈ is.map Iri.name := by
  have hfind : ((leading is).find? (·.name = name)).isSome =
      (is.find? (·.name = name)).isSome := by rw [find?_leading]
  rw [List.any_eq_true, List.mem_map, ← List.find?_isSome, hfind, List.find?_isSome]
  simp

theorem nodup_names_leading (is : List Iri) : ((leading is).map Iri.name).Nodup := by
  induction is using List.reverseRecOn with
  | nil => exact List.nodup_nil
  | append_singleton is i ih =>
    rw [leading_append_singleton]
    by_cases hany : (leading is).any (·.name = i.name) = true
    · rwa [if_pos hany]
    · rw [if_neg hany, List.map_append, List.map_singleton, ← List.concat_eq_append,
        List.nodup_concat]
      refine ⟨?_, ih⟩
      simpa using hany

/-- An IRI leads if it is the one that is found under its name. -/
theorem mem_leading_iff : i ∈ leading is ↔ is.find? (·.name = i.name) = some i := by
  have hinj := List.inj_on_of_nodup_map (nodup_names_leading is)
  rw [← find?_leading, find?_eq_some_iff_of_inj hinj, and_iff_left rfl]

/-- Where IRIs of one name are one, all of them lead. -/
theorem mem_leading_of_mem (hone : ∀ i ∈ is, ∀ j ∈ is, i.name = j.name → i = j) (hi : i ∈ is) :
    i ∈ leading is :=
  mem_leading_iff.2 ((find?_eq_some_iff_of_inj fun i hi j hj => hone i hi j hj).2 ⟨hi, rfl⟩)

/-! ## Drafts -/

section Drafts

variable {ρ δ : Type} (key : ρ → Iri) (start : Iri → δ) (update : δ → ρ → δ)

/-- What is known of an IRI after the rows that have it. -/
def draftOf (rows : List ρ) (i : Iri) : δ :=
  (rows.filter (key · = i)).foldl update (start i)

/-- The drafts of the leading IRIs of some rows. -/
def drafts (rows : List ρ) : List δ :=
  (leading (rows.map key)).map (draftOf key start update rows)

variable {key start update} {rows : List ρ} {r : ρ}

theorem draftOf_append_singleton (rows : List ρ) (r : ρ) (i : Iri) :
    draftOf key start update (rows ++ [r]) i =
      if key r = i then update (draftOf key start update rows i) r
      else draftOf key start update rows i := by
  by_cases hr : key r = i
  · simp [draftOf, hr]
  · simp [draftOf, hr]

theorem draftOf_of_not_mem (hi : i ∉ rows.map key) : draftOf key start update rows i = start i := by
  have hkept : rows.filter (key · = i) = [] := by
    simpa [List.filter_eq_nil_iff] using hi
  rw [draftOf, hkept]
  rfl

/-- A row of a new name makes a draft of its own. -/
theorem drafts_append_new (hr : (leading (rows.map key)).any (·.name = (key r).name) = false) :
    drafts key start update (rows ++ [r]) =
      drafts key start update rows ++ [update (start (key r)) r] := by
  have hnew : key r ∉ rows.map key := by
    intro hmem
    rw [(any_name_leading_iff _ _).2 (List.mem_map_of_mem hmem)] at hr
    cases hr
  have hold : (leading (rows.map key)).map (draftOf key start update (rows ++ [r])) =
      drafts key start update rows := by
    apply List.map_congr_left
    intro i hi
    rw [draftOf_append_singleton, if_neg]
    rintro rfl
    exact hnew (mem_of_mem_leading hi)
  rw [drafts, List.map_append, List.map_singleton, leading_append_singleton, hr, if_neg (by simp),
    List.map_append, hold, List.map_singleton, draftOf_append_singleton, if_pos rfl,
    draftOf_of_not_mem hnew]

variable {iri : δ → Iri} (hiri : ∀ rows i, iri (draftOf key start update rows i) = i)
include hiri

/-- A row of a known name counts for the draft with its IRI, if there is one. -/
theorem drafts_append_known (hr : (leading (rows.map key)).any (·.name = (key r).name) = true) :
    drafts key start update (rows ++ [r]) =
      (drafts key start update rows).map fun d => if iri d = key r then update d r else d := by
  rw [drafts, List.map_append, List.map_singleton, leading_append_singleton, if_pos hr, drafts,
    List.map_map]
  apply List.map_congr_left
  intro i _
  rw [draftOf_append_singleton, Function.comp_apply, hiri]
  simp only [eq_comm]

theorem any_name_drafts (rows : List ρ) (name : String) :
    (drafts key start update rows).any (fun d => (iri d).name = name) =
      (leading (rows.map key)).any (·.name = name) := by
  rw [drafts, List.any_map]
  simp only [Function.comp_def, hiri]

end Drafts

end BuildingModel.Rdf
