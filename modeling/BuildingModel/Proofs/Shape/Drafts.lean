import BuildingModel.Distinct
import BuildingModel.Proofs.Rdf.Leading
import BuildingModel.Shape.Compile

/-!
# What constraints make of a path

The constraints of a shape are read one after the other, and each leading path gets those that are
on this very path: its values and classes in the order in which they come, the last of the
datatypes, and whether some constraint requires a value.
-/
namespace BuildingModel

open BuildingModel.Rdf BuildingModel.Ontology

variable {rows : List ConstraintRow} {r : ConstraintRow} {p : Iri}

namespace PathDraft

/-- What is known of a path after some constraints. -/
def ofRows (rows : List ConstraintRow) (p : Iri) : PathDraft where
  path := p
  values := distinct ((rows.filter (·.path = p)).filterMap ConstraintRow.value)
  datatype := ((rows.filter (·.path = p)).filterMap ConstraintRow.datatype).getLast?
  classes := distinct ((rows.filter (·.path = p)).filterMap ConstraintRow.allowed)
  required := (rows.filter (·.path = p)).any fun r => r.minCount.any (0 < ·)

theorem distinct_filterMap_append_singleton {α β : Type} [DecidableEq β] (f : α → Option β)
    (xs : List α) (x : α) :
    distinct ((xs ++ [x]).filterMap f) = withNew (distinct (xs.filterMap f)) (f x) := by
  rw [List.filterMap_append]
  cases hx : f x with
  | none => simp [hx, withNew]
  | some y => simp [hx, withNew, distinct_append_singleton]

theorem getLast?_filterMap_append_singleton {α β : Type} (f : α → Option β) (xs : List α) (x : α) :
    ((xs ++ [x]).filterMap f).getLast? = (f x).or (xs.filterMap f).getLast? := by
  rw [List.filterMap_append]
  cases hx : f x with
  | none => simp [hx]
  | some y => simp [hx]

theorem ofRows_eq_draftOf (rows : List ConstraintRow) (p : Iri) :
    ofRows rows p = draftOf ConstraintRow.path start add rows p := by
  have hadded : ∀ kept : List ConstraintRow, kept.foldl add (start p) =
      ⟨p, distinct (kept.filterMap ConstraintRow.value),
        (kept.filterMap ConstraintRow.datatype).getLast?,
        distinct (kept.filterMap ConstraintRow.allowed),
        kept.any fun r => r.minCount.any (0 < ·)⟩ := by
    intro kept
    induction kept using List.reverseRecOn with
    | nil => rfl
    | append_singleton kept r ih =>
      rw [List.foldl_append, ih]
      simp only [List.foldl_cons, List.foldl_nil, add, distinct_filterMap_append_singleton,
        getLast?_filterMap_append_singleton, List.any_append, List.any_cons, List.any_nil,
        Bool.or_false]
  exact (hadded _).symm

@[simp] theorem kind_field (d : PathDraft) : d.field.kind = d.kind := rfl

theorem kind_of_unit {d : PathDraft} (hname : d.path.name = "hasUnit") :
    d.kind = .unit (d.values.filterMap Term.iri?) :=
  if_pos hname

theorem kind_of_values {d : PathDraft} (hname : d.path.name ≠ "hasUnit") (hvalues : d.values ≠ []) :
    d.kind = .enumeration d.values := by
  rw [kind, if_neg hname, if_pos hvalues]

theorem kind_of_datatype {d : PathDraft} (hname : d.path.name ≠ "hasUnit")
    (hvalues : d.values = []) {i : Iri} (hdatatype : d.datatype = some i) :
    d.kind = .scalar i := by
  rw [kind, if_neg hname, if_neg (not_not.2 hvalues), hdatatype]

theorem kind_of_classes {d : PathDraft} (hname : d.path.name ≠ "hasUnit")
    (hvalues : d.values = []) (hdatatype : d.datatype = none) : d.kind = .reference d.classes := by
  rw [kind, if_neg hname, if_neg (not_not.2 hvalues), hdatatype]

theorem datatype_of_kind {d : PathDraft} {i : Iri} (hkind : d.kind = .scalar i) :
    d.datatype = some i := by
  unfold kind at hkind
  split at hkind
  · cases hkind
  · split at hkind
    · cases hkind
    · split at hkind
      · next hdatatype =>
        cases hkind
        exact hdatatype
      · cases hkind

end PathDraft

/-- The constraints that have been read make a draft for each leading path. -/
theorem foldl_addConstraint (rows : List ConstraintRow) :
    rows.foldl addConstraint [] =
      (leading (rows.map ConstraintRow.path)).map (PathDraft.ofRows rows) := by
  have hdrafts : rows.foldl addConstraint [] =
      drafts ConstraintRow.path PathDraft.start PathDraft.add rows := by
    have hpath : ∀ rows p,
        (draftOf ConstraintRow.path PathDraft.start PathDraft.add rows p).path = p := by
      intro rows p
      rw [← PathDraft.ofRows_eq_draftOf]
      rfl
    induction rows using List.reverseRecOn with
    | nil => rfl
    | append_singleton rows r ih =>
      rw [List.foldl_append, List.foldl_cons, List.foldl_nil, addConstraint, ih,
        any_name_drafts hpath]
      cases hknown : (leading (rows.map ConstraintRow.path)).any (·.name = r.path.name) with
      | true => rw [if_pos rfl, drafts_append_known hpath hknown]
      | false => rw [if_neg (by simp), drafts_append_new hknown]
  rw [hdrafts, drafts]
  exact List.map_congr_left fun p _ => (PathDraft.ofRows_eq_draftOf rows p).symm

/-- A field of the shape that constraints make is the one of a leading path. -/
theorem mem_fields_ofRows_iff {iri : Iri} {f : Field} :
    f ∈ (RecordShape.ofRows iri rows).fields ↔
      ∃ p ∈ leading (rows.map ConstraintRow.path), f = (PathDraft.ofRows rows p).field := by
  rw [RecordShape.ofRows, List.mem_mergeSort, foldl_addConstraint, List.map_map, List.mem_map]
  simp only [Function.comp_apply, eq_comm]

theorem nodup_names_ofRows (iri : Iri) (rows : List ConstraintRow) :
    ((RecordShape.ofRows iri rows).fields.map Field.name).Nodup := by
  have hperm : (RecordShape.ofRows iri rows).fields.Perm
      ((rows.foldl addConstraint []).map PathDraft.field) := List.mergeSort_perm _ _
  rw [(hperm.map Field.name).nodup_iff, foldl_addConstraint, List.map_map, List.map_map]
  exact nodup_names_leading _

end BuildingModel
