import BuildingModel.Proofs.Failure
import BuildingModel.Proofs.Session.Handles

/-!
# Values of fields

The value that a field gets from an input is of the kind of the field, and the entries of a record
that is built fill the fields of its shape one by one.
-/
namespace BuildingModel

open BuildingModel.Rdf

theorem datatype_of_scalarValue? {d : Iri} {input : FieldInput} {l : Literal}
    (h : scalarValue? d input = some l) : l.datatype = d := by
  unfold scalarValue? at h
  split at h
  · split at h
    · cases h
      assumption
    · cases h
  · obtain ⟨text, -, rfl⟩ := Option.map_eq_some_iff.1 h
    exact Literal.datatype_ofTyped text d

namespace Session

variable {schema : Schema} {s : Session schema}

theorem admitsEntity_iff {classes : List Iri} {e : Entity} :
    admitsEntity schema classes e = true ↔ (∀ i ∈ classes, schema.hierarchy.byIri i = none) ∨
      ∃ i ∈ classes, ∃ c, schema.hierarchy.byIri i = some c ∧
        schema.hierarchy.Descends e.classId c := by
  simp only [admitsEntity, Bool.or_eq_true, List.isEmpty_iff, List.filterMap_eq_nil_iff,
    List.any_eq_true, List.mem_filterMap, Hierarchy.isSubclass_iff]
  refine or_congr Iff.rfl ?_
  constructor
  · intro ⟨c, ⟨i, hi, hc⟩, hd⟩
    exact ⟨i, hi, c, hc, hd⟩
  · intro ⟨i, hi, c, hc, hd⟩
    exact ⟨c, ⟨i, hi, hc⟩, hd⟩

theorem admissible_reference {classes : List Iri} {shape : String} {f : Field} {input : FieldInput}
    {v : FieldValue} (hkind : f.kind = .reference classes)
    (h : s.fieldValue shape f input = .ok v) : s.Admissible (.reference classes) v := by
  simp only [fieldValue, hkind] at h
  cases input with
  | entity id =>
    obtain ⟨e, he, h⟩ := bind_eq_ok h
    by_cases hadmits : admitsEntity schema classes e = true
    · rw [if_pos hadmits] at h
      cases h
      exact .entity (entity_eq_ok_iff.1 he) (admitsEntity_iff.1 hadmits)
    · rw [if_neg hadmits] at h
      cases h
  | record id =>
    obtain ⟨r, hr, h⟩ := bind_eq_ok h
    cases h
    exact .record (record_eq_ok_iff.1 hr)
  | iri i => cases h; exact .iri
  | unit i => cases h; exact .iri
  | float x => cases h
  | integer n => cases h
  | boolean b => cases h
  | text t => cases h
  | literal l => cases h

theorem admissible_of_fieldValue {shape : String} {f : Field} {input : FieldInput} {v : FieldValue}
    (h : s.fieldValue shape f input = .ok v) : s.Admissible f.kind v := by
  cases hkind : f.kind with
  | enumeration members =>
    simp only [fieldValue, hkind] at h
    split at h
    · rename_i t ht
      cases h
      exact .member (List.mem_of_find?_eq_some ht)
    · cases h
  | unit allowed =>
    simp only [fieldValue, hkind] at h
    obtain ⟨i, -, h⟩ := bind_eq_ok h
    by_cases hi : (allowed.isEmpty || allowed.contains i) = true
    · rw [if_pos hi] at h
      cases h
      exact .unit (by simpa using hi)
    · rw [if_neg hi] at h
      cases h
  | scalar d =>
    simp only [fieldValue, hkind] at h
    split at h
    · rename_i l hl
      cases h
      rw [← datatype_of_scalarValue? hl]
      exact .literal
    · cases h
  | reference classes => exact admissible_reference hkind h

theorem fills_of_fieldEntry {shape : String} {settings : List FieldSetting} {f : Field}
    {x : FieldEntry} (h : s.fieldEntry shape settings f = .ok x) : s.Fills f x := by
  unfold fieldEntry at h
  split at h
  · obtain ⟨v, hv, h⟩ := bind_eq_ok h
    cases h
    refine ⟨rfl, fun _ => by simp, ?_⟩
    intro v' hv'
    cases hv'
    exact admissible_of_fieldValue hv
  · by_cases hreq : f.required = true
    · rw [if_pos hreq] at h
      cases h
    · rw [if_neg hreq] at h
      cases h
      exact ⟨rfl, fun hr => absurd hr hreq, fun v hv => by cases hv⟩

theorem fills_of_fieldEntries {shape : String} {settings : List FieldSetting} {fs : List Field}
    {xs : List FieldEntry} (h : s.fieldEntries shape settings fs = .ok xs) :
    List.Forall₂ s.Fills fs xs := by
  induction fs generalizing xs with
  | nil =>
    cases h
    exact .nil
  | cons f fs ih =>
    obtain ⟨x, hx, h⟩ := bind_eq_ok h
    obtain ⟨ys, hys, h⟩ := bind_eq_ok h
    cases h
    exact .cons (fills_of_fieldEntry hx) (ih hys)

end Session

end BuildingModel
