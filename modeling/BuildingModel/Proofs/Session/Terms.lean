import BuildingModel.Proofs.Schema.Terms
import BuildingModel.Proofs.Session.Building
import BuildingModel.Proofs.Session.WellFormed

/-!
# The terms of a session

A session holds the IRIs of its entities, which are checked when they are created, and the values of
its records, which come from the schema or are given by the caller. So its terms stay well-formed as
long as well-formed terms are given to it.
-/
namespace BuildingModel

open BuildingModel.Rdf

/-- An input whose term, if it has one, is well-formed. -/
def FieldInput.WellFormed : FieldInput → Prop
  | .iri i => i.WellFormed
  | .unit i => i.WellFormed
  | .literal l => l.WellFormed
  | _ => True

/-- A request with well-formed inputs. -/
def Request.WellFormed : Request → Prop
  | .build _ sets => ∀ x ∈ sets, x.input.WellFormed
  | _ => True

instance : DecidablePred FieldInput.WellFormed
  | .iri i => inferInstanceAs (Decidable i.WellFormed)
  | .unit i => inferInstanceAs (Decidable i.WellFormed)
  | .literal l => inferInstanceAs (Decidable l.WellFormed)
  | .float _ | .integer _ | .boolean _ | .text _ | .entity _ | .record _ =>
    inferInstanceAs (Decidable True)

instance : DecidablePred Request.WellFormed
  | .build _ sets => inferInstanceAs (Decidable (∀ x ∈ sets, x.input.WellFormed))
  | .create .. | .relate .. | .invoke .. => inferInstanceAs (Decidable True)

/-- A record whose values are well-formed as far as they are terms. -/
def Record.TermsWellFormed (r : Record) : Prop :=
  ∀ x ∈ r.fields, ∀ t, x.value = some (.term t) → t.WellFormed

/-- What counts of inputs for a field is one of them. -/
theorem exists_mem_of_lastInput? {sets : List FieldSetting} {name : String} {input : FieldInput}
    (h : lastInput? sets name = some input) : ∃ x ∈ sets, x.input = input := by
  obtain ⟨x, hx, rfl⟩ := Option.map_eq_some_iff.1 h
  exact ⟨x, (List.mem_filter.1 (List.mem_of_getLast? hx)).1, rfl⟩

namespace Session

variable {schema : Schema} {s s' : Session schema}

/-- What holds of the terms of a session at all times. -/
structure TermsWellFormed (s : Session schema) : Prop where
  iris : ∀ e ∈ s.entities, e.iri.WellFormed
  records : ∀ r ∈ s.records, r.TermsWellFormed

/-! ## Values -/

section Values

variable {shape : String} {f : Field} {input : FieldInput}

theorem wellFormed_of_unitOf (hschema : schema.TermsWellFormed) (hinput : input.WellFormed)
    {i : Iri}
    (h : unitOf schema shape f input = .ok i) : i.WellFormed := by
  cases input with
  | unit j => cases h; exact hinput
  | iri j => cases h; exact hinput
  | text key =>
    rw [unitOf] at h
    cases hu : schema.units.find? key with
    | none =>
      rw [hu] at h
      cases h
    | some u =>
      rw [hu] at h
      cases h
      apply hschema.units
      rcases Option.or_eq_some_iff.1 hu with hu | ⟨-, hu⟩
      · exact List.mem_of_find?_eq_some hu
      · exact List.mem_of_find?_eq_some hu
  | float x => cases h
  | integer n => cases h
  | boolean b => cases h
  | literal l => cases h
  | entity id => cases h
  | record id => cases h

theorem wellFormed_of_scalarValue? {datatype : Iri} (hd : datatype.WellFormed)
    (hinput : input.WellFormed) {l : Literal} (h : scalarValue? datatype input = some l) :
    l.WellFormed := by
  unfold scalarValue? at h
  split at h
  · split at h
    · cases h
      exact hinput
    · cases h
  · obtain ⟨text, -, rfl⟩ := Option.map_eq_some_iff.1 h
    exact Literal.wellFormed_ofTyped hd text

theorem wellFormed_of_reference {classes : List Iri} (hkind : f.kind = .reference classes)
    (hinput : input.WellFormed) {t : Term} (h : s.fieldValue shape f input = .ok (.term t)) :
    t.WellFormed := by
  simp only [fieldValue, hkind] at h
  cases input with
  | entity id =>
    obtain ⟨e, -, h⟩ := bind_eq_ok h
    split at h
    · cases h
    · cases h
  | record id =>
    obtain ⟨r, -, h⟩ := bind_eq_ok h
    cases h
  | iri i => cases h; exact hinput
  | unit i => cases h; exact hinput
  | float x => cases h
  | integer n => cases h
  | boolean b => cases h
  | text t => cases h
  | literal l => cases h

/-- The term that a field gets is a member of its enumeration, a literal of its datatype, a unit of
the schema or the term that is given. -/
theorem wellFormed_of_fieldValue (hschema : schema.TermsWellFormed) (hf : f.kind.WellFormed)
    (hinput : input.WellFormed) {t : Term} (h : s.fieldValue shape f input = .ok (.term t)) :
    t.WellFormed := by
  cases hkind : f.kind with
  | enumeration members =>
    rw [hkind] at hf
    simp only [fieldValue, hkind] at h
    split at h
    · rename_i t' ht
      cases h
      exact hf t (List.mem_of_find?_eq_some ht)
    · cases h
  | unit allowed =>
    simp only [fieldValue, hkind] at h
    obtain ⟨i, hi, h⟩ := bind_eq_ok h
    split at h
    · cases h
      exact wellFormed_of_unitOf hschema hinput hi
    · cases h
  | scalar datatype =>
    rw [hkind] at hf
    simp only [fieldValue, hkind] at h
    split at h
    · rename_i l hl
      cases h
      exact wellFormed_of_scalarValue? hf hinput hl
    · cases h
  | reference classes => exact wellFormed_of_reference hkind hinput h

end Values

/-! ## Changes and runs -/

theorem termsWellFormed_start (schema : Schema) (number : ℕ) :
    (start schema number).TermsWellFormed :=
  ⟨fun _ he => (List.not_mem_nil he).elim, fun _ hr => (List.not_mem_nil hr).elim⟩

theorem termsWellFormed_of_entered (hschema : schema.TermsWellFormed) {shape : RecordShape}
    (hshape : shape ∈ schema.shapes.shapes) {sets : List FieldSetting}
    (hsets : ∀ x ∈ sets, x.input.WellFormed) {id : ShapeId} {entries : List FieldEntry}
    (hentries : List.Forall₂ (s.Entered shape.name (lastInput? sets)) shape.fields entries) :
    Record.TermsWellFormed ⟨id, entries⟩ := by
  intro x hx t ht
  obtain ⟨f, hf, hentered⟩ := exists_of_mem_right hentries hx
  cases hentered with
  | unset => cases ht
  | set hinput hvalue =>
    cases ht
    obtain ⟨y, hy, rfl⟩ := exists_mem_of_lastInput? hinput
    exact wellFormed_of_fieldValue hschema (hschema.kinds shape hshape f hf) (hsets y hy) hvalue

theorem termsWellFormed_change (hschema : schema.TermsWellFormed) (hs : s.TermsWellFormed)
    {r : Request} {reply : Reply} (hr : r.WellFormed) (h : s.Change r reply s') :
    s'.TermsWellFormed := by
  cases h with
  | create hclass hiri hnew =>
    refine ⟨fun e he => ?_, hs.records⟩
    rcases List.mem_append.1 he with he | he
    · exact hs.iris e he
    · rw [List.mem_singleton.1 he]
      exact (Iri.parse?_eq_some_iff.1 hiri).2
  | @build shapeName sets id shape fields hname hshape hknown hfields =>
    refine ⟨hs.iris, fun r' hr' => ?_⟩
    rcases List.mem_append.1 hr' with hr' | hr'
    · exact hs.records r' hr'
    · rw [List.mem_singleton.1 hr']
      rcases s.fieldEntries_cases shape.name sets shape.fields with
        ⟨entries, hentries, hall⟩ | ⟨e, he, -⟩
      · rw [hfields] at hentries
        cases hentries
        exact termsWellFormed_of_entered hschema (List.mem_of_getElem? hshape) hr hall
      · rw [hfields] at he
        cases he
  | relate hrequest he hr hb ht =>
    refine ⟨fun e' he' => ?_, hs.records⟩
    obtain ⟨id, e, he, rfl⟩ := mem_entities_attach he'
    have hiri := hs.iris e he.mem
    split
    · rwa [Entity.iri_attach]
    · exact hiri

theorem termsWellFormed_step (hschema : schema.TermsWellFormed) (hs : s.TermsWellFormed)
    {r : Request} (hr : r.WellFormed) : (s.step r).TermsWellFormed := by
  cases s.outcome r with
  | failed hanswer hstep => rwa [hstep]
  | changed hanswer hchange => exact termsWellFormed_change hschema hs hr hchange

/-- Requests with well-formed inputs leave a session with well-formed terms. -/
theorem termsWellFormed_run (hschema : schema.TermsWellFormed) (hs : s.TermsWellFormed)
    {rs : List Request} (hrs : ∀ r ∈ rs, r.WellFormed) : (s.run rs).TermsWellFormed := by
  induction rs generalizing s with
  | nil => exact hs
  | cons r rs ih =>
    obtain ⟨hr, hrs⟩ := List.forall_mem_cons.1 hrs
    exact ih (termsWellFormed_step hschema hs hr) hrs

end Session

end BuildingModel
