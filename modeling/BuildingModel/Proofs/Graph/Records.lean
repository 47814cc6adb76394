import BuildingModel.Proofs.Graph.Contents
import BuildingModel.Proofs.Rdf.Graph

/-!
# Records in the graph

In the graph of a session a record has the value of each field under the path of the field, in
normal form, and nothing else: one value at most, one at least if the field is required, and none
that the field does not admit.
-/
namespace BuildingModel

open BuildingModel.Rdf

theorem Emitted.isGraph_store_ofList (ts : List Triple) : (Emitted.ofList ts).store.IsGraph := by
  intro q hq
  obtain ⟨t, -, rfl⟩ := mem_store_ofList.1 hq
  rfl

namespace Session

variable {schema : Schema} {s : Session schema} {ts : List Triple} {id : RecordId} {r : Record}
  {shape : RecordShape} {f : Field}

theorem map_name_of_fills {fields : List Field} {entries : List FieldEntry}
    (h : List.Forall₂ s.Fills fields entries) :
    entries.map FieldEntry.name = fields.map Field.name := by
  induction h with
  | nil => rfl
  | cons hx _ ih => rw [List.map_cons, List.map_cons, hx.name, ih]

/-- A field of a record has one entry, which is looked up by its name. -/
theorem exists_fills (hs : s.WellFormed) (hr : s.IsRecord id r)
    (hshape : schema.shapes.get? r.shape = some shape)
    (hnames : (shape.fields.map Field.name).Nodup) (hf : f ∈ shape.fields) :
    ∃ x, s.Fills f x ∧ r.get? f.name = x.value := by
  obtain ⟨shape', hshape', hfields⟩ := hs.records r (List.mem_of_getElem? hr.2)
  rw [hshape] at hshape'
  cases hshape'
  rw [← map_name_of_fills hfields] at hnames
  obtain ⟨x, hx, hfills⟩ := exists_of_mem_left hfields hf
  have hfind : r.fields.find? (·.name = f.name) = some x :=
    (find?_eq_some_iff_of_inj (List.inj_on_of_nodup_map hnames)).2 ⟨hx, hfills.name⟩
  refine ⟨x, hfills, ?_⟩
  rw [Record.get?, hfind, Option.bind_some]

/-- Under the path of a field the graph has the value of the field in normal form, and the shape of
the record if the path is that of types. -/
theorem Emits.mem_objects_iff_or_shape (h : s.Emits ts) (hr : s.IsRecord id r)
    (hshape : schema.shapes.get? r.shape = some shape) (hf : f ∈ shape.fields) {t : Term} :
    t ∈ (Emitted.ofList ts).store.objects (.blank id.node) f.path ↔
      (f.path = Vocabulary.type ∧ t = .iri shape.iri) ∨
        ∃ v t', r.get? f.name = some v ∧ s.DenotesValue v t' ∧ t = t'.normal := by
  have hmem : ∀ t', ⟨.blank id.node, f.path, t'⟩ ∈ ts ↔
      (f.path = Vocabulary.type ∧ t' = .iri shape.iri) ∨
        ∃ v, r.get? f.name = some v ∧ s.DenotesValue v t' := by
    intro t'
    rw [h.mem_iff_of_record hr hshape]
    refine or_congr_right ?_
    constructor
    · intro ⟨f', hf', hp, v, hv, hdenotes⟩
      have hname : f'.name = f.name := congrArg Iri.name hp
      rw [hname] at hv
      exact ⟨v, hv, hdenotes⟩
    · intro ⟨v, hv, hdenotes⟩
      exact ⟨f, hf, rfl, v, hv, hdenotes⟩
  rw [(Emitted.isGraph_store_ofList ts).mem_objects_iff, Emitted.mem_store_ofList]
  constructor
  · rintro ⟨⟨n, p, t'⟩, ht', heq⟩
    obtain ⟨hn, hp, ht⟩ := Triple.mk.inj (congrArg Quad.toTriple heq)
    subst hn hp
    rcases (hmem t').1 ht' with ⟨htype, rfl⟩ | ⟨v, hv, hdenotes⟩
    · exact .inl ⟨htype, ht⟩
    · exact .inr ⟨v, t', hv, hdenotes, ht⟩
  · rintro (⟨htype, rfl⟩ | ⟨v, t', hv, hdenotes, rfl⟩)
    · exact ⟨_, (hmem _).2 (.inl ⟨htype, rfl⟩), rfl⟩
    · exact ⟨_, (hmem t').2 (.inr ⟨v, hv, hdenotes⟩), rfl⟩

theorem Emits.mem_objects_iff (h : s.Emits ts) (hr : s.IsRecord id r)
    (hshape : schema.shapes.get? r.shape = some shape) (hf : f ∈ shape.fields)
    (hpath : f.path ≠ Vocabulary.type) {t : Term} :
    t ∈ (Emitted.ofList ts).store.objects (.blank id.node) f.path ↔
      ∃ v t', r.get? f.name = some v ∧ s.DenotesValue v t' ∧ t = t'.normal := by
  rw [h.mem_objects_iff_or_shape hr hshape hf, or_iff_right fun htype => hpath htype.1]

end Session

end BuildingModel
