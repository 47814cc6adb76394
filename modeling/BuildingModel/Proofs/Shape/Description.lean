import BuildingModel.Proofs.Lists
import BuildingModel.Proofs.Shape.Drafts

/-!
# Shapes as constraints describe them

What constraints make of a shape can be said without reading them one after the other. The fields
have the local names of the paths: `value` comes first, then `hasUnit`, then the others in ascending
order. Each field says what is said by the constraints on the first path of its name. No other shape
is described in this way.
-/
namespace BuildingModel

open BuildingModel.Rdf BuildingModel.Ontology

variable {rows kept : List ConstraintRow} {name : String} {names names' : List String} {iri : Iri}

/-! ## The order of names -/

/-- Of the names of a shape's fields `value` comes first, then `hasUnit`, then all others in
strictly ascending order. -/
def InFieldOrder (names : List String) : Prop :=
  ∃ first others, names = first ++ others ∧ first.Sublist ["value", "hasUnit"] ∧
    others.Pairwise (· < ·) ∧ ∀ n ∈ others, n ≠ "value" ∧ n ≠ "hasUnit"

/-- A name comes before another one by its rank, or by its text where the ranks are equal. -/
def NameBefore (a b : String) : Prop :=
  fieldRank a < fieldRank b ∨ fieldRank a = fieldRank b ∧ a < b

theorem fieldRank_of_other {n : String} (h : n ≠ "value" ∧ n ≠ "hasUnit") : fieldRank n = 2 := by
  rw [fieldRank, if_neg h.1, if_neg h.2]

namespace NameBefore

theorem irrefl (a : String) : ¬ NameBefore a a := by
  rintro (h | ⟨-, h⟩)
  · exact absurd h (lt_irrefl _)
  · exact absurd h (String.lt_irrefl a)

theorem trans {a b c : String} (hab : NameBefore a b) (hbc : NameBefore b c) : NameBefore a c := by
  rcases hab with hab | ⟨hab, hlt⟩
  · rcases hbc with hbc | ⟨hbc, -⟩
    · exact .inl (hab.trans hbc)
    · exact .inl (hbc ▸ hab)
  · rcases hbc with hbc | ⟨hbc, hlt'⟩
    · exact .inl (hab ▸ hbc)
    · exact .inr ⟨hab.trans hbc, String.lt_trans hlt hlt'⟩

theorem trichotomy (a b : String) : NameBefore a b ∨ a = b ∨ NameBefore b a := by
  rcases lt_trichotomy (fieldRank a) (fieldRank b) with h | h | h
  · exact .inl (.inl h)
  · rcases Std.lt_trichotomy a b with hab | hab | hba
    · exact .inl (.inr ⟨h, hab⟩)
    · exact .inr (.inl hab)
    · exact .inr (.inr (.inr ⟨h.symm, hba⟩))
  · exact .inr (.inr (.inl h))

theorem asymm {a b : String} (hab : NameBefore a b) (hba : NameBefore b a) : a = b :=
  absurd (hab.trans hba) (irrefl a)

end NameBefore

theorem InFieldOrder.pairwise (h : InFieldOrder names) : names.Pairwise NameBefore := by
  obtain ⟨first, others, rfl, hfirst, hothers, hnames⟩ := h
  have hboth : ["value", "hasUnit"].Pairwise NameBefore := by simp [NameBefore, fieldRank]
  refine List.pairwise_append.2 ⟨hboth.sublist hfirst, ?_, ?_⟩
  · refine hothers.imp_of_mem fun ha hb hlt => .inr ⟨?_, hlt⟩
    rw [fieldRank_of_other (hnames _ ha), fieldRank_of_other (hnames _ hb)]
  · intro a ha b hb
    have hrank : fieldRank a < 2 := by
      rcases List.mem_pair.1 (hfirst.subset ha) with rfl | rfl
      · decide
      · decide
    rw [NameBefore, fieldRank_of_other (hnames b hb)]
    exact .inl hrank

theorem nodup_of_pairwise_nameBefore (h : names.Pairwise NameBefore) : names.Nodup := by
  refine h.imp fun {a b} hab heq => ?_
  rw [heq] at hab
  exact NameBefore.irrefl b hab

/-- Names in order are determined by which names there are. -/
theorem eq_of_pairwise_nameBefore (h : names.Pairwise NameBefore) (h' : names'.Pairwise NameBefore)
    (hmem : ∀ n, n ∈ names ↔ n ∈ names') : names = names' := by
  have hperm : names.Perm names' := (List.perm_ext_iff_of_nodup (nodup_of_pairwise_nameBefore h)
    (nodup_of_pairwise_nameBefore h')).2 hmem
  exact hperm.eq_of_pairwise (fun _ _ _ _ => NameBefore.asymm) h h'

theorem inFieldOrder_of_pairwise (h : names.Pairwise NameBefore) : InFieldOrder names := by
  have hothers : ∀ n ∈ names.filter (fun n => n ≠ "value" ∧ n ≠ "hasUnit"),
      n ≠ "value" ∧ n ≠ "hasUnit" := fun n hn => by simpa using (List.mem_filter.1 hn).2
  have hsorted : InFieldOrder (["value", "hasUnit"].filter (· ∈ names) ++
      names.filter fun n => n ≠ "value" ∧ n ≠ "hasUnit") := by
    refine ⟨_, _, rfl, List.filter_sublist, ?_, hothers⟩
    refine (h.sublist List.filter_sublist).imp_of_mem fun ha hb hab => ?_
    rcases hab with hrank | ⟨-, hlt⟩
    · rw [fieldRank_of_other (hothers _ ha), fieldRank_of_other (hothers _ hb)] at hrank
      exact absurd hrank (lt_irrefl 2)
    · exact hlt
  rw [eq_of_pairwise_nameBefore h hsorted.pairwise]
  · exact hsorted
  · intro n
    simp only [List.mem_append, List.mem_filter, List.mem_pair, decide_eq_true_eq]
    constructor
    · intro hn
      by_cases hfirst : n = "value" ∨ n = "hasUnit"
      · exact .inl ⟨hfirst, hn⟩
      · exact .inr ⟨hn, not_or.1 hfirst⟩
    · rintro (⟨-, hn⟩ | ⟨hn, -⟩)
      · exact hn
      · exact hn

theorem fieldLe_iff {a b : Field} :
    fieldLe a b = true ↔ NameBefore a.name b.name ∨ a.name = b.name := by
  simp only [fieldLe, NameBefore, Bool.or_eq_true, Bool.and_eq_true, decide_eq_true_eq,
    beq_iff_eq]
  constructor
  · rintro (hlt | ⟨hrank, hle⟩)
    · exact .inl (.inl hlt)
    · rcases Std.lt_trichotomy a.name b.name with hab | hab | hba
      · exact .inl (.inr ⟨hrank, hab⟩)
      · exact .inr hab
      · exact absurd hba hle
  · rintro ((hlt | ⟨hrank, hlt⟩) | heq)
    · exact .inl hlt
    · exact .inr ⟨hrank, String.lt_asymm hlt⟩
    · rw [heq]
      exact .inr ⟨rfl, String.lt_irrefl _⟩

/-- The fields of a shape are in order, since no two of them have one name. -/
theorem inFieldOrder_ofRows (iri : Iri) (rows : List ConstraintRow) :
    InFieldOrder ((RecordShape.ofRows iri rows).fields.map Field.name) := by
  have htrans : ∀ a b c : Field, fieldLe a b = true → fieldLe b c = true → fieldLe a c = true := by
    intro a b c hab hbc
    rw [fieldLe_iff] at hab hbc ⊢
    rcases hab with hab | hab
    · rcases hbc with hbc | hbc
      · exact .inl (hab.trans hbc)
      · rw [← hbc]
        exact .inl hab
    · rw [hab]
      exact hbc
  have htotal : ∀ a b : Field, (fieldLe a b || fieldLe b a) = true := by
    intro a b
    rw [Bool.or_eq_true, fieldLe_iff, fieldLe_iff]
    rcases NameBefore.trichotomy a.name b.name with hab | hab | hba
    · exact .inl (.inl hab)
    · exact .inl (.inr hab)
    · exact .inr (.inl hba)
  have hsorted : (RecordShape.ofRows iri rows).fields.Pairwise fun a b => fieldLe a b = true :=
    List.pairwise_mergeSort htrans htotal _
  have hnames := List.pairwise_map.1 (nodup_names_ofRows iri rows)
  refine inFieldOrder_of_pairwise (List.pairwise_map.2 ((hsorted.and hnames).imp ?_))
  intro a b ⟨hle, hne⟩
  exact (fieldLe_iff.1 hle).resolve_right hne

/-! ## What a field says -/

/-- The kind that the constraints on one path describe for a field of some name. The constraints are
in the order in which they are read, and of equal values the first one counts. -/
inductive FieldKind.DescribedBy (name : String) (kept : List ConstraintRow) : FieldKind → Prop
  | unit (hname : name = "hasUnit") :
      DescribedBy name kept
        (.unit (distinct ((kept.filterMap ConstraintRow.value).filterMap Term.iri?)))
  | enumeration (hname : name ≠ "hasUnit") (hvalues : kept.filterMap ConstraintRow.value ≠ []) :
      DescribedBy name kept (.enumeration (distinct (kept.filterMap ConstraintRow.value)))
  | scalar {datatype : Iri} (hname : name ≠ "hasUnit")
      (hvalues : kept.filterMap ConstraintRow.value = [])
      (hdatatype : (kept.filterMap ConstraintRow.datatype).getLast? = some datatype) :
      DescribedBy name kept (.scalar datatype)
  | reference (hname : name ≠ "hasUnit") (hvalues : kept.filterMap ConstraintRow.value = [])
      (hdatatype : kept.filterMap ConstraintRow.datatype = []) :
      DescribedBy name kept (.reference (distinct (kept.filterMap ConstraintRow.allowed)))

/-- A field as constraints describe it: its path is the first one of its name, and only the
constraints on that path count. -/
structure Field.DescribedBy (rows : List ConstraintRow) (f : Field) : Prop where
  path : (rows.map ConstraintRow.path).find? (·.name = f.name) = some f.path
  required : f.required = true ↔
    ∃ r ∈ rows, r.path = f.path ∧ ∃ n, r.minCount = some n ∧ 0 < n
  kind : FieldKind.DescribedBy f.name (rows.filter (·.path = f.path)) f.kind

/-- A shape as constraints describe it: a field in its place for each name of a path. -/
structure RecordShape.DescribedBy (iri : Iri) (rows : List ConstraintRow) (shape : RecordShape) :
    Prop where
  iri : shape.iri = iri
  names : ∀ name, name ∈ shape.fields.map Field.name ↔ ∃ r ∈ rows, r.path.name = name
  order : InFieldOrder (shape.fields.map Field.name)
  fields : ∀ f ∈ shape.fields, f.DescribedBy rows

/-- Values that are told apart by what is made of them stay distinct. -/
theorem filterMap_distinct {α β : Type} [DecidableEq α] [DecidableEq β] {g : α → Option β}
    (hinj : ∀ a a' b, g a = some b → g a' = some b → a = a') (xs : List α) :
    (distinct xs).filterMap g = distinct (xs.filterMap g) := by
  induction xs using List.reverseRecOn with
  | nil => rfl
  | append_singleton xs x ih =>
    rw [distinct_append_singleton, List.filterMap_append]
    cases hx : g x with
    | none =>
      have hsame : (distinct xs).filterMap g = (distinct xs ++ [x]).filterMap g := by simp [hx]
      by_cases hmem : x ∈ xs
      · simp [hmem, hx, ih]
      · simp [hmem, hx, ih]
    | some b =>
      have hmem : b ∈ xs.filterMap g ↔ x ∈ xs := by
        rw [List.mem_filterMap]
        constructor
        · intro ⟨a, ha, hb⟩
          rwa [hinj x a b hx hb]
        · intro hxs
          exact ⟨x, hxs, hx⟩
      by_cases hxs : x ∈ xs
      · simp [hxs, hx, ih, distinct_append_singleton, hmem]
      · simp [hxs, hx, ih, distinct_append_singleton, hmem]

namespace PathDraft

variable {p : Iri}

theorem values_ofRows_eq_nil_iff : (ofRows rows p).values = [] ↔
    (rows.filter (·.path = p)).filterMap ConstraintRow.value = [] := by
  simp only [ofRows, List.eq_nil_iff_forall_not_mem, mem_distinct]

theorem units_ofRows (rows : List ConstraintRow) (p : Iri) :
    (ofRows rows p).values.filterMap Term.iri? = distinct
      (((rows.filter (·.path = p)).filterMap ConstraintRow.value).filterMap Term.iri?) := by
  apply filterMap_distinct
  intro a a' i ha ha'
  rw [Term.iri?_eq_some_iff.1 ha, Term.iri?_eq_some_iff.1 ha']

/-- The kind that a draft makes is the one that the constraints on its path describe. -/
theorem describedBy_kind_iff {k : FieldKind} :
    k.DescribedBy p.name (rows.filter (·.path = p)) ↔ k = (ofRows rows p).kind := by
  have hpath : (ofRows rows p).path.name = p.name := rfl
  constructor
  · intro h
    cases h with
    | unit hname => rw [kind_of_unit (hpath.trans hname), units_ofRows]
    | enumeration hname hvalues =>
      rw [kind_of_values (hpath ▸ hname) (mt values_ofRows_eq_nil_iff.1 hvalues), ofRows]
    | scalar hname hvalues hdatatype =>
      rw [kind_of_datatype (hpath ▸ hname) (values_ofRows_eq_nil_iff.2 hvalues) hdatatype]
    | reference hname hvalues hdatatype =>
      rw [kind_of_classes (hpath ▸ hname) (values_ofRows_eq_nil_iff.2 hvalues)
        (List.getLast?_eq_none_iff.2 hdatatype), ofRows]
  · rintro rfl
    by_cases hname : p.name = "hasUnit"
    · rw [kind_of_unit (hpath.trans hname), units_ofRows]
      exact .unit hname
    · by_cases hvalues : (ofRows rows p).values = []
      · have hnone := values_ofRows_eq_nil_iff.1 hvalues
        cases hdatatype : (ofRows rows p).datatype with
        | some i =>
          rw [kind_of_datatype (hpath ▸ hname) hvalues hdatatype]
          exact .scalar hname hnone hdatatype
        | none =>
          rw [kind_of_classes (hpath ▸ hname) hvalues hdatatype]
          exact .reference hname hnone (List.getLast?_eq_none_iff.1 hdatatype)
      · rw [kind_of_values (hpath ▸ hname) hvalues]
        exact .enumeration hname (mt values_ofRows_eq_nil_iff.2 hvalues)

theorem required_ofRows_iff : (ofRows rows p).required = true ↔
    ∃ r ∈ rows, r.path = p ∧ ∃ n, r.minCount = some n ∧ 0 < n := by
  simp only [ofRows, List.any_eq_true, List.mem_filter, decide_eq_true_eq, Option.any_eq_true,
    and_assoc]

theorem describedBy_field (hp : p ∈ leading (rows.map ConstraintRow.path)) :
    (ofRows rows p).field.DescribedBy rows := by
  have hpath : (ofRows rows p).field.path = p := rfl
  constructor
  · exact mem_leading_iff.1 hp
  · exact required_ofRows_iff
  · rw [Field.name, hpath, kind_field]
    exact describedBy_kind_iff.2 rfl

end PathDraft

theorem describedBy_ofRows (iri : Iri) (rows : List ConstraintRow) :
    (RecordShape.ofRows iri rows).DescribedBy iri rows where
  iri := rfl
  names name := by
    have hleading := any_name_leading_iff (rows.map ConstraintRow.path) name
    simp only [List.any_eq_true, decide_eq_true_eq, List.map_map, List.mem_map,
      Function.comp_apply] at hleading
    rw [← hleading, List.mem_map]
    constructor
    · rintro ⟨f, hf, rfl⟩
      obtain ⟨p, hp, rfl⟩ := mem_fields_ofRows_iff.1 hf
      exact ⟨p, hp, rfl⟩
    · rintro ⟨p, hp, rfl⟩
      exact ⟨_, mem_fields_ofRows_iff.2 ⟨p, hp, rfl⟩, rfl⟩
  order := inFieldOrder_ofRows iri rows
  fields f hf := by
    obtain ⟨p, hp, rfl⟩ := mem_fields_ofRows_iff.1 hf
    exact PathDraft.describedBy_field hp

/-! ## There is one shape of a description -/

theorem Field.DescribedBy.eq_field {f : Field} (h : f.DescribedBy rows) :
    f = (PathDraft.ofRows rows f.path).field := by
  have hrequired : f.required = (PathDraft.ofRows rows f.path).required := by
    rw [Bool.eq_iff_iff, h.required, PathDraft.required_ofRows_iff]
  have hkind : f.kind = (PathDraft.ofRows rows f.path).kind :=
    PathDraft.describedBy_kind_iff.1 h.kind
  cases f with
  | mk path kind required => rw [PathDraft.field, ← hkind, ← hrequired, PathDraft.ofRows]

theorem Field.DescribedBy.unique {f f' : Field} (h : f.DescribedBy rows) (h' : f'.DescribedBy rows)
    (hname : f.name = f'.name) : f = f' := by
  have hpath : f.path = f'.path := by
    have hfirst := h.path
    rw [hname, h'.path] at hfirst
    exact (Option.some.inj hfirst).symm
  rw [h.eq_field, h'.eq_field, hpath]

theorem RecordShape.DescribedBy.unique {shape shape' : RecordShape} (h : shape.DescribedBy iri rows)
    (h' : shape'.DescribedBy iri rows) : shape = shape' := by
  have hnames : shape.fields.map Field.name = shape'.fields.map Field.name :=
    eq_of_pairwise_nameBefore h.order.pairwise h'.order.pairwise fun n =>
      (h.names n).trans (h'.names n).symm
  have hfields : shape.fields = shape'.fields :=
    eq_of_map_eq hnames fun f hf f' hf' => (h.fields f hf).unique (h'.fields f' hf')
  cases shape
  cases shape'
  simp only [RecordShape.mk.injEq]
  exact ⟨h.iri.trans h'.iri.symm, hfields⟩

/-- The shape that constraints make is the one that they describe, and there is no other. There is
exactly one field for each local name of a path, and so neither names nor paths come twice. -/
theorem ofRows_as_described (iri : Iri) (rows : List ConstraintRow) :
    (∀ shape, shape = RecordShape.ofRows iri rows ↔ shape.DescribedBy iri rows) ∧
    (∀ name, (∃! f, f ∈ (RecordShape.ofRows iri rows).fields ∧ f.name = name) ↔
      ∃ r ∈ rows, r.path.name = name) ∧
    ((RecordShape.ofRows iri rows).fields.map Field.name).Nodup ∧
    ((RecordShape.ofRows iri rows).fields.map Field.path).Nodup := by
  have hdescribed := describedBy_ofRows iri rows
  have hnames := nodup_names_ofRows iri rows
  refine ⟨?_, ?_, hnames, ?_⟩
  · intro shape
    constructor
    · rintro rfl
      exact hdescribed
    · intro h
      exact h.unique hdescribed
  · intro name
    rw [← hdescribed.names name, List.mem_map]
    constructor
    · rintro ⟨f, hf, -⟩
      exact ⟨f, hf⟩
    · rintro ⟨f, hf, rfl⟩
      refine ⟨f, ⟨hf, rfl⟩, ?_⟩
      intro f' ⟨hf', hname⟩
      exact List.inj_on_of_nodup_map hnames hf' hf hname
  · have hpaths : (((RecordShape.ofRows iri rows).fields.map Field.path).map Iri.name).Nodup := by
      rw [List.map_map]
      exact hnames
    exact hpaths.of_map

end BuildingModel
