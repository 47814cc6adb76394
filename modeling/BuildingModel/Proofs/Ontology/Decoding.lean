import BuildingModel.Proofs.Ontology.Rows

/-!
# Decoding answers

A row needs some variables of an answer to be bound to terms of a kind, and takes others where they
are bound to terms of the right kind. An answer is decoded if and only if all that is needed is
there. Answers together are decoded if each of them is; otherwise each that is not is reported once,
in order and with its place, for the first of its needs that is not met.
-/
namespace BuildingModel.Ontology

open BuildingModel.Rdf

/-! ## Reading variables -/

namespace Solution

variable {s : Solution} {v : String}

/-- A column has the IRI that a variable is bound to, and nothing for other terms. -/
def IriAt (s : Solution) (v : String) (column : Option Iri) : Prop :=
  ∀ i, column = some i ↔ s.term? v = some (.iri i)

/-- A column has the text of the literal that a variable is bound to, and nothing for other terms.
-/
def TextAt (s : Solution) (v : String) (column : Option String) : Prop :=
  ∀ t, column = some t ↔ ∃ l, s.term? v = some (.literal l) ∧ l.text = t

theorem iriAt_iff {column : Option Iri} : s.IriAt v column ↔ column = s.iri? v := by
  have hread : ∀ i, s.iri? v = some i ↔ s.term? v = some (.iri i) := by
    intro i
    simp [iri?, Option.bind_eq_some_iff, Term.iri?_eq_some_iff]
  simp only [IriAt, ← hread]
  exact Option.ext_iff.symm

theorem textAt_iff {column : Option String} : s.TextAt v column ↔ column = s.text? v := by
  have hread : ∀ t, s.text? v = some t ↔ ∃ l, s.term? v = some (.literal l) ∧ l.text = t := by
    intro t
    cases hv : s.term? v with
    | none => simp [text?, hv]
    | some u => cases u <;> simp [text?, hv, Term.literal?]
  simp only [TextAt, ← hread]
  exact Option.ext_iff.symm

end Solution

/-- A variable that a row needs, with the kind of term it has to be bound to. -/
inductive Need
  | iri (variableName : String)
  | literal (variableName : String)
  deriving DecidableEq

namespace Need

/-- An answer has what is needed. -/
def Met (s : Solution) : Need → Prop
  | .iri v => ∃ i, s.term? v = some (.iri i)
  | .literal v => ∃ l, s.term? v = some (.literal l)

/-- What is reported of an answer that has not what is needed. Where a literal is needed any other
term counts as none. -/
def fault? (s : Solution) : Need → Option BindingError
  | .iri v =>
    match s.term? v with
    | some (.iri _) => none
    | some t => some (.kindMismatch v "IRI" t.kindName)
    | none => some (.unbound v)
  | .literal v =>
    match s.term? v with
    | some (.literal _) => none
    | _ => some (.unbound v)

variable {s : Solution} {v : String}

theorem fault?_eq_none_iff {n : Need} : n.fault? s = none ↔ n.Met s := by
  cases n with
  | iri v =>
    cases hv : s.term? v with
    | none => simp [fault?, Met, hv]
    | some t => cases t <;> simp [fault?, Met, hv]
  | literal v =>
    cases hv : s.term? v with
    | none => simp [fault?, Met, hv]
    | some t => cases t <;> simp [fault?, Met, hv]

end Need

/-- A reading of an answer requires some needs in order: it fails just where one of them is not met,
with the fault of the first such. -/
def Requires {α : Type} (s : Solution) (ns : List Need) (x : Except BindingError α) : Prop :=
  ∀ e, x = .error e ↔ ns.findSome? (Need.fault? s) = some e

section Requires

variable {α : Type} {s : Solution} {v : String} {ns : List Need} {x : Except BindingError α}

theorem requires_ok (s : Solution) (a : α) : Requires s [] (.ok a) := by
  simp [Requires]

/-- A reading that goes on from a first one requires the need of that in front of its own. -/
theorem requires_bind {β : Type} {n : Need} {first : Except BindingError β}
    {f : β → Except BindingError α}
    (hfirst : ∀ e, first = .error e ↔ n.fault? s = some e) (hf : ∀ b, Requires s ns (f b)) :
    Requires s (n :: ns) (first >>= f) := by
  intro e
  cases first with
  | error e' =>
    have hfault : n.fault? s = some e' := (hfirst e').1 rfl
    rw [List.findSome?_cons, hfault]
    constructor
    · intro h
      cases h
      rfl
    · intro h
      cases h
      rfl
  | ok b =>
    have hfault : n.fault? s = none := by
      rw [Option.eq_none_iff_forall_ne_some]
      intro e' he'
      have herror := (hfirst e').2 he'
      cases herror
    rw [List.findSome?_cons, hfault]
    exact hf b e

theorem requires_iri {f : Iri → Except BindingError α} (hf : ∀ i, Requires s ns (f i)) :
    Requires s (.iri v :: ns) (s.iri v >>= f) := by
  refine requires_bind ?_ hf
  intro e
  unfold Solution.iri Solution.term
  cases hv : s.term? v with
  | none => simp [Need.fault?, hv, Except.bind]
  | some t => cases t <;> simp [Need.fault?, hv, Except.bind]

theorem requires_text {f : String → Except BindingError α} (hf : ∀ t, Requires s ns (f t)) :
    Requires s (.literal v :: ns) (s.text v >>= f) := by
  refine requires_bind ?_ hf
  intro e
  unfold Solution.text Solution.text?
  cases hv : s.term? v with
  | none => simp [Need.fault?, hv]
  | some t => cases t <;> simp [Need.fault?, hv, Term.literal?]

/-- A reading succeeds just where all that it requires is there. -/
theorem Requires.exists_ok_iff (h : Requires s ns x) : (∃ a, x = .ok a) ↔ ∀ n ∈ ns, n.Met s := by
  have hnone : ns.findSome? (Need.fault? s) = none ↔ ∀ n ∈ ns, n.Met s := by
    simp only [List.findSome?_eq_none_iff, Need.fault?_eq_none_iff]
  rw [← hnone]
  cases hx : x with
  | ok a =>
    have hfault : ns.findSome? (Need.fault? s) = none := by
      rw [Option.eq_none_iff_forall_ne_some]
      intro e he
      have herror := hx.symm.trans ((h e).2 he)
      cases herror
    simp [hfault]
  | error e =>
    have hfault : ns.findSome? (Need.fault? s) = some e := (h e).1 hx
    simp [hfault]

end Requires

/-! ## Rows -/

/-- The row of an answer to the question for subclasses. -/
structure SubclassRow.ReadFrom (s : Solution) (r : SubclassRow) : Prop where
  iri : s.term? "class" = some (.iri r.iri)
  label : s.TextAt "label" r.label
  definition : s.TextAt "defn" r.definition

/-- The row of an answer to the question for properties. -/
structure RelationshipRow.ReadFrom (s : Solution) (r : RelationshipRow) : Prop where
  property : s.term? "prop" = some (.iri r.property)
  domain : s.IriAt "dom" r.domain
  range : s.IriAt "rng" r.range

/-- The row of an answer to the question what shapes say of relations. -/
structure ShapeRelationRow.ReadFrom (s : Solution) (r : ShapeRelationRow) : Prop where
  path : s.term? "path" = some (.iri r.path)
  targetClass : s.term? "cls" = some (.iri r.targetClass)
  allowed : s.term? "allowed" = some (.iri r.allowed)

structure UnitRow.ReadFrom (s : Solution) (r : UnitRow) : Prop where
  iri : s.term? "unit" = some (.iri r.iri)
  label : ∃ l, s.term? "label" = some (.literal l) ∧ l.text = r.label
  symbol : s.TextAt "symbol" r.symbol
  expression : s.TextAt "expr" r.expression
  description : s.TextAt "defn" r.description

section Rows

variable {s : Solution}

theorem SubclassRow.decode_eq_ok_iff {r : SubclassRow} : decode s = .ok r ↔ r.ReadFrom s := by
  constructor
  · intro h
    obtain ⟨i, hi, h⟩ := bind_eq_ok h
    cases h
    exact ⟨Solution.iri_eq_ok_iff.1 hi, Solution.textAt_iff.2 rfl, Solution.textAt_iff.2 rfl⟩
  · intro h
    have hiri := Solution.iri_eq_ok_iff.2 h.iri
    have hlabel := Solution.textAt_iff.1 h.label
    have hdefinition := Solution.textAt_iff.1 h.definition
    rw [decode, hiri, ← hlabel, ← hdefinition]
    rfl

theorem RelationshipRow.decode_eq_ok_iff {r : RelationshipRow} :
    decode s = .ok r ↔ r.ReadFrom s := by
  constructor
  · intro h
    obtain ⟨i, hi, h⟩ := bind_eq_ok h
    cases h
    exact ⟨Solution.iri_eq_ok_iff.1 hi, Solution.iriAt_iff.2 rfl, Solution.iriAt_iff.2 rfl⟩
  · intro h
    have hproperty := Solution.iri_eq_ok_iff.2 h.property
    have hdomain := Solution.iriAt_iff.1 h.domain
    have hrange := Solution.iriAt_iff.1 h.range
    rw [decode, hproperty, ← hdomain, ← hrange]
    rfl

theorem ShapeRelationRow.decode_eq_ok_iff {r : ShapeRelationRow} :
    decode s = .ok r ↔ r.ReadFrom s := by
  constructor
  · intro h
    obtain ⟨path, hpath, h⟩ := bind_eq_ok h
    obtain ⟨target, htarget, h⟩ := bind_eq_ok h
    obtain ⟨allowed, hallowed, h⟩ := bind_eq_ok h
    cases h
    exact ⟨Solution.iri_eq_ok_iff.1 hpath, Solution.iri_eq_ok_iff.1 htarget,
      Solution.iri_eq_ok_iff.1 hallowed⟩
  · intro h
    have hpath := Solution.iri_eq_ok_iff.2 h.path
    have htarget := Solution.iri_eq_ok_iff.2 h.targetClass
    have hallowed := Solution.iri_eq_ok_iff.2 h.allowed
    rw [decode, hpath, htarget, hallowed]
    rfl

theorem UnitRow.decode_eq_ok_iff {r : UnitRow} : decode s = .ok r ↔ r.ReadFrom s := by
  constructor
  · intro h
    obtain ⟨label, hlabel, h⟩ := bind_eq_ok h
    obtain ⟨i, hi, h⟩ := bind_eq_ok h
    cases h
    exact ⟨Solution.iri_eq_ok_iff.1 hi, Solution.text_eq_ok_iff.1 hlabel,
      Solution.textAt_iff.2 rfl, Solution.textAt_iff.2 rfl, Solution.textAt_iff.2 rfl⟩
  · intro h
    have hlabel := Solution.text_eq_ok_iff.2 h.label
    have hiri := Solution.iri_eq_ok_iff.2 h.iri
    have hsymbol := Solution.textAt_iff.1 h.symbol
    have hexpression := Solution.textAt_iff.1 h.expression
    have hdescription := Solution.textAt_iff.1 h.description
    rw [decode, hlabel, hiri, ← hsymbol, ← hexpression, ← hdescription]
    rfl

end Rows

/-! ## Kinds of rows -/

/-- The questions whose answers are decoded into rows. -/
inductive RowKind
  | subclass
  | relationship
  | shapeRelation
  | unit

namespace RowKind

def Row : RowKind → Type
  | .subclass => SubclassRow
  | .relationship => RelationshipRow
  | .shapeRelation => ShapeRelationRow
  | .unit => UnitRow

def decode : (k : RowKind) → Solution → Except BindingError k.Row
  | .subclass => SubclassRow.decode
  | .relationship => RelationshipRow.decode
  | .shapeRelation => ShapeRelationRow.decode
  | .unit => UnitRow.decode

/-- What a row of a kind needs, in the order in which it is asked for. -/
def needs : RowKind → List Need
  | .subclass => [.iri "class"]
  | .relationship => [.iri "prop"]
  | .shapeRelation => [.iri "path", .iri "cls", .iri "allowed"]
  | .unit => [.literal "label", .iri "unit"]

/-- A row of a kind is the one of an answer. -/
def ReadFrom : (k : RowKind) → Solution → k.Row → Prop
  | .subclass => SubclassRow.ReadFrom
  | .relationship => RelationshipRow.ReadFrom
  | .shapeRelation => ShapeRelationRow.ReadFrom
  | .unit => UnitRow.ReadFrom

variable {k : RowKind} {s : Solution}

/-- A row of a kind can be decoded just where it is the one of the answer. -/
theorem decode_eq_ok_iff {r : k.Row} : k.decode s = .ok r ↔ k.ReadFrom s r := by
  cases k with
  | subclass => exact SubclassRow.decode_eq_ok_iff
  | relationship => exact RelationshipRow.decode_eq_ok_iff
  | shapeRelation => exact ShapeRelationRow.decode_eq_ok_iff
  | unit => exact UnitRow.decode_eq_ok_iff

/-- Decoding an answer requires what a row of the kind needs. -/
theorem requires_decode (k : RowKind) (s : Solution) : Requires s k.needs (k.decode s) := by
  cases k with
  | subclass => exact requires_iri fun _ => requires_ok s _
  | relationship => exact requires_iri fun _ => requires_ok s _
  | shapeRelation =>
    exact requires_iri fun _ => requires_iri fun _ => requires_iri fun _ => requires_ok s _
  | unit => exact requires_text fun _ => requires_iri fun _ => requires_ok s _

end RowKind

/-! ## All answers -/

section Answers

variable {α : Type} {decode : Solution → Except BindingError α} {answers : List Solution}
  {faults : List RowFault}

/-- An answer's fault in its place, if it cannot be decoded. -/
def faultAt? (decode : Solution → Except BindingError α) (x : Solution × ℕ) : Option RowFault :=
  match decode x.1 with
  | .ok _ => none
  | .error e => some ⟨x.2, e⟩

theorem faultAt?_eq_some_iff {x : Solution × ℕ} {f : RowFault} :
    faultAt? decode x = some f ↔ decode x.1 = .error f.error ∧ x.2 = f.row := by
  cases hx : decode x.1 with
  | ok r => simp [faultAt?, hx]
  | error e =>
    obtain ⟨row, error⟩ := f
    simp [faultAt?, hx, and_comm]

theorem rowFaults_eq_filterMap (first : ℕ) (answers : List Solution) :
    rowFaults decode first answers = (answers.zipIdx first).filterMap (faultAt? decode) := by
  induction answers generalizing first with
  | nil => rfl
  | cons s ss ih =>
    cases hs : decode s with
    | ok r => simp [rowFaults, hs, ih, List.zipIdx_cons, faultAt?]
    | error e => simp [rowFaults, hs, ih, List.zipIdx_cons, faultAt?]

/-- What is reported are the answers that cannot be decoded, each in its place. -/
theorem mem_rowFaults_iff {f : RowFault} : f ∈ rowFaults decode 0 answers ↔
    ∃ s, answers[f.row]? = some s ∧ decode s = .error f.error := by
  rw [rowFaults_eq_filterMap, List.mem_filterMap]
  constructor
  · intro ⟨x, hx, hf⟩
    obtain ⟨hdecode, hrow⟩ := faultAt?_eq_some_iff.1 hf
    exact ⟨x.1, hrow ▸ List.mem_zipIdx_iff_getElem?.1 hx, hdecode⟩
  · intro ⟨s, hs, hdecode⟩
    exact ⟨(s, f.row), List.mem_zipIdx_iff_getElem?.2 hs, faultAt?_eq_some_iff.2 ⟨hdecode, rfl⟩⟩

/-- Places that are reported increase. -/
theorem pairwise_rowFaults (answers : List Solution) :
    (rowFaults decode 0 answers).Pairwise fun f g => f.row < g.row := by
  have hplaces : answers.zipIdx.Pairwise fun x y => x.2 < y.2 := by
    have hrange : (List.range' 0 answers.length).Pairwise (· < ·) := List.pairwise_lt_range'
    rw [← List.zipIdx_map_snd 0 answers] at hrange
    exact List.pairwise_map.1 hrange
  rw [rowFaults_eq_filterMap]
  refine hplaces.filterMap _ ?_
  intro x y hxy f hf g hg
  have hfrow := (faultAt?_eq_some_iff.1 hf).2
  have hgrow := (faultAt?_eq_some_iff.1 hg).2
  omega

theorem decodeAll_eq_error : decodeAll decode answers = .error faults ↔
    faults ≠ [] ∧ faults = rowFaults decode 0 answers := by
  unfold decodeAll
  cases hfaults : rowFaults decode 0 answers with
  | nil => simp
  | cons f fs =>
    constructor
    · intro h
      cases h
      simp
    · intro ⟨_, h⟩
      rw [h]

/-- Faults in the order of their places are determined by which faults there are. -/
theorem eq_of_pairwise_row {faults' : List RowFault} (h : faults.Pairwise fun f g => f.row < g.row)
    (h' : faults'.Pairwise fun f g => f.row < g.row) (hmem : ∀ f, f ∈ faults ↔ f ∈ faults') :
    faults = faults' := by
  have hnodup : ∀ {fs : List RowFault}, (fs.Pairwise fun f g => f.row < g.row) → fs.Nodup := by
    intro fs hfs
    refine hfs.imp ?_
    intro f g hfg heq
    rw [heq] at hfg
    exact lt_irrefl _ hfg
  have hperm : faults.Perm faults' := (List.perm_ext_iff_of_nodup (hnodup h) (hnodup h')).2 hmem
  refine hperm.eq_of_pairwise ?_ h h'
  intro f g _ _ hfg hgf
  omega

/-- Decoding fails with the faults of all answers that cannot be decoded, in order and once each. -/
theorem decodeAll_eq_error_iff : decodeAll decode answers = .error faults ↔
    faults ≠ [] ∧ (faults.Pairwise fun f g => f.row < g.row) ∧
      ∀ f, f ∈ faults ↔ ∃ s, answers[f.row]? = some s ∧ decode s = .error f.error := by
  rw [decodeAll_eq_error]
  constructor
  · intro ⟨hne, heq⟩
    rw [heq] at hne ⊢
    exact ⟨hne, pairwise_rowFaults answers, fun f => mem_rowFaults_iff⟩
  · intro ⟨hne, hsorted, hmem⟩
    refine ⟨hne, eq_of_pairwise_row hsorted (pairwise_rowFaults answers) ?_⟩
    intro f
    rw [hmem, mem_rowFaults_iff]

end Answers

/-! ## Answers to a question -/

namespace RowKind

variable {k : RowKind} {answers : List Solution} {faults : List RowFault}

theorem exists_decodeAll_iff_met : (∃ rows, decodeAll k.decode answers = .ok rows) ↔
    ∀ s ∈ answers, ∀ n ∈ k.needs, n.Met s := by
  rw [exists_decodeAll_iff]
  constructor
  · intro h s hs
    exact (k.requires_decode s).exists_ok_iff.1 (h s hs)
  · intro h s hs
    exact (k.requires_decode s).exists_ok_iff.2 (h s hs)

theorem decodeAll_eq_ok_iff_readFrom {rows : List k.Row} :
    decodeAll k.decode answers = .ok rows ↔ List.Forall₂ k.ReadFrom answers rows := by
  simp only [decodeAll_eq_ok_iff, decode_eq_ok_iff]

/-- An answer lacks some of what is needed just where it has a first fault. -/
theorem exists_first_fault_iff {s : Solution} :
    (∃ e, k.needs.findSome? (Need.fault? s) = some e) ↔ ∃ n ∈ k.needs, ¬ n.Met s := by
  rw [← Option.isSome_iff_exists, List.findSome?_isSome_iff]
  simp only [Option.isSome_iff_ne_none, ne_eq, Need.fault?_eq_none_iff]

/-- Faults account for answers if they are in the places of those that lack what is needed, and each
is the first of its answer. -/
theorem mem_faults_iff : (∀ f, f ∈ faults ↔
      ∃ s, answers[f.row]? = some s ∧ k.needs.findSome? (Need.fault? s) = some f.error) ↔
    (∀ i, (∃ f ∈ faults, f.row = i) ↔
        ∃ s, answers[i]? = some s ∧ ∃ n ∈ k.needs, ¬ n.Met s) ∧
      ∀ f ∈ faults, ∃ s, answers[f.row]? = some s ∧
        k.needs.findSome? (Need.fault? s) = some f.error := by
  constructor
  · intro h
    refine ⟨?_, fun f hf => (h f).1 hf⟩
    intro i
    constructor
    · intro ⟨f, hf, hrow⟩
      obtain ⟨s, hs, hfault⟩ := (h f).1 hf
      exact ⟨s, hrow ▸ hs, exists_first_fault_iff.1 ⟨f.error, hfault⟩⟩
    · intro ⟨s, hs, hunmet⟩
      obtain ⟨e, he⟩ := exists_first_fault_iff.2 hunmet
      exact ⟨⟨i, e⟩, (h ⟨i, e⟩).2 ⟨s, hs, he⟩, rfl⟩
  · intro ⟨hrows, hfaults⟩ f
    refine ⟨hfaults f, ?_⟩
    intro ⟨s, hs, hfault⟩
    obtain ⟨g, hg, hrow⟩ := (hrows f.row).2 ⟨s, hs, exists_first_fault_iff.1 ⟨f.error, hfault⟩⟩
    obtain ⟨t, ht, hfault'⟩ := hfaults g hg
    have hst : s = t := by
      rw [hrow, hs] at ht
      exact Option.some.inj ht
    have herror : g.error = f.error := by
      rw [hst, hfault'] at hfault
      exact Option.some.inj hfault
    have hgf : g = f := congrArg₂ RowFault.mk hrow herror
    rwa [← hgf]

end RowKind

/-- Answers to a question are decoded if and only if each has what a row needs, and then into the
row of each; otherwise just those that have not are reported, once each, in order and with their
places, for the first need that is not met. -/
theorem decodeAll_whole_or_reported (k : RowKind) (answers : List Solution) :
    ((∃ rows, decodeAll k.decode answers = .ok rows) ↔
        ∀ s ∈ answers, ∀ n ∈ k.needs, n.Met s) ∧
      (∀ rows, decodeAll k.decode answers = .ok rows ↔
        List.Forall₂ k.ReadFrom answers rows) ∧
      ∀ faults, decodeAll k.decode answers = .error faults ↔
        faults ≠ [] ∧ (faults.Pairwise fun f g => f.row < g.row) ∧
          (∀ i, (∃ f ∈ faults, f.row = i) ↔
            ∃ s, answers[i]? = some s ∧ ∃ n ∈ k.needs, ¬ n.Met s) ∧
          ∀ f ∈ faults, ∃ s, answers[f.row]? = some s ∧
            k.needs.findSome? (Need.fault? s) = some f.error := by
  refine ⟨RowKind.exists_decodeAll_iff_met, fun _ => RowKind.decodeAll_eq_ok_iff_readFrom, ?_⟩
  intro faults
  simp only [decodeAll_eq_error_iff, k.requires_decode _ _, RowKind.mem_faults_iff]

example : decodeAll UnitRow.decode
    [⟨[("unit", .blank ⟨"b"⟩)]⟩, ⟨[("unit", .iri ⟨"ex:V"⟩), ("label", .literal (.plain "volt"))]⟩,
      ⟨[("unit", .blank ⟨"b"⟩), ("label", .literal (.plain "ampere"))]⟩] =
    .error [⟨0, .unbound "label"⟩, ⟨2, .kindMismatch "unit" "IRI" "BlankNode"⟩] := by
  decide

end BuildingModel.Ontology
