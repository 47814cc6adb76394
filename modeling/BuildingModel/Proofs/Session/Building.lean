import BuildingModel.Proofs.Lists
import BuildingModel.Proofs.Session.History

/-!
# Records by their last inputs

A field may be set several times and in any order. What counts for a record is the last input of
each field: it decides whether the record is built and which values it holds. The fields are looked
at in the order of the shape, so it also decides which of them is complained of.
-/
namespace BuildingModel

open BuildingModel.Rdf

/-! ## The last inputs -/

def lastInput? (sets : List FieldSetting) (name : String) : Option FieldInput :=
  (sets.filter (·.name = name)).getLast?.map FieldSetting.input

variable {sets sets' : List FieldSetting} {name : String}

theorem lastInput?_append_singleton (sets : List FieldSetting) (x : FieldSetting) (name : String) :
    lastInput? (sets ++ [x]) name =
      if name = x.name then some x.input else lastInput? sets name := by
  by_cases h : name = x.name
  · simp [lastInput?, List.filter_append, h]
  · simp [lastInput?, List.filter_append, h, Ne.symm h]

theorem lastInput?_eq_none_iff : lastInput? sets name = none ↔ ∀ x ∈ sets, x.name ≠ name := by
  simp [lastInput?]

theorem find?_setField (settings : List FieldSetting) (x : FieldSetting) (name : String) :
    (setField settings x.name x.input).find? (·.name = name) =
      if name = x.name then some x else settings.find? (·.name = name) := by
  unfold setField
  by_cases hany : settings.any (·.name = x.name) = true
  · rw [if_pos hany]
    have hname : (fun y : FieldSetting => decide (y.name = name)) ∘
        (fun y => if y.name = x.name then ⟨x.name, x.input⟩ else y) =
        fun y => decide (y.name = name) := by
      funext y
      by_cases hy : y.name = x.name
      · simp [hy]
      · simp [hy]
    rw [List.find?_map, hname]
    cases hfound : settings.find? (·.name = name) with
    | none =>
      have hne : name ≠ x.name := by
        rintro rfl
        obtain ⟨y, hy, hyx⟩ := List.any_eq_true.1 hany
        exact List.find?_eq_none.1 hfound y hy hyx
      simp [hne]
    | some y =>
      have hy : y.name = name := by simpa using List.find?_some hfound
      by_cases h : name = x.name
      · simp [hy, h]
      · simp [hy, h]
  · rw [if_neg hany, List.find?_append]
    by_cases h : name = x.name
    · have hnone : settings.find? (·.name = x.name) = none := by simpa using hany
      simp [h, hnone]
    · simp [h, Ne.symm h]

/-- The inputs are kept in the order in which fields were first set, but each is the last one. -/
theorem find?_settingsOf (sets : List FieldSetting) (name : String) :
    (settingsOf sets).find? (·.name = name) =
      (lastInput? sets name).map (FieldSetting.mk name) := by
  induction sets using List.reverseRecOn with
  | nil => rfl
  | append_singleton sets x ih =>
    have hset : settingsOf (sets ++ [x]) = setField (settingsOf sets) x.name x.input := by
      simp [settingsOf]
    rw [hset, find?_setField, lastInput?_append_singleton, ih]
    by_cases h : name = x.name
    · simp [h]
    · simp [h]

/-- The fields that are set are those for which there is an input. -/
theorem exists_mem_settingsOf_iff :
    (∃ x ∈ settingsOf sets, x.name = name) ↔ ∃ x ∈ sets, x.name = name := by
  have hkept : (settingsOf sets).find? (·.name = name) = none ↔ lastInput? sets name = none := by
    rw [find?_settingsOf, Option.map_eq_none_iff]
  rw [lastInput?_eq_none_iff, List.find?_eq_none] at hkept
  simpa using not_congr hkept

namespace Session

variable {schema : Schema} {s : Session schema} {shape : RecordShape} {shapeName : String}
  {inputs : String → Option FieldInput} {f : Field}

/-! ## One field -/

/-- The entry that a field gets from the inputs. -/
inductive Entered (s : Session schema) (shape : String) (inputs : String → Option FieldInput)
    (f : Field) : FieldEntry → Prop
  | set {input : FieldInput} {v : FieldValue} (hinput : inputs f.name = some input)
      (hvalue : s.fieldValue shape f input = .ok v) : Entered s shape inputs f ⟨f.name, some v⟩
  | unset (hinput : inputs f.name = none) (hrequired : f.required = false) :
      Entered s shape inputs f ⟨f.name, none⟩

/-- A field is complained of: it is required and was not set, or its input is rejected. -/
inductive Refused (s : Session schema) (shape : String) (inputs : String → Option FieldInput)
    (f : Field) : ModelError → Prop
  | missing (hinput : inputs f.name = none) (hrequired : f.required = true) :
      Refused s shape inputs f (.shapeViolation (.missingField shape f.name))
  | rejected {input : FieldInput} {e : ModelError} (hinput : inputs f.name = some input)
      (hvalue : s.fieldValue shape f input = .error e) : Refused s shape inputs f e

theorem fieldEntry_eq_ok_iff {x : FieldEntry} :
    s.fieldEntry shapeName (settingsOf sets) f = .ok x ↔
      s.Entered shapeName (lastInput? sets) f x := by
  unfold fieldEntry
  rw [find?_settingsOf]
  constructor
  · intro h
    cases hinput : lastInput? sets f.name with
    | none =>
      rw [hinput] at h
      simp only [Option.map_none] at h
      by_cases hrequired : f.required = true
      · rw [if_pos hrequired] at h
        cases h
      · rw [if_neg hrequired] at h
        cases h
        exact .unset hinput (Bool.eq_false_iff.2 hrequired)
    | some input =>
      rw [hinput] at h
      obtain ⟨v, hv, h⟩ := bind_eq_ok h
      cases h
      exact .set hinput hv
  · intro h
    cases h with
    | set hinput hvalue =>
      rw [hinput]
      simp only [Option.map_some, hvalue]
      rfl
    | unset hinput hrequired =>
      rw [hinput]
      simp only [Option.map_none, hrequired]
      rfl

theorem fieldEntry_eq_error_iff {e : ModelError} :
    s.fieldEntry shapeName (settingsOf sets) f = .error e ↔
      s.Refused shapeName (lastInput? sets) f e := by
  unfold fieldEntry
  rw [find?_settingsOf]
  constructor
  · intro h
    cases hinput : lastInput? sets f.name with
    | none =>
      rw [hinput] at h
      simp only [Option.map_none] at h
      by_cases hrequired : f.required = true
      · rw [if_pos hrequired] at h
        cases h
        exact .missing hinput hrequired
      · rw [if_neg hrequired] at h
        cases h
    | some input =>
      rw [hinput] at h
      simp only [Option.map_some] at h
      cases hvalue : s.fieldValue shapeName f input with
      | error e' =>
        rw [hvalue] at h
        cases h
        exact .rejected hinput hvalue
      | ok v =>
        rw [hvalue] at h
        cases h
  · intro h
    cases h with
    | missing hinput hrequired =>
      rw [hinput]
      simp only [Option.map_none, hrequired, if_true]
    | rejected hinput hvalue =>
      rw [hinput]
      simp only [Option.map_some, hvalue]
      rfl

theorem Entered.unique {x x' : FieldEntry} (h : s.Entered shapeName (lastInput? sets) f x)
    (h' : s.Entered shapeName (lastInput? sets) f x') : x = x' :=
  Except.ok.inj ((fieldEntry_eq_ok_iff.2 h).symm.trans (fieldEntry_eq_ok_iff.2 h'))

theorem Refused.unique {e e' : ModelError} (h : s.Refused shapeName (lastInput? sets) f e)
    (h' : s.Refused shapeName (lastInput? sets) f e') : e = e' :=
  Except.error.inj ((fieldEntry_eq_error_iff.2 h).symm.trans (fieldEntry_eq_error_iff.2 h'))

theorem Entered.not_refused {x : FieldEntry} {e : ModelError}
    (h : s.Entered shapeName (lastInput? sets) f x) :
    ¬ s.Refused shapeName (lastInput? sets) f e := by
  intro he
  have hboth := (fieldEntry_eq_ok_iff.2 h).symm.trans (fieldEntry_eq_error_iff.2 he)
  cases hboth

/-! ## All fields -/

/-- The complaint about the first field of a list that there is one about. -/
inductive FirstRefused (s : Session schema) (shape : String) (inputs : String → Option FieldInput) :
    List Field → ModelError → Prop
  | here {f : Field} {fs : List Field} {e : ModelError} (hf : s.Refused shape inputs f e) :
      FirstRefused s shape inputs (f :: fs) e
  | later {f : Field} {fs : List Field} {e : ModelError} (hf : ∀ e', ¬ s.Refused shape inputs f e')
      (hfs : FirstRefused s shape inputs fs e) : FirstRefused s shape inputs (f :: fs) e

theorem FirstRefused.unique {fs : List Field} {e e' : ModelError}
    (h : s.FirstRefused shapeName (lastInput? sets) fs e)
    (h' : s.FirstRefused shapeName (lastInput? sets) fs e') : e = e' := by
  induction h with
  | here hf =>
    cases h' with
    | here hf' => exact hf.unique hf'
    | later hno => exact absurd hf (hno _)
  | later hno _ ih =>
    cases h' with
    | here hf' => exact absurd hf' (hno _)
    | later _ hfs' => exact ih hfs'

theorem FirstRefused.exists_refused {fs : List Field} {e : ModelError}
    (h : s.FirstRefused shapeName inputs fs e) : ∃ f ∈ fs, s.Refused shapeName inputs f e := by
  induction h with
  | here hf => exact ⟨_, List.mem_cons_self, hf⟩
  | later _ _ ih =>
    obtain ⟨f, hf, hrefused⟩ := ih
    exact ⟨f, List.mem_cons_of_mem _ hf, hrefused⟩

/-- The fields are entered in order until one is complained of. -/
theorem fieldEntries_cases (s : Session schema) (shape : String) (sets : List FieldSetting)
    (fs : List Field) :
    (∃ xs, s.fieldEntries shape (settingsOf sets) fs = .ok xs ∧
        List.Forall₂ (s.Entered shape (lastInput? sets)) fs xs) ∨
      ∃ e, s.fieldEntries shape (settingsOf sets) fs = .error e ∧
        s.FirstRefused shape (lastInput? sets) fs e := by
  induction fs with
  | nil => exact .inl ⟨[], rfl, .nil⟩
  | cons f fs ih =>
    rw [fieldEntries]
    cases hentry : s.fieldEntry shape (settingsOf sets) f with
    | ok x =>
      have hentered := fieldEntry_eq_ok_iff.1 hentry
      rcases ih with ⟨xs, hxs, hall⟩ | ⟨e, he, hfirst⟩
      · rw [hxs]
        exact .inl ⟨x :: xs, rfl, .cons hentered hall⟩
      · rw [he]
        exact .inr ⟨e, rfl, .later (fun _ => hentered.not_refused) hfirst⟩
    | error e => exact .inr ⟨e, rfl, .here (fieldEntry_eq_error_iff.1 hentry)⟩

/-! ## Requests -/

/-- How a request for a record of a known shape ends. -/
inductive BuildOutcome (s : Session schema) (shapeName : String) (id : ShapeId)
    (shape : RecordShape) (sets : List FieldSetting) : Prop
  | unknown {x : FieldSetting} (hx : x ∈ sets) (hfield : shape.field? x.name = none)
      (hanswer : s.answer (.build shapeName sets) =
        .error (.shapeViolation (.unknownField shape.name x.name)))
  | refused {e : ModelError} (hknown : ∀ x ∈ sets, (shape.field? x.name).isSome)
      (hfirst : s.FirstRefused shape.name (lastInput? sets) shape.fields e)
      (hanswer : s.answer (.build shapeName sets) = .error e)
  | built {entries : List FieldEntry} (hknown : ∀ x ∈ sets, (shape.field? x.name).isSome)
      (hentries : List.Forall₂ (s.Entered shape.name (lastInput? sets)) shape.fields entries)
      (hanswer : s.answer (.build shapeName sets) = .ok (.record s.nextRecord))
      (hstep : s.step (.build shapeName sets) = s.addRecord ⟨id, entries⟩)

theorem buildOutcome {id : ShapeId} (hname : schema.shapes.byName shapeName = some id)
    (hshape : schema.shapes.get? id = some shape) (sets : List FieldSetting) :
    s.BuildOutcome shapeName id shape sets := by
  have hoperation : (Request.build shapeName sets).operation s =
      (Reply.record <$> Operation.build shapeName (settingsOf sets)) s := rfl
  rw [Operation.map_apply] at hoperation
  unfold Operation.build at hoperation
  simp only [hname, hshape, Option.bind_some, Option.map_some] at hoperation
  cases hunknown : (settingsOf sets).find? fun x => (shape.field? x.name).isNone with
  | some x =>
    rw [hunknown] at hoperation
    obtain ⟨y, hy, hyx⟩ := exists_mem_settingsOf_iff.1 ⟨x, List.mem_of_find?_eq_some hunknown, rfl⟩
    have hfield : shape.field? y.name = none := by
      rw [hyx]
      simpa using List.find?_some hunknown
    refine .unknown hy hfield ?_
    rw [hyx]
    exact congrArg Prod.fst hoperation
  | none =>
    rw [hunknown] at hoperation
    simp only [Operation.bind_apply, Operation.reading_apply] at hoperation
    have hknown : ∀ x ∈ sets, (shape.field? x.name).isSome := by
      intro x hx
      obtain ⟨y, hy, hyx⟩ := exists_mem_settingsOf_iff.2 ⟨x, hx, rfl⟩
      rw [← hyx, Option.isSome_iff_ne_none]
      simpa using List.find?_eq_none.1 hunknown y hy
    rcases s.fieldEntries_cases shape.name sets shape.fields with ⟨xs, hxs, hall⟩ | ⟨e, he, hfirst⟩
    · rw [hxs] at hoperation
      exact .built hknown hall (congrArg Prod.fst hoperation) (congrArg Prod.snd hoperation)
    · rw [he] at hoperation
      exact .refused hknown hfirst (congrArg Prod.fst hoperation)

/-- A member of an enumeration stands for itself where an input matches nothing else. -/
theorem fieldValue_of_member {members : List Term} {input : FieldInput} {t : Term}
    (hkind : f.kind = .enumeration members) (hmatch : ∀ x, memberMatches x input = decide (x = t))
    (ht : t ∈ members) : s.fieldValue shapeName f input = .ok (.term t) := by
  have hfound : members.find? (memberMatches · input) = some t := by
    simp only [hmatch]
    exact (find?_eq_some_iff_of_inj (f := id) fun _ _ _ _ heq => heq).2 ⟨ht, rfl⟩
  simp only [fieldValue, hkind, hfound]

theorem isSome_field?_iff : (shape.field? name).isSome ↔ ∃ f ∈ shape.fields, f.name = name := by
  simp [RecordShape.field?]

theorem not_refused_iff : (∀ e, ¬ s.Refused shapeName inputs f e) ↔
    (f.required = true → inputs f.name ≠ none) ∧
      ∀ input, inputs f.name = some input → ∃ v, s.fieldValue shapeName f input = .ok v := by
  constructor
  · intro h
    refine ⟨fun hrequired hinput => h _ (.missing hinput hrequired), ?_⟩
    intro input hinput
    cases hvalue : s.fieldValue shapeName f input with
    | error e => exact absurd (.rejected hinput hvalue) (h e)
    | ok v => exact ⟨v, rfl⟩
  · intro ⟨hset, hresolves⟩ e he
    cases he with
    | missing hinput hrequired => exact hset hrequired hinput
    | rejected hinput hvalue =>
      obtain ⟨v, hv⟩ := hresolves _ hinput
      rw [hvalue] at hv
      cases hv

section Known

variable {id : ShapeId} (hname : schema.shapes.byName shapeName = some id)
  (hshape : schema.shapes.get? id = some shape)

include hname hshape

theorem exists_answer_build_iff : (∃ reply, s.answer (.build shapeName sets) = .ok reply) ↔
    (∀ x ∈ sets, (shape.field? x.name).isSome) ∧
      ∀ f ∈ shape.fields, ∀ e, ¬ s.Refused shape.name (lastInput? sets) f e := by
  cases buildOutcome (s := s) hname hshape sets with
  | unknown hx hfield hanswer =>
    have hno : ¬ ∀ x ∈ sets, (shape.field? x.name).isSome := by
      intro hknown
      have hsome := hknown _ hx
      rw [hfield] at hsome
      cases hsome
    simp [hanswer, hno]
  | refused hknown hfirst hanswer =>
    obtain ⟨f, hf, hrefused⟩ := hfirst.exists_refused
    have hno : ¬ ∀ f ∈ shape.fields, ∀ e, ¬ s.Refused shape.name (lastInput? sets) f e :=
      fun hnone => hnone f hf _ hrefused
    simp [hanswer, hno]
  | built hknown hentries hanswer hstep =>
    refine iff_of_true ⟨_, hanswer⟩ ⟨hknown, ?_⟩
    intro f hf e
    obtain ⟨x, -, hentered⟩ := exists_of_mem_left hentries hf
    exact hentered.not_refused

theorem answer_build_eq_error_iff (hknown : ∀ x ∈ sets, (shape.field? x.name).isSome)
    {e : ModelError} : s.answer (.build shapeName sets) = .error e ↔
      s.FirstRefused shape.name (lastInput? sets) shape.fields e := by
  cases buildOutcome (s := s) hname hshape sets with
  | unknown hx hfield hanswer =>
    have hsome := hknown _ hx
    rw [hfield] at hsome
    cases hsome
  | refused _ hfirst hanswer =>
    rw [hanswer, Except.error.injEq]
    constructor
    · rintro rfl
      exact hfirst
    · exact hfirst.unique
  | built _ hentries hanswer hstep =>
    rw [hanswer]
    refine iff_of_false (by simp) fun hfirst => ?_
    obtain ⟨f, hf, hrefused⟩ := hfirst.exists_refused
    obtain ⟨x, -, hentered⟩ := exists_of_mem_left hentries hf
    exact hentered.not_refused hrefused

/-- Whether a record is built depends on the last inputs only. -/
theorem exists_answer_build_congr (h : lastInput? sets' = lastInput? sets) :
    (∃ reply, s.answer (.build shapeName sets') = .ok reply) ↔
      ∃ reply, s.answer (.build shapeName sets) = .ok reply := by
  have hnames : ∀ name, (∃ x ∈ sets', x.name = name) ↔ ∃ x ∈ sets, x.name = name := by
    intro name
    have hnone := congrArg (· = none) (congrFun h name)
    simp only [lastInput?_eq_none_iff] at hnone
    simpa using not_congr (iff_of_eq hnone)
  have hknown : (∀ x ∈ sets', (shape.field? x.name).isSome) ↔
      ∀ x ∈ sets, (shape.field? x.name).isSome := by
    constructor
    · intro hall x hx
      obtain ⟨y, hy, hyx⟩ := (hnames x.name).2 ⟨x, hx, rfl⟩
      exact hyx ▸ hall y hy
    · intro hall x hx
      obtain ⟨y, hy, hyx⟩ := (hnames x.name).1 ⟨x, hx, rfl⟩
      exact hyx ▸ hall y hy
  rw [exists_answer_build_iff hname hshape, exists_answer_build_iff hname hshape, hknown, h]

theorem exists_entries_of_answer_build {reply : Reply}
    (h : s.answer (.build shapeName sets) = .ok reply) :
    reply = .record s.nextRecord ∧ ∃ entries,
      List.Forall₂ (s.Entered shape.name (lastInput? sets)) shape.fields entries ∧
      s.step (.build shapeName sets) = s.addRecord ⟨id, entries⟩ := by
  cases buildOutcome (s := s) hname hshape sets with
  | unknown _ _ hanswer =>
    rw [hanswer] at h
    cases h
  | refused _ _ hanswer =>
    rw [hanswer] at h
    cases h
  | built _ hentries hanswer hstep =>
    rw [hanswer] at h
    cases h
    exact ⟨rfl, _, hentries, hstep⟩

/-- Requests with the same last inputs are both refused, or one record is built for both of them. -/
theorem answer_build_congr (h : lastInput? sets' = lastInput? sets) :
    (∃ entries, List.Forall₂ (s.Entered shape.name (lastInput? sets)) shape.fields entries ∧
      s.answer (.build shapeName sets) = .ok (.record s.nextRecord) ∧
      s.step (.build shapeName sets) = s.addRecord ⟨id, entries⟩ ∧
      s.answer (.build shapeName sets') = .ok (.record s.nextRecord) ∧
      s.step (.build shapeName sets') = s.addRecord ⟨id, entries⟩) ∨
    ∃ e e', s.answer (.build shapeName sets) = .error e ∧
      s.answer (.build shapeName sets') = .error e' := by
  have hboth := exists_answer_build_congr (s := s) hname hshape h
  cases hanswer : s.answer (.build shapeName sets) with
  | ok reply =>
    obtain ⟨reply', hanswer'⟩ := hboth.2 ⟨reply, hanswer⟩
    obtain ⟨rfl, entries, hentries, hstep⟩ :=
      exists_entries_of_answer_build hname hshape hanswer
    obtain ⟨rfl, entries', hentries', hstep'⟩ :=
      exists_entries_of_answer_build hname hshape hanswer'
    rw [h] at hentries'
    rw [eq_of_forall₂ hentries' hentries fun _ _ _ => Entered.unique] at hstep'
    exact .inl ⟨entries, hentries, rfl, hstep, hanswer', hstep'⟩
  | error e =>
    cases hanswer' : s.answer (.build shapeName sets') with
    | ok reply =>
      obtain ⟨reply', hok⟩ := hboth.1 ⟨reply, hanswer'⟩
      rw [hanswer] at hok
      cases hok
    | error e' => exact .inr ⟨e, e', rfl, rfl⟩

end Known

/-- Only the last input of each field counts for a record. Requests that agree in these build one
record or are both refused. The record is built if all fields that are set are fields of the shape,
all required ones are set and the last inputs resolve, as the members of an enumeration do. If all
fields are fields of the shape, the request is refused for the first field that there is a complaint
about. -/
theorem built_by_last_inputs {s : Session schema} {shapeName : String} {id : ShapeId}
    {shape : RecordShape} (hname : schema.shapes.byName shapeName = some id)
    (hshape : schema.shapes.get? id = some shape) (sets : List FieldSetting) :
    (∀ sets', lastInput? sets' = lastInput? sets →
      (∃ entries, List.Forall₂ (s.Entered shape.name (lastInput? sets)) shape.fields entries ∧
        s.answer (.build shapeName sets) = .ok (.record s.nextRecord) ∧
        s.step (.build shapeName sets) = s.addRecord ⟨id, entries⟩ ∧
        s.answer (.build shapeName sets') = .ok (.record s.nextRecord) ∧
        s.step (.build shapeName sets') = s.addRecord ⟨id, entries⟩) ∨
      ∃ e e', s.answer (.build shapeName sets) = .error e ∧
        s.answer (.build shapeName sets') = .error e') ∧
    ((∃ reply, s.answer (.build shapeName sets) = .ok reply) ↔
      (∀ x ∈ sets, ∃ f ∈ shape.fields, f.name = x.name) ∧
      (∀ f ∈ shape.fields, f.required = true → ∃ x ∈ sets, x.name = f.name) ∧
      ∀ f ∈ shape.fields, ∀ input, lastInput? sets f.name = some input →
        ∃ v, s.fieldValue shape.name f input = .ok v) ∧
    (∀ f ∈ shape.fields, ∀ members, f.kind = .enumeration members →
      (∀ i, .iri i ∈ members → s.fieldValue shape.name f (.iri i) = .ok (.term (.iri i))) ∧
      ∀ l, .literal l ∈ members →
        s.fieldValue shape.name f (.literal l) = .ok (.term (.literal l))) ∧
    ((∀ x ∈ sets, ∃ f ∈ shape.fields, f.name = x.name) → ∀ e,
      s.answer (.build shapeName sets) = .error e ↔
        s.FirstRefused shape.name (lastInput? sets) shape.fields e) := by
  refine ⟨fun sets' => answer_build_congr hname hshape, ?_, ?_, ?_⟩
  · have hset : ∀ name, lastInput? sets name ≠ none ↔ ∃ x ∈ sets, x.name = name := by
      intro name
      simp [lastInput?_eq_none_iff]
    simp only [exists_answer_build_iff hname hshape, not_refused_iff, isSome_field?_iff, hset,
      forall_and]
  · intro f hf members hkind
    constructor
    · intro i hi
      exact fieldValue_of_member hkind (fun x => rfl) hi
    · intro l hl
      exact fieldValue_of_member hkind (fun x => rfl) hl
  · intro hknown e
    exact answer_build_eq_error_iff hname hshape fun x hx => isSome_field?_iff.2 (hknown x hx)

/-- A rating that was first set to a text is built, because it was set to a number afterwards; one
that was not set at all is refused. -/
theorem built_by_last_inputs_of_rating :
    (start feeding 0).step (.build "Rating" [⟨"value", .text "five"⟩, ⟨"value", .integer 5⟩]) =
        (start feeding 0).step (.build "Rating" [⟨"value", .integer 5⟩]) ∧
      (start feeding 0).answer (.build "Rating" []) =
        .error (.shapeViolation (.missingField "Rating" "value")) := by
  have hname : feeding.shapes.byName "Rating" = some ⟨0⟩ := by decide +kernel
  have hshape : feeding.shapes.get? ⟨0⟩ =
      some ⟨⟨"urn:b#Rating"⟩, [⟨⟨"urn:b#value"⟩, .scalar Xsd.integer, true⟩]⟩ := rfl
  have hlast : lastInput? [⟨"value", .integer 5⟩] =
      lastInput? [⟨"value", .text "five"⟩, ⟨"value", .integer 5⟩] := by
    funext name
    by_cases h : name = "value"
    · simp [lastInput?, h]
    · simp [lastInput?, Ne.symm h]
  constructor
  · obtain ⟨hsame, -⟩ := built_by_last_inputs (s := start feeding 0) hname hshape
      [⟨"value", .text "five"⟩, ⟨"value", .integer 5⟩]
    rcases hsame _ hlast with ⟨entries, -, -, hstep, -, hstep'⟩ | ⟨e, e', he, he'⟩
    · rw [hstep, hstep']
    · have hbuilt : (start feeding 0).answer (.build "Rating" [⟨"value", .integer 5⟩]) =
          .ok (.record ⟨0, 0⟩) := by decide +kernel
      rw [hbuilt] at he'
      cases he'
  · obtain ⟨-, -, -, hfirst⟩ := built_by_last_inputs (s := start feeding 0) hname hshape []
    exact (hfirst (by simp) _).2 (.here (.missing rfl rfl))

end Session

end BuildingModel
