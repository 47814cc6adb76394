import BuildingModel.Ontology.Introspection
import BuildingModel.Proofs.Failure
import BuildingModel.Proofs.Lists
import Mathlib.Tactic

/-!
# Rows and answers

Answers are decoded one by one, or not at all. So the rows of a property shape hold just what can be
picked from its statements, column by column, where a column is absent if there is nothing to pick.
-/
namespace BuildingModel

open BuildingModel.Rdf BuildingModel.Ontology

namespace Ontology

variable {α : Type} {decode : Solution → Except BindingError α} {ss ss' : List Solution}
  {rs : List α} {e : BindingError}

theorem rowFaults_eq_nil_iff {first : ℕ} :
    rowFaults decode first ss = [] ↔ ∀ s ∈ ss, ∃ r, decode s = .ok r := by
  induction ss generalizing first with
  | nil => simp [rowFaults]
  | cons s ss ih =>
    cases hs : decode s with
    | ok r => simp [rowFaults, hs, ih]
    | error e => simp [rowFaults, hs]

/-- Decoding succeeds with the rows of all answers, in order. -/
theorem decodeAll_eq_ok_iff :
    decodeAll decode ss = .ok rs ↔ List.Forall₂ (fun s r => decode s = .ok r) ss rs := by
  have hrows : ∀ ss : List Solution, (∀ s ∈ ss, ∃ r, decode s = .ok r) →
      List.Forall₂ (fun s r => decode s = .ok r) ss
        (ss.filterMap fun s => (decode s).toOption) := by
    intro ss
    induction ss with
    | nil => exact fun _ => .nil
    | cons s ss ih =>
      intro hall
      obtain ⟨r, hr⟩ := hall s List.mem_cons_self
      rw [List.filterMap_cons, hr]
      exact .cons hr (ih fun s' hs' => hall s' (List.mem_cons_of_mem s hs'))
  unfold decodeAll
  split
  · rename_i hnil
    have hall := hrows ss (rowFaults_eq_nil_iff.1 hnil)
    constructor
    · intro heq
      cases heq
      exact hall
    · intro h
      rw [Relator.RightUnique.forall₂ (fun s r r' hr hr' => Except.ok.inj (hr.symm.trans hr')) h
        hall]
  · rename_i hne
    constructor
    · intro heq
      cases heq
    · intro h
      refine absurd (rowFaults_eq_nil_iff.2 ?_) hne
      intro s hs
      obtain ⟨r, -, hr⟩ := exists_of_mem_left h hs
      exact ⟨r, hr⟩

theorem exists_decodeAll_iff :
    (∃ rs, decodeAll decode ss = .ok rs) ↔ ∀ s ∈ ss, ∃ r, decode s = .ok r := by
  have hnil : rowFaults decode 0 ss = [] ↔ ∀ s ∈ ss, ∃ r, decode s = .ok r := rowFaults_eq_nil_iff
  rw [← hnil]
  unfold decodeAll
  cases hfaults : rowFaults decode 0 ss with
  | nil => simp
  | cons fault faults => simp

theorem rowFaults_of_forall_error (hss : ∀ s ∈ ss, decode s = .error e)
    (first : ℕ) :
    rowFaults decode first ss = (List.range' first ss.length).map fun row => ⟨row, e⟩ := by
  induction ss generalizing first with
  | nil => rfl
  | cons s ss ih =>
    rw [rowFaults, hss s List.mem_cons_self, ih fun s' hs' => hss s' (List.mem_cons_of_mem s hs')]
    rfl

theorem rowFaults_append (first : ℕ) :
    rowFaults decode first (ss ++ ss') =
      rowFaults decode first ss ++ rowFaults decode (first + ss.length) ss' := by
  induction ss generalizing first with
  | nil => rfl
  | cons s ss ih =>
    have hplace : first + 1 + ss.length = first + (s :: ss).length := by
      rw [List.length_cons]
      omega
    rw [List.cons_append, rowFaults, rowFaults, ih, hplace]
    cases decode s <;> rfl

/-- Answers that cannot be decoded in front of those that can are all that is reported. -/
theorem decodeAll_append_error (hss : ∀ s ∈ ss, decode s = .error e)
    (hne : ss ≠ []) (hrows : decodeAll decode ss' = .ok rs) :
    decodeAll decode (ss ++ ss') = .error ((List.range ss.length).map fun row => ⟨row, e⟩) := by
  have hnone : ∀ first, rowFaults decode first ss' = [] := fun first =>
    rowFaults_eq_nil_iff.2 (exists_decodeAll_iff.1 ⟨rs, hrows⟩)
  unfold decodeAll
  rw [rowFaults_append, hnone, List.append_nil, rowFaults_of_forall_error hss,
    ← List.range_eq_range']
  split
  · rename_i hnil
    exact absurd (by simpa using hnil) hne
  · rfl

/-- An optional column: one of some values, or absent because there is none. -/
inductive Picks {β : Type} (xs : List β) : Option β → Prop
  | value {x : β} (hx : x ∈ xs) : Picks xs (some x)
  | absent (hnil : xs = []) : Picks xs none

theorem mem_orAbsent_iff {β : Type} {xs : List β} {x : Option β} :
    x ∈ Dataset.orAbsent xs ↔ Picks xs x := by
  unfold Dataset.orAbsent
  by_cases hnil : xs = []
  · subst hnil
    simp only [List.isEmpty_nil, if_true, List.mem_singleton]
    constructor
    · rintro rfl
      exact .absent rfl
    · intro h
      cases h with
      | value hx => cases hx
      | absent => rfl
  · rw [if_neg (by simpa using hnil), List.mem_map]
    constructor
    · rintro ⟨y, hy, rfl⟩
      exact .value hy
    · intro h
      cases h with
      | value hx => exact ⟨_, hx, rfl⟩
      | absent hnil' => exact absurd hnil' hnil

theorem Picks.congr {β : Type} {xs ys : List β} (h : ∀ x, x ∈ xs ↔ x ∈ ys) {x : Option β} :
    Picks xs x ↔ Picks ys x := by
  have hnil : xs = [] ↔ ys = [] := by
    simp only [List.eq_nil_iff_forall_not_mem, h]
  constructor
  · intro hx
    cases hx with
    | value hx => exact .value ((h _).1 hx)
    | absent hxs => exact .absent (hnil.1 hxs)
  · intro hx
    cases hx with
    | value hx => exact .value ((h _).2 hx)
    | absent hys => exact .absent (hnil.2 hys)

theorem exists_picks {β : Type} (xs : List β) : ∃ x, Picks xs x := by
  cases xs with
  | nil => exact ⟨none, .absent rfl⟩
  | cons x xs => exact ⟨some x, .value List.mem_cons_self⟩

/-- The whole number that a term stands for, if there is a term. -/
inductive ReadsInteger : Option Term → Option Int → Prop
  | absent : ReadsInteger none none
  | literal {l : Literal} {k : Int} (hk : Number.readSigned64 (Text.trim l.text) = .ok k) :
      ReadsInteger (some (.literal l)) (some k)

theorem integer?_eq_ok_iff {s : Solution} {v : String} {b : Option Int} :
    s.integer? v = .ok b ↔ ReadsInteger (s.term? v) b := by
  unfold Solution.integer?
  cases s.term? v with
  | none =>
    constructor
    · intro h
      cases h
      exact .absent
    · intro h
      cases h
      rfl
  | some t =>
    cases t with
    | iri i =>
      constructor
      · intro h; cases h
      · intro h; cases h
    | blank b =>
      constructor
      · intro h; cases h
      · intro h; cases h
    | literal l =>
      cases hk : Number.readSigned64 (Text.trim l.text) with
      | ok k =>
        simp only [hk, Except.ok.injEq]
        constructor
        · rintro rfl
          exact .literal hk
        · intro h
          cases h with
          | literal hk' =>
            rw [hk] at hk'
            cases hk'
            rfl
      | error fault =>
        simp only [hk, reduceCtorEq, false_iff]
        intro h
        cases h with
        | literal hk' =>
          rw [hk] at hk'
          cases hk'

/-- A row says what is stated of a property shape, one of the values for each column. -/
structure PropertyRow.StatedBy (d : Dataset) (m : Term) (r : PropertyRow) : Prop where
  path : .iri r.path ∈ d.objectsOfTerm m Shacl.path
  members : Picks (d.objectsOfTerm m Shacl.members) r.members
  datatype : ∃ t, Picks (d.objectsOfTerm m Shacl.datatype) t ∧ r.datatype = t.bind Term.iri?
  allowed : ∃ t, Picks (d.objectsOfTerm m Shacl.class) t ∧ r.allowed = t.bind Term.iri?
  minCount : ∃ t, Picks (d.objectsOfTerm m Shacl.minCount) t ∧ ReadsInteger t r.minCount

/-- The answer that binds the columns of a property shape. -/
def propertyAnswer (path : Iri) (list datatype allowed least : Option Term) : Solution :=
  ⟨("path", .iri path) :: (Dataset.bound "list" list ++ Dataset.bound "datatype" datatype ++
    Dataset.bound "class" allowed ++ Dataset.bound "min" least)⟩

theorem decode_propertyAnswer {path : Iri} {list datatype allowed least : Option Term}
    {r : PropertyRow} :
    PropertyRow.decode (propertyAnswer path list datatype allowed least) = .ok r ↔
      ∃ k, ReadsInteger least k ∧
        r = ⟨path, list, datatype.bind Term.iri?, allowed.bind Term.iri?, k⟩ := by
  have hpath : (propertyAnswer path list datatype allowed least).iri "path" = .ok path :=
    Solution.iri_eq_ok_iff.2 rfl
  have hlist : (propertyAnswer path list datatype allowed least).term? "list" = list := by
    cases list <;> cases datatype <;> cases allowed <;> cases least <;> rfl
  have hdatatype : (propertyAnswer path list datatype allowed least).term? "datatype" =
      datatype := by
    cases list <;> cases datatype <;> cases allowed <;> cases least <;> rfl
  have hallowed : (propertyAnswer path list datatype allowed least).term? "class" = allowed := by
    cases list <;> cases datatype <;> cases allowed <;> cases least <;> rfl
  have hleast : (propertyAnswer path list datatype allowed least).term? "min" = least := by
    cases list <;> cases datatype <;> cases allowed <;> cases least <;> rfl
  unfold PropertyRow.decode Solution.iri?
  rw [hlist, hdatatype, hallowed]
  constructor
  · intro h
    obtain ⟨path', hpath', h⟩ := bind_eq_ok h
    obtain ⟨k, hk, h⟩ := bind_eq_ok h
    cases h
    rw [hpath] at hpath'
    cases hpath'
    rw [integer?_eq_ok_iff, hleast] at hk
    exact ⟨k, hk, rfl⟩
  · rintro ⟨k, hk, rfl⟩
    rw [← hleast, ← integer?_eq_ok_iff] at hk
    rw [hpath, hk]
    rfl

end Ontology

namespace Rdf.Dataset

variable {d : Dataset} {shape : Iri} {rows : List PropertyRow}

theorem mem_propertyAnswers_iff {s : Solution} :
    s ∈ d.propertyAnswers shape ↔ ∃ m ∈ d.defaultObjects (.iri shape) Shacl.property,
      ∃ path, .iri path ∈ d.objectsOfTerm m Shacl.path ∧
      ∃ list, Picks (d.objectsOfTerm m Shacl.members) list ∧
      ∃ datatype, Picks (d.objectsOfTerm m Shacl.datatype) datatype ∧
      ∃ allowed, Picks (d.objectsOfTerm m Shacl.class) allowed ∧
      ∃ least, Picks (d.objectsOfTerm m Shacl.minCount) least ∧
        propertyAnswer path list datatype allowed least = s := by
  simp only [propertyAnswers, List.mem_flatMap, List.mem_map, List.mem_filterMap, mem_orAbsent_iff,
    Term.iri?_eq_some_iff, exists_eq_right, propertyAnswer]

theorem propertyRows_corresponds (h : d.propertyRows shape = .ok rows) :
    (∀ s ∈ d.propertyAnswers shape, ∃ r ∈ rows, PropertyRow.decode s = .ok r) ∧
      ∀ r ∈ rows, ∃ s ∈ d.propertyAnswers shape, PropertyRow.decode s = .ok r := by
  have hall := decodeAll_eq_ok_iff.1 h
  constructor
  · intro s hs
    exact exists_of_mem_left hall (List.mem_mergeSort.2 hs)
  · intro r hr
    obtain ⟨s, hs, hdecode⟩ := exists_of_mem_right hall hr
    exact ⟨s, List.mem_mergeSort.1 hs, hdecode⟩

/-- The rows of a shape are those that are stated by one of its property shapes. -/
theorem mem_propertyRows_iff (h : d.propertyRows shape = .ok rows) {r : PropertyRow} :
    r ∈ rows ↔ ∃ m ∈ d.defaultObjects (.iri shape) Shacl.property, r.StatedBy d m := by
  obtain ⟨hdecoded, hanswered⟩ := propertyRows_corresponds h
  constructor
  · intro hr
    obtain ⟨s, hs, hdecode⟩ := hanswered r hr
    obtain ⟨m, hm, path, hpath, list, hlist, datatype, hdatatype, allowed, hallowed, least, hleast,
      rfl⟩ := mem_propertyAnswers_iff.1 hs
    obtain ⟨k, hk, rfl⟩ := decode_propertyAnswer.1 hdecode
    exact ⟨m, hm, hpath, hlist, ⟨_, hdatatype, rfl⟩, ⟨_, hallowed, rfl⟩, ⟨_, hleast, hk⟩⟩
  · rintro ⟨m, hm, hpath, hlist, ⟨datatype, hdatatype, hd⟩, ⟨allowed, hallowed, ha⟩,
      ⟨least, hleast, hk⟩⟩
    obtain ⟨r', hr', hdecode⟩ := hdecoded _ (mem_propertyAnswers_iff.2
      ⟨m, hm, _, hpath, _, hlist, _, hdatatype, _, hallowed, _, hleast, rfl⟩)
    have hrow : PropertyRow.decode (propertyAnswer r.path r.members datatype allowed least) =
        .ok r := decode_propertyAnswer.2 ⟨_, hk, by rw [← hd, ← ha]⟩
    rw [hrow] at hdecode
    cases hdecode
    exact hr'

/-- The least counts of the property shapes of a shape that has rows can be read. -/
theorem exists_readsInteger (h : d.propertyRows shape = .ok rows) {m : Term}
    (hm : m ∈ d.defaultObjects (.iri shape) Shacl.property) {path : Iri}
    (hpath : .iri path ∈ d.objectsOfTerm m Shacl.path) {least : Option Term}
    (hleast : Picks (d.objectsOfTerm m Shacl.minCount) least) : ∃ k, ReadsInteger least k := by
  obtain ⟨list, hlist⟩ := exists_picks (d.objectsOfTerm m Shacl.members)
  obtain ⟨datatype, hdatatype⟩ := exists_picks (d.objectsOfTerm m Shacl.datatype)
  obtain ⟨allowed, hallowed⟩ := exists_picks (d.objectsOfTerm m Shacl.class)
  obtain ⟨r, -, hdecode⟩ := (propertyRows_corresponds h).1 _ (mem_propertyAnswers_iff.2
    ⟨m, hm, path, hpath, list, hlist, datatype, hdatatype, allowed, hallowed, least, hleast, rfl⟩)
  obtain ⟨k, hk, -⟩ := decode_propertyAnswer.1 hdecode
  exact ⟨k, hk⟩

end Rdf.Dataset

end BuildingModel
