import BuildingModel.Proofs.Failure
import BuildingModel.Proofs.Rdf.Collection
import BuildingModel.Proofs.Validation.Constraint
import BuildingModel.Validation.Loading

/-!
# What a property shape asks for

The constraints of a property shape are what statements say of its node. Where nothing that is read
has two values, a property shape is loaded with exactly these constraints, each of them once.
-/
namespace BuildingModel.Validation

open BuildingModel.Rdf BuildingModel.Number

variable {o data : Dataset} {n : Node} {E : PatternEngine}

/-- What is read from the node of a property shape. -/
def propertyPredicates : List Iri :=
  [Shacl.path, Shacl.datatype, Shacl.class, Shacl.minCount, Shacl.maxCount, Shacl.pattern,
    Shacl.minLength, Shacl.maxLength, Shacl.minInclusive, Shacl.maxInclusive, Shacl.members,
    Shacl.alternatives, Shacl.message, Shacl.severity]

/-- Nothing that is read from a property shape, from its lists or from its alternatives has two
values. -/
structure Unambiguous (o : Dataset) (n : Node) : Prop where
  property : ∀ p ∈ propertyPredicates, o.AtMostOne n p
  members : ∀ head ∈ o.objects n Shacl.members, o.Linear head
  alternatives : ∀ head ∈ o.objects n Shacl.alternatives, o.Linear head
  alternative : ∀ head ∈ o.objects n Shacl.alternatives, ∀ m : Node, o.Listed head m.term →
    o.AtMostOne m Shacl.class ∧ o.AtMostOne m Shacl.datatype

/-- An alternative asks for what is said of a node. -/
structure Describes (o : Dataset) (m : Node) (a : Alternative) : Prop where
  class_iff : ∀ c, a.class? = some c ↔ Term.iri c ∈ o.objects m Shacl.class
  datatype_iff : ∀ d, a.datatype? = some d ↔ Term.iri d ∈ o.objects m Shacl.datatype

/-- The count that a text stands for, blanks around it ignored. -/
def countOfText? (text : String) : Option ℕ :=
  (readCount (Text.trim text)).toOption

/-- A constraint is asked of the values of a property shape. -/
inductive Asks (o : Dataset) (E : PatternEngine) (n : Node) : ValueConstraint → Prop
  | datatype {d : Iri} (h : Term.iri d ∈ o.objects n Shacl.datatype) : Asks o E n (.datatype d)
  | class {c : Iri} (h : Term.iri c ∈ o.objects n Shacl.class) : Asks o E n (.class c)
  | alternatives {options : List Alternative} (hne : options ≠ [])
      (h : ∀ a, a ∈ options ↔ ∃ head ∈ o.objects n Shacl.alternatives,
        ∃ m : Node, o.Listed head m.term ∧ Describes o m a) :
      Asks o E n (.alternatives options)
  | pattern {l : Literal} {p : Pattern} (h : Term.literal l ∈ o.objects n Shacl.pattern)
      (hp : E.pattern? l.text = some p) : Asks o E n (.pattern p)
  | minLength {l : Literal} {k : ℕ} (h : Term.literal l ∈ o.objects n Shacl.minLength)
      (hk : countOfText? l.text = some k) : Asks o E n (.minLength k)
  | maxLength {l : Literal} {k : ℕ} (h : Term.literal l ∈ o.objects n Shacl.maxLength)
      (hk : countOfText? l.text = some k) : Asks o E n (.maxLength k)
  | minInclusive {l : Literal} {x : Binary} (h : Term.literal l ∈ o.objects n Shacl.minInclusive)
      (hx : numberOfText? l.text = some x) : Asks o E n (.minInclusive x)
  | maxInclusive {l : Literal} {x : Binary} (h : Term.literal l ∈ o.objects n Shacl.maxInclusive)
      (hx : numberOfText? l.text = some x) : Asks o E n (.maxInclusive x)
  | members {allowed : List Term} (hne : allowed ≠ [])
      (h : ∀ x, x ∈ allowed ↔ ∃ head ∈ o.objects n Shacl.members, o.Listed head x) :
      Asks o E n (.members allowed)

/-! ## Reading single values -/

section Single

variable {p : Iri} (h : o.AtMostOne n p)

include h

theorem iriOf?_eq_some_iff {i : Iri} :
    iriOf? o n p = some i ↔ Term.iri i ∈ o.objects n p := by
  simp only [iriOf?, Option.bind_eq_some_iff, Dataset.object?_eq_some_iff h, Term.iri?_eq_some_iff]
  simp

theorem textOf?_eq_some_iff {t : String} :
    textOf? o n p = some t ↔ ∃ l, Term.literal l ∈ o.objects n p ∧ l.text = t := by
  have hliteral : ∀ (x : Term) (l : Literal), x.literal? = some l ↔ x = .literal l := by
    intro x l
    cases x <;> simp [Term.literal?]
  simp only [textOf?, Option.map_eq_some_iff, Option.bind_eq_some_iff,
    Dataset.object?_eq_some_iff h, hliteral]
  simp

/-- What is read from the text of a property, if there is one, is read from its literal. -/
theorem eq_some_iff_of_textOf? {β : Type} {read : String → Option β} {b : Option β}
    (hnone : textOf? o n p = none → b = none) (hsome : ∀ t, textOf? o n p = some t → b = read t)
    {k : β} : b = some k ↔ ∃ l, Term.literal l ∈ o.objects n p ∧ read l.text = some k := by
  cases ht : textOf? o n p with
  | none =>
    rw [hnone ht]
    simp only [reduceCtorEq, false_iff]
    rintro ⟨l, hl, -⟩
    rw [(textOf?_eq_some_iff h).2 ⟨l, hl, rfl⟩] at ht
    cases ht
  | some t =>
    rw [hsome t ht]
    obtain ⟨l, hl, rfl⟩ := (textOf?_eq_some_iff h).1 ht
    constructor
    · intro hk
      exact ⟨l, hl, hk⟩
    · intro ⟨l', hl', hk⟩
      cases h _ hl _ hl'
      exact hk

theorem countOf_eq_some_iff {b : Option ℕ} (hb : countOf o n p = .ok b) {k : ℕ} :
    b = some k ↔ ∃ l, Term.literal l ∈ o.objects n p ∧ countOfText? l.text = some k := by
  apply eq_some_iff_of_textOf? h
  · intro ht
    simp only [countOf, ht] at hb
    cases hb
    rfl
  · intro t ht
    simp only [countOf, ht] at hb
    rw [countOfText?]
    cases hk : readCount (Text.trim t) with
    | ok j =>
      simp only [hk] at hb
      cases hb
      rfl
    | error fault =>
      simp only [hk] at hb
      cases hb

theorem numberOf_eq_some_iff {b : Option Binary} (hb : numberOf o n p = .ok b) {x : Binary} :
    b = some x ↔ ∃ l, Term.literal l ∈ o.objects n p ∧ numberOfText? l.text = some x := by
  apply eq_some_iff_of_textOf? h
  · intro ht
    simp only [numberOf, ht] at hb
    cases hb
    rfl
  · intro t ht
    simp only [numberOf, ht] at hb
    rw [numberOfText?]
    cases hx : readBinary binary64 (Text.trim t) with
    | ok y =>
      simp only [hx] at hb
      cases hb
      rfl
    | error fault =>
      simp only [hx] at hb
      cases hb

end Single

theorem patternOf_eq_some_iff (h : o.AtMostOne n Shacl.pattern) {path : Iri} {b : Option Pattern}
    (hb : patternOf o n E path = .ok b) {p : Pattern} :
    b = some p ↔
      ∃ l, Term.literal l ∈ o.objects n Shacl.pattern ∧ E.pattern? l.text = some p := by
  apply eq_some_iff_of_textOf? h
  · intro ht
    simp only [patternOf, ht] at hb
    cases hb
    rfl
  · intro t ht
    simp only [patternOf, ht] at hb
    cases hp : E.pattern? t with
    | some q =>
      simp only [hp] at hb
      cases hb
      rfl
    | none =>
      simp only [hp] at hb
      cases hb

/-! ## Reading lists -/

theorem mem_elementsOf_iff {p : Iri} {x : Term} (h : o.AtMostOne n p)
    (hlinear : ∀ head ∈ o.objects n p, o.Linear head) :
    x ∈ elementsOf o n p ↔ ∃ head ∈ o.objects n p, o.Listed head x := by
  unfold elementsOf
  cases ho : o.object? n p with
  | none =>
    have hnil : o.objects n p = [] := List.head?_eq_none_iff.1 ho
    simp [hnil]
  | some head =>
    have hhead := Dataset.mem_objects_of_object? ho
    simp only [Option.map_some, Option.getD_some, Dataset.mem_members_iff (hlinear head hhead)]
    constructor
    · intro hx
      exact ⟨head, hhead, hx⟩
    · intro ⟨head', hhead', hx⟩
      rwa [h head' hhead' head hhead] at hx

theorem describes_iff {m : Node} {a : Alternative} (hclass : o.AtMostOne m Shacl.class)
    (hdatatype : o.AtMostOne m Shacl.datatype) :
    Describes o m a ↔ a = ⟨iriOf? o m Shacl.class, iriOf? o m Shacl.datatype⟩ := by
  obtain ⟨c, d⟩ := a
  simp only [Alternative.mk.injEq]
  constructor
  · intro h
    constructor
    · apply Option.ext
      intro i
      rw [iriOf?_eq_some_iff hclass]
      exact h.class_iff i
    · apply Option.ext
      intro i
      rw [iriOf?_eq_some_iff hdatatype]
      exact h.datatype_iff i
  · rintro ⟨rfl, rfl⟩
    exact ⟨fun i => iriOf?_eq_some_iff hclass, fun i => iriOf?_eq_some_iff hdatatype⟩

theorem mem_alternativesOf_iff {a : Alternative} (h : Unambiguous o n) :
    a ∈ alternativesOf o n ↔ ∃ head ∈ o.objects n Shacl.alternatives,
      ∃ m : Node, o.Listed head m.term ∧ Describes o m a := by
  have hone : o.AtMostOne n Shacl.alternatives := h.property _ (by simp [propertyPredicates])
  simp only [alternativesOf, List.mem_map, List.mem_filterMap,
    mem_elementsOf_iff hone h.alternatives, Term.node?_eq_some_iff]
  constructor
  · rintro ⟨m, ⟨x, ⟨head, hhead, hx⟩, rfl⟩, rfl⟩
    obtain ⟨hclass, hdatatype⟩ := h.alternative head hhead m hx
    exact ⟨head, hhead, m, hx, (describes_iff hclass hdatatype).2 rfl⟩
  · intro ⟨head, hhead, m, hm, ha⟩
    obtain ⟨hclass, hdatatype⟩ := h.alternative head hhead m hm
    exact ⟨m, ⟨m.term, ⟨head, hhead, hm⟩, rfl⟩, ((describes_iff hclass hdatatype).1 ha).symm⟩

/-! ## Reading property shapes -/

/-- A property shape has been read from a node: its path, bounds, message and severity are the ones
stated, and its constraints those that are asked, no two of one name. -/
structure ReadsAs (o : Dataset) (E : PatternEngine) (n : Node) (p : PropertyShape) : Prop where
  path_iff : ∀ i, Term.iri i ∈ o.objects n Shacl.path ↔ i = p.path
  minCount_iff : ∀ k, p.minCount = some k ↔
    ∃ l, Term.literal l ∈ o.objects n Shacl.minCount ∧ countOfText? l.text = some k
  maxCount_iff : ∀ k, p.maxCount = some k ↔
    ∃ l, Term.literal l ∈ o.objects n Shacl.maxCount ∧ countOfText? l.text = some k
  asks : ∀ c ∈ p.constraints, Asks o E n c
  complete : ∀ c, Asks o E n c → ∃ c' ∈ p.constraints, c'.name = c.name ∧
    ∀ data v, Holds o data v c' ↔ Holds o data v c
  names : (p.constraints.map ValueConstraint.name).Nodup
  message_iff : ∀ t, p.message = some t ↔
    ∃ l, Term.literal l ∈ o.objects n Shacl.message ∧ l.text = t
  severity_iff : ∀ s, p.severity = some s ↔
    ∃ i, Term.iri i ∈ o.objects n Shacl.severity ∧ Severity.ofIri i = s

theorem map_name_sublist {β : Type} (x : Option β) {f : β → ValueConstraint} {name : String}
    (h : ∀ b, (f b).name = name) :
    List.Sublist ((x.toList.map f).map ValueConstraint.name) [name] := by
  cases x with
  | none => simp
  | some b => simp [h]

theorem unlessEmpty_name_sublist {β : Type} (xs : List β) {c : ValueConstraint} {name : String}
    (h : c.name = name) : List.Sublist ((unlessEmpty xs c).map ValueConstraint.name) [name] := by
  unfold unlessEmpty
  split
  · simp
  · simp [h]

theorem mem_unlessEmpty {β : Type} {xs : List β} {c c' : ValueConstraint} :
    c' ∈ unlessEmpty xs c ↔ xs ≠ [] ∧ c' = c := by
  unfold unlessEmpty
  cases xs <;> simp

section Constraints

variable {datatype cls : Option Iri} {options : List Alternative} {pattern : Option Pattern}
  {minLength maxLength : Option ℕ} {minInclusive maxInclusive : Option Binary} {allowed : List Term}

theorem mem_constraintsOf {c : ValueConstraint} :
    c ∈ constraintsOf datatype cls options pattern minLength maxLength minInclusive maxInclusive
        allowed ↔
      match c with
      | .datatype d => datatype = some d
      | .class d => cls = some d
      | .alternatives os => options ≠ [] ∧ os = options
      | .pattern p => pattern = some p
      | .minLength k => minLength = some k
      | .maxLength k => maxLength = some k
      | .minInclusive x => minInclusive = some x
      | .maxInclusive x => maxInclusive = some x
      | .members xs => allowed ≠ [] ∧ xs = allowed := by
  cases c <;> simp [constraintsOf, mem_unlessEmpty]

theorem nodup_names_constraintsOf :
    ((constraintsOf datatype cls options pattern minLength maxLength minInclusive maxInclusive
      allowed).map ValueConstraint.name).Nodup := by
  have hsublist : List.Sublist ((constraintsOf datatype cls options pattern minLength maxLength
      minInclusive maxInclusive allowed).map ValueConstraint.name)
      (["sh:datatype"] ++ ["sh:class"] ++ ["sh:or"] ++ ["sh:pattern"] ++ ["sh:minLength"] ++
        ["sh:maxLength"] ++ ["sh:minInclusive"] ++ ["sh:maxInclusive"] ++ ["sh:in"]) := by
    simp only [constraintsOf, List.map_append]
    repeat' apply List.Sublist.append
    · exact map_name_sublist datatype fun _ => rfl
    · exact map_name_sublist cls fun _ => rfl
    · exact unlessEmpty_name_sublist options rfl
    · exact map_name_sublist pattern fun _ => rfl
    · exact map_name_sublist minLength fun _ => rfl
    · exact map_name_sublist maxLength fun _ => rfl
    · exact map_name_sublist minInclusive fun _ => rfl
    · exact map_name_sublist maxInclusive fun _ => rfl
    · exact unlessEmpty_name_sublist allowed rfl
  exact hsublist.nodup (by decide)

end Constraints

/-- The constraints read from a node are asked, and what is asked is among them up to the order of
lists. -/
theorem constraints_spec (hn : Unambiguous o n) {path : Iri} {minLength maxLength : Option ℕ}
    {minInclusive maxInclusive : Option Binary} {pattern : Option Pattern}
    (hminLength : countOf o n Shacl.minLength = .ok minLength)
    (hmaxLength : countOf o n Shacl.maxLength = .ok maxLength)
    (hminInclusive : numberOf o n Shacl.minInclusive = .ok minInclusive)
    (hmaxInclusive : numberOf o n Shacl.maxInclusive = .ok maxInclusive)
    (hpattern : patternOf o n E path = .ok pattern) {cs : List ValueConstraint}
    (hcs : cs = constraintsOf (iriOf? o n Shacl.datatype) (iriOf? o n Shacl.class)
      (alternativesOf o n) pattern minLength maxLength minInclusive maxInclusive
      (elementsOf o n Shacl.members)) :
    (∀ c ∈ cs, Asks o E n c) ∧ ∀ c, Asks o E n c → ∃ c' ∈ cs, c'.name = c.name ∧
      ∀ data v, Holds o data v c' ↔ Holds o data v c := by
  subst hcs
  have hdatatype : o.AtMostOne n Shacl.datatype := hn.property _ (by simp [propertyPredicates])
  have hclass : o.AtMostOne n Shacl.class := hn.property _ (by simp [propertyPredicates])
  have hpat : o.AtMostOne n Shacl.pattern := hn.property _ (by simp [propertyPredicates])
  have hminL : o.AtMostOne n Shacl.minLength := hn.property _ (by simp [propertyPredicates])
  have hmaxL : o.AtMostOne n Shacl.maxLength := hn.property _ (by simp [propertyPredicates])
  have hminI : o.AtMostOne n Shacl.minInclusive := hn.property _ (by simp [propertyPredicates])
  have hmaxI : o.AtMostOne n Shacl.maxInclusive := hn.property _ (by simp [propertyPredicates])
  have hmem : o.AtMostOne n Shacl.members := hn.property _ (by simp [propertyPredicates])
  constructor
  · intro c hc
    rw [mem_constraintsOf] at hc
    cases c with
    | datatype d => exact .datatype ((iriOf?_eq_some_iff hdatatype).1 hc)
    | «class» d => exact .class ((iriOf?_eq_some_iff hclass).1 hc)
    | alternatives options =>
      obtain ⟨hne, rfl⟩ := hc
      exact .alternatives hne fun a => mem_alternativesOf_iff hn
    | pattern p =>
      obtain ⟨l, hl, hp⟩ := (patternOf_eq_some_iff hpat hpattern).1 hc
      exact .pattern hl hp
    | minLength k =>
      obtain ⟨l, hl, hk⟩ := (countOf_eq_some_iff hminL hminLength).1 hc
      exact .minLength hl hk
    | maxLength k =>
      obtain ⟨l, hl, hk⟩ := (countOf_eq_some_iff hmaxL hmaxLength).1 hc
      exact .maxLength hl hk
    | minInclusive x =>
      obtain ⟨l, hl, hx⟩ := (numberOf_eq_some_iff hminI hminInclusive).1 hc
      exact .minInclusive hl hx
    | maxInclusive x =>
      obtain ⟨l, hl, hx⟩ := (numberOf_eq_some_iff hmaxI hmaxInclusive).1 hc
      exact .maxInclusive hl hx
    | members allowed =>
      obtain ⟨hne, rfl⟩ := hc
      exact .members hne fun x => mem_elementsOf_iff hmem hn.members
  · intro c hc
    have hsame : ∀ data v, Holds o data v c ↔ Holds o data v c := fun _ _ => Iff.rfl
    cases hc with
    | datatype h =>
      exact ⟨_, mem_constraintsOf.2 ((iriOf?_eq_some_iff hdatatype).2 h), rfl, hsame⟩
    | «class» h =>
      exact ⟨_, mem_constraintsOf.2 ((iriOf?_eq_some_iff hclass).2 h), rfl, hsame⟩
    | @alternatives options hne h =>
      have hiff : ∀ a, a ∈ alternativesOf o n ↔ a ∈ options :=
        fun a => (mem_alternativesOf_iff hn).trans (h a).symm
      obtain ⟨a, ha⟩ := List.exists_mem_of_ne_nil options hne
      refine ⟨.alternatives (alternativesOf o n),
        mem_constraintsOf.2 ⟨List.ne_nil_of_mem ((hiff a).2 ha), rfl⟩, rfl, ?_⟩
      intro data v
      simp only [Holds, hiff]
    | pattern h hp =>
      exact ⟨_, mem_constraintsOf.2 ((patternOf_eq_some_iff hpat hpattern).2 ⟨_, h, hp⟩), rfl,
        hsame⟩
    | minLength h hk =>
      exact ⟨_, mem_constraintsOf.2 ((countOf_eq_some_iff hminL hminLength).2 ⟨_, h, hk⟩), rfl,
        hsame⟩
    | maxLength h hk =>
      exact ⟨_, mem_constraintsOf.2 ((countOf_eq_some_iff hmaxL hmaxLength).2 ⟨_, h, hk⟩), rfl,
        hsame⟩
    | minInclusive h hx =>
      exact ⟨_, mem_constraintsOf.2 ((numberOf_eq_some_iff hminI hminInclusive).2 ⟨_, h, hx⟩), rfl,
        hsame⟩
    | maxInclusive h hx =>
      exact ⟨_, mem_constraintsOf.2 ((numberOf_eq_some_iff hmaxI hmaxInclusive).2 ⟨_, h, hx⟩), rfl,
        hsame⟩
    | @members allowed hne h =>
      have hiff : ∀ x, x ∈ elementsOf o n Shacl.members ↔ x ∈ allowed :=
        fun x => (mem_elementsOf_iff hmem hn.members).trans (h x).symm
      obtain ⟨x, hx⟩ := List.exists_mem_of_ne_nil allowed hne
      refine ⟨.members (elementsOf o n Shacl.members),
        mem_constraintsOf.2 ⟨List.ne_nil_of_mem ((hiff x).2 hx), rfl⟩, rfl, ?_⟩
      intro data v
      simp only [Holds, hiff]

theorem readsAs_of_loadProperty {p : PropertyShape} (hn : Unambiguous o n)
    (h : loadProperty o n E = .ok (some p)) : ReadsAs o E n p := by
  unfold loadProperty at h
  cases hpath : iriOf? o n Shacl.path with
  | none =>
    rw [hpath] at h
    cases h
  | some path =>
    rw [hpath] at h
    obtain ⟨minCount, hminCount, h⟩ := bind_eq_ok h
    obtain ⟨maxCount, hmaxCount, h⟩ := bind_eq_ok h
    obtain ⟨minLength, hminLength, h⟩ := bind_eq_ok h
    obtain ⟨maxLength, hmaxLength, h⟩ := bind_eq_ok h
    obtain ⟨minInclusive, hminInclusive, h⟩ := bind_eq_ok h
    obtain ⟨maxInclusive, hmaxInclusive, h⟩ := bind_eq_ok h
    obtain ⟨pattern, hpattern, h⟩ := bind_eq_ok h
    cases h
    obtain ⟨hasks, hcomplete⟩ := constraints_spec hn hminLength hmaxLength hminInclusive
      hmaxInclusive hpattern rfl
    have hone : ∀ i ∈ propertyPredicates, o.AtMostOne n i := hn.property
    constructor
    · intro i
      rw [← iriOf?_eq_some_iff (hone Shacl.path (by simp [propertyPredicates])), hpath,
        Option.some.injEq]
      exact eq_comm
    · intro k
      exact countOf_eq_some_iff (hone _ (by simp [propertyPredicates])) hminCount
    · intro k
      exact countOf_eq_some_iff (hone _ (by simp [propertyPredicates])) hmaxCount
    · exact hasks
    · exact hcomplete
    · exact nodup_names_constraintsOf
    · intro t
      exact textOf?_eq_some_iff (hone _ (by simp [propertyPredicates]))
    · intro s
      simp only [Option.map_eq_some_iff, iriOf?_eq_some_iff
        (hone Shacl.severity (by simp [propertyPredicates]))]

/-- A property shape that says nothing has no IRI for its path. -/
theorem iriOf?_path_of_loadProperty (h : loadProperty o n E = .ok none) :
    iriOf? o n Shacl.path = none := by
  unfold loadProperty at h
  cases hpath : iriOf? o n Shacl.path with
  | none => rfl
  | some path =>
    rw [hpath] at h
    obtain ⟨minCount, -, h⟩ := bind_eq_ok h
    obtain ⟨maxCount, -, h⟩ := bind_eq_ok h
    obtain ⟨minLength, -, h⟩ := bind_eq_ok h
    obtain ⟨maxLength, -, h⟩ := bind_eq_ok h
    obtain ⟨minInclusive, -, h⟩ := bind_eq_ok h
    obtain ⟨maxInclusive, -, h⟩ := bind_eq_ok h
    obtain ⟨pattern, -, h⟩ := bind_eq_ok h
    cases h

theorem not_path_of_loadProperty (hn : Unambiguous o n) (h : loadProperty o n E = .ok none)
    (path : Iri) : Term.iri path ∉ o.objects n Shacl.path := by
  have hone : o.AtMostOne n Shacl.path := hn.property _ (by simp [propertyPredicates])
  rw [← iriOf?_eq_some_iff hone, iriOf?_path_of_loadProperty h]
  simp

end BuildingModel.Validation
