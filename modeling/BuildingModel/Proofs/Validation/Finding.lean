import BuildingModel.Proofs.Validation.Declared

/-!
# Findings

What the statements of an ontology and of some data say to be violated at a node, and how it is
reported. A property shape or a value that several graphs state is found once for each of them.
-/
namespace BuildingModel.Validation

open BuildingModel.Rdf

variable {o data : Dataset} {n : Node} {E : PatternEngine}

/-- The statements of a subject under a predicate, in any graph, newest first. -/
def statementsOf (d : Dataset) (n : Node) (p : Iri) : List Quad :=
  d.quads.filter fun q => q.subject = n ∧ q.predicate = p

theorem mem_statementsOf {d : Dataset} {p : Iri} {q : Quad} :
    q ∈ statementsOf d n p ↔ q ∈ d ∧ q.subject = n ∧ q.predicate = p := by
  simp [statementsOf, Dataset.mem_quads]

theorem nodup_statementsOf (d : Dataset) (n : Node) (p : Iri) : (statementsOf d n p).Nodup :=
  d.nodup.filter _

theorem map_object_statementsOf (d : Dataset) (n : Node) (p : Iri) :
    (statementsOf d n p).map (·.object) = d.objects n p := by
  unfold statementsOf Dataset.objects
  induction d.quads with
  | nil => rfl
  | cons q qs ih =>
    by_cases hq : q.subject = n ∧ q.predicate = p
    · simpa [hq] using ih
    · rw [List.filter_cons_of_neg (by simpa using hq), ih, List.filterMap_cons]
      simp only [if_neg hq]

/-- A violated constraint: the statement that gives a shape its property shape, the name of the
constraint, and the statement that gives the value, if the constraint is on a value. -/
structure Finding where
  property : Quad
  constraint : String
  value : Option Quad
  deriving DecidableEq

/-- A shape applies to a node: it targets the node, or the node is an instance of the shape or of a
class that it targets. -/
def Applies (o data : Dataset) (s : Iri) (n : Node) : Prop :=
  n.term ∈ o.objects (.iri s) Shacl.targetNode ∨ InstanceOf o data n s ∨
    ∃ c, Term.iri c ∈ o.objects (.iri s) Shacl.targetClass ∧ InstanceOf o data n c

/-- A statement gives a shape a property shape, which has an IRI for its path. -/
structure Declares (o : Dataset) (s : Iri) (q : Quad) (m : Node) (path : Iri) : Prop where
  mem : q ∈ o
  subject : q.subject = .iri s
  predicate : q.predicate = Shacl.property
  object : q.object = m.term
  path : Term.iri path ∈ o.objects m Shacl.path

/-- A shape is violated at a node. The values are what the data say of the node under the path. -/
inductive Violated (o : Dataset) (E : PatternEngine) (data : Dataset) (s : Iri) (n : Node) :
    Finding → Prop
  | minCount {q : Quad} {m : Node} {path : Iri} {l : Literal} {bound : ℕ}
      (hq : Declares o s q m path) (hl : Term.literal l ∈ o.objects m Shacl.minCount)
      (hbound : countOfText? l.text = some bound) (hlt : (data.objects n path).length < bound) :
      Violated o E data s n ⟨q, "sh:minCount", none⟩
  | maxCount {q : Quad} {m : Node} {path : Iri} {l : Literal} {bound : ℕ}
      (hq : Declares o s q m path) (hl : Term.literal l ∈ o.objects m Shacl.maxCount)
      (hbound : countOfText? l.text = some bound) (hlt : bound < (data.objects n path).length) :
      Violated o E data s n ⟨q, "sh:maxCount", none⟩
  | value {q x : Quad} {m : Node} {path : Iri} {c : ValueConstraint} (hq : Declares o s q m path)
      (hc : Asks o E m c) (hx : x ∈ data) (hsubject : x.subject = n)
      (hpredicate : x.predicate = path)
      (hbroken : ¬ Holds o data x.object c) :
      Violated o E data s n ⟨q, c.name, some x⟩

/-- The message on a violated constraint: that of the property shape, or else that of the
constraint. -/
inductive Says (o : Dataset) (E : PatternEngine) (m : Node) (path : Iri) : String → String → Prop
  | own {constraint : String} {l : Literal} (hl : Term.literal l ∈ o.objects m Shacl.message) :
      Says o E m path constraint l.text
  | minCount {l : Literal} {bound : ℕ} (hno : ∀ l, Term.literal l ∉ o.objects m Shacl.message)
      (hl : Term.literal l ∈ o.objects m Shacl.minCount)
      (hbound : countOfText? l.text = some bound) :
      Says o E m path "sh:minCount" ("Property " ++ path.written ++ " must have at least " ++
        Nat.repr bound ++ " value(s)")
  | maxCount {l : Literal} {bound : ℕ} (hno : ∀ l, Term.literal l ∉ o.objects m Shacl.message)
      (hl : Term.literal l ∈ o.objects m Shacl.maxCount)
      (hbound : countOfText? l.text = some bound) :
      Says o E m path "sh:maxCount" ("Property " ++ path.written ++ " must have at most " ++
        Nat.repr bound ++ " value(s)")
  | value {c : ValueConstraint} (hno : ∀ l, Term.literal l ∉ o.objects m Shacl.message)
      (hc : Asks o E m c) : Says o E m path c.name c.message

/-- The severity of a violated constraint: that of the property shape, or else that of its shape. -/
inductive GradedAs (o : Dataset) (m : Node) (shape : Severity) : Severity → Prop
  | own {i : Iri} (hi : Term.iri i ∈ o.objects m Shacl.severity) :
      GradedAs o m shape (Severity.ofIri i)
  | shape (hno : ∀ i, Term.iri i ∉ o.objects m Shacl.severity) : GradedAs o m shape shape

/-- A result reports a finding at a node. -/
inductive Reports (o : Dataset) (E : PatternEngine) (s : NodeShape) (n : Node) :
    Finding → Result → Prop
  | intro {f : Finding} {m : Node} {path : Iri} {message : String} {severity : Severity}
      (hq : Declares o s.id f.property m path) (hmessage : Says o E m path f.constraint message)
      (hseverity : GradedAs o m s.severity severity) :
      Reports o E s n f ⟨nodeLabel n, some path.text, f.value.map fun x => termLabel x.object,
        message, severity, s.id.text, some f.constraint⟩

/-- There is one result for each finding of a kind, and no other result. -/
def OnePer (R : Finding → Result → Prop) (F : Finding → Prop) (rs : List Result) : Prop :=
  ∃ fs : List Finding, fs.Nodup ∧ (∀ f, f ∈ fs ↔ F f) ∧ List.Forall₂ R fs rs

namespace OnePer

variable {R : Finding → Result → Prop} {F G : Finding → Prop} {rs rs' : List Result}

theorem congr (h : OnePer R F rs) (hiff : ∀ f, F f ↔ G f) : OnePer R G rs := by
  obtain ⟨fs, hnodup, hmem, hall⟩ := h
  exact ⟨fs, hnodup, fun f => (hmem f).trans (hiff f), hall⟩

theorem nil (h : ∀ f, ¬ F f) : OnePer R F [] :=
  ⟨[], List.nodup_nil, by simpa using h, .nil⟩

theorem singleton {f : Finding} {r : Result} (h : R f r) : OnePer R (· = f) [r] :=
  ⟨[f], List.nodup_singleton f, by simp, .cons h .nil⟩

theorem append (h : OnePer R F rs) (h' : OnePer R G rs') (hdisjoint : ∀ f, F f → ¬ G f) :
    OnePer R (fun f => F f ∨ G f) (rs ++ rs') := by
  obtain ⟨fs, hnodup, hmem, hall⟩ := h
  obtain ⟨gs, hnodup', hmem', hall'⟩ := h'
  refine ⟨fs ++ gs, ?_, ?_, List.rel_append hall hall'⟩
  · rw [List.nodup_append']
    refine ⟨hnodup, hnodup', ?_⟩
    intro f hf hg
    exact hdisjoint f ((hmem f).1 hf) ((hmem' f).1 hg)
  · intro f
    rw [List.mem_append, hmem f, hmem' f]

theorem flatMap {ι : Type} {xs : List ι} (hxs : xs.Nodup) {F : ι → Finding → Prop}
    {results : ι → List Result} (h : ∀ x ∈ xs, OnePer R (F x) (results x))
    (hdisjoint : ∀ x ∈ xs, ∀ y ∈ xs, ∀ f, F x f → F y f → x = y) :
    OnePer R (fun f => ∃ x ∈ xs, F x f) (xs.flatMap results) := by
  induction xs with
  | nil => exact nil (by simp)
  | cons x xs ih =>
    rw [List.nodup_cons] at hxs
    rw [List.flatMap_cons]
    have hrest : OnePer R (fun f => ∃ y ∈ xs, F y f) (xs.flatMap results) := by
      apply ih hxs.2
      · intro y hy
        exact h y (List.mem_cons_of_mem x hy)
      · intro y hy z hz
        exact hdisjoint y (List.mem_cons_of_mem x hy) z (List.mem_cons_of_mem x hz)
    refine ((h x List.mem_cons_self).append hrest ?_).congr ?_
    · rintro f hf ⟨y, hy, hfy⟩
      have heq := hdisjoint x List.mem_cons_self y (List.mem_cons_of_mem x hy) f hf hfy
      exact hxs.1 (heq ▸ hy)
    · intro f
      simp

/-- An optional bound gives one result if it is there and broken. -/
theorem bound {b : Option ℕ} {broken : ℕ → Bool} {result : ℕ → Result} {f : Finding}
    (h : ∀ k, b = some k → broken k = true → R f (result k)) :
    OnePer R (fun g => g = f ∧ ∃ k, b = some k ∧ broken k = true)
      ((b.toList.filter broken).map result) := by
  cases b with
  | none => exact nil (by simp)
  | some k =>
    by_cases hk : broken k = true
    · have hlist : ((some k).toList.filter broken).map result = [result k] := by simp [hk]
      rw [hlist]
      exact (singleton (h k rfl hk)).congr (by simp [hk])
    · have hlist : ((some k).toList.filter broken).map result = [] := by simp [hk]
      rw [hlist]
      exact nil (by simp [hk])

end OnePer

end BuildingModel.Validation
