import BuildingModel.Proofs.Validation.Instance
import BuildingModel.Validation.Check
import Mathlib.Tactic

/-!
# What constraints mean

A constraint holds of a value or does not, by the types of nodes and the texts of literals. The
checks decide this whatever has been looked up before.
-/
namespace BuildingModel.Validation

open BuildingModel.Rdf BuildingModel.Number

variable {o data : Dataset} {v : Term}

/-- A value is a literal of a datatype. -/
def OfDatatype (v : Term) (d : Iri) : Prop :=
  ∃ l, v = .literal l ∧ l.datatype = d

/-- A value is a node that is an instance of a class. -/
def NodeOf (o data : Dataset) (v : Term) (c : Iri) : Prop :=
  ∃ n : Node, v = n.term ∧ InstanceOf o data n c

/-- A value meets all that an alternative asks for, if it asks for anything. -/
structure Meets (o data : Dataset) (a : Alternative) (v : Term) : Prop where
  something : a.class? ≠ none ∨ a.datatype? ≠ none
  ofClass : ∀ c, a.class? = some c → NodeOf o data v c
  ofDatatype : ∀ d, a.datatype? = some d → OfDatatype v d

/-- If a value is a literal, its text is as asked for. -/
def TextIs (v : Term) (P : String → Prop) : Prop :=
  ∀ l, v = .literal l → P l.text

/-- A constraint holds of a value. -/
def Holds (o data : Dataset) (v : Term) : ValueConstraint → Prop
  | .datatype d => OfDatatype v d
  | .class c => NodeOf o data v c
  | .alternatives options => ∃ a ∈ options, Meets o data a v
  | .pattern p => TextIs v fun t => p.occursIn t = true
  | .minLength n => TextIs v fun t => n ≤ t.length
  | .maxLength n => TextIs v fun t => t.length ≤ n
  | .minInclusive x => TextIs v fun t => ∃ y, numberOfText? t = some y ∧ y.lt x = false
  | .maxInclusive x => TextIs v fun t => ∃ y, numberOfText? t = some y ∧ x.lt y = false
  | .members allowed => v ∈ allowed

theorem hasDatatype_iff {d : Iri} : hasDatatype v d = true ↔ OfDatatype v d := by
  cases v with
  | iri i => simp [hasDatatype, OfDatatype, Term.literal?]
  | blank b => simp [hasDatatype, OfDatatype, Term.literal?]
  | literal l => simp [hasDatatype, OfDatatype, Term.literal?]

theorem literalSatisfies_iff {test : String → Bool} {P : String → Prop}
    (h : ∀ t, test t = true ↔ P t) : literalSatisfies v test = true ↔ TextIs v P := by
  cases v with
  | iri i => simp [literalSatisfies, TextIs, Term.literal?]
  | blank b => simp [literalSatisfies, TextIs, Term.literal?]
  | literal l => simp [literalSatisfies, TextIs, Term.literal?, h]

theorem isInstanceTerm_iff {c : Iri} {m : ClassMemo o} :
    ((isInstanceTerm data v c : Lookup o Bool) m).1 = true ↔ NodeOf o data v c := by
  unfold isInstanceTerm NodeOf
  cases h : v.node? with
  | none =>
    simp only [pure_fst, Bool.false_eq_true, false_iff]
    rintro ⟨n, rfl, -⟩
    simp at h
  | some n =>
    obtain rfl := Term.node?_eq_some_iff.1 h
    simp only [isInstance_iff]
    constructor
    · intro hn
      exact ⟨n, rfl, hn⟩
    · intro ⟨n', heq, hn⟩
      rwa [Node.term_injective heq]

theorem Alternative.satisfiedBy_iff {a : Alternative} {m : ClassMemo o} :
    ((a.satisfiedBy data v : Lookup o Bool) m).1 = true ↔ Meets o data a v := by
  obtain ⟨class?, datatype?⟩ := a
  unfold satisfiedBy
  cases class? with
  | none =>
    cases datatype? with
    | none =>
      simp only [Option.any_none, pure_fst, Bool.false_eq_true, false_iff]
      intro h
      simpa using h.something
    | some d =>
      simp only [Option.any_some, pure_fst, hasDatatype_iff]
      constructor
      · intro hd
        exact ⟨by simp, by simp, by simpa using hd⟩
      · intro h
        exact h.ofDatatype d rfl
  | some c =>
    simp only [bind_fst]
    by_cases hc : NodeOf o data v c
    · rw [if_pos (isInstanceTerm_iff.2 hc), pure_fst]
      cases datatype? with
      | none =>
        simp only [Option.all_none, true_iff]
        exact ⟨by simp, by simpa using hc, by simp⟩
      | some d =>
        simp only [Option.all_some, hasDatatype_iff]
        constructor
        · intro hd
          exact ⟨by simp, by simpa using hc, by simpa using hd⟩
        · intro h
          exact h.ofDatatype d rfl
    · rw [if_neg (fun h => hc (isInstanceTerm_iff.1 h)), pure_fst]
      simp only [Bool.false_eq_true, false_iff]
      intro h
      exact hc (h.ofClass c rfl)

theorem Alternative.someSatisfiedBy_iff {options : List Alternative} {m : ClassMemo o} :
    ((someSatisfiedBy data v options : Lookup o Bool) m).1 = true ↔
      ∃ a ∈ options, Meets o data a v := by
  induction options generalizing m with
  | nil => simp [someSatisfiedBy]
  | cons a options ih =>
    rw [someSatisfiedBy, bind_fst]
    by_cases ha : Meets o data a v
    · rw [if_pos (satisfiedBy_iff.2 ha), pure_fst]
      simp [ha]
    · rw [if_neg (fun h => ha (satisfiedBy_iff.1 h)), ih]
      simp [ha]

theorem ValueConstraint.satisfiedBy_iff {c : ValueConstraint} {m : ClassMemo o} :
    ((c.satisfiedBy data v : Lookup o Bool) m).1 = true ↔ Holds o data v c := by
  cases c with
  | datatype d => exact hasDatatype_iff
  | «class» c => exact isInstanceTerm_iff
  | alternatives options => exact Alternative.someSatisfiedBy_iff
  | pattern p =>
    rw [satisfiedBy, pure_fst, Holds]
    exact literalSatisfies_iff fun t => Iff.rfl
  | minLength n =>
    rw [satisfiedBy, pure_fst, Holds]
    apply literalSatisfies_iff
    intro t
    rw [decide_eq_true_iff]
  | maxLength n =>
    rw [satisfiedBy, pure_fst, Holds]
    apply literalSatisfies_iff
    intro t
    rw [decide_eq_true_iff]
  | minInclusive x =>
    rw [satisfiedBy, pure_fst, Holds]
    apply literalSatisfies_iff
    intro t
    simp [Option.any_eq_true]
  | maxInclusive x =>
    rw [satisfiedBy, pure_fst, Holds]
    apply literalSatisfies_iff
    intro t
    simp [Option.any_eq_true]
  | members allowed =>
    rw [satisfiedBy, pure_fst, Holds]
    exact List.contains_iff_mem

end BuildingModel.Validation
