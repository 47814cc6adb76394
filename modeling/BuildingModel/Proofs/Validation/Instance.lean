import BuildingModel.Proofs.Closure.Layers
import BuildingModel.Validation.ClassMemo

/-!
# Instances of classes

A node is an instance of the classes that subclass statements lead to from its types. What has been
looked up before makes no difference to the answer.
-/
namespace BuildingModel.Validation

open BuildingModel.Rdf

variable {o data : Dataset} {α β : Type}

/-- Subclass statements lead from a class to another one, or it is the same. -/
def Below (o : Dataset) : Iri → Iri → Prop :=
  Relation.ReflTransGen fun a b => Term.iri b ∈ o.objects (.iri a) Vocabulary.subClassOf

/-- A node has a type: in the data, or in the ontology where it has none in the data. -/
def Typed (o data : Dataset) (n : Node) (t : Term) : Prop :=
  t ∈ data.objects n Vocabulary.type ∨
    data.objects n Vocabulary.type = [] ∧ t ∈ o.objects n Vocabulary.type

/-- A node has a type that is a class or below it. -/
def InstanceOf (o data : Dataset) (n : Node) (c : Iri) : Prop :=
  ∃ t, Typed o data n (.iri t) ∧ Below o t c

theorem mem_superclasses_iff {a c : Iri} : a ∈ superclasses o c ↔ Below o c a := by
  have hstep : (fun a b => b ∈ declaredParents o a) =
      fun a b => Term.iri b ∈ o.objects (.iri a) Vocabulary.subClassOf := by
    funext a b
    exact propext mem_declaredParents
  rw [superclasses, Steps.mem_reached_iff, LeadsTo, declaredSteps, hstep, Below]

theorem mem_typesOf_iff {n : Node} {t : Term} : t ∈ typesOf o data n ↔ Typed o data n t := by
  unfold typesOf Typed
  by_cases h : data.objects n Vocabulary.type = []
  · simp [h]
  · simp [h]

@[simp] theorem pure_fst (a : α) (m : ClassMemo o) : ((pure a : Lookup o α) m).1 = a := rfl

@[simp] theorem bind_fst (x : Lookup o α) (f : α → Lookup o β) (m : ClassMemo o) :
    ((x >>= f) m).1 = (f (x m).1 (x m).2).1 := rfl

theorem someBelow_iff {c : Iri} {ts : List Term} {m : ClassMemo o} :
    ((someBelow c ts : Lookup o Bool) m).1 = true ↔ ∃ t, Term.iri t ∈ ts ∧ Below o t c := by
  induction ts generalizing m with
  | nil => simp [someBelow]
  | cons t ts ih =>
    cases t with
    | iri t =>
      rw [someBelow]
      by_cases htc : t = c
      · subst htc
        simp only [if_true, pure_fst, true_iff]
        exact ⟨t, List.mem_cons_self, .refl⟩
      · rw [if_neg htc, bind_fst, lookUp_fst]
        by_cases habove : c ∈ superclasses o t
        · simp only [habove, if_true, pure_fst, true_iff]
          exact ⟨t, List.mem_cons_self, mem_superclasses_iff.1 habove⟩
        · rw [if_neg habove, ih]
          constructor
          · intro ⟨x, hx, hbelow⟩
            exact ⟨x, List.mem_cons_of_mem _ hx, hbelow⟩
          · intro ⟨x, hx, hbelow⟩
            rcases List.mem_cons.1 hx with hx | hx
            · cases hx
              exact absurd (mem_superclasses_iff.2 hbelow) habove
            · exact ⟨x, hx, hbelow⟩
    | blank b =>
      rw [someBelow, ih]
      · simp
      · simp
    | literal l =>
      rw [someBelow, ih]
      · simp
      · simp

theorem isInstance_iff {n : Node} {c : Iri} {m : ClassMemo o} :
    ((isInstance data n c : Lookup o Bool) m).1 = true ↔ InstanceOf o data n c := by
  rw [isInstance, someBelow_iff]
  simp only [mem_typesOf_iff]
  rfl

end BuildingModel.Validation
