import BuildingModel.Closure
import BuildingModel.Rdf.Dataset

/-!
# Class tests

The superclasses of a class are all classes that subclass statements lead to. They are looked up
once and remembered; a memo holds nothing but what a look-up gives.
-/
namespace BuildingModel.Validation

open BuildingModel.Rdf

/-- The classes that a class is declared an immediate subclass of, in any graph. -/
def declaredParents (o : Dataset) (c : Iri) : List Iri :=
  (o.objects (.iri c) Vocabulary.subClassOf).filterMap Term.iri?

theorem mem_declaredParents {o : Dataset} {a b : Iri} :
    b ∈ declaredParents o a ↔ Term.iri b ∈ o.objects (.iri a) Vocabulary.subClassOf := by
  simp [declaredParents, Term.iri?_eq_some_iff]

/-- The steps from classes to those that they are declared immediate subclasses of. -/
def declaredSteps (o : Dataset) : Steps Iri where
  next := declaredParents o
  targets := o.quads.filterMap fun q => q.object.iri?
  mem_targets := by
    intro a b hb
    obtain ⟨g, hq⟩ := Dataset.mem_objects.1 (mem_declaredParents.1 hb)
    exact List.mem_filterMap.2 ⟨_, Dataset.mem_quads.2 hq, rfl⟩

/-- A class and all classes above it. -/
def superclasses (o : Dataset) (c : Iri) : List Iri :=
  (declaredSteps o).reached c

/-- The superclasses of an ontology that have been looked up. -/
structure ClassMemo (o : Dataset) where
  entries : List (Iri × List Iri)
  sound : ∀ e ∈ entries, e.2 = superclasses o e.1

namespace ClassMemo

variable {o : Dataset}

def empty (o : Dataset) : ClassMemo o := ⟨[], by simp⟩

def remembered? (m : ClassMemo o) (c : Iri) : Option (List Iri) :=
  (m.entries.find? (·.1 = c)).map Prod.snd

/-- Remembers what the search for the superclasses of a class has found. -/
def remember (m : ClassMemo o) (c : Iri) (found : List Iri) (hfound : found = superclasses o c) :
    ClassMemo o :=
  ⟨(c, found) :: m.entries, List.forall_mem_cons.2 ⟨hfound, m.sound⟩⟩

theorem eq_superclasses_of_remembered? {m : ClassMemo o} {c : Iri} {cs : List Iri}
    (h : m.remembered? c = some cs) : cs = superclasses o c := by
  unfold remembered? at h
  obtain ⟨e, he, rfl⟩ := Option.map_eq_some_iff.1 h
  have hc : e.1 = c := by simpa using List.find?_some he
  rw [← hc]
  exact m.sound e (List.mem_of_find?_eq_some he)

end ClassMemo

/-- A computation that may look up superclasses. -/
abbrev Lookup (o : Dataset) := StateM (ClassMemo o)

variable {o : Dataset}

def lookUp (c : Iri) : Lookup o (List Iri) := fun m =>
  match m.remembered? c with
  | some cs => (cs, m)
  | none =>
    let found := superclasses o c
    (found, m.remember c found rfl)

/-- A look-up gives the superclasses, whatever is remembered. -/
@[simp] theorem lookUp_fst (c : Iri) (m : ClassMemo o) :
    ((lookUp c : Lookup o (List Iri)) m).1 = superclasses o c := by
  unfold lookUp
  split
  · rename_i h; exact ClassMemo.eq_superclasses_of_remembered? h
  · rfl

/-- Whether one of some types is a class or below it. -/
def someBelow (c : Iri) : List Term → Lookup o Bool
  | [] => return false
  | .iri t :: ts => do
    if t = c then return true
    let above ← lookUp t
    if c ∈ above then return true else someBelow c ts
  | _ :: ts => someBelow c ts

/-- The types of a node in the data, or, if it has none there, in the ontology. -/
def typesOf (o data : Dataset) (n : Node) : List Term :=
  let own := data.objects n Vocabulary.type
  if own.isEmpty then o.objects n Vocabulary.type else own

def isInstance (data : Dataset) (n : Node) (c : Iri) : Lookup o Bool :=
  someBelow c (typesOf o data n)

end BuildingModel.Validation
