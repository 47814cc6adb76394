import BuildingModel.Proofs.Validation.Instance

/-!
# One memo for many questions

A validation run puts all its questions about classes to one memo. Each question adds to what is
remembered and takes nothing away, and whatever has been asked before, the superclasses of a class
are those that subclass statements lead to.
-/
namespace BuildingModel.Validation

open BuildingModel.Rdf

/-- A question about classes that is put to a memo. -/
inductive ClassQuestion
  | superclasses (c : Iri)
  | isInstance (data : Dataset) (n : Node) (c : Iri)

variable {o data : Dataset} {b c : Iri} {bs : List Iri} {m : ClassMemo o}

namespace ClassMemo

/-- The memo after a question. -/
def asked (m : ClassMemo o) : ClassQuestion → ClassMemo o
  | .superclasses c => ((lookUp c : Lookup o (List Iri)) m).2
  | .isInstance data n c => ((Validation.isInstance data n c : Lookup o Bool) m).2

/-- The memo after some questions, of which the first was put to the memo of no look-ups. -/
def afterAll (o : Dataset) (qs : List ClassQuestion) : ClassMemo o :=
  qs.foldl asked (.empty o)

theorem remembered?_remember {found : List Iri} (hfound : found = superclasses o c) :
    (m.remember c found hfound).remembered? b = if c = b then some found else m.remembered? b := by
  unfold remembered? remember
  by_cases h : c = b
  · simp [h]
  · simp [h]

end ClassMemo

/-! ## What a question leaves behind -/

@[simp] theorem pure_snd {α : Type} (a : α) (m : ClassMemo o) :
    ((pure a : Lookup o α) m).2 = m := rfl

@[simp] theorem bind_snd {α β : Type} (x : Lookup o α) (f : α → Lookup o β) (m : ClassMemo o) :
    ((x >>= f) m).2 = (f (x m).1 (x m).2).2 := rfl

/-- A class that has been looked up is remembered. -/
theorem remembered?_lookUp :
    ((lookUp c : Lookup o (List Iri)) m).2.remembered? c = some (superclasses o c) := by
  unfold lookUp
  cases h : m.remembered? c with
  | none => simp [ClassMemo.remembered?_remember]
  | some cs => simp [h, ClassMemo.eq_superclasses_of_remembered? h]

theorem keeps_lookUp (h : m.remembered? b = some bs) :
    ((lookUp c : Lookup o (List Iri)) m).2.remembered? b = some bs := by
  by_cases hcb : c = b
  · rw [hcb, remembered?_lookUp, ClassMemo.eq_superclasses_of_remembered? h]
  · unfold lookUp
    cases hc : m.remembered? c with
    | none =>
      simp only [ClassMemo.remembered?_remember]
      rw [if_neg hcb, h]
    | some cs => exact h

/-- A test stops at the first type that is below the class. Each look-up on the way keeps what is
remembered. -/
theorem keeps_someBelow {ts : List Term} (h : m.remembered? b = some bs) :
    ((someBelow c ts : Lookup o Bool) m).2.remembered? b = some bs := by
  induction ts generalizing m with
  | nil => exact h
  | cons t ts ih =>
    cases t with
    | iri t =>
      rw [someBelow]
      by_cases htc : t = c
      · rw [if_pos htc]
        exact h
      · rw [if_neg htc, bind_snd, lookUp_fst]
        by_cases habove : c ∈ superclasses o t
        · rw [if_pos habove]
          exact keeps_lookUp h
        · rw [if_neg habove]
          exact ih (keeps_lookUp h)
    | blank x =>
      rw [someBelow]
      · exact ih h
      · simp
    | literal l =>
      rw [someBelow]
      · exact ih h
      · simp

/-- A question takes nothing away from what is remembered. -/
theorem ClassMemo.keeps_asked {q : ClassQuestion} (h : m.remembered? b = some bs) :
    (m.asked q).remembered? b = some bs := by
  cases q with
  | superclasses c => exact keeps_lookUp h
  | isInstance data n c => exact keeps_someBelow h

/-- A class whose superclasses have been asked for is remembered, whatever was asked after it. -/
theorem ClassMemo.remembered?_afterAll {qs : List ClassQuestion} (hc : .superclasses c ∈ qs) :
    (afterAll o qs).remembered? c = some (Validation.superclasses o c) := by
  -- From the last question: it remembers the class itself, or keeps what the others left.
  induction qs using List.reverseRecOn with
  | nil => cases hc
  | append_singleton qs q ih =>
    have hlast : afterAll o (qs ++ [q]) = (afterAll o qs).asked q := by
      rw [afterAll, List.foldl_append]
      rfl
    rw [hlast]
    rcases List.mem_append.1 hc with hc | hc
    · exact keeps_asked (ih hc)
    · rw [← List.mem_singleton.1 hc]
      exact remembered?_lookUp

/-- Whatever was asked of a memo before, the superclasses of a class are exactly the classes that
some number of subclass statements leads to, each once, and the same as if nothing had been asked.
What is remembered is true of each class, and nothing that was asked for is forgotten. -/
theorem superclasses_after_questions (o : Dataset) (qs : List ClassQuestion) (c : Iri) :
    (∀ a, a ∈ ((lookUp c : Lookup o (List Iri)) (.afterAll o qs)).1 ↔
      Relation.ReflTransGen (fun x y => .iri y ∈ o.objects (.iri x) Vocabulary.subClassOf) c a) ∧
    ((lookUp c : Lookup o (List Iri)) (.afterAll o qs)).1.Nodup ∧
    ((lookUp c : Lookup o (List Iri)) (.afterAll o qs)).1 =
      ((lookUp c : Lookup o (List Iri)) (.empty o)).1 ∧
    (∀ b bs, (ClassMemo.afterAll o qs).remembered? b = some bs → ∀ a, a ∈ bs ↔ Below o b a) ∧
    ∀ b, .superclasses b ∈ qs →
      (ClassMemo.afterAll o qs).remembered? b =
        some ((lookUp b : Lookup o (List Iri)) (.empty o)).1 := by
  simp only [lookUp_fst]
  refine ⟨fun a => mem_superclasses_iff, Steps.nodup_reached _ _, trivial, ?_, ?_⟩
  · intro b bs hb a
    rw [ClassMemo.eq_superclasses_of_remembered? hb, mem_superclasses_iff]
  · intro b hb
    exact ClassMemo.remembered?_afterAll hb

end BuildingModel.Validation
