import BuildingModel.Rdf.Dataset
import BuildingModel.Rdf.Language
import BuildingModel.Rdf.Name
import Mathlib.Tactic

/-!
# Well-formed terms

A term is well-formed if its IRIs are absolute, its label can be read, its language tag is a tag in
lower case, and its datatype is given only where there is one. A dataset is well-formed if its terms
are.
-/
namespace BuildingModel.Rdf

/-- Whether a text may follow the first character of a label: its characters may be inside names,
and dots stand alone between them. -/
def Name.isLabelTail : List Char → Bool
  | [] => true
  | c :: cs => (if c = '.' then cs.head?.any isInner else isInner c) && isLabelTail cs

/-- Whether a text is a label: a letter or digit, and then what may follow it. -/
def Name.isLabel : List Char → Bool
  | [] => false
  | c :: cs => (isLetter c || c.isDigit) && isLabelTail cs

theorem Name.isLabelTail_of_isInner {cs : List Char} (h : ∀ c ∈ cs, isInner c = true) :
    isLabelTail cs = true := by
  induction cs with
  | nil => rfl
  | cons c cs ih =>
    obtain ⟨hc, hcs⟩ := List.forall_mem_cons.1 h
    have hdot : c ≠ '.' := by
      rintro rfl
      exact absurd hc (by decide)
    rw [isLabelTail, if_neg hdot, hc, ih hcs]
    rfl

/-- A node with a label that can be read. -/
def BlankNode.WellFormed (b : BlankNode) : Prop :=
  Name.isLabel b.label.toList = true

/-- A literal with a tag in lower case, or with a datatype other than that of plain texts. -/
def Literal.WellFormed : Literal → Prop
  | .plain _ => True
  | .tagged _ tag => Language.isTag tag.toList = true ∧ tag.toList.map Char.toLower = tag.toList
  | .typed _ d => d.WellFormed ∧ d ≠ stringDatatype

def Node.WellFormed : Node → Prop
  | .iri i => i.WellFormed
  | .blank b => b.WellFormed

def Term.WellFormed : Term → Prop
  | .iri i => i.WellFormed
  | .blank b => b.WellFormed
  | .literal l => l.WellFormed

structure Triple.WellFormed (t : Triple) : Prop where
  subject : t.subject.WellFormed
  predicate : t.predicate.WellFormed
  object : t.object.WellFormed

def Dataset.WellFormed (d : Dataset) : Prop :=
  ∀ q ∈ d.quads, q.toTriple.WellFormed

instance (b : BlankNode) : Decidable b.WellFormed :=
  inferInstanceAs (Decidable (_ = true))

instance : DecidablePred Literal.WellFormed
  | .plain _ => inferInstanceAs (Decidable True)
  | .tagged _ tag => inferInstanceAs (Decidable
      (Language.isTag tag.toList = true ∧ tag.toList.map Char.toLower = tag.toList))
  | .typed _ d => inferInstanceAs (Decidable (d.WellFormed ∧ d ≠ stringDatatype))

instance : DecidablePred Node.WellFormed
  | .iri i => inferInstanceAs (Decidable i.WellFormed)
  | .blank b => inferInstanceAs (Decidable b.WellFormed)

instance : DecidablePred Term.WellFormed
  | .iri i => inferInstanceAs (Decidable i.WellFormed)
  | .blank b => inferInstanceAs (Decidable b.WellFormed)
  | .literal l => inferInstanceAs (Decidable l.WellFormed)

instance (t : Triple) : Decidable t.WellFormed :=
  decidable_of_iff (t.subject.WellFormed ∧ t.predicate.WellFormed ∧ t.object.WellFormed)
    ⟨fun ⟨s, p, o⟩ => ⟨s, p, o⟩, fun h => ⟨h.subject, h.predicate, h.object⟩⟩

instance (d : Dataset) : Decidable d.WellFormed :=
  inferInstanceAs (Decidable (∀ q ∈ d.quads, _))

@[simp] theorem Node.wellFormed_term {n : Node} : n.term.WellFormed ↔ n.WellFormed := by
  cases n <;> rfl

/-- Texts with a well-formed datatype make well-formed literals. -/
theorem Literal.wellFormed_ofTyped {d : Iri} (h : d.WellFormed) (text : String) :
    (ofTyped text d).WellFormed := by
  unfold ofTyped
  split
  · trivial
  · exact ⟨h, ‹_›⟩

namespace Dataset

variable {d : Dataset} {n : Node} {p : Iri} {o : Term}

theorem WellFormed.statement (hd : d.WellFormed) (h : (⟨n, p, o⟩ : Triple).inDefault ∈ d) :
    n.WellFormed ∧ o.WellFormed :=
  ⟨(hd _ h).subject, (hd _ h).object⟩

end Dataset

end BuildingModel.Rdf
