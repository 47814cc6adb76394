import BuildingModel.Rdf.Iri
import Mathlib.Data.List.DropRight
import Mathlib.Tactic

/-!
# Local names

The local name of a text is its last part: what stands after the last separator, if anything does. A
text without such a part is its own local name. So a name without separators is found again behind
every namespace that ends in a separator, and a local name is its own local name.
-/
namespace BuildingModel.Rdf

/-- No character of a text is a separator. -/
def Unseparated (cs : List Char) : Prop := ∀ c ∈ cs, isSeparator c = false

instance (cs : List Char) : Decidable (Unseparated cs) :=
  inferInstanceAs (Decidable (∀ c ∈ cs, isSeparator c = false))

/-- A text ends in a part that stands after its last separator. -/
structure EndsIn (text last : List Char) : Prop where
  ne_nil : last ≠ []
  unseparated : Unseparated last
  split : ∃ front sep, text = front ++ sep :: last ∧ isSeparator sep = true

/-- What stands at the end of a text without separators in it, which may be nothing. -/
def tailOf (cs : List Char) : List Char := cs.rtakeWhile (!isSeparator ·)

variable {text last cs : List Char}

theorem localChars_eq (cs : List Char) :
    localChars cs = if tailOf cs = [] then cs else tailOf cs := by
  change (if (tailOf cs).isEmpty then cs else tailOf cs) = _
  by_cases hnil : tailOf cs = []
  · simp [hnil]
  · simp [hnil]

theorem unseparated_tailOf (cs : List Char) : Unseparated (tailOf cs) := by
  intro c hc
  have hplain := List.mem_rtakeWhile_imp hc
  simpa using hplain

theorem tailOf_of_unseparated (hcs : Unseparated cs) : tailOf cs = cs := by
  rw [tailOf, List.rtakeWhile_eq_self_iff]
  intro c hc
  simp [hcs c hc]

theorem tailOf_append_cons {sep : Char} (front : List Char) (hsep : isSeparator sep = true)
    (hlast : Unseparated last) : tailOf (front ++ sep :: last) = last := by
  induction last using List.reverseRecOn with
  | nil => simp [tailOf, hsep]
  | append_singleton cs c ih =>
    have hc : isSeparator c = false := hlast c (by simp)
    have hcs : tailOf (front ++ sep :: cs) = cs :=
      ih fun a ha => hlast a (List.mem_append_left _ ha)
    have hsplit : front ++ sep :: (cs ++ [c]) = (front ++ sep :: cs) ++ [c] := by simp
    rw [tailOf] at hcs ⊢
    rw [hsplit, List.rtakeWhile_concat_pos _ _ _ (by simp [hc]), hcs]

/-- A text is its tail, or a separator stands before the tail. -/
theorem tailOf_eq_self_or (cs : List Char) :
    tailOf cs = cs ∨ ∃ front sep, cs = front ++ sep :: tailOf cs ∧ isSeparator sep = true := by
  have hsplit : cs.rdropWhile (!isSeparator ·) ++ tailOf cs = cs :=
    List.rdropWhile_append_rtakeWhile
  by_cases hfront : cs.rdropWhile (!isSeparator ·) = []
  · rw [hfront, List.nil_append] at hsplit
    exact .inl hsplit
  · have hlast := List.rdropWhile_last_not (!isSeparator ·) cs hfront
    obtain ⟨front, sep, hconcat⟩ := (List.eq_nil_or_concat _).resolve_left hfront
    rw [List.concat_eq_append] at hconcat
    have hsep : isSeparator sep = true := by simpa [hconcat] using hlast
    refine .inr ⟨front, sep, ?_, hsep⟩
    calc
      cs = (front ++ [sep]) ++ tailOf cs := by rw [← hconcat, hsplit]
      _ = front ++ sep :: tailOf cs := by rw [List.append_assoc, List.singleton_append]

theorem EndsIn.localChars_eq (h : EndsIn text last) : localChars text = last := by
  obtain ⟨front, sep, rfl, hsep⟩ := h.split
  rw [Rdf.localChars_eq, tailOf_append_cons front hsep h.unseparated, if_neg h.ne_nil]

theorem localChars_eq_self_or_endsIn (cs : List Char) :
    localChars cs = cs ∨ EndsIn cs (localChars cs) := by
  rw [localChars_eq]
  by_cases hnil : tailOf cs = []
  · rw [if_pos hnil]
    exact .inl rfl
  · rw [if_neg hnil]
    rcases tailOf_eq_self_or cs with hself | hsplit
    · exact .inl hself
    · exact .inr ⟨hnil, unseparated_tailOf cs, hsplit⟩

theorem localChars_eq_iff :
    localChars text = last ↔ EndsIn text last ∨ last = text ∧ ∀ part, ¬ EndsIn text part := by
  constructor
  · intro h
    subst h
    by_cases hends : ∃ part, EndsIn text part
    · obtain ⟨part, hpart⟩ := hends
      exact .inl (hpart.localChars_eq.symm ▸ hpart)
    · have hself := (localChars_eq_self_or_endsIn text).resolve_right fun h => hends ⟨_, h⟩
      exact .inr ⟨hself, not_exists.1 hends⟩
  · intro h
    rcases h with hends | ⟨rfl, hnone⟩
    · exact hends.localChars_eq
    · exact (localChars_eq_self_or_endsIn last).resolve_right (hnone _)

theorem localChars_localChars (cs : List Char) : localChars (localChars cs) = localChars cs := by
  rcases localChars_eq_self_or_endsIn cs with hself | hends
  · rw [hself, hself]
  · have htail := tailOf_of_unseparated hends.unseparated
    rw [localChars_eq (localChars cs), htail, ite_self]

/-- The local name is the part in which a text ends, or the whole text if it ends in none. -/
theorem localName_eq_iff {text last : String} : localName text = last ↔
    EndsIn text.toList last.toList ∨ last = text ∧ ∀ part, ¬ EndsIn text.toList part := by
  have hchars : localName text = last ↔ localChars text.toList = last.toList := by
    constructor
    · intro h
      rw [← h, localName, String.toList_ofList]
    · intro h
      rw [localName, h, String.ofList_toList]
  rw [hchars, localChars_eq_iff, String.toList_inj]

/-- Taking the local name of a local name changes nothing. -/
theorem localName_localName (text : String) : localName (localName text) = localName text := by
  rw [localName, localName, String.toList_ofList, localChars_localChars]

/-- A name without separators is the local name behind every text that ends in a separator. -/
theorem localName_append {ns name : String}
    (hns : ∃ sep, ns.toList.getLast? = some sep ∧ isSeparator sep = true) (hne : name ≠ "")
    (hname : Unseparated name.toList) : localName (ns ++ name) = name := by
  obtain ⟨sep, hlast, hsep⟩ := hns
  have hends : EndsIn (ns ++ name).toList name.toList := by
    refine ⟨by simpa using hne, hname, ns.toList.dropLast, sep, ?_, hsep⟩
    have hfront : ns.toList.dropLast ++ [sep] = ns.toList :=
      List.dropLast_append_getLast? sep hlast
    rw [String.toList_append, ← hfront]
    simp
  rw [localName, hends.localChars_eq, String.ofList_toList]

example : localName "http://qudt.org/vocab/unit/M2" = "M2" := by decide

end BuildingModel.Rdf
