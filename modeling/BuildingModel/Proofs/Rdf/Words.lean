import BuildingModel.Proofs.Rdf.LanguageTag
import BuildingModel.Proofs.Rdf.WellFormed
import BuildingModel.Rdf.NTriples.Writer

/-!
# Words that are read back

What is written for an IRI, a label, a text and a language tag is scanned as one token each, with
what comes after left to be scanned. A text is escaped character by character, and each escape
stands for its character again.
-/
namespace BuildingModel.Rdf

variable {cs rest : List Char}

namespace Token

/-! ## Labels -/

theorem getLast?_of_isLabelTail (h : Name.isLabelTail cs = true) : cs.getLast? ≠ some '.' := by
  induction cs with
  | nil => simp
  | cons c cs ih =>
    obtain ⟨hc, hcs⟩ := Bool.and_eq_true_iff.1 h
    cases cs with
    | nil =>
      intro hdot
      rw [List.getLast?_singleton, Option.some.injEq] at hdot
      rw [if_pos hdot] at hc
      cases hc
    | cons d cs => simpa only [List.getLast?_cons_cons] using ih hcs

theorem dropFinalDots_of_isLabelTail (h : Name.isLabelTail cs = true) :
    Name.dropFinalDots cs = cs := by
  have hlast := getLast?_of_isLabelTail h
  rw [← List.head?_reverse] at hlast
  unfold Name.dropFinalDots
  cases hr : cs.reverse with
  | nil => simpa using hr.symm
  | cons c ds =>
    rw [hr] at hlast
    have hc : (c == '.') = false := by simpa using hlast
    rw [List.dropWhile_cons, hc, if_neg (by simp), ← hr, List.reverse_reverse]

/-- A dot before another one ends what is inside a label, and any other character goes on. -/
theorem labelPart_cons {c : Char} (hc : (Name.isInner c || c == '.') = true)
    (hdots : c = '.' → cs.head? ≠ some '.') :
    labelPart (c :: cs) = (c :: (labelPart cs).1, (labelPart cs).2) := by
  rw [labelPart.eq_def]
  split
  · rename_i heq
    cases heq
    exact absurd rfl (hdots rfl)
  · rename_i heq
    cases heq
    rw [if_pos hc]
  · rename_i heq
    cases heq

theorem inside_of_isLabelTail (h : Name.isLabelTail cs = true) :
    ∀ c ∈ cs, (Name.isInner c || c == '.') = true := by
  induction cs with
  | nil => simp
  | cons c cs ih =>
    obtain ⟨hc, hcs⟩ := Bool.and_eq_true_iff.1 h
    refine List.forall_mem_cons.2 ⟨?_, ih hcs⟩
    by_cases hdot : c = '.'
    · simp [hdot]
    · rw [if_neg hdot] at hc
      simp [hc]

theorem labelPart_append (h : Name.isLabelTail cs = true) :
    labelPart (cs ++ ' ' :: rest) = (cs, ' ' :: rest) := by
  induction cs with
  | nil => rfl
  | cons c cs ih =>
    have hinside := inside_of_isLabelTail h c List.mem_cons_self
    obtain ⟨hc, hcs⟩ := Bool.and_eq_true_iff.1 h
    rw [List.cons_append, labelPart_cons hinside, ih hcs]
    rintro rfl
    cases cs with
    | nil => simp
    | cons d cs =>
      intro hdot
      have hinner : Name.isInner '.' = false := by decide
      rw [List.cons_append, List.head?_cons, Option.some.injEq] at hdot
      rw [if_pos rfl, hdot, List.head?_cons, Option.any_some, hinner] at hc
      cases hc

/-- A label is read up to the blank after it. -/
theorem blankLabel?_append {b : BlankNode} (h : b.WellFormed) :
    blankLabel? (b.label.toList ++ ' ' :: rest) = some (.label b.label, ' ' :: rest) := by
  cases hlabel : b.label.toList with
  | nil =>
    rw [BlankNode.WellFormed, hlabel] at h
    cases h
  | cons c cs =>
    rw [BlankNode.WellFormed, hlabel] at h
    obtain ⟨hc, hcs⟩ := Bool.and_eq_true_iff.1 h
    rw [List.cons_append, blankLabel?, if_pos hc]
    simp only [labelPart_append hcs, dropFinalDots_of_isLabelTail hcs, List.drop_length,
      List.nil_append, ← hlabel, String.ofList_toList]

/-! ## Texts -/

def isLineBreak (c : Char) : Bool :=
  c == '\n' || c == '\r'

/-- Characters of which none ends a line. -/
def NoLineBreak (cs : List Char) : Prop :=
  ∀ c ∈ cs, isLineBreak c = false

instance (cs : List Char) : Decidable (NoLineBreak cs) :=
  List.decidableBAll (isLineBreak · = false) cs

/-- The characters that are written by their number have four digits that give it back. -/
theorem exists_hexDigits4 {c : Char} (h : isNumbered c = true) : ∃ x y z w,
    hexDigits4 c.toNat = [x, y, z, w] ∧ hexNumber? [x, y, z, w] = some c.toNat ∧
      NoLineBreak [x, y, z, w] := by
  have hsmall : ∀ n < 0x20, (hexDigits4 n).length = 4 ∧ hexNumber? (hexDigits4 n) = some n ∧
      NoLineBreak (hexDigits4 n) := by
    decide
  have hread : (hexDigits4 c.toNat).length = 4 ∧ hexNumber? (hexDigits4 c.toNat) = some c.toNat ∧
      NoLineBreak (hexDigits4 c.toNat) := by
    simp only [isNumbered, Bool.or_eq_true, decide_eq_true_eq, beq_iff_eq] at h
    rcases h with ((h | h) | h) | h
    · exact hsmall _ h
    · rw [h]
      decide
    · rw [h]
      decide
    · rw [h]
      decide
  obtain ⟨hlength, hread⟩ := hread
  obtain ⟨x, y, z, w, hdigits⟩ := List.length_eq_four.1 hlength
  rw [hdigits] at hread
  exact ⟨x, y, z, w, hdigits, hread⟩

theorem charOf?_toNat (c : Char) : charOf? c.toNat = some c := by
  have hvalid : c.toNat < 0xD800 ∨ (0xDFFF < c.toNat ∧ c.toNat < 0x110000) := c.valid
  rw [charOf?, if_pos hvalid, Char.ofNat_toNat]

/-- How a character stands in a text: escaped, so that its escape is read as the character, or as
it is. -/
inductive Stands (c : Char) : List Char → Prop
  | escaped (ds : List Char) (hread : ∀ rest, escaped? (ds ++ rest) = some (c, rest))
      (hbreak : NoLineBreak ds) : Stands c ('\\' :: ds)
  | plain (hquote : c ≠ '"') (hescape : c ≠ '\\') (hbreak : isLineBreak c = false) : Stands c [c]

theorem stands_hexDigits4 {c : Char} (h : isNumbered c = true) :
    Stands c ('\\' :: 'u' :: hexDigits4 c.toNat) := by
  obtain ⟨x, y, z, w, hdigits, hnumber, hbreak⟩ := exists_hexDigits4 h
  rw [hdigits]
  refine .escaped _ (fun rest => ?_) (List.forall_mem_cons.2 ⟨rfl, hbreak⟩)
  have hread : escaped? (['u', x, y, z, w] ++ rest) =
      ((hexNumber? [x, y, z, w]).bind charOf?).map (·, rest) := rfl
  rw [hread, hnumber, Option.bind_some, charOf?_toNat, Option.map_some]

theorem stands_escapedChar (c : Char) : Stands c (escapedChar c) := by
  unfold escapedChar
  split_ifs with hbackspace htab hline hpage hreturn hquote hescape hnumbered
  · exact .escaped ['b'] (fun rest => by rw [hbackspace]; rfl) (by decide)
  · exact .escaped ['t'] (fun rest => by rw [htab]; rfl) (by decide)
  · exact .escaped ['n'] (fun rest => by rw [hline]; rfl) (by decide)
  · exact .escaped ['f'] (fun rest => by rw [hpage]; rfl) (by decide)
  · exact .escaped ['r'] (fun rest => by rw [hreturn]; rfl) (by decide)
  · exact .escaped ['"'] (fun rest => by rw [hquote]; rfl) (by decide)
  · exact .escaped ['\\'] (fun rest => by rw [hescape]; rfl) (by decide)
  · exact stands_hexDigits4 hnumbered
  · exact .plain hquote hescape (by simp [isLineBreak, hline, hreturn])

theorem Stands.shortText? {c : Char} {ds : List Char} (h : Stands c ds) (rest : List Char) :
    shortText? '"' (ds ++ rest) =
      (shortText? '"' rest).map fun (t, after) => (c :: t, after) := by
  cases h with
  | escaped _ hread =>
    rw [List.cons_append, Token.shortText?, if_neg (by decide), if_pos rfl]
    split
    · rename_i hnone
      rw [hread] at hnone
      cases hnone
    · rename_i hsome
      rw [hread] at hsome
      cases hsome
      rfl
  | plain hquote hescape hbreak =>
    have hline : ¬ (c = '\n' ∨ c = '\r') := by simpa [isLineBreak] using hbreak
    rw [List.cons_append, Token.shortText?, if_neg hquote, if_neg hescape, if_neg hline]
    rfl

/-- A text written character by character is read up to the closing quote. -/
theorem shortText?_flatMap (cs rest : List Char) :
    shortText? '"' (cs.flatMap escapedChar ++ '"' :: rest) = some (cs, rest) := by
  induction cs with
  | nil => rw [List.flatMap_nil, List.nil_append, shortText?, if_pos rfl]
  | cons c cs ih =>
    rw [List.flatMap_cons, List.append_assoc, (stands_escapedChar c).shortText?, ih]
    rfl

/-- A text does not begin like a long one: its first character is no quote, and no quote comes after
the closing one. -/
theorem take_two_ne (cs : List Char) {c : Char} (hc : c ≠ '"') :
    (cs.flatMap escapedChar ++ '"' :: c :: rest).take 2 ≠ ['"', '"'] := by
  cases cs with
  | nil => simpa using hc
  | cons d cs =>
    have hd := stands_escapedChar d
    rw [List.flatMap_cons, List.append_assoc]
    generalize escapedChar d = ds at hd ⊢
    intro h
    cases hd with
    | escaped => exact absurd (List.cons.inj h).1 (by decide)
    | plain hquote => exact hquote (List.cons.inj h).1

/-- A text is read up to its closing quote, if no quote comes after that. -/
theorem quotedText?_append (s : String) {c : Char} (hc : c ≠ '"') :
    quotedText? '"' (s.toList.flatMap escapedChar ++ '"' :: c :: rest) =
      some (.text s true, c :: rest) := by
  rw [quotedText?, if_neg (take_two_ne s.toList hc), shortText?_flatMap]
  simp only [Option.map_some, String.ofList_toList, beq_self_eq_true]

/-! ## IRIs -/

theorem iriText?_append (h : Iri.Readable cs) : iriText? (cs ++ '>' :: rest) = some (cs, rest) := by
  induction cs with
  | nil => rw [List.nil_append, iriText?, if_pos rfl]
  | cons c cs ih =>
    obtain ⟨hc, hcs⟩ := Iri.readable_cons_iff.1 h
    have hclose : c ≠ '>' := by
      rintro rfl
      cases hc
    have hescape : c ≠ '\\' := by
      rintro rfl
      cases hc
    rw [List.cons_append, iriText?, if_neg hclose, if_neg hescape, ih hcs]
    rfl

/-- An IRI is read up to its closing bracket. -/
theorem bracketedIri?_append {i : Iri} (h : i.WellFormed) :
    bracketedIri? (i.text.toList ++ '>' :: rest) = some (.iri i.text, rest) := by
  rw [bracketedIri?, iriText?_append h.readable]
  simp only [Option.map_some, String.ofList_toList]

/-! ## Scanning -/

/-- A text is made of tokens: a scan finds them if its bound is no less than the length. -/
def Scans (cs : List Char) (ts : List Token) : Prop :=
  ∀ steps, cs.length ≤ steps → scanFrom steps cs = some ts

theorem scans_nil : Scans [] [] := fun _ _ => by rw [scanFrom]

theorem Scans.blank {ts : List Token} {c : Char} (h : Scans cs ts)
    (hc : c = ' ' ∨ c = '\t' ∨ c = '\n' ∨ c = '\r') : Scans (c :: cs) ts := by
  intro steps hsteps
  obtain ⟨steps, rfl⟩ : ∃ n, steps = n + 1 := ⟨steps - 1, by simp at hsteps; omega⟩
  rw [scanFrom, if_pos hc]
  exact h steps (Nat.le_of_succ_le_succ hsteps)

def begins (c : Char) : Bool :=
  !(c == ' ' || c == '\t' || c == '\n' || c == '\r' || c == '#')

theorem Scans.token {ts : List Token} {t : Token} {c : Char} (h : Scans rest ts)
    (hc : begins c = true) (hnext : next? (c :: cs) = some (t, rest))
    (hlength : rest.length ≤ cs.length) : Scans (c :: cs) (t :: ts) := by
  intro steps hsteps
  obtain ⟨steps, rfl⟩ : ∃ n, steps = n + 1 := ⟨steps - 1, by simp at hsteps; omega⟩
  simp only [begins, Bool.not_eq_true', Bool.or_eq_false_iff, beq_eq_false_iff_ne] at hc
  obtain ⟨⟨⟨⟨hspace, htab⟩, hline⟩, hreturn⟩, hcomment⟩ := hc
  have hrest := h steps (le_trans hlength (Nat.le_of_succ_le_succ hsteps))
  rw [scanFrom, if_neg (by simp [hspace, htab, hline, hreturn]), if_neg hcomment, hnext]
  simp only [hrest, Option.map_some]

/-- What is scanned from the start of a text is all of its tokens. -/
theorem Scans.scan? {text : String} {ts : List Token} (h : Scans text.toList ts) :
    scan? text = some ts :=
  h _ le_rfl

end Token

end BuildingModel.Rdf
