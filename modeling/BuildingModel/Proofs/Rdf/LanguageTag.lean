import BuildingModel.Proofs.Rdf.IriCharacters
import BuildingModel.Rdf.Token

/-!
# Reading language tags

A language tag that follows the order of subtags, or is kept as irregular, is letters and then parts
of letters and digits behind hyphens. So a tag that a blank follows is read up to the blank.
-/
namespace BuildingModel.Rdf.Language

variable {s : List Char} {ss : List (List Char)}

/-- A subtag of at least one letter or digit. -/
def IsPart (s : List Char) : Prop :=
  s ≠ [] ∧ isAlphanum s = true

instance (s : List Char) : Decidable (IsPart s) :=
  inferInstanceAs (Decidable (_ ∧ _))

/-- Subtags of which the first is letters and each of the others a part. -/
def WellSplit : List (List Char) → Prop
  | [] => False
  | s :: ss => s ≠ [] ∧ isAlpha s = true ∧ ∀ p ∈ ss, IsPart p

instance : DecidablePred WellSplit
  | [] => inferInstanceAs (Decidable False)
  | s :: ss => inferInstanceAs (Decidable (s ≠ [] ∧ isAlpha s = true ∧ ∀ p ∈ ss, IsPart p))

/-! ## The parts of a tag -/

theorem isPart_of_isAlphanum (hn : s.length ≠ 0) (h : isAlphanum s = true) : IsPart s :=
  ⟨List.ne_nil_of_length_pos (Nat.pos_of_ne_zero hn), h⟩

theorem isPart_of_isAlpha (hn : s.length ≠ 0) (h : isAlpha s = true) : IsPart s := by
  refine isPart_of_isAlphanum hn (List.all_eq_true.2 fun c hc => ?_)
  simp [Char.isAlphanum, List.all_eq_true.1 h c hc]

theorem isPart_of_isDigits (hn : s.length ≠ 0) (h : isDigits s = true) : IsPart s := by
  refine isPart_of_isAlphanum hn (List.all_eq_true.2 fun c hc => ?_)
  simp [Char.isAlphanum, List.all_eq_true.1 h c hc]

theorem isPart_of_isVariant (h : isVariant s = true) : IsPart s := by
  obtain ⟨hchars, hlength⟩ := Bool.and_eq_true_iff.1 h
  refine isPart_of_isAlphanum ?_ hchars
  simp only [Bool.or_eq_true, Bool.and_eq_true, decide_eq_true_eq, beq_iff_eq] at hlength
  omega

theorem isPart_of_isPrivateUse (h : isPrivateUse ss = true) : ∀ p ∈ ss, IsPart p := by
  obtain ⟨-, hall⟩ := Bool.and_eq_true_iff.1 h
  intro p hp
  have hpart := List.all_eq_true.1 hall p hp
  simp only [Bool.and_eq_true, decide_eq_true_eq] at hpart
  obtain ⟨⟨hmin, -⟩, hchars⟩ := hpart
  exact isPart_of_isAlphanum (by omega) hchars

theorem isPart_of_private (h : s = ['x'] ∨ s = ['X']) : IsPart s := by
  rcases h with rfl | rfl
  · decide
  · decide

/-- Extensions are parts, whether or not one has begun. -/
theorem isPart_of_isExtended (ss : List (List Char)) :
    (∀ lacks, isExtended lacks ss = true → ∀ p ∈ ss, IsPart p) ∧
      (isExtended.isExtendedPart ss = true → ∀ p ∈ ss, IsPart p) := by
  induction ss with
  | nil => simp
  | cons s ss ih =>
    obtain ⟨ihextended, ihpart⟩ := ih
    simp only [List.forall_mem_cons]
    constructor
    · intro lacks h
      rw [isExtended] at h
      split at h
      · exact ⟨isPart_of_private ‹_›, isPart_of_isPrivateUse (Bool.and_eq_true_iff.1 h).2⟩
      · split at h
        · simp only [Bool.and_eq_true] at h
          obtain ⟨⟨-, hchars⟩, hrest⟩ := h
          exact ⟨isPart_of_isAlphanum (by omega) hchars, ihextended true hrest⟩
        · simp only [Bool.and_eq_true, decide_eq_true_eq] at h
          obtain ⟨⟨⟨hmin, -⟩, hchars⟩, hrest⟩ := h
          exact ⟨isPart_of_isAlphanum (by omega) hchars, ihpart hrest⟩
    · intro h
      rw [isExtended.isExtendedPart] at h
      split at h
      · exact ⟨isPart_of_private ‹_›, isPart_of_isPrivateUse h⟩
      · split at h
        · obtain ⟨hchars, hrest⟩ := Bool.and_eq_true_iff.1 h
          exact ⟨isPart_of_isAlphanum (by omega) hchars, ihextended true hrest⟩
        · simp only [Bool.and_eq_true, decide_eq_true_eq] at h
          obtain ⟨⟨⟨hmin, -⟩, hchars⟩, hrest⟩ := h
          exact ⟨isPart_of_isAlphanum (by omega) hchars, ihpart hrest⟩

theorem isPart_of_isExtensions (h : isExtensions ss = true) : ∀ p ∈ ss, IsPart p := by
  cases ss with
  | nil => simp
  | cons s ss => exact (isPart_of_isExtended (s :: ss)).1 false (Bool.and_eq_true_iff.1 h).2

theorem isPart_of_dropWhile (h : ∀ p ∈ ss.dropWhile isVariant, IsPart p) : ∀ p ∈ ss, IsPart p := by
  rw [← List.takeWhile_append_dropWhile (p := isVariant) (l := ss)]
  refine List.forall_mem_append.2 ⟨fun p hp => ?_, h⟩
  exact isPart_of_isVariant (List.all_eq_true.1 List.all_takeWhile p hp)

theorem isPart_of_dropRegion (h : ∀ p ∈ dropRegion ss, IsPart p) : ∀ p ∈ ss, IsPart p := by
  cases ss with
  | nil => simp
  | cons s ss =>
    rw [dropRegion] at h
    split at h
    · rename_i hregion
      refine List.forall_mem_cons.2 ⟨?_, h⟩
      rcases hregion with ⟨hn, hletters⟩ | ⟨hn, hdigits⟩
      · exact isPart_of_isAlpha (by omega) hletters
      · exact isPart_of_isDigits (by omega) hdigits
    · exact h

theorem isPart_of_dropScript (h : ∀ p ∈ dropScript ss, IsPart p) : ∀ p ∈ ss, IsPart p := by
  cases ss with
  | nil => simp
  | cons s ss =>
    rw [dropScript] at h
    split at h
    · rename_i hscript
      exact List.forall_mem_cons.2 ⟨isPart_of_isAlpha (by omega) hscript.2, h⟩
    · exact h

theorem isPart_of_dropExtendedLanguages {n : ℕ}
    (h : ∀ p ∈ dropExtendedLanguages n ss, IsPart p) : ∀ p ∈ ss, IsPart p := by
  induction n generalizing ss with
  | zero => simpa [dropExtendedLanguages] using h
  | succ n ih =>
    cases ss with
    | nil => simp
    | cons s ss =>
      rw [dropExtendedLanguages] at h
      split at h
      · rename_i hlanguage
        exact List.forall_mem_cons.2 ⟨isPart_of_isAlpha (by omega) hlanguage.2, ih h⟩
      · exact h

/-- The subtags of a tag in lower case. -/
theorem wellSplit_of_isTag {cs : List Char} (h : isTag cs = true)
    (hlower : cs.map Char.toLower = cs) : WellSplit (Iri.splitAt '-' cs) := by
  unfold isTag at h
  rw [hlower] at h
  split at h
  · rename_i hirregular
    have hall : ∀ t ∈ irregular, WellSplit (Iri.splitAt '-' t.toList) := by decide +kernel
    have htag := hall _ (List.contains_iff_mem.1 hirregular)
    rwa [String.toList_ofList] at htag
  · cases hparts : Iri.splitAt '-' cs with
    | nil =>
      rw [hparts] at h
      cases h
    | cons s ss =>
      rw [hparts] at h
      simp only at h
      split at h
      · rename_i hprivate
        refine ⟨(isPart_of_private hprivate).1, ?_, isPart_of_isPrivateUse h⟩
        rcases hprivate with rfl | rfl
        · decide
        · decide
      · split at h
        · cases h
        · rename_i hlanguage
          simp only [Bool.or_eq_true, Bool.not_eq_true', decide_eq_true_eq, not_or,
            Bool.not_eq_false] at hlanguage
          obtain ⟨⟨hletters, hmin⟩, -⟩ := hlanguage
          refine ⟨List.ne_nil_of_length_pos (by omega), hletters, ?_⟩
          have hrest := isPart_of_dropScript
            (isPart_of_dropRegion (isPart_of_dropWhile (isPart_of_isExtensions h)))
          split at hrest
          · exact isPart_of_dropExtendedLanguages hrest
          · exact hrest

end BuildingModel.Rdf.Language

namespace BuildingModel.Rdf.Token

variable {ss : List (List Char)} {rest : List Char}

/-! ## Reading a tag -/

theorem takeWhile_hyphenated {p : Char → Bool} (hhyphen : p '-' = false) (hblank : p ' ' = false) :
    (ss.flatMap ('-' :: ·) ++ ' ' :: rest).takeWhile p = [] := by
  cases ss with
  | nil => simp [hblank]
  | cons s ss => simp [hhyphen]

theorem length_le_length_flatMap (ss : List (List Char)) :
    ss.length ≤ (ss.flatMap ('-' :: ·)).length := by
  induction ss with
  | nil => simp
  | cons s ss ih =>
    simp only [List.flatMap_cons, List.length_append, List.length_cons]
    omega

theorem parts_hyphenated {steps : ℕ} (hsteps : ss.length ≤ steps)
    (hparts : ∀ p ∈ ss, Language.IsPart p) :
    languageTag?.parts (ss.flatMap ('-' :: ·) ++ ' ' :: rest) steps =
      (ss.flatMap ('-' :: ·), ' ' :: rest) := by
  induction ss generalizing steps with
  | nil => simp [languageTag?.parts]
  | cons s ss ih =>
    obtain ⟨steps, rfl⟩ : ∃ n, steps = n + 1 := ⟨steps - 1, by simp at hsteps; omega⟩
    obtain ⟨⟨hne, hchars⟩, hparts⟩ := List.forall_mem_cons.1 hparts
    have hpart : (s ++ (ss.flatMap ('-' :: ·) ++ ' ' :: rest)).takeWhile Char.isAlphanum = s := by
      rw [List.takeWhile_append_of_pos (List.all_eq_true.1 hchars),
        takeWhile_hyphenated rfl rfl, List.append_nil]
    rw [List.flatMap_cons, List.cons_append, List.cons_append, List.append_assoc,
      languageTag?.parts]
    simp only [hpart, List.isEmpty_iff, hne, if_false, List.drop_left, List.cons_append,
      ih (Nat.le_of_succ_le_succ hsteps) hparts]

/-- A tag in lower case is read up to the blank after it. -/
theorem languageTag?_append {tag : List Char} (h : Language.isTag tag = true)
    (hlower : tag.map Char.toLower = tag) :
    languageTag? (tag ++ ' ' :: rest) = some (.language (String.ofList tag), ' ' :: rest) := by
  have hsplit := Language.wellSplit_of_isTag h hlower
  obtain ⟨s, ss, hparts, htag⟩ := Iri.exists_splitAt '-' tag
  rw [hparts] at hsplit
  obtain ⟨hne, hletters, hrest⟩ := hsplit
  have hfirst : (tag ++ ' ' :: rest).takeWhile Char.isAlpha = s := by
    rw [htag, List.append_assoc, List.takeWhile_append_of_pos (List.all_eq_true.1 hletters),
      takeWhile_hyphenated rfl rfl, List.append_nil]
  have hdrop : (tag ++ ' ' :: rest).drop s.length = ss.flatMap ('-' :: ·) ++ ' ' :: rest := by
    rw [htag, List.append_assoc, List.drop_left]
  have hsteps : ss.length ≤ (tag ++ ' ' :: rest).length := by
    have hcount := length_le_length_flatMap ss
    rw [htag]
    simp only [List.length_append]
    omega
  unfold languageTag?
  simp only [hfirst, hdrop, List.isEmpty_iff, hne, if_false, parts_hyphenated hsteps hrest,
    ← htag, h, if_true]

end BuildingModel.Rdf.Token
