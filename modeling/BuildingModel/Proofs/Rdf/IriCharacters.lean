import BuildingModel.Rdf.Iri
import Mathlib.Tactic

/-!
# The characters of IRIs

Every character of an absolute IRI may stand in one: it is plain, for private use, or one of the
characters that separate the parts of an IRI. Blanks, line breaks, quotes, angle brackets and
backslashes are none of these.
-/
namespace BuildingModel.Rdf.Iri

variable {cs : List Char}

/-- Whether a character may stand in an IRI. -/
def isCharacter (c : Char) : Bool :=
  isPlain c || ":@/?#[]%".toList.contains c || isPrivate c.toNat

/-- A text of nothing but characters that may stand in an IRI. -/
def Readable (cs : List Char) : Prop :=
  ∀ c ∈ cs, isCharacter c = true

@[simp] theorem readable_nil : Readable [] := fun _ hc => (List.not_mem_nil hc).elim

@[simp] theorem readable_cons_iff {c : Char} :
    Readable (c :: cs) ↔ isCharacter c = true ∧ Readable cs :=
  List.forall_mem_cons

theorem readable_of_all {p : Char → Bool} (hp : ∀ c, p c = true → isCharacter c = true)
    (h : cs.all p = true) : Readable cs :=
  fun c hc => hp c (List.all_eq_true.1 h c hc)

/-- A text is readable if the part up to some character and the part from there on are. -/
theorem readable_of_span {p : Char → Bool} (htake : Readable (cs.takeWhile p))
    (hdrop : Readable (cs.dropWhile p)) : Readable cs := by
  rw [← List.takeWhile_append_dropWhile (p := p) (l := cs)]
  exact List.forall_mem_append.2 ⟨htake, hdrop⟩

/-- What is cut off at a separator is readable with the separator, if it is without. -/
theorem readable_of_drop_one {sep : Char} (hsep : isCharacter sep = true)
    (h : Readable ((cs.dropWhile (· != sep)).drop 1)) : Readable (cs.dropWhile (· != sep)) := by
  cases hd : cs.dropWhile (· != sep) with
  | nil => exact readable_nil
  | cons c rest =>
    have hne : cs.dropWhile (· != sep) ≠ [] := by simp [hd]
    have hhead := List.head_dropWhile_not (· != sep) hne
    simp only [hd, List.head_cons, bne_eq_false_iff_eq] at hhead
    rw [hd] at h
    rw [hhead]
    exact readable_cons_iff.2 ⟨hsep, h⟩

/-! ## Characters of the parts -/

theorem isCharacter_of_isPlain {c : Char} (h : isPlain c = true) : isCharacter c = true := by
  simp [isCharacter, h]

theorem isCharacter_of_isAlphanum {c : Char} (h : c.isAlphanum = true) : isCharacter c = true :=
  isCharacter_of_isPlain (by simp [isPlain, h])

theorem isCharacter_of_isAlpha {c : Char} (h : c.isAlpha = true) : isCharacter c = true :=
  isCharacter_of_isAlphanum (by simp [Char.isAlphanum, h])

theorem isCharacter_of_isDigit {c : Char} (h : c.isDigit = true) : isCharacter c = true :=
  isCharacter_of_isAlphanum (by simp [Char.isAlphanum, h])

theorem isCharacter_of_isHexDigit {c : Char} (h : isHexDigit c = true) : isCharacter c = true := by
  simp only [isHexDigit, Bool.or_eq_true, Bool.and_eq_true, decide_eq_true_eq, Char.le_def] at h
  rcases h with (h | ⟨hge, hle⟩) | ⟨hge, hle⟩
  · exact isCharacter_of_isDigit h
  · have hlower : c.isLower = true := Bool.and_eq_true_iff.2
      ⟨decide_eq_true hge, decide_eq_true (UInt32.le_trans hle (by decide : 'f'.val ≤ 'z'.val))⟩
    exact isCharacter_of_isAlpha (Bool.or_eq_true_iff.2 (.inr hlower))
  · have hrange : c.val ≥ 'A'.val ∧ c.val ≤ 'Z'.val :=
      ⟨hge, UInt32.le_trans hle (by decide : 'F'.val ≤ 'Z'.val)⟩
    exact isCharacter_of_isAlpha (Bool.or_eq_true_iff.2 (.inl (decide_eq_true hrange)))

theorem isCharacter_of_isSchemeChar {c : Char} (h : isSchemeChar c = true) :
    isCharacter c = true := by
  simp only [isSchemeChar, Bool.or_eq_true, beq_iff_eq] at h
  rcases h with ((h | rfl) | rfl) | rfl
  · exact isCharacter_of_isAlphanum h
  · rfl
  · rfl
  · rfl

theorem readable_of_allAllowed {allowed : Char → Bool}
    (hall : ∀ c, allowed c = true → isCharacter c = true) (h : allAllowed allowed cs = true) :
    Readable cs := by
  induction cs using allAllowed.induct with
  | case1 => exact readable_nil
  | case2 a b cs ih =>
    simp only [allAllowed, Bool.and_eq_true] at h
    obtain ⟨⟨ha, hb⟩, hcs⟩ := h
    simp only [readable_cons_iff]
    exact ⟨rfl, isCharacter_of_isHexDigit ha, isCharacter_of_isHexDigit hb, ih hcs⟩
  | case3 c cs hpercent ih =>
    rw [allAllowed.eq_3 allowed c cs hpercent] at h
    simp only [Bool.and_eq_true] at h
    obtain ⟨⟨-, hc⟩, hcs⟩ := h
    exact readable_cons_iff.2 ⟨hall c hc, ih hcs⟩

theorem readable_of_isQuery (h : isQuery cs = true) : Readable cs := by
  refine readable_of_allAllowed (fun c hc => ?_) h
  simp only [Bool.or_eq_true, beq_iff_eq] at hc
  rcases hc with ((((hc | rfl) | rfl) | rfl) | rfl) | hc
  · exact isCharacter_of_isPlain hc
  · rfl
  · rfl
  · rfl
  · rfl
  · simp [isCharacter, hc]

theorem readable_of_isFragment (h : isFragment cs = true) : Readable cs := by
  refine readable_of_allAllowed (fun c hc => ?_) h
  simp only [Bool.or_eq_true, beq_iff_eq] at hc
  rcases hc with (((hc | rfl) | rfl) | rfl) | rfl
  · exact isCharacter_of_isPlain hc
  · rfl
  · rfl
  · rfl
  · rfl

theorem readable_of_isPath (h : isPath cs = true) : Readable cs := by
  refine readable_of_allAllowed (fun c hc => ?_) h
  simp only [Bool.or_eq_true, beq_iff_eq] at hc
  rcases hc with ((hc | rfl) | rfl) | rfl
  · exact isCharacter_of_isPlain hc
  · rfl
  · rfl
  · rfl

/-! ## Addresses -/

/-- A text is the parts into which a separator divides it, with the separator between them. -/
theorem exists_splitAt (sep : Char) (cs : List Char) :
    ∃ p ps, splitAt sep cs = p :: ps ∧ cs = p ++ ps.flatMap (sep :: ·) := by
  induction cs with
  | nil => exact ⟨[], [], rfl, rfl⟩
  | cons c cs ih =>
    obtain ⟨p, ps, hparts, hcs⟩ := ih
    have hcons : splitAt sep (c :: cs) =
        if c == sep then [] :: p :: ps else (c :: p) :: ps := by
      unfold splitAt at hparts ⊢
      rw [List.foldr_cons, hparts]
    rw [hcons]
    by_cases hc : c = sep
    · refine ⟨[], p :: ps, by simp [hc], ?_⟩
      rw [hc, List.nil_append, List.flatMap_cons, List.cons_append, ← hcs]
    · refine ⟨c :: p, ps, by simp [hc], ?_⟩
      rw [List.cons_append, ← hcs]

theorem readable_of_splitAt {sep : Char} (hsep : isCharacter sep = true)
    (h : ∀ p ∈ splitAt sep cs, Readable p) : Readable cs := by
  obtain ⟨p, ps, hparts, hcs⟩ := exists_splitAt sep cs
  rw [hparts] at h
  obtain ⟨hp, hps⟩ := List.forall_mem_cons.1 h
  rw [hcs]
  refine List.forall_mem_append.2 ⟨hp, fun c hc => ?_⟩
  obtain ⟨q, hq, hmem⟩ := List.mem_flatMap.1 hc
  rcases List.mem_cons.1 hmem with rfl | hmem
  · exact hsep
  · exact hps q hq c hmem

theorem readable_of_isOctet (h : isOctet cs = true) : Readable cs := by
  have hdigits : cs.all Char.isDigit = true := by
    unfold isOctet at h
    split at h <;> simp_all
  exact readable_of_all (fun c => isCharacter_of_isDigit) hdigits

theorem readable_of_isAddress4 (h : isAddress4 cs = true) : Readable cs := by
  obtain ⟨-, hparts⟩ := Bool.and_eq_true_iff.1 h
  exact readable_of_splitAt rfl fun p hp => readable_of_isOctet (List.all_eq_true.1 hparts p hp)

theorem readable_of_groupCount? {n : ℕ} (h : groupCount? cs = some n) : Readable cs := by
  have hgroups : ∀ ps : List (List Char),
      (ps.all fun p => !p.isEmpty && p.length ≤ 4 && p.all isHexDigit) = true →
      ∀ p ∈ ps, Readable p := by
    intro ps hps p hp
    obtain ⟨-, hhex⟩ := Bool.and_eq_true_iff.1 (List.all_eq_true.1 hps p hp)
    exact readable_of_all (fun c => isCharacter_of_isHexDigit) hhex
  unfold groupCount? at h
  by_cases hempty : cs.isEmpty = true
  · rw [List.isEmpty_iff.1 hempty]
    exact readable_nil
  · rw [if_neg hempty] at h
    simp only at h
    cases hlast : (splitAt ':' cs).getLast? with
    | none =>
      rw [hlast] at h
      cases h
    | some last =>
      rw [hlast] at h
      simp only at h
      apply readable_of_splitAt (rfl : isCharacter ':' = true)
      split at h
      · exact hgroups _ ‹_›
      · split at h
        · rename_i hboth
          obtain ⟨hinit, haddress⟩ := Bool.and_eq_true_iff.1 hboth
          obtain ⟨init, hinit'⟩ := List.getLast?_eq_some_iff.1 hlast
          rw [hinit', List.dropLast_concat] at hinit
          rw [hinit']
          exact List.forall_mem_append.2
            ⟨hgroups init hinit, List.forall_mem_singleton.2 (readable_of_isAddress4 haddress)⟩
        · cases h

theorem eq_of_splitDoubleColon {left right : List Char}
    (h : splitDoubleColon cs = some (left, right)) : cs = left ++ ':' :: ':' :: right := by
  induction cs using splitDoubleColon.induct generalizing left with
  | case1 cs =>
    cases h
    rfl
  | case2 c cs hcolons ih =>
    rw [splitDoubleColon.eq_2 c cs hcolons] at h
    obtain ⟨⟨left', right'⟩, hrest, heq⟩ := Option.map_eq_some_iff.1 h
    cases heq
    rw [ih hrest]
    rfl
  | case3 => cases h

theorem readable_of_isAddress6 (h : isAddress6 cs = true) : Readable cs := by
  unfold isAddress6 at h
  cases hsplit : splitDoubleColon cs with
  | none =>
    rw [hsplit] at h
    exact readable_of_groupCount? (by simpa using h)
  | some sides =>
    obtain ⟨left, right⟩ := sides
    rw [hsplit] at h
    simp only at h
    split at h
    · rename_i n m hleft hright
      rw [eq_of_splitDoubleColon hsplit]
      refine List.forall_mem_append.2 ⟨readable_of_groupCount? hleft, ?_⟩
      simp only [List.forall_mem_cons]
      exact ⟨rfl, rfl, readable_of_groupCount? hright⟩
    · cases h

theorem readable_of_isAddressFuture (h : isAddressFuture cs = true) : Readable cs := by
  cases cs with
  | nil => exact readable_nil
  | cons v cs =>
    obtain ⟨hv, h⟩ := Bool.and_eq_true_iff.1 h
    have hletter : isCharacter v = true := by
      rcases Bool.or_eq_true_iff.1 hv with hv | hv
      · rw [beq_iff_eq.1 hv]
        rfl
      · rw [beq_iff_eq.1 hv]
        rfl
    refine readable_cons_iff.2 ⟨hletter, ?_⟩
    simp only at h
    refine readable_of_span
      (readable_of_all (p := isHexDigit) (fun c => isCharacter_of_isHexDigit)
        (List.all_takeWhile ..)) ?_
    split at h
    · rename_i rest hrest
      obtain ⟨-, hall⟩ := Bool.and_eq_true_iff.1 h
      rw [hrest]
      refine readable_cons_iff.2 ⟨rfl, readable_of_all (fun c hc => ?_) hall⟩
      rcases Bool.or_eq_true_iff.1 hc with hc | hc
      · exact isCharacter_of_isPlain (Bool.and_eq_true_iff.1 hc).1
      · rw [beq_iff_eq.1 hc]
        rfl
    · cases h

/-! ## Hosts, authorities and the whole -/

theorem readable_of_isColonNumber (h : isColonNumber cs = true) : Readable cs := by
  cases cs with
  | nil => exact readable_nil
  | cons c cs =>
    obtain ⟨hc, hcs⟩ := Bool.and_eq_true_iff.1 h
    rw [beq_iff_eq.1 hc]
    exact readable_cons_iff.2 ⟨rfl, readable_of_all (fun c => isCharacter_of_isDigit) hcs⟩

theorem readable_of_isHostAndNumber (h : isHostAndNumber cs = true) : Readable cs := by
  unfold isHostAndNumber at h
  split at h
  · rename_i rest
    simp only at h
    split at h
    · rename_i c after hrest
      obtain ⟨haddress, hnumber⟩ := Bool.and_eq_true_iff.1 h
      refine readable_cons_iff.2 ⟨rfl, readable_of_span (p := (· != ']')) ?_ ?_⟩
      · split at haddress
        · exact readable_of_isAddressFuture haddress
        · exact readable_of_isAddress6 haddress
      · refine readable_of_drop_one rfl ?_
        rw [hrest]
        exact readable_of_isColonNumber hnumber
    · cases h
  · obtain ⟨hhost, hnumber⟩ := Bool.and_eq_true_iff.1 h
    exact readable_of_span (readable_of_allAllowed (fun c => isCharacter_of_isPlain) hhost)
      (readable_of_isColonNumber hnumber)

theorem readable_of_isAuthority (h : isAuthority cs = true) : Readable cs := by
  unfold isAuthority at h
  simp only at h
  split at h
  · rename_i rest hrest
    obtain ⟨huser, hhost⟩ := Bool.and_eq_true_iff.1 h
    refine readable_of_span (readable_of_allAllowed (fun c hc => ?_) huser) ?_
    · rcases Bool.or_eq_true_iff.1 hc with hc | hc
      · exact isCharacter_of_isPlain hc
      · rw [beq_iff_eq.1 hc]
        rfl
    · rw [hrest]
      exact readable_cons_iff.2 ⟨rfl, readable_of_isHostAndNumber hhost⟩
  · exact readable_of_isHostAndNumber h

theorem readable_of_isHierarchy (h : isHierarchy cs = true) : Readable cs := by
  unfold isHierarchy at h
  simp only [Bool.and_eq_true] at h
  obtain ⟨⟨hmain, hquery⟩, hfragment⟩ := h
  refine readable_of_span (p := (· != '#')) ?_
    (readable_of_drop_one rfl (readable_of_isFragment hfragment))
  refine readable_of_span (p := (· != '?')) ?_
    (readable_of_drop_one rfl (readable_of_isQuery hquery))
  split at hmain
  · rename_i rest hpath
    obtain ⟨hauthority, hrest⟩ := Bool.and_eq_true_iff.1 hmain
    rw [hpath]
    simp only [readable_cons_iff]
    exact ⟨rfl, rfl, readable_of_span (readable_of_isAuthority hauthority)
      (readable_of_isPath hrest)⟩
  · exact readable_of_isPath hmain

theorem readable_of_isAbsolute (h : isAbsolute cs = true) : Readable cs := by
  cases cs with
  | nil => exact readable_nil
  | cons c rest =>
    obtain ⟨hc, h⟩ := Bool.and_eq_true_iff.1 h
    refine readable_cons_iff.2 ⟨isCharacter_of_isAlpha hc, readable_of_span
      (readable_of_all (p := isSchemeChar) (fun c => isCharacter_of_isSchemeChar)
        (List.all_takeWhile ..)) ?_⟩
    split at h
    · rename_i body hbody
      rw [hbody]
      exact readable_cons_iff.2 ⟨rfl, readable_of_isHierarchy h⟩
    · cases h

/-- The characters of a well-formed IRI are those that may stand in one. -/
theorem WellFormed.readable {iri : Iri} (h : iri.WellFormed) : Readable iri.text.toList :=
  readable_of_isAbsolute h

end BuildingModel.Rdf.Iri
