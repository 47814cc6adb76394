import BuildingModel.Distinct
import BuildingModel.Ontology.Introspection
import BuildingModel.Proofs.Failure
import BuildingModel.Proofs.Lists
import BuildingModel.Proofs.Rdf.Graph
import BuildingModel.Units.Catalog

/-!
# Keys and units

A key is made by replacing characters in the whole label three times over, or by what each character
of the label contributes: both come to the same, and a key is its own key. The catalog has one unit
for each key, in the order in which the keys first come, and it is the unit of the last row with
that key.
-/
namespace BuildingModel

open BuildingModel.Rdf BuildingModel.Ontology

/-! ## Keys -/

/-- A text with each character of a kind replaced. -/
def replaceChars (p : Char → Bool) (replacement cs : List Char) : List Char :=
  cs.flatMap fun c => if p c then replacement else [c]

theorem unitKeyChar_cases (c : Char) :
    (c = ' ' ∧ unitKeyChar c = ['_']) ∨ (c = '^' ∧ unitKeyChar c = ['e', 'x', 'p']) ∨
      ((c = '(' ∨ c = ')') ∧ unitKeyChar c = []) ∨
      ((c ≠ ' ' ∧ c ≠ '^' ∧ c ≠ '(' ∧ c ≠ ')') ∧ unitKeyChar c = [c]) := by
  unfold unitKeyChar
  by_cases hblank : c = ' '
  · exact .inl ⟨hblank, if_pos hblank⟩
  · by_cases hcaret : c = '^'
    · exact .inr (.inl ⟨hcaret, by rw [if_neg hblank, if_pos hcaret]⟩)
    · by_cases hparenthesis : c = '(' ∨ c = ')'
      · exact .inr (.inr (.inl ⟨hparenthesis, by
          rw [if_neg hblank, if_neg hcaret, if_pos hparenthesis]⟩))
      · refine .inr (.inr (.inr ⟨⟨hblank, hcaret, not_or.1 hparenthesis⟩, ?_⟩))
        rw [if_neg hblank, if_neg hcaret, if_neg hparenthesis]

theorem toList_unitKey (label : String) :
    (unitKey label).toList = label.toList.flatMap unitKeyChar :=
  String.toList_ofList

/-- A key has no character that is replaced. -/
theorem kept_of_mem_unitKey {label : String} {c : Char} (hc : c ∈ (unitKey label).toList) :
    c ≠ ' ' ∧ c ≠ '^' ∧ c ≠ '(' ∧ c ≠ ')' := by
  rw [toList_unitKey] at hc
  obtain ⟨x, -, hx⟩ := List.mem_flatMap.1 hc
  rcases unitKeyChar_cases x with ⟨-, heq⟩ | ⟨-, heq⟩ | ⟨-, heq⟩ | ⟨hkept, heq⟩ <;> rw [heq] at hx
  · obtain rfl := List.mem_singleton.1 hx
    decide
  · simp only [List.mem_cons, List.not_mem_nil, or_false] at hx
    rcases hx with rfl | rfl | rfl <;> decide
  · cases hx
  · obtain rfl := List.mem_singleton.1 hx
    exact hkept

/-- To replace the blanks, then the carets and then the parentheses is to go through the label
once. -/
theorem toList_unitKey_eq_replaceChars (label : String) :
    (unitKey label).toList =
      replaceChars (fun c => c == '(' || c == ')') []
        (replaceChars (· == '^') ['e', 'x', 'p'] (replaceChars (· == ' ') ['_'] label.toList)) := by
  rw [toList_unitKey, replaceChars, replaceChars, replaceChars, List.flatMap_assoc,
    List.flatMap_assoc]
  congr 1
  funext c
  rcases unitKeyChar_cases c with ⟨rfl, heq⟩ | ⟨rfl, heq⟩ | ⟨rfl | rfl, heq⟩ | ⟨hkept, heq⟩ <;>
    rw [heq]
  · rfl
  · rfl
  · rfl
  · rfl
  · simp [hkept]

theorem unitKey_append (a b : String) : unitKey (a ++ b) = unitKey a ++ unitKey b := by
  rw [unitKey, String.toList_append, List.flatMap_append, String.ofList_append]
  rfl

theorem unitKey_unitKey (label : String) : unitKey (unitKey label) = unitKey label := by
  rw [unitKey, toList_unitKey, List.flatMap_assoc, unitKey]
  congr 2
  funext c
  rcases unitKeyChar_cases c with ⟨-, heq⟩ | ⟨-, heq⟩ | ⟨-, heq⟩ | ⟨-, heq⟩ <;> rw [heq]
  · rfl
  · rfl
  · rfl
  · rw [List.flatMap_singleton, heq]

/-! ## Rows, one for each unit -/

theorem nodup_map_iri_of_unitRows {d : Dataset} {rows : List UnitRow} (h : d.unitRows = .ok rows) :
    (rows.map UnitRow.iri).Nodup := by
  obtain ⟨all, -, rfl⟩ := map_eq_ok h
  exact nodup_map_firstPer all

/-! ## The unit of a row -/

namespace MeasurementUnit

/-- A unit as a row describes it. An expression is taken for a symbol only where there is none, and
then it stands between dollar signs. -/
structure DescribedBy (u : MeasurementUnit) (r : UnitRow) : Prop where
  iri : u.iri = r.iri
  name : u.name = r.label
  symbol : ∀ s, u.symbol = some s ↔ r.symbol = some s ∨
    r.symbol = none ∧ ∃ e, r.expression = some e ∧ "$" ++ e ++ "$" = s
  description : u.description = r.description

theorem describedBy_iff {u : MeasurementUnit} {r : UnitRow} : u.DescribedBy r ↔ u = .ofRow r := by
  have hsymbol : ∀ s, (ofRow r).symbol = some s ↔ r.symbol = some s ∨
      r.symbol = none ∧ ∃ e, r.expression = some e ∧ "$" ++ e ++ "$" = s := by
    intro s
    simp [ofRow, Option.or_eq_some_iff, Option.map_eq_some_iff]
  constructor
  · intro h
    obtain ⟨iri, name, symbol, description⟩ := u
    obtain ⟨rfl, rfl, hs, rfl⟩ := h
    have heq : symbol = (ofRow r).symbol := Option.ext fun s => (hs s).trans (hsymbol s).symm
    rw [heq]
    rfl
  · rintro rfl
    exact ⟨rfl, rfl, hsymbol, rfl⟩

end MeasurementUnit

/-! ## The catalog -/

namespace UnitCatalog

variable {c : UnitCatalog} {u : MeasurementUnit} {rows : List UnitRow}

def keys (c : UnitCatalog) : List String := c.units.map MeasurementUnit.key

theorem any_key_iff : c.units.any (·.key = u.key) = true ↔ u.key ∈ c.keys := by
  simp [keys]

theorem keys_insert (c : UnitCatalog) (u : MeasurementUnit) :
    (c.insert u).keys = if u.key ∈ c.keys then c.keys else c.keys ++ [u.key] := by
  unfold insert
  by_cases h : u.key ∈ c.keys
  · rw [if_pos (any_key_iff.2 h), if_pos h, keys, List.map_map, keys]
    apply List.map_congr_left
    intro v _
    by_cases hv : v.key = u.key
    · simp [hv]
    · simp [hv]
  · rw [if_neg fun ha => h (any_key_iff.1 ha), if_neg h, keys, List.map_append]
    rfl

theorem get?_insert (c : UnitCatalog) (u : MeasurementUnit) (k : String) :
    (c.insert u).get? k = if k = u.key then some u else c.get? k := by
  unfold insert
  by_cases h : u.key ∈ c.keys
  · have hsame : (fun v : MeasurementUnit => decide (v.key = k)) ∘ (fun v =>
        if v.key = u.key then u else v) = fun v => decide (v.key = k) := by
      funext v
      by_cases hv : v.key = u.key
      · simp [hv]
      · simp [hv]
    rw [if_pos (any_key_iff.2 h), get?, List.find?_map, hsame]
    by_cases hk : k = u.key
    · subst hk
      obtain ⟨v, hv, hkey⟩ := List.mem_map.1 h
      obtain ⟨w, hw⟩ := Option.isSome_iff_exists.1
        (List.find?_isSome.2 ⟨v, hv, by simpa using hkey⟩ :
          (c.units.find? (·.key = u.key)).isSome)
      have hwkey : w.key = u.key := by simpa using List.find?_some hw
      simp [hw, hwkey]
    · rw [if_neg hk, get?]
      cases hf : c.units.find? (·.key = k) with
      | none => rfl
      | some v =>
        have hv : v.key = k := by simpa using List.find?_some hf
        simp [show v.key ≠ u.key from fun hu => hk (hv.symm.trans hu)]
  · have hnone : c.units.find? (·.key = u.key) = none := by
      rw [List.find?_eq_none]
      intro v hv hkey
      exact h (List.mem_map.2 ⟨v, hv, by simpa using hkey⟩)
    rw [if_neg fun ha => h (any_key_iff.1 ha), get?, List.find?_append]
    by_cases hk : k = u.key
    · subst hk
      simp [hnone]
    · simp [hk, Ne.symm hk, get?]

theorem ofRows_append_singleton (rows : List UnitRow) (r : UnitRow) :
    ofRows (rows ++ [r]) = (ofRows rows).insert (.ofRow r) := by
  simp [ofRows]

/-- The keys are in the order in which they first come. -/
theorem keys_ofRows (rows : List UnitRow) :
    (ofRows rows).keys = distinct (rows.map fun r => unitKey r.label) := by
  induction rows using List.reverseRecOn with
  | nil => rfl
  | append_singleton rows r ih =>
    have hkey : (MeasurementUnit.ofRow r).key = unitKey r.label := rfl
    rw [ofRows_append_singleton, keys_insert, ih, hkey, List.map_append, List.map_singleton,
      distinct_append_singleton]
    simp only [mem_distinct]

/-- Under a key stands the unit of the last row that has it. -/
theorem get?_ofRows (rows : List UnitRow) (k : String) :
    (ofRows rows).get? k = (rows.reverse.find? fun r => unitKey r.label = k).map .ofRow := by
  induction rows using List.reverseRecOn with
  | nil => rfl
  | append_singleton rows r ih =>
    have hkey : (MeasurementUnit.ofRow r).key = unitKey r.label := rfl
    rw [ofRows_append_singleton, get?_insert, ih, hkey, List.reverse_append, List.reverse_singleton,
      List.singleton_append]
    by_cases hk : k = unitKey r.label
    · simp [hk]
    · simp [hk, Ne.symm hk]

/-- A key finds the unit that the last of its rows describes. -/
theorem get?_ofRows_eq_some_iff {k : String} : (ofRows rows).get? k = some u ↔
    ∃ earlier r later, rows = earlier ++ r :: later ∧ unitKey r.label = k ∧
      (∀ r' ∈ later, unitKey r'.label ≠ k) ∧ u.DescribedBy r := by
  simp only [get?_ofRows, Option.map_eq_some_iff, List.find?_eq_some_iff_append,
    MeasurementUnit.describedBy_iff]
  constructor
  · rintro ⟨r, ⟨hr, later, earlier, hrows, hlater⟩, rfl⟩
    refine ⟨earlier.reverse, r, later.reverse, ?_, by simpa using hr, ?_, rfl⟩
    · rw [← List.reverse_inj, hrows]
      simp
    · intro r' hr'
      simpa using hlater r' (List.mem_reverse.1 hr')
  · rintro ⟨earlier, r, later, rfl, hr, hlater, rfl⟩
    refine ⟨r, ⟨by simpa using hr, later.reverse, earlier.reverse, by simp, ?_⟩, rfl⟩
    intro r' hr'
    simpa using hlater r' (List.mem_reverse.1 hr')

theorem mem_units_ofRows_iff :
    u ∈ (ofRows rows).units ↔ (ofRows rows).get? u.key = some u := by
  have hinj : ∀ ⦃v⦄, v ∈ (ofRows rows).units → ∀ ⦃w⦄, w ∈ (ofRows rows).units →
      v.key = w.key → v = w := by
    have hnodup : (ofRows rows).keys.Nodup := by
      rw [keys_ofRows]
      exact nodup_distinct _
    exact List.inj_on_of_nodup_map hnodup
  rw [get?, find?_eq_some_iff_of_inj hinj, and_iff_left rfl]

theorem exists_row_of_mem_units (hu : u ∈ (ofRows rows).units) : ∃ r ∈ rows, u.DescribedBy r := by
  obtain ⟨earlier, r, later, rfl, -, -, hr⟩ :=
    get?_ofRows_eq_some_iff.1 (mem_units_ofRows_iff.1 hu)
  exact ⟨r, by simp, hr⟩

/-- Where no two rows are about one unit, each unit is found by its IRI. -/
theorem byIri_ofRows (hn : (rows.map UnitRow.iri).Nodup) (hu : u ∈ (ofRows rows).units) :
    (ofRows rows).byIri u.iri = some u := by
  have hinj : ∀ ⦃v⦄, v ∈ (ofRows rows).units → ∀ ⦃w⦄, w ∈ (ofRows rows).units →
      v.iri = w.iri → v = w := by
    intro v hv w hw hiri
    obtain ⟨r, hr, hv⟩ := exists_row_of_mem_units hv
    obtain ⟨r', hr', hw⟩ := exists_row_of_mem_units hw
    have hsame : r = r' := by
      refine List.inj_on_of_nodup_map hn hr hr' ?_
      rw [← hv.iri, hiri, hw.iri]
    rw [MeasurementUnit.describedBy_iff.1 hv, MeasurementUnit.describedBy_iff.1 hw, hsame]
  exact (find?_eq_some_iff_of_inj hinj).2 ⟨hu, rfl⟩

/-- The catalog has one unit for each key of its rows, in the order in which the keys first come:
the unit of the last row of the key. A name that is no key finds the first unit whose IRI has it as
local name, and a unit is found by its key, by the key of its key and, if the rows are those of an
ontology, by its IRI. Keys are made character by character, which comes to the same as to replace
blanks, carets and parentheses one after the other; none of these is left in a key, and a key is its
own key. -/
theorem last_row_of_key_prevails (rows : List UnitRow) :
    (ofRows rows).keys = distinct (rows.map fun r => unitKey r.label) ∧
    (∀ k, (ofRows rows).get? k =
      (rows.reverse.find? fun r => unitKey r.label = k).map MeasurementUnit.ofRow) ∧
    (∀ name u, (ofRows rows).get? name = some u → (ofRows rows).find? name = some u) ∧
    (∀ name, (ofRows rows).get? name = none →
      (ofRows rows).find? name = (ofRows rows).units.find? (·.iri.name = name)) ∧
    (∀ u ∈ (ofRows rows).units, (ofRows rows).find? u.key = some u ∧
      (ofRows rows).find? (unitKey u.key) = some u) ∧
    (∀ d : Dataset, d.unitRows = .ok rows →
      ∀ u ∈ (ofRows rows).units, (ofRows rows).byIri u.iri = some u) ∧
    (∀ a b, unitKey (a ++ b) = unitKey a ++ unitKey b) ∧
    (∀ label, (unitKey label).toList = replaceChars (fun c => c == '(' || c == ')') []
      (replaceChars (· == '^') ['e', 'x', 'p'] (replaceChars (· == ' ') ['_'] label.toList))) ∧
    (∀ label, ∀ c ∈ (unitKey label).toList, c ≠ ' ' ∧ c ≠ '^' ∧ c ≠ '(' ∧ c ≠ ')') ∧
    ∀ label, unitKey (unitKey label) = unitKey label := by
  have hfound : ∀ {name u}, (ofRows rows).get? name = some u →
      (ofRows rows).find? name = some u := by
    intro name u hu
    rw [find?, hu]
    rfl
  refine ⟨keys_ofRows rows, get?_ofRows rows, fun name u => hfound, fun name hnone => ?_,
    fun u hu => ?_, fun d hd u hu => byIri_ofRows (nodup_map_iri_of_unitRows hd) hu,
    unitKey_append, toList_unitKey_eq_replaceChars, fun label c => kept_of_mem_unitKey,
    unitKey_unitKey⟩
  · rw [find?, hnone]
    rfl
  · have hkey := hfound (mem_units_ofRows_iff.1 hu)
    refine ⟨hkey, ?_⟩
    rw [MeasurementUnit.key, unitKey_unitKey]
    exact hkey

/-- An ontology of two units whose labels make one key, and of another one. -/
def areaOntology : Dataset :=
  .ofTriples [
    ⟨.iri ⟨"urn:u#SQM"⟩, Vocabulary.type, .iri Vocabulary.unit⟩,
    ⟨.iri ⟨"urn:u#SQM"⟩, Vocabulary.label, .literal (.plain "Metre ^2")⟩,
    ⟨.iri ⟨"urn:u#N"⟩, Vocabulary.type, .iri Vocabulary.unit⟩,
    ⟨.iri ⟨"urn:u#N"⟩, Vocabulary.label, .literal (.plain "Newton")⟩,
    ⟨.iri ⟨"urn:u#M2"⟩, Vocabulary.type, .iri Vocabulary.unit⟩,
    ⟨.iri ⟨"urn:u#M2"⟩, Vocabulary.label, .literal (.plain "Metre (^2)")⟩]

def areaRows : List UnitRow :=
  [⟨⟨"urn:u#M2"⟩, "Metre (^2)", none, none, none⟩, ⟨⟨"urn:u#N"⟩, "Newton", none, none, none⟩,
    ⟨⟨"urn:u#SQM"⟩, "Metre ^2", none, none, none⟩]

theorem unitRows_area : areaOntology.unitRows = .ok areaRows := by
  have hunits : (areaOntology.defaultSubjects Vocabulary.type (.iri Vocabulary.unit)).filterMap
      (fun n => n.term.iri?) = areaRows.map UnitRow.iri := by decide +kernel
  have hsorted : sortIris (areaRows.map UnitRow.iri) = areaRows.map UnitRow.iri :=
    List.mergeSort_of_pairwise (by decide +kernel)
  rw [Dataset.unitRows, Dataset.unitAnswers, hunits, hsorted]
  decide +kernel

theorem last_area_prevails :
    areaOntology.unitRows = .ok areaRows ∧
      (ofRows areaRows).keys = ["Metre_exp2", "Newton"] ∧
      (ofRows areaRows).find? "Metre_exp2" = some ⟨⟨"urn:u#SQM"⟩, "Metre ^2", none, none⟩ ∧
      (ofRows areaRows).byIri ⟨"urn:u#SQM"⟩ = some ⟨⟨"urn:u#SQM"⟩, "Metre ^2", none, none⟩ := by
  obtain ⟨hkeys, hget, hfind, -, -, hiri, -⟩ := last_row_of_key_prevails areaRows
  have hlast : (ofRows areaRows).get? "Metre_exp2" =
      some ⟨⟨"urn:u#SQM"⟩, "Metre ^2", none, none⟩ := by
    rw [hget]
    decide +kernel
  refine ⟨unitRows_area, ?_, hfind _ _ hlast, ?_⟩
  · rw [hkeys]
    decide +kernel
  · exact hiri areaOntology unitRows_area ⟨⟨"urn:u#SQM"⟩, "Metre ^2", none, none⟩
      (mem_units_ofRows_iff.2 hlast)

end UnitCatalog

end BuildingModel
