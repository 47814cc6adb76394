import BuildingModel.Proofs.Number.Value
import BuildingModel.Proofs.Rdf.Graph
import BuildingModel.Proofs.Validation.Report

/-!
# Numbers within bounds

A literal for which no bound is reported reads as a number, and this number lies within the bounds.
Bounds are asked of literals only: no node is reported for them. A number is reported if it is below
the least or above the greatest one allowed, so what cannot be compared is not.
-/
namespace BuildingModel.Validation

open BuildingModel.Rdf BuildingModel.Number

variable {o data : Dataset} {p : PropertyShape} {shape : Iri} {n : Node} {v : Term}
  {memo : ClassMemo o} {cs : List ValueConstraint} {a : WithBot (WithTop ℚ)}

/-- A number is the least or the greatest one that constraints allow. -/
def HasBound (cs : List ValueConstraint) (x : Binary) : Prop :=
  .minInclusive x ∈ cs ∨ .maxInclusive x ∈ cs

/-- A value lies within the bounds that constraints give. -/
structure Within (cs : List ValueConstraint) (a : WithBot (WithTop ℚ)) : Prop where
  least : ∀ x b, .minInclusive x ∈ cs → x.value? = some b → b ≤ a
  greatest : ∀ x b, .maxInclusive x ∈ cs → x.value? = some b → a ≤ b

/-- The bounds that constraints give hold of a value. -/
structure BoundsHold (o data : Dataset) (cs : List ValueConstraint) (v : Term) : Prop where
  least : ∀ x, .minInclusive x ∈ cs → Holds o data v (.minInclusive x)
  greatest : ∀ x, .maxInclusive x ∈ cs → Holds o data v (.maxInclusive x)

/-- A result reports a bound. -/
def Result.OnBound (r : Result) : Prop :=
  r.constraint = some "sh:minInclusive" ∨ r.constraint = some "sh:maxInclusive"

theorem onBound_result_iff {c : ValueConstraint} :
    (p.result shape n c.name (some v) c.message).OnBound ↔
      ∃ x, c = .minInclusive x ∨ c = .maxInclusive x := by
  cases c <;> simp [Result.OnBound, PropertyShape.result, ValueConstraint.name]

/-- Bounds are reported unless they hold. -/
theorem none_onBound_iff :
    (∀ r ∈ ((p.valueResults shape n data v cs : Lookup o (List Result)) memo).1, ¬ r.OnBound) ↔
      BoundsHold o data cs v := by
  rw [valueResults_fst]
  constructor
  · intro h
    have hholds : ∀ c ∈ cs, (∃ x, c = .minInclusive x ∨ c = .maxInclusive x) →
        Holds o data v c := by
      intro c hc hbound
      by_contra hnot
      refine h (p.result shape n c.name (some v) c.message) (List.mem_flatMap.2 ⟨c, hc, ?_⟩)
        (onBound_result_iff.2 hbound)
      rw [if_neg hnot]
      exact List.mem_singleton.2 rfl
    exact ⟨fun x hx => hholds _ hx ⟨x, .inl rfl⟩, fun x hx => hholds _ hx ⟨x, .inr rfl⟩⟩
  · intro h r hr honbound
    obtain ⟨c, hc, hr⟩ := List.mem_flatMap.1 hr
    split at hr
    · cases hr
    · rename_i hnot
      obtain rfl := List.mem_singleton.1 hr
      obtain ⟨x, rfl | rfl⟩ := onBound_result_iff.1 honbound
      · exact hnot (h.least x hc)
      · exact hnot (h.greatest x hc)

theorem BoundsHold.of_not_literal (hv : ∀ l, v ≠ .literal l) : BoundsHold o data cs v :=
  ⟨fun _ _ l hl => absurd hl (hv l), fun _ _ l hl => absurd hl (hv l)⟩

section Literal

variable {l : Literal} {y : Binary}

/-- A literal of which a bound holds reads as a number. -/
theorem BoundsHold.exists_number {x : Binary} (h : BoundsHold o data cs (.literal l))
    (hx : HasBound cs x) : ∃ y, numberOfText? l.text = some y := by
  rcases hx with hx | hx
  · exact (h.least x hx l rfl).imp fun _ hy => hy.1
  · exact (h.greatest x hx l rfl).imp fun _ hy => hy.1

section Number

variable (hy : numberOfText? l.text = some y)
include hy

theorem holds_minInclusive_iff {x : Binary} :
    Holds o data (.literal l) (.minInclusive x) ↔ ¬ y.lt x = true := by
  simp [Holds, TextIs, hy]

theorem holds_maxInclusive_iff {x : Binary} :
    Holds o data (.literal l) (.maxInclusive x) ↔ ¬ x.lt y = true := by
  simp [Holds, TextIs, hy]

theorem BoundsHold.within (h : BoundsHold o data cs (.literal l)) (ha : y.value? = some a) :
    Within cs a := by
  constructor
  · intro x b hx hb
    have hlt := (holds_minInclusive_iff hy).1 (h.least x hx)
    rwa [Binary.lt_iff_value_lt ha hb, not_lt] at hlt
  · intro x b hx hb
    have hlt := (holds_maxInclusive_iff hy).1 (h.greatest x hx)
    rwa [Binary.lt_iff_value_lt hb ha, not_lt] at hlt

theorem Within.boundsHold (h : Within cs a) (ha : y.value? = some a)
    (hbounds : ∀ x, HasBound cs x → x ≠ .nan) : BoundsHold o data cs (.literal l) := by
  have hvalue : ∀ x, HasBound cs x → ∃ b, x.value? = some b := fun x hx =>
    Option.ne_none_iff_exists'.1 (mt Binary.value?_eq_none_iff.1 (hbounds x hx))
  constructor
  · intro x hx
    obtain ⟨b, hb⟩ := hvalue x (.inl hx)
    rw [holds_minInclusive_iff hy, Binary.lt_iff_value_lt ha hb, not_lt]
    exact h.least x b hx hb
  · intro x hx
    obtain ⟨b, hb⟩ := hvalue x (.inr hx)
    rw [holds_maxInclusive_iff hy, Binary.lt_iff_value_lt hb ha, not_lt]
    exact h.greatest x b hx hb

end Number

end Literal

/-- A literal for which no bound is reported reads as a number, and its value lies within all
bounds. No bound is reported of a literal whose value lies within them, nor of a node. -/
theorem PropertyShape.bounds_admit_numbers_within (o data : Dataset) (p : PropertyShape)
    (shape : Iri) (n : Node) (v : Term) (memo : ClassMemo o) :
    let results := ((p.valueResults shape n data v p.constraints : Lookup o (List Result)) memo).1
    (∀ l, v = .literal l → (∃ x, HasBound p.constraints x) → (∀ r ∈ results, ¬ r.OnBound) →
      ∃ y, numberOfText? l.text = some y ∧ ∀ a, y.value? = some a → Within p.constraints a) ∧
    (∀ l y a, v = .literal l → numberOfText? l.text = some y → y.value? = some a →
      (∀ x, HasBound p.constraints x → x ≠ .nan) → Within p.constraints a →
        ∀ r ∈ results, ¬ r.OnBound) ∧
    ((∀ l, v ≠ .literal l) → ∀ r ∈ results, ¬ r.OnBound) := by
  intro results
  refine ⟨?_, ?_, fun hv => none_onBound_iff.2 (.of_not_literal hv)⟩
  · rintro l rfl ⟨x, hx⟩ hnone
    have h := none_onBound_iff.1 hnone
    obtain ⟨y, hy⟩ := h.exists_number hx
    exact ⟨y, hy, fun a ha => h.within hy ha⟩
  · rintro l y a rfl hy ha hbounds hwithin
    exact none_onBound_iff.2 (hwithin.boundsHold hy ha hbounds)

/-! ## Gauges -/

/-- A shape of gauges, which read from 0 to 1. -/
def gaugeShapes : Dataset := .ofTriples [
  ⟨.iri ⟨"urn:GaugeShape"⟩, Vocabulary.type, .iri Shacl.nodeShape⟩,
  ⟨.iri ⟨"urn:GaugeShape"⟩, Shacl.targetClass, .iri ⟨"urn:Gauge"⟩⟩,
  ⟨.iri ⟨"urn:GaugeShape"⟩, Shacl.property, .blank ⟨"p"⟩⟩,
  ⟨.blank ⟨"p"⟩, Shacl.path, .iri ⟨"urn:reads"⟩⟩,
  ⟨.blank ⟨"p"⟩, Shacl.minInclusive, .literal (.typed "0" Xsd.integer)⟩,
  ⟨.blank ⟨"p"⟩, Shacl.maxInclusive, .literal (.typed "1" Xsd.integer)⟩]

/-- What the shape asks of a reading: from `0` to `2 ^ 52 * 2 ^ (-52)`. -/
def gaugeReading : PropertyShape :=
  ⟨⟨"urn:reads"⟩, none, none,
    [.minInclusive (.finite false 0 (-1074)), .maxInclusive (.finite false (2 ^ 52) (-52))],
    none, none⟩

def gaugeShape : NodeShape :=
  ⟨⟨"urn:GaugeShape"⟩, [⟨"urn:Gauge"⟩], [], [gaugeReading], .violation⟩

theorem ofDataset_gaugeShapes :
    ShapeValidator.ofDataset gaugeShapes = .ok ⟨gaugeShapes, [gaugeShape]⟩ := by
  have hload : loadShapes gaugeShapes .expressions = .ok [gaugeShape] :=
    loadShapes_of_single (by rfl)
  rw [ShapeValidator.ofDataset, hload]
  rfl

/-- A gauge that reads what another node is. -/
def gaugeData : Dataset := .ofTriples [
  ⟨.iri ⟨"urn:gauge"⟩, Vocabulary.type, .iri ⟨"urn:Gauge"⟩⟩,
  ⟨.iri ⟨"urn:gauge"⟩, ⟨"urn:reads"⟩, .iri ⟨"urn:needle"⟩⟩]

/-- What is reported of a value of the gauge. -/
def gaugeResults (v : Term) : List Result :=
  (gaugeReading.valueResults gaugeShape.id (.iri ⟨"urn:gauge"⟩) gaugeData v
    gaugeReading.constraints (.empty gaugeShapes)).1

/-- A node among the values of a path with bounds is not reported. -/
theorem node_within_no_bounds :
    ShapeValidator.ofDataset gaugeShapes = .ok ⟨gaugeShapes, [gaugeShape]⟩ ∧
    gaugeReading ∈ gaugeShape.properties ∧
    HasBound gaugeReading.constraints (.finite false 0 (-1074)) ∧
    InstanceOf gaugeShapes gaugeData (.iri ⟨"urn:gauge"⟩) ⟨"urn:Gauge"⟩ ∧
    .iri ⟨"urn:needle"⟩ ∈ gaugeData.objects (.iri ⟨"urn:gauge"⟩) gaugeReading.path ∧
    (∀ r ∈ gaugeResults (.iri ⟨"urn:needle"⟩), ¬ r.OnBound) ∧
    ¬ ∃ l y a, Term.iri ⟨"urn:needle"⟩ = .literal l ∧ numberOfText? l.text = some y ∧
        y.value? = some a ∧ Within gaugeReading.constraints a := by
  refine ⟨ofDataset_gaugeShapes, List.mem_singleton.2 rfl, .inl List.mem_cons_self, ?_,
    by decide +kernel, ?_, ?_⟩
  · rw [← isInstance_iff (m := .empty gaugeShapes)]
    decide +kernel
  · exact none_onBound_iff.2 (.of_not_literal fun _ => Term.noConfusion)
  · rintro ⟨_, _, _, h, -⟩
    cases h

theorem within_gaugeReading_iff {q : ℚ} :
    Within gaugeReading.constraints ((q : WithTop ℚ) : WithBot (WithTop ℚ)) ↔ 0 ≤ q ∧ q ≤ 1 := by
  constructor
  · intro h
    have hleast := h.least _ _ List.mem_cons_self rfl
    have hgreatest := h.greatest (.finite false (2 ^ 52) (-52)) _ (by simp [gaugeReading]) rfl
    rw [WithBot.coe_le_coe, WithTop.coe_le_coe] at hleast hgreatest
    norm_num at hleast hgreatest
    exact ⟨hleast, hgreatest⟩
  · rintro ⟨hleast, hgreatest⟩
    constructor
    · intro x b hx hb
      obtain rfl : x = .finite false 0 (-1074) := by simpa [gaugeReading] using hx
      cases hb
      simpa [WithBot.coe_le_coe, WithTop.coe_le_coe] using hleast
    · intro x b hx hb
      obtain rfl : x = .finite false (2 ^ 52) (-52) := by simpa [gaugeReading] using hx
      cases hb
      rw [WithBot.coe_le_coe, WithTop.coe_le_coe]
      norm_num
      exact hgreatest

/-- A half is admitted and lies within the bounds, with blanks around it as well. What is no number
is not admitted, but the needle is. -/
theorem gaugeReading_admits_half :
    (∃ y, numberOfText? "0.5" = some y ∧ ∀ a, y.value? = some a →
      Within gaugeReading.constraints a) ∧
    (∀ r ∈ gaugeResults (.literal (.plain " 0.5 ")), ¬ r.OnBound) ∧
    (∃ r ∈ gaugeResults (.literal (.plain "half")), r.OnBound) ∧
    ∀ r ∈ gaugeResults (.iri ⟨"urn:needle"⟩), ¬ r.OnBound := by
  have hadmits := fun v => PropertyShape.bounds_admit_numbers_within gaugeShapes gaugeData
    gaugeReading gaugeShape.id (.iri ⟨"urn:gauge"⟩) v (.empty gaugeShapes)
  refine ⟨?_, ?_, ?_, (hadmits _).2.2 fun _ => Term.noConfusion⟩
  · have hnone : gaugeResults (.literal (.plain "0.5")) = [] := by decide +kernel
    refine (hadmits _).1 (.plain "0.5") rfl ⟨_, .inl List.mem_cons_self⟩ fun r hr => ?_
    rw [gaugeResults] at hnone
    rw [hnone] at hr
    cases hr
  · refine (hadmits _).2.1 (.plain " 0.5 ") (.finite false (2 ^ 52) (-53))
      (((2 ^ 52 * 2 ^ (-53 : ℤ) : ℚ) : WithTop ℚ) : WithBot (WithTop ℚ)) rfl (by decide +kernel)
      (by norm_num [Binary.value?]) ?_ ?_
    · rintro x (hx | hx) rfl
      · simp [gaugeReading] at hx
      · simp [gaugeReading] at hx
    · rw [within_gaugeReading_iff]
      norm_num
  · have hone : (gaugeResults (.literal (.plain "half"))).head?.map Result.constraint =
        some (some "sh:minInclusive") := by decide +kernel
    obtain ⟨r, hr, hconstraint⟩ := Option.map_eq_some_iff.1 hone
    exact ⟨r, List.mem_of_mem_head? hr, .inl hconstraint⟩

end BuildingModel.Validation
