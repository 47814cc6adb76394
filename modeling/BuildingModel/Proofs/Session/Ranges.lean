import BuildingModel.Proofs.Relation.Specific
import BuildingModel.Proofs.Session.Capabilities

/-!
# The range of a relation

The range of a relation unites what its bindings let it point at, and is left open only where none
of them has a restriction. It says what an entity can be related to if all of the nearest bindings
for the class of the entity are restricted. A nearest binding without a restriction admits every
target, and nothing of it shows in a range that other bindings restrict.
-/
namespace BuildingModel

open BuildingModel.Rdf

namespace Nearest

variable {bs : List Binding} {found : Binding} {x : TargetType}

/-- What bindings are merged into is open if one of them is. -/
theorem range_eq_nil_iff (hmerge : merge? bs = some found) :
    found.range = [] ↔ ∃ b ∈ bs, b.range = [] := by
  obtain ⟨first, rest, rfl, rfl⟩ := merge?_eq_some_iff.1 hmerge
  by_cases hopen : ∃ b ∈ first :: rest, b.range = []
  · exact iff_of_true (if_pos hopen) hopen
  · refine iff_of_false ?_ hopen
    rw [if_neg hopen]
    have hfirst : first.range ≠ [] := fun heq => hopen ⟨first, List.mem_cons_self, heq⟩
    obtain ⟨x, hx⟩ := List.exists_mem_of_ne_nil _ hfirst
    apply List.ne_nil_of_mem (a := x)
    exact mem_distinct.2 (List.mem_flatMap.2 ⟨first, List.mem_cons_self, hx⟩)

/-- What bindings are merged into allows nothing that none of them does. -/
theorem exists_mem_of_mem_range (hmerge : merge? bs = some found) (hx : x ∈ found.range) :
    ∃ b ∈ bs, x ∈ b.range := by
  obtain ⟨first, rest, rfl, rfl⟩ := merge?_eq_some_iff.1 hmerge
  dsimp only at hx
  split at hx
  · cases hx
  · exact List.mem_flatMap.1 (mem_distinct.1 hx)

end Nearest

namespace Relation

variable {r : Relation} {h : Hierarchy} {c : ClassId} {b found : Binding} {R : List TargetType}

/-- No other binding of a relation has a domain that is fewer steps above a class. -/
def IsNearest (r : Relation) (h : Hierarchy) (c : ClassId) (b : Binding) : Prop :=
  b ∈ r.bindings ∧ ∃ m, h.IsDistance c b.domain m ∧
    ∀ x ∈ r.bindings, ∀ k, h.IsDistance c x.domain k → m ≤ k

/-! ## The united range -/

theorem range?_eq_none_iff : r.range? = none ↔ ∀ b ∈ r.bindings, b.range = [] := by
  have hnil : (distinct (r.bindings.flatMap Binding.range)).isEmpty = true ↔
      ∀ b ∈ r.bindings, b.range = [] := by
    simp only [List.isEmpty_iff, List.eq_nil_iff_forall_not_mem, mem_distinct, List.mem_flatMap,
      not_exists, not_and]
    exact forall_comm.trans (forall_congr' fun b => forall_comm)
  rw [range?, ← hnil]
  simp

theorem mem_range?_iff (hR : r.range? = some R) {x : TargetType} :
    x ∈ R ↔ ∃ b ∈ r.bindings, x ∈ b.range := by
  simp only [range?] at hR
  split at hR
  · cases hR
  · cases hR
    simp

/-! ## The range of the nearest bindings -/

/-- The nearest bindings that are kept are all that there are. -/
theorem mem_nearest?_iff {n : Nearest} (hn : r.nearest? h c = some n) :
    b ∈ n.bindings ↔ r.IsNearest h c b := by
  obtain ⟨⟨⟨x, hx, hxn⟩, hleast⟩, hbindings⟩ := Nearest.keeps_some_iff.1 (nearest?_eq_iff.1 hn)
  rw [hbindings, List.mem_filter, decide_eq_true_eq, Hierarchy.distance?_eq_some_iff]
  rw [Hierarchy.distance?_eq_some_iff] at hxn
  constructor
  · rintro ⟨hb, hbn⟩
    refine ⟨hb, n.distance, hbn, fun y hy k hk => hleast ⟨y, hy, ?_⟩⟩
    exact Hierarchy.distance?_eq_some_iff.2 hk
  · rintro ⟨hb, m, hm, hmin⟩
    have hge : n.distance ≤ m := hleast ⟨b, hb, Hierarchy.distance?_eq_some_iff.2 hm⟩
    obtain rfl : m = n.distance := le_antisymm (hmin x hx _ hxn) hge
    exact ⟨hb, hm⟩

/-- The binding for a class is put together from the nearest bindings. -/
theorem exists_merge_of_bindingFor? (hb : r.bindingFor? h c = some found) :
    ∃ bs, Nearest.merge? bs = some found ∧ ∀ b, b ∈ bs ↔ r.IsNearest h c b := by
  obtain ⟨n, hn, hmerge⟩ := Option.bind_eq_some_iff.1 hb
  exact ⟨n.bindings, hmerge, fun b => mem_nearest?_iff hn⟩

/-- Where a nearest binding exists, so does a binding for the class. -/
theorem IsNearest.exists_bindingFor? (hb : r.IsNearest h c b) :
    ∃ found, r.bindingFor? h c = some found := by
  obtain ⟨hmem, m, hm, -⟩ := hb
  rw [← Option.ne_none_iff_exists', Ne, bindingFor?_eq_none_iff]
  intro hnone
  exact hnone b hmem (Hierarchy.descends_iff_exists_stepsUp.2 ⟨m, hm.1⟩)

end Relation

namespace Session

variable {schema : Schema} {subject : EntityId} {e : Entity} {property : String} {r : Relation}

/-- The range of a relation is left open if and only if none of its bindings has a restriction. If
it is not, it unites what the bindings allow. An entity whose nearest bindings are all restricted
can then be related to what the range allows and to nothing else, and one with a nearest binding
that has no restriction can be related to every entity and record of the session. -/
theorem accepted_within_range (s : Session schema) (he : s.IsEntity subject e)
    (hr : schema.relations.get? property = some r) :
    (r.range? = none ↔ ∀ b ∈ r.bindings, b.range = []) ∧
    ∀ R, r.range? = some R →
      (∀ x, x ∈ R ↔ ∃ b ∈ r.bindings, x ∈ b.range) ∧
      ((∀ b, r.IsNearest schema.hierarchy e.classId b → b.range ≠ []) →
        ∀ t, (∃ s', s.addRelation subject property t = .ok s') → ∃ x ∈ R, s.HasType t x) ∧
      ((∃ b, r.IsNearest schema.hierarchy e.classId b ∧ b.range = []) →
        ∀ t, (∃ s', s.addRelation subject property t = .ok s') ↔ s.Owns t) := by
  refine ⟨Relation.range?_eq_none_iff, fun R hR => ⟨fun x => Relation.mem_range?_iff hR, ?_, ?_⟩⟩
  · intro hrestricted t ht
    obtain ⟨r', found, hr', hfound, hadmits⟩ := (exists_addRelation_iff he).1 ht
    rw [hr] at hr'
    cases hr'
    obtain ⟨bs, hmerge, hbs⟩ := Relation.exists_merge_of_bindingFor? hfound
    rcases hadmits.type with hopen | ⟨x, hx, htype⟩
    · obtain ⟨b, hb, hnil⟩ := (Nearest.range_eq_nil_iff hmerge).1 hopen
      exact absurd hnil (hrestricted b ((hbs b).1 hb))
    · obtain ⟨b, hb, hxb⟩ := Nearest.exists_mem_of_mem_range hmerge hx
      have hmem : b ∈ r.bindings := ((hbs b).1 hb).1
      exact ⟨x, (Relation.mem_range?_iff hR).2 ⟨b, hmem, hxb⟩, htype⟩
  · rintro ⟨b, hnearest, hnil⟩ t
    obtain ⟨found, hfound⟩ := hnearest.exists_bindingFor?
    obtain ⟨bs, hmerge, hbs⟩ := Relation.exists_merge_of_bindingFor? hfound
    have hopen : found.range = [] :=
      (Nearest.range_eq_nil_iff hmerge).2 ⟨b, (hbs b).2 hnearest, hnil⟩
    rw [exists_addRelation_iff he]
    constructor
    · rintro ⟨_, _, _, _, hadmits⟩
      exact hadmits.owns
    · intro howns
      exact ⟨r, found, hr, hfound, howns, .inl hopen⟩

/-! ## Equipment and other things -/

/-- A session with one entity of a class. -/
def fanSession (className : String) : Session fanSchema :=
  (start fanSchema 0).run [.create className "urn:plant#site" none]

theorem isEntity_fanSession : (fanSession "Equipment").IsEntity ⟨0, 0⟩
    ⟨⟨"urn:plant#site"⟩, none, ⟨1⟩, []⟩ := by
  constructor <;> decide

/-- Equipment can feed itself, and is what the range allows. -/
theorem accepted_within_range_of_equipment :
    ∃ x ∈ [TargetType.class ⟨1⟩], (fanSession "Equipment").HasType (.entity ⟨0, 0⟩) x := by
  have hr : fanSchema.relations.get? "feeds" = some feedsRelation := by decide
  have hR : feedsRelation.range? = some [.class ⟨1⟩] := by decide
  obtain ⟨-, hrange⟩ := accepted_within_range (fanSession "Equipment") isEntity_fanSession hr
  obtain ⟨-, hwithin, -⟩ := hrange _ hR
  refine hwithin ?_ (.entity ⟨0, 0⟩) ?_
  · rintro b ⟨hb, m, hm, hmin⟩ hnil
    have hzero : m = 0 := Nat.le_zero.1 (hmin equipmentBinding (by decide) 0 (by decide +kernel))
    subst hzero
    rcases List.mem_cons.1 hb with rfl | hb
    · exact absurd hm (by decide +kernel)
    · rw [List.mem_singleton.1 hb] at hnil
      cases hnil
  · rw [exists_addRelation_iff isEntity_fanSession]
    refine ⟨feedsRelation, equipmentBinding, hr, by decide +kernel, .entity isEntity_fanSession, ?_⟩
    exact .inr ⟨_, List.mem_singleton_self _, .entity isEntity_fanSession (LeadsTo.refl _)⟩

end Session

/-- The range of what is fed is equipment. The relation is also declared without a domain and
without a range, so something that is no equipment can feed itself. -/
theorem Relation.range_hides_open_binding :
    Schema.build fanOntology fanSettings = .ok fanSchema ∧
    fanSchema.relations.get? "feeds" = some feedsRelation ∧
    looseBinding ∈ feedsRelation.bindings ∧ looseBinding.range = [] ∧
    feedsRelation.range? = some [.class ⟨1⟩] ∧
    (∃ s', (Session.fanSession "Entity").addRelation ⟨0, 0⟩ "feeds" (.entity ⟨0, 0⟩) = .ok s') ∧
    ∀ x ∈ [TargetType.class ⟨1⟩], ¬ (Session.fanSession "Entity").HasType (.entity ⟨0, 0⟩) x := by
  have hr : fanSchema.relations.get? "feeds" = some feedsRelation := by decide
  have he : (Session.fanSession "Entity").IsEntity ⟨0, 0⟩
      ⟨⟨"urn:plant#site"⟩, none, ⟨0⟩, []⟩ := by
    constructor <;> decide
  refine ⟨build_fanSchema, hr, List.mem_cons_self, rfl, by decide, ?_, ?_⟩
  · rw [Session.exists_addRelation_iff he]
    exact ⟨feedsRelation, looseBinding, hr, by decide +kernel, .entity he, .inl rfl⟩
  · intro x hx htype
    rw [List.mem_singleton.1 hx] at htype
    cases htype with
    | entity he' hdescends =>
      rw [← he.unique he'] at hdescends
      exact descends_fan.2.2 hdescends

end BuildingModel
