import BuildingModel.Proofs.Relation.Nearest
import BuildingModel.Proofs.Schema.Parts
import BuildingModel.Proofs.Hierarchy.Growth
import BuildingModel.Proofs.Rdf.Graph

/-!
# Specific bindings

A class may have two bindings, one of them with a domain below that of the other. The more specific
one prevails if its domain is fewer steps above the class. This is so if all parents lead through
it, and always where no class has several parents. A further parent can make the less specific
domain as near or nearer.
-/
namespace BuildingModel

open BuildingModel.Rdf BuildingModel.Validation

namespace Hierarchy

variable {h : Hierarchy} {c a b : ClassId}

/-- Each chain of parents from a class to the latter of two is longer than some to the former. -/
def Nearer (h : Hierarchy) (c a b : ClassId) : Prop :=
  ∀ k, h.StepsUp k c b → ∃ j < k, h.StepsUp j c a

/-- Parents lead from a class to the latter of two without passing the former. -/
def Bypasses (h : Hierarchy) (c a b : ClassId) : Prop :=
  c ≠ a ∧ LeadsTo (fun x => (h.parentsOf x).filter (· ≠ a)) c b

/-- No class has parents besides its primary one. -/
def SingleParents (h : Hierarchy) : Prop := ∀ e ∈ h.classes, e.otherParents = []

theorem nearer_of_not_bypasses (hba : b ≠ a) (hpass : ¬ h.Bypasses c a b) : h.Nearer c a b := by
  intro k hk
  rcases hk.passes_or_avoids hba with hpassed | havoids
  · exact hpassed
  · obtain rfl : c = a := by
      by_contra hca
      exact hpass ⟨hca, havoids⟩
    have hpos : 0 < k := by
      rcases Nat.eq_zero_or_pos k with rfl | hpos
      · cases hk
        exact absurd rfl hba
      · exact hpos
    exact ⟨0, hpos, .zero⟩

theorem SingleParents.eq_of_mem_parentsOf (hs : h.SingleParents) {x y z : ClassId}
    (hy : y ∈ h.parentsOf x) (hz : z ∈ h.parentsOf x) : y = z := by
  cases he : h.classAt? x with
  | none => simp [parentsOf, he] at hy
  | some e =>
    have hother : e.otherParents = [] := hs e (List.mem_of_getElem? he)
    simp only [parentsOf, he, Option.map_some, Option.getD_some, ClassEntry.parents, hother,
      List.append_nil, Option.mem_toList] at hy hz
    exact Option.some.inj (hy.symm.trans hz)

/-- Where classes have single parents there is one chain upwards only, on which a class comes before
those that it descends from. -/
theorem SingleParents.nearer (hs : h.SingleParents) (hca : h.Descends c a)
    (hba : ¬ h.Descends b a) : h.Nearer c a b := by
  intro k hk
  obtain ⟨j, hj⟩ := descends_iff_exists_stepsUp.1 hca
  refine ⟨j, ?_, hj⟩
  by_contra hlt
  obtain ⟨x, hx, hxa⟩ := LeadsIn.exists_of_le hj (not_lt.1 hlt)
  have hxb : x = b := LeadsIn.unique (fun _ _ hy _ hz => hs.eq_of_mem_parentsOf hy hz) hx hk
  exact hba (hxb ▸ descends_iff_exists_stepsUp.2 ⟨_, hxa⟩)

/-- Nearer classes are those with the smaller distance. -/
theorem Nearer.distance_lt (hn : h.Nearer c a b) {j k : ℕ} (hj : h.distance? c a = some j)
    (hk : h.distance? c b = some k) : j < k := by
  obtain ⟨i, hik, hi⟩ := hn k (distance?_eq_some_iff.1 hk).1
  have hji : j ≤ i := (distance?_eq_some_iff.1 hj).2 hi
  omega

end Hierarchy

/-- What is kept of some bindings does not change with one more that is farther than another. -/
theorem Nearest.Keeps.of_farther {dist : Binding → Option ℕ} {xs ys : List Binding}
    {best : Option Nearest} (hk : Keeps dist (xs ++ ys) best) {a b : Binding} (ha : a ∈ xs ++ ys)
    {j : ℕ} (hj : dist a = some j) (hfarther : ∀ k, dist b = some k → j < k) :
    Keeps dist (xs ++ b :: ys) best := by
  cases best with
  | none =>
    rw [keeps_none_iff.1 hk a ha] at hj
    cases hj
  | some n =>
    obtain ⟨⟨⟨x, hx, hxn⟩, hleast⟩, hbindings⟩ := keeps_some_iff.1 hk
    have hnb : ∀ k, dist b = some k → n.distance < k := fun k hbk =>
      (hleast ⟨a, ha, hj⟩).trans_lt (hfarther k hbk)
    have hmem : ∀ y, y ∈ xs ++ b :: ys ↔ y = b ∨ y ∈ xs ++ ys := fun y => by
      simp only [List.mem_append, List.mem_cons]
      tauto
    rw [keeps_some_iff]
    refine ⟨⟨⟨x, (hmem x).2 (Or.inr hx), hxn⟩, ?_⟩, ?_⟩
    · rintro k ⟨y, hy, hyk⟩
      rcases (hmem y).1 hy with rfl | hy
      · exact (hnb k hyk).le
      · exact hleast ⟨y, hy, hyk⟩
    · have hdropped : ¬ dist b = some n.distance := fun hbn => (hnb _ hbn).false
      rw [hbindings, List.filter_append, List.filter_append,
        List.filter_cons_of_neg (by simpa using hdropped)]

namespace Relation

variable {r : Relation} {h : Hierarchy} {c : ClassId} {xs ys : List Binding} {a b : Binding}

theorem bindingFor?_of_nearer (hr : r.bindings = xs ++ b :: ys) (ha : a ∈ xs ++ ys)
    (hca : h.Descends c a.domain) (hn : h.Nearer c a.domain b.domain) :
    r.bindingFor? h c = { r with bindings := xs ++ ys }.bindingFor? h c := by
  obtain ⟨j, hj⟩ : ∃ j, h.distance? c a.domain = some j :=
    Option.ne_none_iff_exists'.1 fun hnone => Hierarchy.distance?_eq_none_iff.1 hnone hca
  have hkept := (keeps_nearest? { r with bindings := xs ++ ys } h c).of_farther ha hj
    fun k hk => hn.distance_lt hj hk
  rw [← hr] at hkept
  rw [bindingFor?, nearest?_eq_iff.2 hkept, bindingFor?]

/-- Of two bindings for a class, one with a domain properly below that of the other, the less
specific one changes nothing if its domain is farther from the class. It is farther if all chains of
parents lead to it through the more specific domain, and wherever no class has several parents. -/
theorem specific_binding_prevails (hr : r.bindings = xs ++ b :: ys) (ha : a ∈ xs ++ ys)
    (hca : h.Descends c a.domain) (hab : h.Descends a.domain b.domain)
    (hba : ¬ h.Descends b.domain a.domain) :
    (h.Nearer c a.domain b.domain →
      r.bindingFor? h c = { r with bindings := xs ++ ys }.bindingFor? h c) ∧
    (¬ h.Bypasses c a.domain b.domain → h.Nearer c a.domain b.domain) ∧
    (h.SingleParents → h.Nearer c a.domain b.domain) := by
  have hne : b.domain ≠ a.domain := fun heq => hba (heq ▸ hab)
  exact ⟨bindingFor?_of_nearer hr ha hca, Hierarchy.nearer_of_not_bypasses hne,
    fun hs => hs.nearer hca hba⟩

end Relation

/-! ## Fans -/

/-- Equipment feeds equipment, and fans are equipment. The relation is also declared without a
domain. -/
def fanStatements : List Triple := [
  ⟨.iri ⟨"urn:plant#Fan"⟩, Vocabulary.subClassOf, .iri ⟨"urn:plant#Equipment"⟩⟩,
  ⟨.iri ⟨"urn:plant#feeds"⟩, Vocabulary.type, .iri Vocabulary.objectProperty⟩,
  ⟨.iri ⟨"urn:plant#EquipmentShape"⟩, Vocabulary.type, .iri Shacl.nodeShape⟩,
  ⟨.iri ⟨"urn:plant#EquipmentShape"⟩, Shacl.targetClass, .iri ⟨"urn:plant#Equipment"⟩⟩,
  ⟨.iri ⟨"urn:plant#EquipmentShape"⟩, Shacl.property, .blank ⟨"p"⟩⟩,
  ⟨.blank ⟨"p"⟩, Shacl.path, .iri ⟨"urn:plant#feeds"⟩⟩,
  ⟨.blank ⟨"p"⟩, Shacl.class, .iri ⟨"urn:plant#Equipment"⟩⟩]

def fanOntology : Dataset := .ofTriples fanStatements

/-- Settings under which fans are a root, so that the base class is a parent of theirs too. -/
def fanSettings : Settings :=
  { Settings.standard with ns := "urn:plant#", roots := ["Equipment", "Fan"], loadUnits := false }

/-- The binding of the declaration without a domain. -/
def looseBinding : Binding := ⟨⟨0⟩, []⟩

/-- The binding that the shape of equipment makes. -/
def equipmentBinding : Binding := ⟨⟨1⟩, [.class ⟨1⟩]⟩

def feedsRelation : Relation := ⟨⟨"urn:plant#feeds"⟩, [looseBinding, equipmentBinding]⟩

def equipmentNodeShape : NodeShape where
  id := ⟨"urn:plant#EquipmentShape"⟩
  targetClasses := [⟨"urn:plant#Equipment"⟩]
  targetNodes := []
  properties := [⟨⟨"urn:plant#feeds"⟩, none, none, [.class ⟨"urn:plant#Equipment"⟩], none, none⟩]
  severity := .violation

def fanSchema : Schema where
  settings := fanSettings
  hierarchy := .ofClasses [
    ⟨⟨"urn:plant#Entity"⟩, some "Entity", none, none, []⟩,
    ⟨⟨"urn:plant#Equipment"⟩, some "Equipment", none, some ⟨0⟩, []⟩,
    ⟨⟨"urn:plant#Fan"⟩, some "Fan", none, some ⟨0⟩, [⟨1⟩]⟩]
  relations := .ofRelations [feedsRelation]
  shapes := .empty
  units := .empty
  validator := ShapeValidator.graphValidator ⟨fanOntology, [equipmentNodeShape]⟩

theorem build_fanHierarchy : Hierarchy.build fanOntology "urn:plant#" "Entity" ["Equipment", "Fan"]
    .firstWins = .ok fanSchema.hierarchy := by
  have hroots : Hierarchy.withRoots "urn:plant#" "Entity" ["Equipment", "Fan"] = .ok (.ofClasses [
      ⟨⟨"urn:plant#Entity"⟩, some "Entity", none, none, []⟩,
      ⟨⟨"urn:plant#Equipment"⟩, some "Equipment", none, some ⟨0⟩, []⟩,
      ⟨⟨"urn:plant#Fan"⟩, some "Fan", none, some ⟨0⟩, []⟩]) := by decide
  refine Hierarchy.build_eq_of_grow hroots
    (show _ = [(⟨1⟩, ⟨⟨"urn:plant#Fan"⟩, none, none⟩)] by decide +kernel) fun _ => ?_
  refine Hierarchy.grow_of_known (show _ = some ⟨2⟩ by decide)
    (show _ = Except.ok fanSchema.hierarchy by decide) fun _ => ?_
  rw [Hierarchy.grow]

theorem build_fanShapes :
    ShapeCatalog.build fanOntology ⟨"urn:plant#EntityProperty"⟩ "urn:plant#" [] = .ok .empty := by
  decide +kernel

theorem build_fanRelations : RelationRegistry.build fanOntology fanSchema.hierarchy .empty
    ⟨"urn:plant#EntityProperty"⟩ = .ok fanSchema.relations := by decide +kernel

theorem ofDataset_fanOntology :
    ShapeValidator.ofDataset fanOntology = .ok ⟨fanOntology, [equipmentNodeShape]⟩ := by
  have hload : loadShapes fanOntology .expressions = .ok [equipmentNodeShape] :=
    loadShapes_of_single (by rfl)
  rw [ShapeValidator.ofDataset, hload]
  rfl

theorem build_fanSchema : Schema.build fanOntology fanSettings = .ok fanSchema := by
  have hparts : Schema.Parts fanOntology fanSettings .expressions fanSchema
      ⟨"urn:plant#EntityProperty"⟩ ⟨fanOntology, [equipmentNodeShape]⟩ := by
    constructor
    · rfl
    · decide
    · exact build_fanHierarchy
    · rfl
    · exact build_fanShapes
    · exact build_fanRelations
    · exact ofDataset_fanOntology
    · rfl
  exact hparts.build_eq_ok

theorem descends_fan : fanSchema.hierarchy.Descends ⟨2⟩ ⟨1⟩ ∧
    fanSchema.hierarchy.Descends ⟨1⟩ ⟨0⟩ ∧ ¬ fanSchema.hierarchy.Descends ⟨0⟩ ⟨1⟩ := by
  simp only [← Hierarchy.isSubclass_iff]
  decide +kernel

/-- For equipment itself the binding of its shape prevails. -/
theorem Relation.specific_binding_prevails_for_equipment :
    feedsRelation.bindingFor? fanSchema.hierarchy ⟨1⟩ =
      { feedsRelation with bindings := [equipmentBinding] }.bindingFor?
        fanSchema.hierarchy ⟨1⟩ := by
  obtain ⟨-, hab, hba⟩ := descends_fan
  have hbindings : feedsRelation.bindings = [] ++ looseBinding :: [equipmentBinding] := rfl
  have hother : equipmentBinding ∈ [] ++ [equipmentBinding] := by simp
  obtain ⟨hfarther, hpass, -⟩ :=
    specific_binding_prevails hbindings hother (LeadsTo.refl _) hab hba
  exact hfarther (hpass fun hbypasses => hbypasses.1 rfl)

/-- Fans are a root, so they are as near to the base class as to equipment. The two bindings are
merged for them, and the one without a restriction lifts that of the more specific one. -/
theorem Relation.loose_binding_lifts_restriction_of_fans :
    Schema.build fanOntology fanSettings = .ok fanSchema ∧
    feedsRelation ∈ fanSchema.relations.relations ∧
    feedsRelation.bindings = [looseBinding, equipmentBinding] ∧
    fanSchema.hierarchy.Descends ⟨2⟩ equipmentBinding.domain ∧
    fanSchema.hierarchy.Descends equipmentBinding.domain looseBinding.domain ∧
    ¬ fanSchema.hierarchy.Descends looseBinding.domain equipmentBinding.domain ∧
    feedsRelation.bindingFor? fanSchema.hierarchy ⟨2⟩ = some ⟨⟨0⟩, []⟩ ∧
    { feedsRelation with bindings := [equipmentBinding] }.bindingFor? fanSchema.hierarchy ⟨2⟩ =
      some ⟨⟨1⟩, [.class ⟨1⟩]⟩ := by
  obtain ⟨hca, hab, hba⟩ := descends_fan
  refine ⟨build_fanSchema, List.mem_cons_self, rfl, hca, hab, hba, ?_, ?_⟩
  · decide +kernel
  · decide +kernel

end BuildingModel
