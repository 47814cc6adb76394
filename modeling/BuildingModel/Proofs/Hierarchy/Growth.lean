import BuildingModel.Proofs.Failure
import BuildingModel.Proofs.Hierarchy.Places
import Mathlib.Logic.Relation

/-!
# Growth of a hierarchy

A hierarchy grows by placing one pending subclass after another. A subclass that is not registered
is registered, and its own subclasses become pending; one that is registered has the parent already,
or gets it as a further one. What each of these three steps preserves holds of the grown hierarchy,
in which nothing is pending any more.
-/
namespace BuildingModel

open BuildingModel.Rdf BuildingModel.Ontology

namespace Rdf.Dataset

/-- The default graph declares a class an immediate subclass of another one. -/
def DeclaredBelow (d : Dataset) (c p : Iri) : Prop :=
  (⟨.iri c, Vocabulary.subClassOf, .iri p⟩ : Triple).inDefault ∈ d

theorem exists_mem_subclasses_iff {d : Dataset} {c p : Iri} :
    (∃ row ∈ d.subclasses p, row.iri = c) ↔ d.DeclaredBelow c p := by
  simp only [subclasses_eq_map, subclassIris, sortIris, List.mem_map, List.mem_mergeSort,
    mem_distinct, List.mem_filterMap, mem_defaultSubjects]
  constructor
  · rintro ⟨row, ⟨i, ⟨n, hn, hi⟩, rfl⟩, rfl⟩
    rw [Term.iri?_eq_some_iff] at hi
    cases n with
    | iri j =>
      cases hi
      exact hn
    | blank b => cases hi
  · intro h
    exact ⟨_, ⟨c, ⟨.iri c, h, rfl⟩, rfl⟩, rfl⟩

end Rdf.Dataset

namespace Hierarchy

variable {d : Dataset} {policy : HierarchyPolicy} {h h' : Hierarchy}
  {pending pending' : List Pending}

/-! ## Steps -/

/-- What placing the first pending subclass can do. -/
inductive Step (d : Dataset) : Hierarchy → List Pending → Hierarchy → List Pending → Prop
  | known {h : Hierarchy} {c p : ClassId} {row : SubclassRow} {later : List Pending}
      (hc : h.byIri row.iri = some c) (hp : c = p ∨ p ∈ h.parentsOf c) :
      Step d h ((p, row) :: later) h later
  | recorded {h : Hierarchy} {c p : ClassId} {row : SubclassRow} {later : List Pending}
      (hc : h.byIri row.iri = some c) (hne : c ≠ p) (hp : p ∉ h.parentsOf c) :
      Step d h ((p, row) :: later) (h.recordParent c p) later
  | registered {h : Hierarchy} {p : ClassId} {row : SubclassRow} {later : List Pending}
      (hn : h.byIri row.iri = none) :
      Step d h ((p, row) :: later) (h.registerBelow p row)
        (pendingBelow d h.nextId row.iri ++ later)

/-- What it means that a parent of a registered class is not refused. -/
theorem addParent_eq_ok {c p : ClassId} {i : Iri} (hc : h.iriAt? c = some i)
    (ha : addParent policy h c p = .ok h') :
    h' = h ∧ (c = p ∨ p ∈ h.parentsOf c) ∨
      h' = h.recordParent c p ∧ c ≠ p ∧ p ∉ h.parentsOf c := by
  obtain ⟨e, he, -⟩ := iriAt?_eq_some_iff.1 hc
  rw [parentsOf_of_classAt? he]
  rw [addParent, he] at ha
  simp only at ha
  by_cases hp : c = p ∨ p ∈ e.parents
  · rw [if_pos hp] at ha
    cases ha
    exact .inl ⟨rfl, hp⟩
  · rw [if_neg hp] at ha
    rw [not_or] at hp
    cases policy with
    | firstWins =>
      cases ha
      exact .inr ⟨rfl, hp⟩
    | strict => cases ha

theorem step_of_addParent {c p : ClassId} {row : SubclassRow} {later : List Pending}
    (hc : h.byIri row.iri = some c) (ha : addParent policy h c p = .ok h') :
    Step d h ((p, row) :: later) h' later := by
  rcases addParent_eq_ok (iriAt?_of_byIri hc) ha with ⟨rfl, hp⟩ | ⟨rfl, hne, hp⟩
  · exact .known hc hp
  · exact .recorded hc hne hp

/-- What every step preserves holds of the grown hierarchy. -/
theorem grow_induction {P : Hierarchy → List Pending → Prop}
    (hstep : ∀ {h pending h' pending'}, Step d h pending h' pending' → P h pending → P h' pending')
    {declared : ∀ x ∈ pending, x.2.iri ∈ declaredIris d}
    (hg : grow d policy h pending declared = .ok h') (hP : P h pending) : P h' [] := by
  fun_induction grow d policy h pending declared with
  | case1 h =>
    cases hg
    exact hP
  | case2 h p row later declared c hc e ha => cases hg
  | case3 h p row later declared c hc h₁ ha _ ih => exact ih hg (hstep (step_of_addParent hc ha) hP)
  | case4 h p row later declared hn _ ih => exact ih hg (hstep (.registered hn) hP)

/-- The policy under which the first parent wins refuses nothing. -/
theorem exists_grow_firstWins (declared : ∀ x ∈ pending, x.2.iri ∈ declaredIris d) :
    ∃ h', grow d .firstWins h pending declared = .ok h' := by
  have hadd : ∀ (h : Hierarchy) (c p : ClassId), ∃ h', addParent .firstWins h c p = .ok h' := by
    intro h c p
    unfold addParent
    split
    · exact ⟨_, rfl⟩
    · split
      · exact ⟨_, rfl⟩
      · exact ⟨_, rfl⟩
  generalize hpolicy : HierarchyPolicy.firstWins = policy
  fun_induction grow d policy h pending declared with
  | case1 h => exact ⟨h, rfl⟩
  | case2 h p row later declared c hc e ha =>
    subst hpolicy
    obtain ⟨h', hok⟩ := hadd h c p
    rw [hok] at ha
    cases ha
  | case3 h p row later declared c hc h₁ ha _ ih => exact ih
  | case4 h p row later declared hn _ ih => exact ih

/-! ## Following the steps -/

theorem declared_pendingBelow_append {later : List Pending}
    (declared : ∀ x ∈ later, x.2.iri ∈ declaredIris d) (c : ClassId) (i : Iri) :
    ∀ x ∈ pendingBelow d c i ++ later, x.2.iri ∈ declaredIris d := by
  intro x hx
  rcases List.mem_append.1 hx with hx | hx
  · obtain ⟨row, hrow, rfl⟩ := List.mem_map.1 hx
    exact mem_declaredIris hrow
  · exact declared x hx

theorem grow_of_registered {p : ClassId} {row : SubclassRow} {later : List Pending}
    {declared : ∀ x ∈ (p, row) :: later, x.2.iri ∈ declaredIris d}
    {result : Except HierarchyError Hierarchy} (hn : h.byIri row.iri = none)
    (hbelow : pendingBelow d h.nextId row.iri ++ later = pending)
    (hg : ∀ declared, grow d policy (h.registerBelow p row) pending declared = result) :
    grow d policy h ((p, row) :: later) declared = result := by
  subst hbelow
  rw [grow]
  split
  · rename_i c hc
    rw [hn] at hc
    cases hc
  · exact hg _

theorem grow_of_known {h₁ : Hierarchy} {c p : ClassId} {row : SubclassRow} {later : List Pending}
    {declared : ∀ x ∈ (p, row) :: later, x.2.iri ∈ declaredIris d}
    {result : Except HierarchyError Hierarchy} (hc : h.byIri row.iri = some c)
    (ha : addParent policy h c p = .ok h₁)
    (hg : ∀ declared, grow d policy h₁ later declared = result) :
    grow d policy h ((p, row) :: later) declared = result := by
  rw [grow]
  split
  · rename_i c' hc'
    rw [hc] at hc'
    cases hc'
    split
    · rename_i e he
      rw [ha] at he
      cases he
    · rename_i h₂ hok
      rw [ha] at hok
      cases hok
      exact hg _
  · rename_i hn
    rw [hc] at hn
    cases hn

theorem grow_of_refused {c p : ClassId} {row : SubclassRow} {later : List Pending}
    {declared : ∀ x ∈ (p, row) :: later, x.2.iri ∈ declaredIris d} {e : HierarchyError}
    (hc : h.byIri row.iri = some c) (ha : addParent policy h c p = .error e) :
    grow d policy h ((p, row) :: later) declared = .error e := by
  rw [grow]
  split
  · rename_i c' hc'
    rw [hc] at hc'
    cases hc'
    split
    · rename_i e' he
      rw [ha] at he
      cases he
      rfl
    · rename_i h₂ hok
      rw [ha] at hok
      cases hok
  · rename_i hn
    rw [hc] at hn
    cases hn

/-- A hierarchy is what the roots grow to with the subclasses that are pending below them. -/
theorem build_eq_of_grow {ns baseName : String} {rootNames : List String}
    {result : Except HierarchyError Hierarchy} (hroots : withRoots ns baseName rootNames = .ok h)
    (hpending : pendingRoots d h = pending)
    (hg : ∀ declared, grow d policy h pending declared = result) :
    build d ns baseName rootNames policy = result := by
  subst hpending
  rw [build, hroots]
  exact hg _

/-- If nothing is declared below the roots, they are all the classes there are. -/
theorem build_eq_ok_of_withRoots {ns baseName : String} {rootNames : List String}
    (hroots : withRoots ns baseName rootNames = .ok h) (hpending : pendingRoots d h = []) :
    build d ns baseName rootNames policy = .ok h :=
  build_eq_of_grow hroots hpending fun _ => by rw [grow]

/-! ## What growth preserves -/

/-- Declarations lead from a class up to another one, and none of them to the base class. -/
def LeadsUp (d : Dataset) (base : Iri) : Iri → Iri → Prop :=
  Relation.ReflTransGen fun a b => d.DeclaredBelow a b ∧ b ≠ base

/-- The parents of a class are due to declarations, or it is a root and its parent the base
class. -/
def Justified (d : Dataset) (base : Iri) (roots : List Iri) (h : Hierarchy) (c p : ClassId) :
    Prop :=
  (p = Hierarchy.base ∧ ∃ i ∈ roots, h.iriAt? c = some i ∧ i ≠ base) ∨
    p ≠ Hierarchy.base ∧ ∃ i j, h.iriAt? c = some i ∧ h.iriAt? p = some j ∧ d.DeclaredBelow i j

theorem Justified.mono {base : Iri} {roots : List Iri} {c p : ClassId}
    (hc : Justified d base roots h c p)
    (hkept : ∀ {x i}, h.iriAt? x = some i → h'.iriAt? x = some i) :
    Justified d base roots h' c p := by
  rcases hc with ⟨hbase, i, hroot, hi, hne⟩ | ⟨hne, i, j, hi, hj, hd⟩
  · exact .inl ⟨hbase, i, hroot, hkept hi, hne⟩
  · exact .inr ⟨hne, i, j, hkept hi, hkept hj, hd⟩

/-- What holds while a hierarchy grows. Each declaration below a class other than the base class has
been followed or is pending. -/
structure Growing (d : Dataset) (base : Iri) (roots : List Iri) (h : Hierarchy)
    (pending : List Pending) : Prop where
  unique : h.Unique
  base_iri : h.iriAt? Hierarchy.base = some base
  base_parent : h.parentOf? Hierarchy.base = none
  primary : ∀ {c i}, h.iriAt? c = some i → c ≠ Hierarchy.base →
    ∃ p, h.parentOf? c = some p ∧ p.index < c.index
  parents_nodup : ∀ c, (h.parentsOf c).Nodup
  not_own_parent : ∀ c, c ∉ h.parentsOf c
  justified : ∀ {c p}, p ∈ h.parentsOf c → Justified d base roots h c p
  rooted : ∀ r ∈ roots, ∃ c, h.iriAt? c = some r ∧ (r ≠ base → Hierarchy.base ∈ h.parentsOf c)
  below_root : ∀ {c i}, h.iriAt? c = some i → i = base ∨ ∃ r ∈ roots, r ≠ base ∧ LeadsUp d base i r
  waiting : ∀ {p row}, (p, row) ∈ pending → p ≠ Hierarchy.base ∧
    ∃ j, h.iriAt? p = some j ∧ d.DeclaredBelow row.iri j
  followed : ∀ {p i j}, h.iriAt? p = some j → p ≠ Hierarchy.base → d.DeclaredBelow i j →
    (∃ c, h.iriAt? c = some i ∧ (c = p ∨ p ∈ h.parentsOf c)) ∨
      ∃ row, (p, row) ∈ pending ∧ row.iri = i

namespace Growing

variable {base : Iri} {roots : List Iri}

/-- A declaration has been followed, is the next one or is pending after that. -/
theorem followed_or_next {p q : ClassId} {row : SubclassRow} {later : List Pending} {i j : Iri}
    (hg : Growing d base roots h ((p, row) :: later)) (hq : h.iriAt? q = some j)
    (hne : q ≠ Hierarchy.base) (hd : d.DeclaredBelow i j) :
    (∃ c, h.iriAt? c = some i ∧ (c = q ∨ q ∈ h.parentsOf c)) ∨ (q = p ∧ row.iri = i) ∨
      ∃ row', (q, row') ∈ later ∧ row'.iri = i := by
  rcases hg.followed hq hne hd with hdone | ⟨row', hrow', rfl⟩
  · exact .inl hdone
  · rcases List.mem_cons.1 hrow' with heq | hlater
    · cases heq
      exact .inr (.inl ⟨rfl, rfl⟩)
    · exact .inr (.inr ⟨row', hlater, rfl⟩)

theorem known {c p : ClassId} {row : SubclassRow} {later : List Pending}
    (hg : Growing d base roots h ((p, row) :: later)) (hc : h.byIri row.iri = some c)
    (hp : c = p ∨ p ∈ h.parentsOf c) : Growing d base roots h later where
  unique := hg.unique
  base_iri := hg.base_iri
  base_parent := hg.base_parent
  primary := hg.primary
  parents_nodup := hg.parents_nodup
  not_own_parent := hg.not_own_parent
  justified := hg.justified
  rooted := hg.rooted
  below_root := hg.below_root
  waiting hx := hg.waiting (List.mem_cons_of_mem _ hx)
  followed {q i j} hq hne hd := by
    rcases hg.followed_or_next hq hne hd with hdone | ⟨rfl, rfl⟩ | hlater
    · exact .inl hdone
    · exact .inl ⟨c, iriAt?_of_byIri hc, hp⟩
    · exact .inr hlater

theorem recorded {c p : ClassId} {row : SubclassRow} {later : List Pending}
    (hg : Growing d base roots h ((p, row) :: later)) (hc : h.byIri row.iri = some c) (hne : c ≠ p)
    (hp : p ∉ h.parentsOf c) : Growing d base roots (h.recordParent c p) later := by
  have hi : h.iriAt? c = some row.iri := iriAt?_of_byIri hc
  have hparents : ∀ x, (h.recordParent c p).parentsOf x =
      if x = c then h.parentsOf c ++ [p] else h.parentsOf x :=
    fun x => parentsOf_recordParent hi
  have hkeep : ∀ {x q}, q ∈ h.parentsOf x → q ∈ (h.recordParent c p).parentsOf x := by
    intro x q hq
    rw [hparents]
    split
    · rename_i hx
      exact List.mem_append_left _ (hx ▸ hq)
    · exact hq
  obtain ⟨hpbase, j, hj, hdeclared⟩ := hg.waiting List.mem_cons_self
  constructor
  case unique =>
    constructor
    intro x x' i hx hx'
    rw [iriAt?_recordParent] at hx hx'
    exact hg.unique.eq hx hx'
  case base_iri =>
    rw [iriAt?_recordParent]
    exact hg.base_iri
  case base_parent =>
    rw [parentOf?_recordParent]
    exact hg.base_parent
  case primary =>
    intro x i hx hbase
    rw [iriAt?_recordParent] at hx
    rw [parentOf?_recordParent]
    exact hg.primary hx hbase
  case parents_nodup =>
    intro x
    rw [hparents]
    split
    · rw [← List.concat_eq_append, List.nodup_concat]
      exact ⟨hp, hg.parents_nodup c⟩
    · exact hg.parents_nodup x
  case not_own_parent =>
    intro x
    rw [hparents]
    split
    · rename_i hx
      subst hx
      simp [hg.not_own_parent x, hne]
    · exact hg.not_own_parent x
  case justified =>
    intro x q hq
    have hcase : q ∈ h.parentsOf x ∨ x = c ∧ q = p := by
      rw [hparents] at hq
      split at hq
      · rename_i hx
        subst hx
        simpa using hq
      · exact .inl hq
    have hkept : ∀ {y i}, h.iriAt? y = some i → (h.recordParent c p).iriAt? y = some i := by
      intro y i hy
      rwa [iriAt?_recordParent]
    rcases hcase with hq | ⟨rfl, rfl⟩
    · exact (hg.justified hq).mono hkept
    · exact .inr ⟨hpbase, row.iri, j, hkept hi, hkept hj, hdeclared⟩
  case rooted =>
    intro r hr
    obtain ⟨x, hx, hroot⟩ := hg.rooted r hr
    exact ⟨x, by rwa [iriAt?_recordParent], fun hne => hkeep (hroot hne)⟩
  case below_root =>
    intro x i hx
    rw [iriAt?_recordParent] at hx
    exact hg.below_root hx
  case waiting =>
    intro q row' hx
    rw [iriAt?_recordParent]
    exact hg.waiting (List.mem_cons_of_mem _ hx)
  case followed =>
    intro q i j' hq hqbase hd
    rw [iriAt?_recordParent] at hq
    simp only [iriAt?_recordParent]
    rcases hg.followed_or_next hq hqbase hd with ⟨x, hx, hdone⟩ | ⟨rfl, rfl⟩ | hlater
    · exact .inl ⟨x, hx, hdone.imp id hkeep⟩
    · refine .inl ⟨c, hi, .inr ?_⟩
      rw [hparents, if_pos rfl]
      exact List.mem_append_right _ List.mem_cons_self
    · exact .inr hlater

theorem registered {p : ClassId} {row : SubclassRow} {later : List Pending}
    (hg : Growing d base roots h ((p, row) :: later)) (hn : h.byIri row.iri = none) :
    Growing d base roots (h.registerBelow p row) (pendingBelow d h.nextId row.iri ++ later) := by
  obtain ⟨hpbase, j, hj, hdeclared⟩ := hg.waiting List.mem_cons_self
  have hiri : ∀ {x i}, (h.registerBelow p row).iriAt? x = some i ↔
      h.iriAt? x = some i ∨ x = h.nextId ∧ row.iri = i := iriAt?_register_eq_some_iff
  have hparents : ∀ x, (h.registerBelow p row).parentsOf x =
      if x = h.nextId then [p] else h.parentsOf x :=
    fun x => parentsOf_register h ⟨row.iri, row.label, row.definition, some p, []⟩ x
  have hparent : ∀ x, (h.registerBelow p row).parentOf? x =
      if x = h.nextId then some p else h.parentOf? x :=
    fun x => parentOf?_register h ⟨row.iri, row.label, row.definition, some p, []⟩ x
  have hkeep : ∀ {x q}, q ∈ h.parentsOf x → q ∈ (h.registerBelow p row).parentsOf x := by
    intro x q hq
    obtain ⟨i, hx⟩ := exists_iriAt?_of_mem_parentsOf hq
    rw [hparents, if_neg (ne_nextId_of_iriAt? hx)]
    exact hq
  constructor
  case unique =>
    exact hg.unique.register (byIri_eq_none_iff.1 hn)
  case base_iri =>
    exact hiri.2 (.inl hg.base_iri)
  case base_parent =>
    rw [hparent, if_neg (ne_nextId_of_iriAt? hg.base_iri)]
    exact hg.base_parent
  case primary =>
    intro x i hx hbase
    rw [hparent]
    rcases hiri.1 hx with hx | ⟨rfl, -⟩
    · rw [if_neg (ne_nextId_of_iriAt? hx)]
      exact hg.primary hx hbase
    · rw [if_pos rfl]
      exact ⟨p, rfl, index_lt_of_iriAt? hj⟩
  case parents_nodup =>
    intro x
    rw [hparents]
    split
    · exact List.nodup_singleton p
    · exact hg.parents_nodup x
  case not_own_parent =>
    intro x
    rw [hparents]
    split
    · rename_i hx
      rw [hx, List.mem_singleton]
      exact (ne_nextId_of_iriAt? hj).symm
    · exact hg.not_own_parent x
  case justified =>
    intro x q hq
    rw [hparents] at hq
    by_cases hx : x = h.nextId
    · rw [if_pos hx, List.mem_singleton] at hq
      subst hq
      exact .inr ⟨hpbase, row.iri, j, hiri.2 (.inr ⟨hx, rfl⟩), hiri.2 (.inl hj), hdeclared⟩
    · rw [if_neg hx] at hq
      exact (hg.justified hq).mono fun hy => hiri.2 (.inl hy)
  case rooted =>
    intro r hr
    obtain ⟨x, hx, hroot⟩ := hg.rooted r hr
    exact ⟨x, hiri.2 (.inl hx), fun hne => hkeep (hroot hne)⟩
  case below_root =>
    intro x i hx
    rcases hiri.1 hx with hx | ⟨-, rfl⟩
    · exact hg.below_root hx
    · -- The parent is not the base class, so the way up from it goes on from the new class.
      have hjbase : j ≠ base := fun heq => hpbase (hg.unique.eq hj (heq ▸ hg.base_iri))
      obtain ⟨r, hr, hrbase, hup⟩ := (hg.below_root hj).resolve_left hjbase
      exact .inr ⟨r, hr, hrbase, .head ⟨hdeclared, hjbase⟩ hup⟩
  case waiting =>
    intro q row' hx
    rcases List.mem_append.1 hx with hx | hx
    · obtain ⟨row'', hrow'', heq⟩ := List.mem_map.1 hx
      cases heq
      refine ⟨(ne_nextId_of_iriAt? hg.base_iri).symm, row.iri, hiri.2 (.inr ⟨rfl, rfl⟩), ?_⟩
      exact Dataset.exists_mem_subclasses_iff.1 ⟨row', hrow'', rfl⟩
    · obtain ⟨hqbase, j', hj', hd⟩ := hg.waiting (List.mem_cons_of_mem _ hx)
      exact ⟨hqbase, j', hiri.2 (.inl hj'), hd⟩
  case followed =>
    intro q i j' hq hqbase hd
    rcases hiri.1 hq with hq | ⟨rfl, rfl⟩
    · rcases hg.followed_or_next hq hqbase hd with ⟨x, hx, hdone⟩ | ⟨rfl, rfl⟩ | hlater
      · exact .inl ⟨x, hiri.2 (.inl hx), hdone.imp id hkeep⟩
      · refine .inl ⟨h.nextId, hiri.2 (.inr ⟨rfl, rfl⟩), .inr ?_⟩
        rw [hparents, if_pos rfl]
        exact List.mem_cons_self
      · obtain ⟨row', hrow', heq⟩ := hlater
        exact .inr ⟨row', List.mem_append_right _ hrow', heq⟩
    · obtain ⟨row', hrow', rfl⟩ := Dataset.exists_mem_subclasses_iff.2 hd
      exact .inr ⟨row', List.mem_append_left _ (List.mem_map_of_mem hrow'), rfl⟩

theorem step (hs : Step d h pending h' pending') (hg : Growing d base roots h pending) :
    Growing d base roots h' pending' := by
  cases hs with
  | known hc hp => exact hg.known hc hp
  | recorded hc hne hp => exact hg.recorded hc hne hp
  | registered hn => exact hg.registered hn

end Growing

end Hierarchy

end BuildingModel
