import BuildingModel.Proofs.Hierarchy.Faithful

/-!
# The two policies

Both policies go through the subclasses of an ontology in one and the same order. Where no class is
met under a further parent they lead to the same hierarchy; otherwise the strict policy stops at the
first further parent that the other one records, and refuses the class that it is recorded for.
-/
namespace BuildingModel.Hierarchy

open BuildingModel.Rdf BuildingModel.Ontology

variable {d : Dataset} {base : Iri} {roots : List Iri} {policy : HierarchyPolicy}
  {h h' : Hierarchy} {pending : List Pending} {log : List (ClassId × ClassId)} {c p : ClassId}

/-- A hierarchy grows until nothing is pending. The log has each class that gets a further parent
together with this parent, in the order in which the parents are recorded. -/
inductive Traversal (d : Dataset) :
    Hierarchy → List Pending → List (ClassId × ClassId) → Hierarchy → Prop
  | done {h : Hierarchy} : Traversal d h [] [] h
  | known {h h' : Hierarchy} {c p : ClassId} {row : SubclassRow} {later : List Pending}
      {log : List (ClassId × ClassId)} (hc : h.byIri row.iri = some c)
      (hp : c = p ∨ p ∈ h.parentsOf c) (ht : Traversal d h later log h') :
      Traversal d h ((p, row) :: later) log h'
  | recorded {h h' : Hierarchy} {c p : ClassId} {row : SubclassRow} {later : List Pending}
      {log : List (ClassId × ClassId)} (hc : h.byIri row.iri = some c) (hne : c ≠ p)
      (hp : p ∉ h.parentsOf c) (ht : Traversal d (h.recordParent c p) later log h') :
      Traversal d h ((p, row) :: later) ((c, p) :: log) h'
  | registered {h h' : Hierarchy} {p : ClassId} {row : SubclassRow} {later : List Pending}
      {log : List (ClassId × ClassId)} (hn : h.byIri row.iri = none)
      (ht : Traversal d (h.registerBelow p row) (pendingBelow d h.nextId row.iri ++ later) log h') :
      Traversal d h ((p, row) :: later) log h'

/-- The further parent that an entry of the log records for a class. -/
def furtherParent? (c : ClassId) (entry : ClassId × ClassId) : Option ClassId :=
  if entry.1 = c then some entry.2 else none

def otherParentsOf (h : Hierarchy) (c : ClassId) : List ClassId :=
  ((h.classAt? c).map ClassEntry.otherParents).getD []

theorem exists_traversal_of_grow {declared : ∀ x ∈ pending, x.2.iri ∈ declaredIris d}
    (hg : grow d policy h pending declared = .ok h') : ∃ log, Traversal d h pending log h' := by
  fun_induction grow d policy h pending declared with
  | case1 h =>
    cases hg
    exact ⟨[], .done⟩
  | case2 h p row later declared c hc e ha => cases hg
  | case3 h p row later declared c hc h₁ ha _ ih =>
    obtain ⟨log, ht⟩ := ih hg
    rcases addParent_eq_ok (iriAt?_of_byIri hc) ha with ⟨rfl, hp⟩ | ⟨rfl, hne, hp⟩
    · exact ⟨log, .known hc hp ht⟩
    · exact ⟨_, .recorded hc hne hp ht⟩
  | case4 h p row later declared hn _ ih =>
    obtain ⟨log, ht⟩ := ih hg
    exact ⟨log, .registered hn ht⟩

/-! ## Other parents -/

theorem otherParentsOf_recordParent (hc : h.classAt? c ≠ none) (x : ClassId) :
    (h.recordParent c p).otherParentsOf x =
      h.otherParentsOf x ++ [(c, p)].filterMap (furtherParent? x) := by
  obtain ⟨e, he⟩ := Option.ne_none_iff_exists'.1 hc
  rw [otherParentsOf, classAt?_recordParent, otherParentsOf]
  by_cases hx : x = c
  · subst hx
    simp [he, furtherParent?]
  · have hcx : ¬ c = x := fun heq => hx heq.symm
    simp [furtherParent?, hx, hcx]

theorem otherParentsOf_registerBelow (h : Hierarchy) (p : ClassId) (row : SubclassRow)
    (x : ClassId) : (h.registerBelow p row).otherParentsOf x = h.otherParentsOf x := by
  rw [otherParentsOf, registerBelow, classAt?_register, otherParentsOf]
  by_cases hx : x = h.nextId
  · have hnone : h.classAt? x = none := by
      rw [hx]
      exact List.getElem?_eq_none le_rfl
    rw [if_pos hx, hnone]
    rfl
  · rw [if_neg hx]

/-- The other parents of a class are those that it had and those that the log has for it. -/
theorem Traversal.otherParentsOf_eq (ht : Traversal d h pending log h') (x : ClassId) :
    h'.otherParentsOf x = h.otherParentsOf x ++ log.filterMap (furtherParent? x) := by
  induction ht with
  | done => simp
  | known _ _ _ ih => exact ih
  | @recorded h _ c p row _ log hc _ _ _ ih =>
    obtain ⟨e, he, -⟩ := h.exists_classAt?_of_byIri hc
    rw [ih, otherParentsOf_recordParent (by simp [he]), List.append_assoc,
      ← List.filterMap_append, List.singleton_append]
  | registered _ _ ih => rw [ih, otherParentsOf_registerBelow]

theorem Rooted.otherParentsOf_eq_nil (hr : Rooted base roots h) (c : ClassId) :
    h.otherParentsOf c = [] := by
  rw [otherParentsOf]
  cases he : h.classAt? c with
  | none => rfl
  | some e =>
    have hparents : h.parentsOf c = (h.parentOf? c).toList := by
      by_cases hc : c = Hierarchy.base
      · rw [hc, hr.base_parents.1, hr.base_parents.2]
        rfl
      · obtain ⟨-, hparent, hlist⟩ := hr.root (iriAt?_of_classAt? he) hc
        rw [hparent, hlist]
        rfl
    rw [parentsOf_of_classAt? he, parentOf?, he] at hparents
    simpa [ClassEntry.parents] using hparents

/-! ## What a traversal leaves as it is -/

/-- A registered class keeps its IRI and its primary parent. -/
theorem Traversal.kept (ht : Traversal d h pending log h') {e : ClassEntry}
    (he : h.classAt? c = some e) :
    ∃ e', h'.classAt? c = some e' ∧ e'.iri = e.iri ∧ e'.parent = e.parent := by
  induction ht generalizing e with
  | done => exact ⟨e, he, rfl, rfl⟩
  | known _ _ _ ih => exact ih he
  | @recorded h _ x q _ _ _ _ _ _ _ ih =>
    have hx := classAt?_recordParent h x q c
    rw [he, Option.map_some] at hx
    obtain ⟨e', he', hiri, hparent⟩ := ih hx
    refine ⟨e', he', ?_, ?_⟩
    · rw [hiri]
      split <;> rfl
    · rw [hparent]
      split <;> rfl
  | @registered h _ q row _ _ _ _ ih =>
    have hx := classAt?_register h ⟨row.iri, row.label, row.definition, some q, []⟩ c
    rw [if_neg (ne_nextId_of_iriAt? (iriAt?_of_classAt? he)), he] at hx
    exact ih hx

theorem nameOf_of_iriAt? {i : Iri} (hc : h.iriAt? c = some i) : h.nameOf c = i.name := by
  obtain ⟨e, he, rfl⟩ := iriAt?_eq_some_iff.1 hc
  rw [nameOf, he]
  rfl

theorem Traversal.nameOf_eq (ht : Traversal d h pending log h') {i : Iri}
    (hc : h.iriAt? c = some i) : h'.nameOf c = i.name := by
  obtain ⟨e, he, rfl⟩ := iriAt?_eq_some_iff.1 hc
  obtain ⟨e', he', hiri, -⟩ := ht.kept he
  rw [nameOf_of_iriAt? (iriAt?_of_classAt? he'), hiri]

/-! ## The strict policy -/

theorem Growing.iriAt?_of_mem_parentsOf (hg : Growing d base roots h pending)
    (hp : p ∈ h.parentsOf c) : ∃ i, h.iriAt? p = some i := by
  rcases hg.justified hp with ⟨rfl, -⟩ | ⟨-, -, j, -, hj, -⟩
  · exact ⟨base, hg.base_iri⟩
  · exact ⟨j, hj⟩

/-- The first further parent is refused with the names of the primary parent and of itself. -/
theorem Growing.addParent_strict {row : SubclassRow} {later : List Pending} {e : ClassEntry}
    (hg : Growing d base roots h ((p, row) :: later)) (he : h.classAt? c = some e) (hne : c ≠ p)
    (hp : p ∉ h.parentsOf c) (hnone : h.otherParentsOf c = [])
    (ht : Traversal d (h.recordParent c p) later log h') :
    addParent .strict h c p =
      .error (.multipleParents e.iri ((e.parent.toList ++ [p]).map h'.nameOf)) := by
  have hparents : e.parents = e.parent.toList := by
    rw [otherParentsOf, he] at hnone
    simpa [ClassEntry.parents] using hnone
  rw [parentsOf_of_classAt? he] at hp
  -- What the refusal names is registered, and so keeps its name to the end.
  have hregistered : ∀ x ∈ e.parents ++ [p], ∃ i, h.iriAt? x = some i := by
    intro x hx
    rcases List.mem_append.1 hx with hx | hx
    · rw [← parentsOf_of_classAt? he] at hx
      exact hg.iriAt?_of_mem_parentsOf hx
    · obtain ⟨-, j, hj, -⟩ := hg.waiting List.mem_cons_self
      rw [List.mem_singleton.1 hx]
      exact ⟨j, hj⟩
  have hnames : ∀ x ∈ e.parents ++ [p], h.nameOf x = h'.nameOf x := by
    intro x hx
    obtain ⟨i, hi⟩ := hregistered x hx
    rw [nameOf_of_iriAt? hi, ht.nameOf_eq (by rwa [iriAt?_recordParent])]
  rw [addParent, he]
  simp only
  rw [if_neg (not_or.2 ⟨hne, hp⟩), List.map_congr_left hnames, hparents]

/-- Where no class has other parents, the strict policy follows a traversal up to the first entry of
its log, and refuses this one. -/
theorem Traversal.grow_strict (ht : Traversal d h pending log h')
    (hg : Growing d base roots h pending) (hnone : ∀ c, h.otherParentsOf c = []) :
    (log = [] → ∀ declared, grow d .strict h pending declared = .ok h') ∧
    ∀ c p rest, log = (c, p) :: rest → ∃ e, h'.classAt? c = some e ∧
      ∀ declared, grow d .strict h pending declared =
        .error (.multipleParents e.iri ((e.parent.toList ++ [p]).map h'.nameOf)) := by
  induction ht with
  | done => exact ⟨fun _ _ => by rw [grow], by simp⟩
  | @known h h' c p row later log hc hp ht ih =>
    obtain ⟨e, he, -⟩ := h.exists_classAt?_of_byIri hc
    have ha : addParent .strict h c p = .ok h := by
      rw [parentsOf_of_classAt? he] at hp
      rw [addParent, he]
      exact if_pos hp
    obtain ⟨hok, hrefused⟩ := ih (hg.known hc hp) hnone
    refine ⟨fun hlog _ => grow_of_known hc ha (hok hlog), fun x q rest hlog => ?_⟩
    obtain ⟨e, he, hend⟩ := hrefused x q rest hlog
    exact ⟨e, he, fun _ => grow_of_known hc ha hend⟩
  | @recorded h h' c p row later log hc hne hp ht =>
    refine ⟨by simp, ?_⟩
    rintro x q rest hlog
    cases hlog
    obtain ⟨e, he, -⟩ := h.exists_classAt?_of_byIri hc
    have hrecorded := classAt?_recordParent h c p c
    rw [he, Option.map_some, if_pos rfl] at hrecorded
    obtain ⟨e', he', hiri, hparent⟩ := ht.kept hrecorded
    have hend := hg.addParent_strict he hne hp (hnone c) ht
    refine ⟨e', he', fun _ => grow_of_refused hc ?_⟩
    rw [hiri, hparent]
    exact hend
  | @registered h h' p row later log hn ht ih =>
    have hnone' : ∀ c, (h.registerBelow p row).otherParentsOf c = [] := by
      intro c
      rw [otherParentsOf_registerBelow, hnone c]
    obtain ⟨hok, hrefused⟩ := ih (hg.registered hn) hnone'
    refine ⟨fun hlog _ => grow_of_registered hn rfl (hok hlog), fun x q rest hlog => ?_⟩
    obtain ⟨e, he, hend⟩ := hrefused x q rest hlog
    exact ⟨e, he, fun _ => grow_of_registered hn rfl hend⟩

/-- Names that make IRIs have a hierarchy under the policy that the first parent wins, by a
traversal. The strict policy leads to the same hierarchy if the log of this traversal is empty, and
otherwise refuses its first entry. -/
theorem exists_build_traversal (d : Dataset) {ns baseName : String} {rootNames : List String}
    (hvalid : ∀ name ∈ baseName :: rootNames, (Iri.parse? (ns ++ name)).isSome) :
    ∃ h₀ h log, withRoots ns baseName rootNames = .ok h₀ ∧
      build d ns baseName rootNames .firstWins = .ok h ∧
      Traversal d h₀ (pendingRoots d h₀) log h ∧
      (∀ c e, h.classAt? c = some e → e.otherParents = log.filterMap (furtherParent? c)) ∧
      (log = [] → build d ns baseName rootNames .strict = .ok h) ∧
      ∀ c p rest, log = (c, p) :: rest → ∃ e, h.classAt? c = some e ∧
        build d ns baseName rootNames .strict =
          .error (.multipleParents e.iri ((e.parent.toList ++ [p]).map h.nameOf)) := by
  obtain ⟨h₀, hw⟩ := exists_withRoots (hvalid baseName List.mem_cons_self)
    fun name hname => hvalid name (List.mem_cons_of_mem baseName hname)
  have hr := rooted_of_withRoots hw
  obtain ⟨h, hg⟩ := exists_grow_firstWins (declared_pendingRoots d h₀)
  obtain ⟨log, ht⟩ := exists_traversal_of_grow hg
  obtain ⟨hok, hrefused⟩ := ht.grow_strict (Rooted.growing hr) hr.otherParentsOf_eq_nil
  have hbuild : ∀ policy, build d ns baseName rootNames policy =
      grow d policy h₀ (pendingRoots d h₀) (declared_pendingRoots d h₀) := by
    intro policy
    rw [build, hw]
    rfl
  refine ⟨h₀, h, log, hw, by rw [hbuild, hg], ht, ?_, ?_, ?_⟩
  · intro c e he
    have hc := ht.otherParentsOf_eq c
    rw [hr.otherParentsOf_eq_nil c, List.nil_append, otherParentsOf, he] at hc
    exact hc
  · intro hlog
    rw [hbuild, hok hlog]
  · intro c p rest hlog
    obtain ⟨e, he, hend⟩ := hrefused c p rest hlog
    exact ⟨e, he, by rw [hbuild, hend]⟩

/-- A log is empty if no class has other parents. -/
theorem log_eq_nil_iff
    (hother : ∀ c e, h.classAt? c = some e → e.otherParents = log.filterMap (furtherParent? c))
    (hlogged : ∀ c p rest, log = (c, p) :: rest → ∃ e, h.classAt? c = some e) :
    log = [] ↔ ∀ e ∈ h.classes, e.otherParents = [] := by
  constructor
  · rintro rfl e he
    obtain ⟨n, hn⟩ := List.mem_iff_getElem?.1 he
    exact hother ⟨n⟩ e hn
  · intro hnone
    cases hlog : log with
    | nil => rfl
    | cons entry rest =>
      obtain ⟨e, he⟩ := hlogged entry.1 entry.2 rest hlog
      have hsome := hother entry.1 e he
      rw [hnone e (List.mem_of_getElem? he), hlog] at hsome
      simp [furtherParent?] at hsome

theorem isSome_parse?_of_addRoots {ns : String} {rootNames : List String}
    (ha : addRoots ns h rootNames = .ok h') :
    ∀ name ∈ rootNames, (Iri.parse? (ns ++ name)).isSome := by
  induction rootNames generalizing h with
  | nil => simp
  | cons root rootNames ih =>
    obtain ⟨i, hi, ha⟩ := bind_eq_ok ha
    intro name hname
    rcases List.mem_cons.1 hname with rfl | hname
    · exact (namespaced_eq_ok_iff.1 hi).1
    · exact ih ha name hname

/-- There is a hierarchy if the names make IRIs and the policy does not refuse a further parent. -/
theorem exists_build_iff {ns baseName : String} {rootNames : List String} :
    (∃ h, build d ns baseName rootNames policy = .ok h) ↔
      (∀ name ∈ baseName :: rootNames, (Iri.parse? (ns ++ name)).isSome) ∧
      (policy = .firstWins ∨ ∀ h, build d ns baseName rootNames .firstWins = .ok h →
        ∀ e ∈ h.classes, e.otherParents = []) := by
  by_cases hvalid : ∀ name ∈ baseName :: rootNames, (Iri.parse? (ns ++ name)).isSome
  · obtain ⟨-, h, log, -, hb, -, hother, hok, hrefused⟩ := exists_build_traversal d hvalid
    have hlog := log_eq_nil_iff hother fun c p rest hlog => by
      obtain ⟨e, he, -⟩ := hrefused c p rest hlog
      exact ⟨e, he⟩
    simp only [hb, Except.ok.injEq, forall_eq', ← hlog]
    cases policy with
    | firstWins => exact ⟨fun _ => ⟨hvalid, .inl rfl⟩, fun _ => ⟨h, hb⟩⟩
    | strict =>
      constructor
      · rintro ⟨h', hh'⟩
        refine ⟨hvalid, .inr ?_⟩
        cases hentry : log with
        | nil => rfl
        | cons entry rest =>
          obtain ⟨e, -, hend⟩ := hrefused entry.1 entry.2 rest hentry
          rw [hend] at hh'
          cases hh'
      · rintro ⟨-, hnil | hnil⟩
        · cases hnil
        · exact ⟨h, hok hnil⟩
  · constructor
    · rintro ⟨h, hb⟩
      refine absurd ?_ hvalid
      obtain ⟨h₀, hw, -⟩ := bind_eq_ok hb
      obtain ⟨i, hi, ha⟩ := bind_eq_ok hw
      intro name hname
      rcases List.mem_cons.1 hname with rfl | hname
      · exact (namespaced_eq_ok_iff.1 hi).1
      · exact isSome_parse?_of_addRoots ha name hname
    · exact fun h => absurd h.1 hvalid

/-- The policies differ in nothing but what is refused. Under the one that the first parent wins,
names that make IRIs have a hierarchy, and the other parents of its classes are what the log of its
traversal has for them. If there are none, the strict policy leads to the same hierarchy; if there
are some, it refuses the class of the first entry of the log. -/
theorem strict_refuses_first_further_parent (d : Dataset) (ns baseName : String)
    (rootNames : List String)
    (hvalid : ∀ name ∈ baseName :: rootNames, (Iri.parse? (ns ++ name)).isSome) :
    ∃ h₀ h log, withRoots ns baseName rootNames = .ok h₀ ∧
      build d ns baseName rootNames .firstWins = .ok h ∧
      Traversal d h₀ (pendingRoots d h₀) log h ∧
      (∀ c e, h.classAt? c = some e → e.otherParents = log.filterMap (furtherParent? c)) ∧
      ((∀ e ∈ h.classes, e.otherParents = []) →
        build d ns baseName rootNames .strict = .ok h) ∧
      ((∃ e ∈ h.classes, e.otherParents ≠ []) →
        ∃ c p rest e, log = (c, p) :: rest ∧ h.classAt? c = some e ∧
          build d ns baseName rootNames .strict =
            .error (.multipleParents e.iri ((e.parent.toList ++ [p]).map h.nameOf))) := by
  obtain ⟨h₀, h, log, hw, hb, ht, hother, hok, hrefused⟩ := exists_build_traversal d hvalid
  have hlog := log_eq_nil_iff hother fun c p rest hlog => by
    obtain ⟨e, he, -⟩ := hrefused c p rest hlog
    exact ⟨e, he⟩
  refine ⟨h₀, h, log, hw, hb, ht, hother, fun hnone => hok (hlog.2 hnone), ?_⟩
  rintro ⟨e, he, hsome⟩
  cases hentry : log with
  | nil => exact absurd (hlog.1 hentry e he) hsome
  | cons entry rest =>
    obtain ⟨e', he', hend⟩ := hrefused entry.1 entry.2 rest hentry
    exact ⟨entry.1, entry.2, rest, e', rfl, he', hend⟩

/-- An ontology in which pumps are both equipment and movers. -/
def sharedOntology : Dataset :=
  .ofTriples [
    ⟨.iri ⟨"urn:plant#Pump"⟩, Vocabulary.subClassOf, .iri ⟨"urn:plant#Equipment"⟩⟩,
    ⟨.iri ⟨"urn:plant#Pump"⟩, Vocabulary.subClassOf, .iri ⟨"urn:plant#Mover"⟩⟩]

def sharedHierarchy : Hierarchy := .ofClasses [
  ⟨⟨"urn:plant#Entity"⟩, some "Entity", none, none, []⟩,
  ⟨⟨"urn:plant#Equipment"⟩, some "Equipment", none, some ⟨0⟩, []⟩,
  ⟨⟨"urn:plant#Mover"⟩, some "Mover", none, some ⟨0⟩, []⟩,
  ⟨⟨"urn:plant#Pump"⟩, none, none, some ⟨1⟩, [⟨2⟩]⟩]

theorem build_sharedHierarchy : build sharedOntology "urn:plant#" "Entity" ["Equipment", "Mover"]
    .firstWins = .ok sharedHierarchy := by
  have hroots : withRoots "urn:plant#" "Entity" ["Equipment", "Mover"] =
      .ok (.ofClasses (sharedHierarchy.classes.take 3)) := by decide
  have hpending : pendingRoots sharedOntology (.ofClasses (sharedHierarchy.classes.take 3)) =
      [(⟨1⟩, ⟨⟨"urn:plant#Pump"⟩, none, none⟩), (⟨2⟩, ⟨⟨"urn:plant#Pump"⟩, none, none⟩)] := by
    decide +kernel
  refine build_eq_of_grow hroots hpending fun _ => ?_
  refine grow_of_registered (by decide)
    (show _ = [(⟨2⟩, ⟨⟨"urn:plant#Pump"⟩, none, none⟩)] by decide +kernel) fun _ => ?_
  refine grow_of_known (show _ = some ⟨3⟩ by decide)
    (show _ = Except.ok sharedHierarchy by decide) fun _ => ?_
  rw [grow]

/-- The class of pumps is refused for its second parent. -/
theorem strict_refuses_shared :
    build sharedOntology "urn:plant#" "Entity" ["Equipment", "Mover"] .strict =
      .error (.multipleParents ⟨"urn:plant#Pump"⟩ ["Equipment", "Mover"]) := by
  obtain ⟨h₀, h, log, -, hb, -, hother, -, hrefused⟩ :=
    strict_refuses_first_further_parent sharedOntology "urn:plant#" "Entity" ["Equipment", "Mover"]
      (by decide +kernel)
  obtain rfl : h = sharedHierarchy := Except.ok.inj (hb.symm.trans build_sharedHierarchy)
  have hshared : ∃ e ∈ sharedHierarchy.classes, e.otherParents ≠ [] := by decide +kernel
  obtain ⟨c, p, rest, e, hlog, he, hend⟩ := hrefused hshared
  have hfirst : e.otherParents.head? = some p := by
    rw [hother c e he, hlog, List.filterMap_cons, furtherParent?, if_pos rfl]
    rfl
  have hpump : ∀ e ∈ sharedHierarchy.classes, e.otherParents.head? = some p →
      p = ⟨2⟩ ∧ e.iri = ⟨"urn:plant#Pump"⟩ ∧ e.parent = some ⟨1⟩ := by
    intro e he hfirst
    simp only [sharedHierarchy, classes_ofClasses, List.mem_cons, List.not_mem_nil, or_false] at he
    rcases he with rfl | rfl | rfl | rfl <;> simp_all
  obtain ⟨rfl, hiri, hparent⟩ := hpump e (List.mem_of_getElem? he) hfirst
  rw [hend, hiri, hparent]
  decide +kernel

end BuildingModel.Hierarchy
