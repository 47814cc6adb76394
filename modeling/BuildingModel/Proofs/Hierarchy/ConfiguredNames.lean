import BuildingModel.Proofs.Hierarchy.Descent
import BuildingModel.Proofs.Hierarchy.Faithful
import BuildingModel.Proofs.Rdf.LocalName
import BuildingModel.Settings.Basic

/-!
# Configured names

The base class and the roots are registered before anything is read from the ontology. Behind a
namespace that ends in a separator each of them has the name it is configured with, so that no two
of them share a name. A class that is registered later does not take a name from one that has it,
and so the configured classes are found under their names for good.
-/
namespace BuildingModel

open BuildingModel.Rdf

namespace Settings

variable {s t : Settings}

/-- What settings have to satisfy to be accepted. -/
structure Acceptable (s : Settings) : Prop where
  closed : closesNamespace s.ns = true
  base_ne : s.baseClass ≠ ""
  roots_ne : s.roots ≠ []
  root_ne : ∀ root ∈ s.roots, root ≠ ""
  property_ne : s.entityPropertyClass ≠ ""

theorem fault?_eq_none_iff : s.fault? = none ↔ s.Acceptable := by
  have hroots : (∀ root ∈ s.roots, root ≠ "") ↔ "" ∉ s.roots :=
    ⟨fun h hmem => h "" hmem rfl, fun h root hroot heq => h (heq ▸ hroot)⟩
  unfold fault?
  constructor
  · intro h
    split_ifs at h with hns hbase hnil hroot hproperty
    exact ⟨by simpa using hns, by simpa using hbase, by simpa using hnil,
      hroots.2 (by simpa using hroot), by simpa using hproperty⟩
  · intro h
    have hroot := hroots.1 h.root_ne
    simp [h.closed, h.base_ne, h.roots_ne, h.property_ne, hroot]

theorem validated_eq_ok_iff : s.validated = .ok t ↔ t = s ∧ s.Acceptable := by
  rw [← fault?_eq_none_iff, validated]
  cases hf : s.fault? with
  | none => simp [eq_comm]
  | some fault => simp

theorem exists_separator_of_closesNamespace {ns : String} (h : closesNamespace ns = true) :
    ∃ sep, ns.toList.getLast? = some sep ∧ isSeparator sep = true := by
  unfold closesNamespace at h
  cases hlast : ns.toList.getLast? with
  | none => simp [hlast] at h
  | some sep =>
    rw [hlast] at h
    have hsep : isSeparator sep = true := by
      rw [isSeparator, Bool.or_eq_true]
      exact .inl h
    exact ⟨sep, rfl, hsep⟩

/-- Accepted settings give each configured class the name that it is configured with. -/
theorem Acceptable.name_inNamespace (h : s.Acceptable) {name : String}
    (hname : name ∈ s.baseClass :: s.roots) (hplain : Unseparated name.toList) :
    (inNamespace s.ns name).name = name := by
  have hne : name ≠ "" := by
    rcases List.mem_cons.1 hname with rfl | hroot
    · exact h.base_ne
    · exact h.root_ne name hroot
  exact localName_append (exists_separator_of_closesNamespace h.closed) hne hplain

end Settings

namespace Hierarchy

open BuildingModel.Ontology

variable {d : Dataset} {base i : Iri} {roots : List Iri} {policy : HierarchyPolicy}
  {h h' : Hierarchy} {c : ClassId} {pending pending' : List Pending} {ns baseName name : String}
  {rootNames : List String}

/-! ## What is found stays found -/

/-- A step keeps what is found under a name, and its IRI. -/
theorem byName_of_step (hs : Step d h pending h' pending')
    (hc : h.byName name = some c ∧ h.iriAt? c = some i) :
    h'.byName name = some c ∧ h'.iriAt? c = some i := by
  obtain ⟨hfound, hi⟩ := hc
  cases hs with
  | known _ _ => exact ⟨hfound, hi⟩
  | recorded _ _ _ =>
    rw [byName_recordParent, iriAt?_recordParent]
    exact ⟨hfound, hi⟩
  | registered _ =>
    refine ⟨?_, iriAt?_register_of_some hi⟩
    rw [registerBelow, byName_register, hfound, Option.some_or]

/-! ## Base class and roots -/

theorem Rooted.exists_iriAt?
    (hr : Rooted (inNamespace ns baseName) (rootNames.map (inNamespace ns)) h)
    (hname : name ∈ baseName :: rootNames) : ∃ c, h.iriAt? c = some (inNamespace ns name) := by
  rcases List.mem_cons.1 hname with rfl | hroot
  · exact ⟨_, hr.base_iri⟩
  · exact hr.covered _ (List.mem_map_of_mem hroot)

theorem Rooted.exists_configured
    (hr : Rooted (inNamespace ns baseName) (rootNames.map (inNamespace ns)) h)
    (hc : h.iriAt? c = some i) : ∃ name ∈ baseName :: rootNames, i = inNamespace ns name := by
  by_cases hbase : c = Hierarchy.base
  · rw [hbase, hr.base_iri] at hc
    exact ⟨baseName, List.mem_cons_self, (Option.some.inj hc).symm⟩
  · obtain ⟨root, hroot, rfl⟩ := List.mem_map.1 (hr.root hc hbase).1
    exact ⟨root, List.mem_cons_of_mem _ hroot, rfl⟩

/-- Where configured classes have the names they are configured with, none is found under the name
of another one. -/
theorem Rooted.byName_configured
    (hr : Rooted (inNamespace ns baseName) (rootNames.map (inNamespace ns)) h)
    (hnames : ∀ name ∈ baseName :: rootNames, (inNamespace ns name).name = name)
    (hname : name ∈ baseName :: rootNames) :
    ∃ c, h.byName name = some c ∧ h.iriAt? c = some (inNamespace ns name) := by
  obtain ⟨c₀, hc₀⟩ := hr.exists_iriAt? hname
  have hhas : h.HasName name c₀ := ⟨_, hc₀, hnames name hname⟩
  cases hfound : h.byName name with
  | none => exact absurd hhas (byName_eq_none_iff.1 hfound c₀)
  | some c =>
    obtain ⟨⟨i, hi, hiname⟩, -⟩ := byName_eq_some_iff.1 hfound
    obtain ⟨name', hname', rfl⟩ := hr.exists_configured hi
    have hsame : name' = name := (hnames name' hname').symm.trans hiname
    exact ⟨c, rfl, hsame ▸ hi⟩

theorem byName_of_build (hb : build d ns baseName rootNames policy = .ok h)
    (hnames : ∀ name ∈ baseName :: rootNames, (inNamespace ns name).name = name)
    (hname : name ∈ baseName :: rootNames) :
    ∃ c, h.byName name = some c ∧ h.iriAt? c = some (inNamespace ns name) := by
  obtain ⟨h₀, hw, hg⟩ := bind_eq_ok hb
  obtain ⟨c, hc⟩ := (rooted_of_withRoots hw).byName_configured hnames hname
  exact ⟨c, grow_induction (P := fun h _ => h.byName name = some c ∧ h.iriAt? c = some _)
    byName_of_step hg hc⟩

/-- The base class and the roots descend from the base class. -/
theorem Faithful.isSubclass_base (hf : Faithful d base roots h) (hc : h.iriAt? c = some i)
    (hi : i ∈ base :: roots) : h.isSubclass c Hierarchy.base = true := by
  rw [isSubclass_iff]
  by_cases hbase : i = base
  · rw [hbase] at hc
    have hself : c = Hierarchy.base := (unique_of_nodup hf.iris_nodup).eq hc hf.base_iri
    rw [hself]
    exact .refl _
  · have hroot : i ∈ roots := (List.mem_cons.1 hi).resolve_left hbase
    exact .single ((hf.base_parent_iff hc).2 ⟨hroot, hbase⟩)

/-- With accepted settings whose names hold no separators, every hierarchy that is built has the
base class and each root under the name that it is configured with, whatever classes of these names
the ontology has in other namespaces, and each root descends from the base class. This is so because
a name without separators is the local name behind a text that ends in one. A local name is the part
of a text behind its last separator, or the whole text if there is no such part, and it is its own
local name. -/
theorem configured_names_not_captured :
    (∀ (d : Dataset) (s : Settings) (h : Hierarchy), s.validated = .ok s →
      (∀ name ∈ s.baseClass :: s.roots, Unseparated name.toList) →
      build d s.ns s.baseClass s.roots s.hierarchy = .ok h →
      ∀ name ∈ s.baseClass :: s.roots, ∃ c, h.byName name = some c ∧
        h.iriAt? c = some (inNamespace s.ns name) ∧ h.isSubclass c Hierarchy.base = true) ∧
    (∀ ns name : String, (∃ sep, ns.toList.getLast? = some sep ∧ isSeparator sep = true) →
      name ≠ "" → Unseparated name.toList → localName (ns ++ name) = name) ∧
    (∀ text last : String, localName text = last ↔
      EndsIn text.toList last.toList ∨ last = text ∧ ∀ part, ¬ EndsIn text.toList part) ∧
    ∀ text : String, localName (localName text) = localName text := by
  refine ⟨?_, fun _ _ => localName_append, fun _ _ => localName_eq_iff, localName_localName⟩
  intro d s h hs hplain hb name hname
  have hnames : ∀ name ∈ s.baseClass :: s.roots, (inNamespace s.ns name).name = name :=
    fun name hname => (Settings.validated_eq_ok_iff.1 hs).2.name_inNamespace hname
      (hplain name hname)
  obtain ⟨c, hfound, hc⟩ := byName_of_build hb hnames hname
  refine ⟨c, hfound, hc, (faithful_of_build hb).isSubclass_base hc ?_⟩
  have hmem := List.mem_map_of_mem (f := inNamespace s.ns) hname
  simpa using hmem

/-- An ontology in which equipment and entities of another namespace are equipment. -/
def foreignOntology : Dataset :=
  .ofTriples [
    ⟨.iri ⟨"urn:other#Equipment"⟩, Vocabulary.subClassOf, .iri ⟨"urn:plant#Equipment"⟩⟩,
    ⟨.iri ⟨"urn:other#Entity"⟩, Vocabulary.subClassOf, .iri ⟨"urn:other#Equipment"⟩⟩]

/-- Settings with equipment and the base class itself as roots, and equipment once more. -/
def plantSettings : Settings :=
  { Settings.standard with ns := "urn:plant#", roots := ["Equipment", "Entity", "Equipment"] }

def foreignHierarchy : Hierarchy := .ofClasses [
  ⟨⟨"urn:plant#Entity"⟩, some "Entity", none, none, []⟩,
  ⟨⟨"urn:plant#Equipment"⟩, some "Equipment", none, some ⟨0⟩, []⟩,
  ⟨⟨"urn:other#Equipment"⟩, none, none, some ⟨1⟩, []⟩,
  ⟨⟨"urn:other#Entity"⟩, none, none, some ⟨2⟩, []⟩]

theorem build_foreignHierarchy : build foreignOntology plantSettings.ns plantSettings.baseClass
    plantSettings.roots plantSettings.hierarchy = .ok foreignHierarchy := by
  have hroots : withRoots plantSettings.ns plantSettings.baseClass plantSettings.roots =
      .ok (.ofClasses (foreignHierarchy.classes.take 2)) := by decide
  have hpending : pendingRoots foreignOntology (.ofClasses (foreignHierarchy.classes.take 2)) =
      [(⟨1⟩, ⟨⟨"urn:other#Equipment"⟩, none, none⟩)] := by
    decide +kernel
  refine build_eq_of_grow hroots hpending fun _ => ?_
  refine grow_of_registered (by decide)
    (show _ = [(⟨2⟩, ⟨⟨"urn:other#Entity"⟩, none, none⟩)] by decide +kernel) fun _ => ?_
  refine grow_of_registered (by decide) (show _ = [] by decide +kernel) fun _ => ?_
  rw [grow]
  rfl

/-- Both configured classes are found although there are foreign classes of their names. -/
theorem plant_names_not_captured :
    (∃ c, foreignHierarchy.byName "Equipment" = some c ∧
      foreignHierarchy.iriAt? c = some ⟨"urn:plant#Equipment"⟩ ∧
      foreignHierarchy.isSubclass c Hierarchy.base = true) ∧
    (∃ c, foreignHierarchy.byName "Entity" = some c ∧
      foreignHierarchy.iriAt? c = some ⟨"urn:plant#Entity"⟩ ∧
      foreignHierarchy.isSubclass c Hierarchy.base = true) ∧
    foreignHierarchy.HasName "Equipment" ⟨2⟩ ∧ foreignHierarchy.HasName "Entity" ⟨3⟩ := by
  have hplain : ∀ name ∈ plantSettings.baseClass :: plantSettings.roots,
      Unseparated name.toList := by
    simp [plantSettings, Settings.standard, Unseparated, isSeparator]
  have hkept := configured_names_not_captured.1 foreignOntology plantSettings foreignHierarchy
    (by decide) hplain build_foreignHierarchy
  have hequipment : "Equipment" ∈ plantSettings.baseClass :: plantSettings.roots := by
    simp [plantSettings]
  have hentity : "Entity" ∈ plantSettings.baseClass :: plantSettings.roots := by
    simp [plantSettings]
  exact ⟨hkept "Equipment" hequipment, hkept "Entity" hentity,
    ⟨⟨"urn:other#Equipment"⟩, by decide, by decide⟩, ⟨⟨"urn:other#Entity"⟩, by decide, by decide⟩⟩

end Hierarchy

end BuildingModel
