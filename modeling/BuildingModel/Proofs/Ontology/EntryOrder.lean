import BuildingModel.Proofs.Ontology.RelationRows
import BuildingModel.Proofs.Rdf.Graph

/-!
# Rows and the order of entry

The rows of classes and of relations depend on what the default graph says, and not on the order in
which its statements were entered. Values that cannot be told apart by their order are those that
nothing is read from: of a domain or range only an IRI counts.
-/
namespace BuildingModel

open BuildingModel.Rdf BuildingModel.Ontology

/-! ## Decoding -/

namespace Ontology

variable {α β : Type} {decode : Solution → Except BindingError α} {ss ss' : List Solution}

/-- What decoding makes of some answers depends on what it makes of each of them. -/
theorem decodeAll_congr (h : ss.map decode = ss'.map decode) :
    decodeAll decode ss = decodeAll decode ss' := by
  have hfaults : ∀ first, rowFaults decode first ss = rowFaults decode first ss' := by
    intro first
    induction ss generalizing ss' first with
    | nil =>
      obtain rfl : ss' = [] := List.map_eq_nil_iff.1 h.symm
      rfl
    | cons s ss ih =>
      cases ss' with
      | nil => cases h
      | cons s' ss' =>
        obtain ⟨hs, hss⟩ := List.cons.inj h
        simp only [rowFaults, hs, ih hss]
  have hrows : (ss.filterMap fun s => (decode s).toOption) =
      ss'.filterMap fun s => (decode s).toOption := by
    have hmap : ∀ l : List Solution, (l.filterMap fun s => (decode s).toOption) =
        (l.map decode).filterMap Except.toOption := fun l => by
      rw [List.filterMap_map]
      rfl
    rw [hmap, hmap, h]
  rw [decodeAll, decodeAll, hfaults, hrows]

/-- Of optional values seen through a function only the values of that function count. -/
theorem map_orAbsent_congr {xs ys : List α} {f : α → Option β} (h : xs.map f = ys.map f) :
    (Dataset.orAbsent xs).map (·.bind f) = (Dataset.orAbsent ys).map (·.bind f) := by
  have hmap : ∀ zs : List α, (Dataset.orAbsent zs).map (·.bind f) =
      if (zs.map f).isEmpty then [none] else zs.map f := by
    intro zs
    cases zs <;> simp [Dataset.orAbsent]
  rw [hmap, hmap, h]

/-- The row of a property, whose IRI is all that can be missing. -/
def relationshipRow (property : Term) (domain range : Option Iri) :
    Except BindingError RelationshipRow :=
  match property with
  | .iri p => .ok ⟨p, domain, range⟩
  | t => .error (.kindMismatch "prop" "IRI" t.kindName)

theorem decode_relationshipAnswer_eq (property : Term) (domain range : Option Term) :
    RelationshipRow.decode (relationshipAnswer property domain range) =
      relationshipRow property (domain.bind Term.iri?) (range.bind Term.iri?) := by
  cases property with
  | iri p => exact decode_relationshipAnswer.2 ⟨rfl, rfl, rfl⟩
  | blank b => rfl
  | literal l => rfl

end Ontology

namespace Rdf.Dataset

variable {d d' : Dataset}

/-- Two datasets say the same in their default graphs. -/
def SameGraph (d d' : Dataset) : Prop := ∀ s p o, d.Says s p o ↔ d'.Says s p o

/-- Neither the order of statements nor their repeats matter to what a graph says. -/
theorem sameGraph_ofTriples {ts ts' : List Triple} (h : ∀ t, t ∈ ts ↔ t ∈ ts') :
    SameGraph (ofTriples ts) (ofTriples ts') := by
  intro s p o
  simp only [Says, mem_ofTriples_iff, h]

theorem nodup_defaultTriples (d : Dataset) : d.defaultTriples.Nodup := by
  refine d.nodup.filterMap ?_
  rintro ⟨t, g⟩ ⟨t', g'⟩ u hu hu'
  obtain ⟨rfl, rfl⟩ : g = none ∧ t = u := by simpa using hu
  obtain ⟨rfl, rfl⟩ : g' = none ∧ t' = t := by simpa using hu'
  rfl

theorem nodup_defaultObjects (d : Dataset) (s : Node) (p : Iri) : (d.defaultObjects s p).Nodup := by
  refine d.nodup_defaultTriples.filterMap ?_
  rintro ⟨s₁, p₁, o₁⟩ ⟨s₂, p₂, o₂⟩ o h₁ h₂
  obtain ⟨⟨rfl, rfl⟩, rfl⟩ : (s₁ = s ∧ p₁ = p) ∧ o₁ = o := by simpa using h₁
  obtain ⟨⟨rfl, rfl⟩, rfl⟩ : (s₂ = s₁ ∧ p₂ = p₁) ∧ o₂ = o₁ := by simpa using h₂
  rfl

theorem nodup_defaultSubjects (d : Dataset) (p : Iri) (o : Term) :
    (d.defaultSubjects p o).Nodup := by
  refine d.nodup_defaultTriples.filterMap ?_
  rintro ⟨s₁, p₁, o₁⟩ ⟨s₂, p₂, o₂⟩ s h₁ h₂
  obtain ⟨⟨rfl, rfl⟩, rfl⟩ : (p₁ = p ∧ o₁ = o) ∧ s₁ = s := by simpa using h₁
  obtain ⟨⟨rfl, rfl⟩, rfl⟩ : (p₂ = p₁ ∧ o₂ = o₁) ∧ s₂ = s₁ := by simpa using h₂
  rfl

namespace SameGraph

variable (hs : SameGraph d d')
include hs

theorem perm_defaultObjects (s : Node) (p : Iri) :
    (d.defaultObjects s p).Perm (d'.defaultObjects s p) := by
  rw [List.perm_ext_iff_of_nodup (d.nodup_defaultObjects s p) (d'.nodup_defaultObjects s p)]
  intro o
  rw [mem_defaultObjects, mem_defaultObjects]
  exact hs s p o

theorem perm_defaultSubjects (p : Iri) (o : Term) :
    (d.defaultSubjects p o).Perm (d'.defaultSubjects p o) := by
  rw [List.perm_ext_iff_of_nodup (d.nodup_defaultSubjects p o) (d'.nodup_defaultSubjects p o)]
  intro s
  rw [mem_defaultSubjects, mem_defaultSubjects]
  exact hs s p o

/-! ## Classes -/

theorem subclassIris_eq (parent : Iri) : d.subclassIris parent = d'.subclassIris parent := by
  apply sortIris_eq_of_perm
  rw [List.perm_ext_iff_of_nodup (nodup_distinct _) (nodup_distinct _)]
  intro i
  simp only [mem_distinct, List.mem_filterMap,
    (hs.perm_defaultSubjects Vocabulary.subClassOf (.iri parent)).mem_iff]

/-! ## Relations -/

theorem map_decode_typedProperties (c : Iri) :
    (d.typedProperties c).map RelationshipRow.decode =
      (d'.typedProperties c).map RelationshipRow.decode := by
  have hrows : ∀ d : Dataset, (d.typedProperties c).map RelationshipRow.decode =
      (sortNodes (d.defaultSubjects Vocabulary.type (.iri c))).flatMap fun property =>
        ((orAbsent (sortTerms (d.defaultObjects property Vocabulary.domain))).map
          (·.bind Term.iri?)).flatMap fun domain =>
            ((orAbsent (sortTerms (d.defaultObjects property Vocabulary.range))).map
              (·.bind Term.iri?)).map (relationshipRow property.term domain) := by
    intro d
    simp only [typedProperties, List.map_flatMap, List.flatMap_map, List.map_map]
    congr! 3
    funext domain
    exact List.map_congr_left fun _ _ => decode_relationshipAnswer_eq _ _ _
  have hvalues : ∀ (s : Node) (p : Iri),
      (orAbsent (sortTerms (d.defaultObjects s p))).map (·.bind Term.iri?) =
        (orAbsent (sortTerms (d'.defaultObjects s p))).map (·.bind Term.iri?) := fun s p =>
    map_orAbsent_congr (map_iri?_sortTerms_eq_of_perm (hs.perm_defaultObjects s p))
  simp only [hrows, hvalues,
    sortNodes_eq_of_perm (hs.perm_defaultSubjects Vocabulary.type (.iri c))]

theorem relationships_eq : d.relationships = d'.relationships :=
  decodeAll_congr (hs.map_decode_typedProperties _)

theorem entityProperties_eq (c : Iri) : d.entityProperties c = d'.entityProperties c :=
  decodeAll_congr (hs.map_decode_typedProperties c)

theorem statedBy_of_statedBy {shape m : Node} {r : ShapeRelationRow} (h : r.StatedBy d shape m) :
    r.StatedBy d' shape m where
  typed := (hs _ _ _).1 h.typed
  targetClass := (hs _ _ _).1 h.targetClass
  property := (hs _ _ _).1 h.property
  path := (hs _ _ _).1 h.path
  allowed := h.allowed.mono fun p _ s o => (hs s p o).1

end SameGraph

theorem SameGraph.symm (hs : SameGraph d d') : SameGraph d' d := fun s p o => (hs s p o).symm

theorem nodup_shapeRelations (d : Dataset) : d.shapeRelations.Nodup :=
  (List.mergeSort_perm _ _).nodup_iff.2 (nodup_distinct _)

/-- The rows of node shapes are in order, so that they are the same list wherever they are the same
set. -/
theorem shapeRelations_eq_of_mem (h : ∀ r, r ∈ d.shapeRelations ↔ r ∈ d'.shapeRelations) :
    d.shapeRelations = d'.shapeRelations := by
  have hperm : d.shapeRelations.Perm d'.shapeRelations :=
    (List.perm_ext_iff_of_nodup d.nodup_shapeRelations d'.nodup_shapeRelations).2 h
  have hanti : ∀ a b : ShapeRelationRow, shapeRelationLe a b = true → shapeRelationLe b a = true →
      a = b := by
    rintro ⟨⟨p⟩, ⟨c⟩, ⟨a⟩⟩ ⟨⟨p'⟩, ⟨c'⟩, ⟨a'⟩⟩ hle hge
    have htexts : [p, c, a] = [p', c', a'] := textsLe_antisymm hle hge
    simp only [List.cons.injEq, and_true] at htexts
    obtain ⟨rfl, rfl, rfl⟩ := htexts
    rfl
  refine mergeSort_eq_of_perm (fun _ _ _ => textsLe_trans) (fun _ _ => textsLe_total _ _) hanti ?_
  exact (List.mergeSort_perm _ _).symm.trans (hperm.trans (List.mergeSort_perm _ _))

theorem SameGraph.shapeRelations_eq (hs : SameGraph d d') :
    d.shapeRelations = d'.shapeRelations := by
  apply shapeRelations_eq_of_mem
  intro r
  rw [mem_shapeRelations_iff, mem_shapeRelations_iff]
  exact exists₂_congr fun shape m => ⟨hs.statedBy_of_statedBy, hs.symm.statedBy_of_statedBy⟩

end Rdf.Dataset

end BuildingModel
