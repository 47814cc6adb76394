import BuildingModel.Proofs.Session.WellFormed

/-!
# What a session remembers

The relations of an entity are the history of the requests that were fulfilled: their targets in the
order of the requests, with repeats. A request that fails leaves nothing behind, and one that
relates an entity to a target adds the target to one list and changes nothing else.
-/
namespace BuildingModel

open BuildingModel.Rdf

namespace Request

/-- The target that a request adds to a relation of an entity. -/
def target? (subject : EntityId) (property : String) : Request → Option Target
  | .relate id p t => if id = subject ∧ p = property then some t else none
  | .invoke id c t => if id = subject ∧ c = "add_" ++ property then some t else none
  | _ => none

/-- The relation of an entity that a request adds to. -/
def property? (subject : EntityId) : Request → Option String
  | .relate id p _ => if id = subject then some p else none
  | .invoke id c _ => if id = subject then Session.capabilityProperty? c else none
  | _ => none

theorem target?_eq_some_iff {subject : EntityId} {property : String} {r : Request} {t : Target} :
    r.target? subject property = some t ↔ r.attachment? = some (subject, property, t) := by
  cases r with
  | create => simp [target?, attachment?]
  | build => simp [target?, attachment?]
  | relate id p t' => simp [target?, attachment?, and_assoc]
  | invoke id c t' =>
    simp only [target?, attachment?, Option.map_eq_some_iff,
      Session.capabilityProperty?_eq_some_iff]
    constructor
    · intro h
      by_cases hc : id = subject ∧ c = "add_" ++ property
      · rw [if_pos hc] at h
        cases h
        exact ⟨property, hc.2, by rw [hc.1]⟩
      · rw [if_neg hc] at h
        cases h
    · rintro ⟨p, rfl, h⟩
      cases h
      simp

theorem property?_eq_some_iff {subject : EntityId} {property : String} {r : Request} :
    r.property? subject = some property ↔ ∃ t, r.attachment? = some (subject, property, t) := by
  cases r with
  | create => simp [property?, attachment?]
  | build => simp [property?, attachment?]
  | relate id p t => simp [property?, attachment?]
  | invoke id c t =>
    by_cases hid : id = subject
    · simp [property?, attachment?, hid]
    · simp [property?, attachment?, hid]

/-- What a request adds where it asks for an attachment. -/
theorem target?_of_attachment? {r : Request} {subject id : EntityId} {property p : String}
    {t : Target} (h : r.attachment? = some (subject, property, t)) :
    r.target? id p = if id = subject ∧ p = property then some t else none := by
  by_cases hip : id = subject ∧ p = property
  · rw [if_pos hip, target?_eq_some_iff, h, hip.1, hip.2]
  · rw [if_neg hip, Option.eq_none_iff_forall_ne_some]
    intro t' ht'
    rw [target?_eq_some_iff, h] at ht'
    cases ht'
    exact hip ⟨rfl, rfl⟩

theorem property?_of_attachment? {r : Request} {subject id : EntityId} {property : String}
    {t : Target} (h : r.attachment? = some (subject, property, t)) :
    r.property? id = if id = subject then some property else none := by
  by_cases hid : id = subject
  · rw [if_pos hid, property?_eq_some_iff]
    exact ⟨t, by rw [h, hid]⟩
  · rw [if_neg hid, Option.eq_none_iff_forall_ne_some]
    intro p hp
    obtain ⟨t', ht'⟩ := property?_eq_some_iff.1 hp
    rw [h] at ht'
    cases ht'
    exact hid rfl

end Request

namespace Session

variable {schema : Schema} {s s' : Session schema} {log : List Request} {r : Request}

theorem run_append_singleton (s : Session schema) (rs : List Request) (r : Request) :
    s.run (rs ++ [r]) = (s.run rs).step r := by
  simp [run]

theorem fulfilled_append_singleton (s : Session schema) (rs : List Request) (r : Request) :
    s.fulfilled (rs ++ [r]) = s.fulfilled rs ++
      match (s.run rs).answer r with
      | .ok _ => [r]
      | .error _ => [] := by
  induction rs generalizing s with
  | nil =>
    show (match s.answer r with | .ok _ => [r] | .error _ => []) = _
    rfl
  | cons r' rs ih =>
    rw [List.cons_append, fulfilled, fulfilled, ih (s.step r')]
    cases s.answer r' <;> rfl

/-- The relations of a session are what some requests added, one after the other. -/
structure Remembers (s : Session schema) (log : List Request) : Prop where
  relation : ∀ id e p, s.IsEntity id e → e.relation p = log.filterMap (Request.target? id p)
  names : ∀ id e, s.IsEntity id e →
    e.propertyNames = distinct (log.filterMap (Request.property? id))
  subjects : ∀ r ∈ log, ∀ id p t, r.attachment? = some (id, p, t) → ∃ e, s.IsEntity id e

theorem remembers_start (schema : Schema) (number : ℕ) : (start schema number).Remembers [] where
  relation := by simp [start, IsEntity]
  names := by simp [start, IsEntity]
  subjects := by simp

/-- Nobody has asked anything of an entity that is new. -/
theorem Remembers.nothing_of_new (h : s.Remembers log) {id : EntityId}
    (hnew : ∀ e, ¬ s.IsEntity id e) :
    (∀ p, log.filterMap (Request.target? id p) = []) ∧
      log.filterMap (Request.property? id) = [] := by
  constructor
  · intro p
    rw [List.filterMap_eq_nil_iff]
    intro r hr
    rw [Option.eq_none_iff_forall_ne_some]
    intro t ht
    obtain ⟨e, he⟩ := h.subjects r hr id p t (Request.target?_eq_some_iff.1 ht)
    exact hnew e he
  · rw [List.filterMap_eq_nil_iff]
    intro r hr
    rw [Option.eq_none_iff_forall_ne_some]
    intro p hp
    obtain ⟨t, ht⟩ := Request.property?_eq_some_iff.1 hp
    obtain ⟨e, he⟩ := h.subjects r hr id p t ht
    exact hnew e he

/-- Requests that ask for no attachment add nothing to what is remembered. -/
theorem filterMap_append_of_attachment?_eq_none (log : List Request) (hr : r.attachment? = none) :
    (∀ id p, (log ++ [r]).filterMap (Request.target? id p) =
      log.filterMap (Request.target? id p)) ∧
    ∀ id, (log ++ [r]).filterMap (Request.property? id) = log.filterMap (Request.property? id) := by
  have htarget : ∀ id p, r.target? id p = none := by
    intro id p
    rw [Option.eq_none_iff_forall_ne_some]
    intro t ht
    rw [Request.target?_eq_some_iff, hr] at ht
    cases ht
  have hproperty : ∀ id, r.property? id = none := by
    intro id
    rw [Option.eq_none_iff_forall_ne_some]
    intro p hp
    obtain ⟨t, ht⟩ := Request.property?_eq_some_iff.1 hp
    rw [hr] at ht
    cases ht
  constructor
  · intro id p
    simp [htarget id p]
  · intro id
    simp [hproperty id]

theorem Remembers.subjects_grow (h : s.Remembers log) (hgrow : s.Grows s')
    (hr : ∀ id p t, r.attachment? = some (id, p, t) → ∃ e, s'.IsEntity id e) :
    ∀ r' ∈ log ++ [r], ∀ id p t, r'.attachment? = some (id, p, t) → ∃ e, s'.IsEntity id e := by
  intro r' hr' id p t ht
  rcases List.mem_append.1 hr' with hr' | hr'
  · obtain ⟨e, he⟩ := h.subjects r' hr' id p t ht
    obtain ⟨e', he', -⟩ := hgrow.entity he
    exact ⟨e', he'⟩
  · rw [List.mem_singleton.1 hr'] at ht
    exact hr id p t ht

theorem remembers_created (h : s.Remembers log) (hr : r.attachment? = none) {iri : String}
    {e : Entity} (he : e.attachments = []) : (s.created iri e).Remembers (log ++ [r]) := by
  obtain ⟨htarget, hproperty⟩ := filterMap_append_of_attachment?_eq_none log hr
  have hnew : ∀ x, ¬ s.IsEntity s.nextEntity x := by
    intro x hx
    have hlt := (List.getElem?_eq_some_iff.1 hx.2).1
    exact absurd hlt (lt_irrefl _)
  constructor
  · intro id x p hx
    rw [htarget]
    rcases isEntity_created_iff.1 hx with hx | ⟨rfl, rfl⟩
    · exact h.relation id x p hx
    · rw [(h.nothing_of_new hnew).1 p, Entity.relation, he]
      rfl
  · intro id x hx
    rw [hproperty]
    rcases isEntity_created_iff.1 hx with hx | ⟨rfl, rfl⟩
    · exact h.names id x hx
    · rw [(h.nothing_of_new hnew).2, Entity.propertyNames, he]
      rfl
  · apply h.subjects_grow (grows_created s iri e)
    intro id p t ht
    rw [hr] at ht
    cases ht

theorem remembers_addRecord (h : s.Remembers log) (hr : r.attachment? = none) (x : Record) :
    (s.addRecord x).Remembers (log ++ [r]) := by
  obtain ⟨htarget, hproperty⟩ := filterMap_append_of_attachment?_eq_none log hr
  constructor
  · intro id e p he
    rw [htarget]
    exact h.relation id e p he
  · intro id e he
    rw [hproperty]
    exact h.names id e he
  · apply h.subjects_grow (grows_addRecord s x)
    intro id p t ht
    rw [hr] at ht
    cases ht

theorem remembers_attach (h : s.Remembers log) {subject : EntityId} {property : String} {t : Target}
    {e : Entity} (hr : r.attachment? = some (subject, property, t)) (he : s.IsEntity subject e) :
    (s.attach subject.index property t).Remembers (log ++ [r]) := by
  have hgrow := grows_attach s subject.index property t
  have hid : ∀ {id x}, s.IsEntity id x → (id.index = subject.index ↔ id = subject) := by
    intro id x hx
    constructor
    · exact hx.eq_of_index_eq he
    · intro heq
      rw [heq]
  constructor
  · intro id x' p hx'
    obtain ⟨x, hx, rfl⟩ := isEntity_attach_iff.1 hx'
    have hold := h.relation id x p hx
    rw [List.filterMap_append, List.filterMap_cons, Request.target?_of_attachment? hr]
    by_cases hs : id = subject
    · rw [if_pos ((hid hx).2 hs), Entity.relation_attach]
      by_cases hp : p = property
      · rw [if_pos hp, if_pos ⟨hs, hp⟩, ← hp, hold]
        rfl
      · rw [if_neg hp, if_neg (fun hand => hp hand.2), hold]
        simp
    · rw [if_neg (fun hi => hs ((hid hx).1 hi)), if_neg (fun hand => hs hand.1), hold]
      simp
  · intro id x' hx'
    obtain ⟨x, hx, rfl⟩ := isEntity_attach_iff.1 hx'
    have hold := h.names id x hx
    rw [List.filterMap_append, List.filterMap_cons, Request.property?_of_attachment? hr]
    by_cases hs : id = subject
    · rw [if_pos ((hid hx).2 hs), Entity.propertyNames_attach, if_pos hs, hold]
      simp [distinct_append_singleton]
    · rw [if_neg (fun hi => hs ((hid hx).1 hi)), if_neg hs, hold]
      simp
  · apply h.subjects_grow hgrow
    intro id p t' ht'
    rw [hr] at ht'
    cases ht'
    obtain ⟨e', he', -⟩ := hgrow.entity he
    exact ⟨e', he'⟩

theorem remembers_change {reply : Reply} (h : s.Remembers log) (hchange : s.Change r reply s') :
    s'.Remembers (log ++ [r]) := by
  cases hchange with
  | create hclass hiri hnew => exact remembers_created h rfl rfl
  | build hname hshape hknown hfields => exact remembers_addRecord h rfl _
  | relate hrequest he hr hb ht => exact remembers_attach h hrequest he

theorem remembers_step (h : s.Remembers log) (r : Request) :
    (s.step r).Remembers (log ++ match s.answer r with
      | .ok _ => [r]
      | .error _ => []) := by
  cases s.outcome r with
  | failed hanswer hstep =>
    rw [hanswer, hstep, List.append_nil]
    exact h
  | changed hanswer hchange =>
    rw [hanswer]
    exact remembers_change h hchange

theorem remembers_run (schema : Schema) (number : ℕ) (rs : List Request) :
    ((start schema number).run rs).Remembers ((start schema number).fulfilled rs) := by
  induction rs using List.reverseRecOn with
  | nil => exact remembers_start schema number
  | append_singleton rs r ih =>
    rw [run_append_singleton, fulfilled_append_singleton]
    exact remembers_step ih r

/-- One session follows another by one more target at the end of one relation of an entity, and by
nothing else. -/
structure Appends (s s' : Session schema) (subject : EntityId) (property : String)
    (t : Target) : Prop where
  number : s'.number = s.number
  handles : s'.handles = s.handles
  records : s'.records = s.records
  others : ∀ id, id ≠ subject → ∀ e, s'.IsEntity id e ↔ s.IsEntity id e
  subject : ∃ e e', s.IsEntity subject e ∧ s'.IsEntity subject e' ∧ e'.iri = e.iri ∧
    e'.label = e.label ∧ e'.classId = e.classId ∧
    e'.relation property = e.relation property ++ [t] ∧
    (∀ p, p ≠ property → e'.relation p = e.relation p) ∧
    e'.propertyNames =
      if property ∈ e.propertyNames then e.propertyNames else e.propertyNames ++ [property]

theorem appends_attach {subject : EntityId} {property : String} {t : Target} {e : Entity}
    (he : s.IsEntity subject e) :
    s.Appends (s.attach subject.index property t) subject property t := by
  refine ⟨rfl, rfl, rfl, ?_, ?_⟩
  · intro id hid x
    rw [isEntity_attach_iff]
    by_cases hindex : id.index = subject.index
    · -- A handle of the same place that is not the subject is of another session.
      have hforeign : ∀ y, ¬ s.IsEntity id y := by
        intro y hy
        exact hid (hy.eq_of_index_eq he hindex)
      constructor
      · rintro ⟨y, hy, -⟩
        exact absurd hy (hforeign y)
      · intro hx
        exact absurd hx (hforeign x)
    · simp [hindex]
  · refine ⟨e, e.attach property t, he, isEntity_attach_iff.2 ⟨e, he, by simp⟩, e.iri_attach _ _,
      e.label_attach _ _, e.classId_attach _ _, ?_, ?_, e.propertyNames_attach _ _⟩
    · rw [Entity.relation_attach, if_pos rfl]
    · intro p hp
      rw [Entity.relation_attach, if_neg hp]

theorem step_eq_of_answer_eq_error {e : ModelError} (h : s.answer r = .error e) :
    s.step r = s := by
  cases s.outcome r with
  | failed hanswer hstep => exact hstep
  | changed hanswer hchange =>
    rw [h] at hanswer
    cases hanswer

theorem appends_of_answer_eq_ok {subject : EntityId} {property : String} {t : Target}
    {reply : Reply} (hr : r.attachment? = some (subject, property, t))
    (h : s.answer r = .ok reply) : s.Appends (s.step r) subject property t := by
  cases s.outcome r with
  | failed hanswer hstep =>
    rw [h] at hanswer
    cases hanswer
  | changed hanswer hchange =>
    generalize s.step r = s' at hchange ⊢
    cases hchange with
    | create => cases hr
    | build => cases hr
    | relate hrequest he =>
      rw [hr] at hrequest
      cases hrequest
      exact appends_attach he

/-- The relations of an entity are the history of the requests that were fulfilled, a request that
fails changes nothing, and one that adds a target adds it at the end of one list. -/
theorem history_of_run (schema : Schema) (number : ℕ) (rs : List Request) :
    (∀ subject e, ((start schema number).run rs).IsEntity subject e →
      (∀ property, ((start schema number).run rs).relation subject property =
        .ok (((start schema number).fulfilled rs).filterMap (Request.target? subject property))) ∧
      e.propertyNames =
        distinct (((start schema number).fulfilled rs).filterMap (Request.property? subject))) ∧
    (∀ (s : Session schema) (r : Request) (e : ModelError), s.answer r = .error e →
      s.step r = s) ∧
    ∀ (s : Session schema) (r : Request) (reply : Reply) (subject : EntityId) (property : String)
      (t : Target), r.attachment? = some (subject, property, t) → s.answer r = .ok reply →
      s.Appends (s.step r) subject property t := by
  have hremembers := remembers_run schema number rs
  refine ⟨?_, fun s r e => step_eq_of_answer_eq_error,
    fun s r reply subject property t => appends_of_answer_eq_ok⟩
  intro subject e he
  refine ⟨fun property => ?_, hremembers.names subject e he⟩
  rw [Session.relation, entity_eq_ok_iff.2 he, ← hremembers.relation subject e property he]
  rfl

/-- A schema of one class and one shape, whose entities may feed each other and be rated. -/
def feeding : Schema where
  settings := { Settings.standard with emitLabels := true }
  hierarchy := .ofClasses [⟨⟨"urn:b#Entity"⟩, none, none, none, []⟩]
  relations := .ofRelations [
    ⟨⟨"urn:b#feeds"⟩, [⟨⟨0⟩, [.class ⟨0⟩]⟩]⟩, ⟨⟨"urn:b#rated"⟩, [⟨⟨0⟩, [.shape ⟨0⟩]⟩]⟩]
  shapes := .ofShapes [⟨⟨"urn:b#Rating"⟩, [⟨⟨"urn:b#value"⟩, .scalar Xsd.integer, true⟩]⟩]
  units := .empty
  validator := ⟨fun _ => .ok ⟨[]⟩, none⟩

/-- Two entities, of which the first feeds the second, itself and the second again and is rated; an
unknown relation and a foreign handle are refused on the way. -/
def feedingRequests : List Request :=
  [.create "Entity" "urn:a" none, .create "Entity" "urn:b" (some "b"),
    .relate ⟨0, 0⟩ "feeds" (.entity ⟨0, 1⟩), .relate ⟨0, 0⟩ "cools" (.entity ⟨0, 1⟩),
    .build "Rating" [⟨"value", .integer 5⟩], .relate ⟨0, 0⟩ "rated" (.record ⟨0, 0⟩),
    .invoke ⟨0, 0⟩ "add_feeds" (.entity ⟨0, 0⟩), .relate ⟨0, 0⟩ "feeds" (.entity ⟨7, 1⟩),
    .relate ⟨0, 0⟩ "feeds" (.entity ⟨0, 1⟩)]

theorem history_of_feeding :
    ((start feeding 0).run feedingRequests).relation ⟨0, 0⟩ "feeds" =
        .ok [.entity ⟨0, 1⟩, .entity ⟨0, 0⟩, .entity ⟨0, 1⟩] ∧
      (start feeding 0).step (.create "Room" "urn:a" none) = start feeding 0 ∧
      ((start feeding 0).run (feedingRequests.take 2)).Appends
        ((start feeding 0).run (feedingRequests.take 3)) ⟨0, 0⟩ "feeds" (.entity ⟨0, 1⟩) := by
  obtain ⟨hhistory, hfailed, hadded⟩ := history_of_run feeding 0 feedingRequests
  refine ⟨?_, ?_, ?_⟩
  · have hentity : ((start feeding 0).run feedingRequests).IsEntity ⟨0, 0⟩
        ⟨⟨"urn:a"⟩, none, ⟨0⟩,
          [⟨"feeds", [.entity ⟨0, 1⟩, .entity ⟨0, 0⟩, .entity ⟨0, 1⟩]⟩,
            ⟨"rated", [.record ⟨0, 0⟩]⟩]⟩ := by
      constructor
      · decide +kernel
      · decide +kernel
    exact ((hhistory _ _ hentity).1 "feeds").trans (by decide +kernel)
  · exact hfailed _ _ (.unknownClass "Room") rfl
  · exact hadded ((start feeding 0).run (feedingRequests.take 2)) _ .done ⟨0, 0⟩ "feeds"
      (.entity ⟨0, 1⟩) rfl (by decide +kernel)

end Session

end BuildingModel
