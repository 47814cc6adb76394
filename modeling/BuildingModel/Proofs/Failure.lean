/-!
# Computations that may fail

A computation that does not fail has gone through all of its steps, each with a result.
-/
namespace BuildingModel

variable {ε α β : Type}

theorem bind_eq_ok {x : Except ε α} {f : α → Except ε β} {b : β} (h : x >>= f = .ok b) :
    ∃ a, x = .ok a ∧ f a = .ok b := by
  cases x with
  | error e => cases h
  | ok a => exact ⟨a, rfl, h⟩

theorem map_eq_ok {x : Except ε α} {f : α → β} {b : β} (h : x.map f = .ok b) :
    ∃ a, x = .ok a ∧ f a = b := by
  cases x with
  | error e => cases h
  | ok a =>
    cases h
    exact ⟨a, rfl, rfl⟩

theorem map_eq_error {x : Except ε α} {f : α → β} {e : ε} (h : x.map f = .error e) :
    x = .error e := by
  cases x with
  | error e' =>
    cases h
    rfl
  | ok a => cases h

theorem mapError_ok {ε' : Type} (f : ε → ε') (a : α) :
    (Except.ok a : Except ε α).mapError f = .ok a := rfl

theorem mapError_eq_ok {ε' : Type} {x : Except ε α} {f : ε → ε'} {a : α}
    (h : x.mapError f = .ok a) : x = .ok a := by
  cases x with
  | error e => cases h
  | ok b =>
    cases h
    rfl

/-- Two computations one after the other have a result if the first has one from which the second
goes on. -/
theorem exists_bind_iff {x : Except ε α} {f : α → Except ε β} :
    (∃ b, x >>= f = .ok b) ↔ ∃ a, x = .ok a ∧ ∃ b, f a = .ok b := by
  constructor
  · rintro ⟨b, hb⟩
    obtain ⟨a, ha, hb⟩ := bind_eq_ok hb
    exact ⟨a, ha, b, hb⟩
  · rintro ⟨a, rfl, b, hb⟩
    exact ⟨b, hb⟩

theorem exists_map_iff {x : Except ε α} {f : α → β} :
    (∃ b, x.map f = .ok b) ↔ ∃ a, x = .ok a := by
  constructor
  · rintro ⟨b, hb⟩
    obtain ⟨a, ha, -⟩ := map_eq_ok hb
    exact ⟨a, ha⟩
  · rintro ⟨a, rfl⟩
    exact ⟨f a, rfl⟩

theorem exists_mapError_iff {ε' : Type} {x : Except ε α} {f : ε → ε'} :
    (∃ a, x.mapError f = .ok a) ↔ ∃ a, x = .ok a := by
  constructor
  · rintro ⟨a, ha⟩
    exact ⟨a, mapError_eq_ok ha⟩
  · rintro ⟨a, rfl⟩
    exact ⟨a, rfl⟩

/-- What the step of each element preserves holds at the end of a sequence of steps that does not
fail. -/
theorem foldlM_induction_of_mem {P : β → Prop} {f : β → α → Except ε β} {xs : List α} {b b' : β}
    (hstep : ∀ {b x b'}, x ∈ xs → P b → f b x = .ok b' → P b') (h : xs.foldlM f b = .ok b')
    (hb : P b) : P b' := by
  induction xs generalizing b with
  | nil =>
    cases h
    exact hb
  | cons x xs ih =>
    rw [List.foldlM_cons] at h
    obtain ⟨b₁, hb₁, h⟩ := bind_eq_ok h
    exact ih (fun hx => hstep (List.mem_cons_of_mem _ hx)) h (hstep List.mem_cons_self hb hb₁)

theorem foldlM_induction {P : β → Prop} {f : β → α → Except ε β} {xs : List α} {b b' : β}
    (hstep : ∀ {b x b'}, P b → f b x = .ok b' → P b') (h : xs.foldlM f b = .ok b') (hb : P b) :
    P b' :=
  foldlM_induction_of_mem (fun _ => hstep) h hb

/-- A sequence of steps does not fail if no step fails, where what each step preserves is enough to
tell from its element whether it fails. -/
theorem exists_foldlM_iff {I : β → Prop} {P : α → Prop} {f : β → α → Except ε β} {xs : List α}
    {b : β} (hkeep : ∀ {b x b'}, I b → f b x = .ok b' → I b')
    (hstep : ∀ {b x}, I b → ((∃ b', f b x = .ok b') ↔ P x)) (hb : I b) :
    (∃ b', xs.foldlM f b = .ok b') ↔ ∀ x ∈ xs, P x := by
  induction xs generalizing b with
  | nil => exact ⟨fun _ x hx => (List.not_mem_nil hx).elim, fun _ => ⟨b, rfl⟩⟩
  | cons x xs ih =>
    rw [List.foldlM_cons, exists_bind_iff, List.forall_mem_cons, ← hstep hb]
    constructor
    · rintro ⟨b₁, hb₁, hrest⟩
      exact ⟨⟨b₁, hb₁⟩, (ih (hkeep hb hb₁)).1 hrest⟩
    · rintro ⟨⟨b₁, hb₁⟩, hrest⟩
      exact ⟨b₁, hb₁, (ih (hkeep hb hb₁)).2 hrest⟩

end BuildingModel
