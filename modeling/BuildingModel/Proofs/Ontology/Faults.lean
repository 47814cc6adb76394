import BuildingModel.Proofs.Number.Bounded
import BuildingModel.Proofs.Ontology.Decoding
import BuildingModel.Proofs.Rdf.NTriples

/-!
# Reports on answers

A report on answers that cannot be decoded has a line for each of them, below a line that says what
it is. A line tells the place of its answer and what is wrong there, so that reports which read
alike are one report.
-/
namespace BuildingModel.Ontology

open BuildingModel.Rdf BuildingModel.Rdf.NTriples

/-! ## What is wrong -/

namespace BindingError

theorem message_unbound (v : String) :
    (unbound v).message = "Variable '" ++ v ++ "' is unbound" := rfl

theorem message_kindMismatch (v expected actual : String) :
    (kindMismatch v expected actual).message =
      "Expected " ++ expected ++ " for '" ++ v ++ "', got " ++ actual := rfl

end BindingError

/-- What can be wrong with an answer where a variable is needed. -/
inductive Faulty (v : String) : BindingError → Prop
  | unbound : Faulty v (.unbound v)
  | mismatch (t : Term) : Faulty v (.kindMismatch v "IRI" t.kindName)

def Need.variableName : Need → String
  | .iri v => v
  | .literal v => v

theorem Need.faulty_of_fault? {s : Solution} {n : Need} {e : BindingError}
    (h : n.fault? s = some e) : Faulty n.variableName e := by
  cases n with
  | iri v =>
    cases hv : s.term? v with
    | none =>
      simp only [fault?, hv, Option.some.injEq] at h
      rw [← h]
      exact .unbound
    | some t =>
      cases t with
      | iri i => simp [fault?, hv] at h
      | blank b =>
        simp only [fault?, hv, Option.some.injEq] at h
        rw [← h]
        exact .mismatch _
      | literal l =>
        simp only [fault?, hv, Option.some.injEq] at h
        rw [← h]
        exact .mismatch _
  | literal v =>
    have he : .unbound v = e := by
      cases hv : s.term? v with
      | none => simpa [fault?, hv] using h
      | some t => cases t <;> simp_all [fault?]
    rw [← he]
    exact .unbound

theorem RowKind.isAlpha_needs (k : RowKind) :
    ∀ n ∈ k.needs, ∀ c ∈ n.variableName.toList, c.isAlpha = true := by
  have hall : k.needs.all (fun n => n.variableName.toList.all Char.isAlpha) = true := by
    cases k <;> rfl
  intro n hn
  exact List.all_eq_true.1 (List.all_eq_true.1 hall n hn)

namespace Faulty

variable {v v' : String} {e e' : BindingError}

theorem onLine_message (hv : ∀ c ∈ v.toList, c.isAlpha = true) (h : Faulty v e) :
    OnLine e.message := by
  have hline : OnLine v := onLine_of_forall (p := Char.isAlpha) (by decide) (by decide) hv
  cases h with
  | unbound =>
    rw [BindingError.message_unbound]
    exact onLine_append_iff.2 ⟨onLine_append_iff.2 ⟨by decide, hline⟩, by decide⟩
  | mismatch t =>
    have hkind : OnLine t.kindName := by
      cases t with
      | iri i => exact (by decide : OnLine "IRI")
      | blank b => exact (by decide : OnLine "BlankNode")
      | literal l => exact (by decide : OnLine "Literal")
    rw [BindingError.message_kindMismatch]
    have hexpected : OnLine ("Expected " ++ "IRI" ++ " for '") := by decide
    exact onLine_append_iff.2 ⟨onLine_append_iff.2
      ⟨onLine_append_iff.2 ⟨hexpected, hline⟩, by decide⟩, hkind⟩

theorem message_unbound_ne (v v' kind : String) :
    (BindingError.unbound v).message ≠ (BindingError.kindMismatch v' "IRI" kind).message := by
  intro h
  have hunbound : "Variable '".toList = 'V' :: "ariable '".toList := rfl
  have hmismatch : "Expected ".toList = 'E' :: "xpected ".toList := rfl
  have htext := congrArg String.toList h
  rw [BindingError.message_unbound, BindingError.message_kindMismatch] at htext
  simp only [String.toList_append, List.append_assoc, hunbound, hmismatch,
    List.cons_append] at htext
  cases (List.cons.inj htext).1

/-- What is said of a fault tells it from all others. -/
theorem eq_of_message_eq (hv : ∀ c ∈ v.toList, c.isAlpha = true)
    (hv' : ∀ c ∈ v'.toList, c.isAlpha = true) (h : Faulty v e) (h' : Faulty v' e')
    (heq : e.message = e'.message) : e = e' := by
  cases h with
  | unbound =>
    cases h' with
    | unbound =>
      rw [BindingError.message_unbound, BindingError.message_unbound, String.append_left_inj,
        String.append_right_inj] at heq
      rw [heq]
    | mismatch t' => exact absurd heq (message_unbound_ne v v' t'.kindName)
  | mismatch t =>
    cases h' with
    | unbound => exact absurd heq.symm (message_unbound_ne v' v t.kindName)
    | mismatch t' =>
      have hquote : ∀ {v : String}, (∀ c ∈ v.toList, c.isAlpha = true) → '\'' ∉ v.toList := by
        intro v hv hc
        cases hv _ hc
      have hmark : "', got ".toList = '\'' :: ", got ".toList := rfl
      have htext := congrArg String.toList heq
      rw [BindingError.message_kindMismatch, BindingError.message_kindMismatch] at htext
      simp only [String.toList_append, List.append_assoc, List.append_cancel_left_eq, hmark,
        List.cons_append] at htext
      obtain ⟨hname, hkind⟩ := append_cons_inj htext (hquote hv) (hquote hv')
      rw [String.toList_inj.1 hname, String.toList_inj.1 (List.append_cancel_left hkind)]

end Faulty

/-! ## Faults in their places -/

namespace RowFault

variable {f g : RowFault}

theorem onLine_message (h : OnLine f.error.message) : OnLine f.message := by
  have hplace : OnLine (Nat.repr f.row) :=
    onLine_of_forall (p := Char.isDigit) (by decide) (by decide)
      fun _ hc => Number.isDigit_of_mem_repr hc
  rw [message]
  exact onLine_append_iff.2 ⟨onLine_append_iff.2 ⟨onLine_append_iff.2 ⟨by decide, hplace⟩,
    by decide⟩, h⟩

/-- What is said of an answer tells its place and what is wrong with it. -/
theorem message_eq_iff : f.message = g.message ↔
    f.row = g.row ∧ f.error.message = g.error.message := by
  constructor
  · intro h
    have hcolon : ∀ n, ':' ∉ (Nat.repr n).toList := by
      intro n hc
      cases Number.isDigit_of_mem_repr hc
    have hmark : ": Binding error: ".toList = ':' :: " Binding error: ".toList := rfl
    have htext := congrArg String.toList h
    rw [message, message] at htext
    simp only [String.toList_append, List.append_assoc, List.append_cancel_left_eq, hmark,
      List.cons_append] at htext
    obtain ⟨hrow, herror⟩ := append_cons_inj htext (hcolon _) (hcolon _)
    have hvalue := congrArg (Nat.ofDigitChars 10 · 0) hrow
    exact ⟨by simpa [Nat.repr] using hvalue, String.toList_inj.1 (List.append_cancel_left herror)⟩
  · rintro ⟨hrow, herror⟩
    simp only [message, hrow, herror]

end RowFault

/-! ## Reports -/

section Reports

variable {k k' : RowKind} {answers answers' : List Solution} {faults faults' : List RowFault}

theorem exists_faulty_of_decodeAll (h : decodeAll k.decode answers = .error faults) {f : RowFault}
    (hf : f ∈ faults) :
    ∃ v : String, (∀ c ∈ v.toList, c.isAlpha = true) ∧ Faulty v f.error := by
  obtain ⟨s, -, hdecode⟩ := ((decodeAll_eq_error_iff.1 h).2.2 f).1 hf
  obtain ⟨n, hn, hfault⟩ :=
    List.exists_of_findSome?_eq_some ((k.requires_decode s f.error).1 hdecode)
  exact ⟨n.variableName, k.isAlpha_needs n hn, Need.faulty_of_fault? hfault⟩

/-- A report has a line for each answer that cannot be decoded, in order. -/
theorem lines_faultsMessage (h : decodeAll k.decode answers = .error faults) :
    lines (faultsMessage faults) =
      "Multiple errors occurred:" :: faults.map RowFault.message := by
  have hne : faults.map RowFault.message ≠ [] := by simpa using (decodeAll_eq_error_iff.1 h).1
  have hlines : ∀ s ∈ faults.map RowFault.message, OnLine s := by
    intro s hs
    obtain ⟨f, hf, rfl⟩ := List.mem_map.1 hs
    obtain ⟨v, hv, hfaulty⟩ := exists_faulty_of_decodeAll h hf
    exact RowFault.onLine_message (hfaulty.onLine_message hv)
  have hhead : OnLine "Multiple errors occurred:" := by decide
  have htext : faultsMessage faults = "Multiple errors occurred:" ++ "\n" ++
      "\n".intercalate (faults.map RowFault.message) := rfl
  rw [htext, lines_append hhead, lines_intercalate hne hlines]

/-- Reports that read alike are one report: the same places, with the same faults. -/
theorem faultsMessage_inj (h : decodeAll k.decode answers = .error faults)
    (h' : decodeAll k'.decode answers' = .error faults')
    (heq : faultsMessage faults = faultsMessage faults') : faults = faults' := by
  have hlines := congrArg lines heq
  rw [lines_faultsMessage h, lines_faultsMessage h'] at hlines
  refine eq_of_map_eq (List.cons.inj hlines).2 ?_
  intro f hf g hg hmessage
  obtain ⟨hrow, herror⟩ := RowFault.message_eq_iff.1 hmessage
  obtain ⟨v, hv, hfaulty⟩ := exists_faulty_of_decodeAll h hf
  obtain ⟨v', hv', hfaulty'⟩ := exists_faulty_of_decodeAll h' hg
  exact congrArg₂ RowFault.mk hrow (hfaulty.eq_of_message_eq hv hv' hfaulty' herror)

end Reports

end BuildingModel.Ontology
