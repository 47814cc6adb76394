import BuildingModel.Proofs.Rdf.Words
import BuildingModel.Rdf.NTriples.Reader

/-!
# N-Triples are read back

Statements that are written in N-Triples have a line each, and to read the lines is to get the
statements back, in order. So no two lists of well-formed statements are written alike.
-/
namespace BuildingModel.Rdf

/-! ## Tokens -/

/-- The tokens that a literal is written in. -/
def Literal.tokens : Literal → List Token
  | .plain text => [.text text true]
  | .tagged text tag => [.text text true, .language tag]
  | .typed text d => [.text text true, .datatypeMark, .iri d.text]

def Node.token : Node → Token
  | .iri i => .iri i.text
  | .blank b => .label b.label

def Term.tokens : Term → List Token
  | .iri i => [.iri i.text]
  | .blank b => [.label b.label]
  | .literal l => l.tokens

/-- The tokens that a statement is written in, with the point that ends it. -/
def Triple.tokens (t : Triple) : List Token :=
  t.subject.token :: .iri t.predicate.text :: (t.object.tokens ++ [.mark '.'])

namespace Token

variable {rest : List Char} {ts : List Token}

theorem Scans.iri {i : Iri} (hi : i.WellFormed) (h : Scans rest ts) :
    Scans (i.written.toList ++ rest) (.iri i.text :: ts) := by
  have hwritten : i.written.toList ++ rest = '<' :: (i.text.toList ++ '>' :: rest) := by
    simp [Iri.written, String.toList_append]
  rw [hwritten]
  refine h.token rfl (bracketedIri?_append hi) ?_
  simp only [List.length_append, List.length_cons]
  omega

theorem Scans.label {b : BlankNode} (hb : b.WellFormed) (h : Scans (' ' :: rest) ts) :
    Scans (b.written.toList ++ ' ' :: rest) (.label b.label :: ts) := by
  have hwritten : b.written.toList ++ ' ' :: rest =
      '_' :: ':' :: (b.label.toList ++ ' ' :: rest) := by
    simp [BlankNode.written, String.toList_append]
  rw [hwritten]
  refine h.token rfl (blankLabel?_append hb) ?_
  simp only [List.length_append, List.length_cons]
  omega

theorem Scans.text (s : String) {c : Char} (hc : c ≠ '"') (h : Scans (c :: rest) ts) :
    Scans ((writtenText s).toList ++ c :: rest) (.text s true :: ts) := by
  have hwritten : (writtenText s).toList ++ c :: rest =
      '"' :: (s.toList.flatMap escapedChar ++ '"' :: c :: rest) := by
    simp [writtenText]
  rw [hwritten]
  refine h.token rfl (quotedText?_append s hc) ?_
  simp only [List.length_append, List.length_cons]
  omega

theorem Scans.language {tag : String} (htag : Language.isTag tag.toList = true)
    (hlower : tag.toList.map Char.toLower = tag.toList) (h : Scans (' ' :: rest) ts) :
    Scans ('@' :: (tag.toList ++ ' ' :: rest)) (.language tag :: ts) := by
  have hread : languageTag? (tag.toList ++ ' ' :: rest) = some (.language tag, ' ' :: rest) := by
    rw [languageTag?_append htag hlower, String.ofList_toList]
  refine h.token rfl hread ?_
  simp only [List.length_append, List.length_cons]
  omega

theorem Scans.literal {l : Literal} (hl : l.WellFormed) (h : Scans (' ' :: rest) ts) :
    Scans (l.written.toList ++ ' ' :: rest) (l.tokens ++ ts) := by
  cases l with
  | plain text => exact h.text text (by decide)
  | tagged text tag =>
    obtain ⟨htag, hlower⟩ := hl
    have htext := (h.language htag hlower).text text (by decide)
    simpa [Literal.written, Literal.tokens, String.toList_append] using htext
  | typed text d =>
    have hmark : Scans ('^' :: '^' :: (d.written.toList ++ ' ' :: rest))
        (.datatypeMark :: .iri d.text :: ts) := (h.iri hl.1).token rfl rfl (by simp)
    have htext := hmark.text text (by decide)
    simpa [Literal.written, Literal.tokens, String.toList_append] using htext

theorem Scans.node {n : Node} (hn : n.WellFormed) (h : Scans (' ' :: rest) ts) :
    Scans (n.written.toList ++ ' ' :: rest) (n.token :: ts) := by
  cases n with
  | iri i => exact h.iri hn
  | blank b => exact h.label hn

theorem Scans.term {t : Term} (ht : t.WellFormed) (h : Scans (' ' :: rest) ts) :
    Scans (t.written.toList ++ ' ' :: rest) (t.tokens ++ ts) := by
  cases t with
  | iri i => exact h.iri ht
  | blank b => exact h.label ht
  | literal l => exact h.literal ht

/-- A statement is scanned up to its point. -/
theorem Scans.triple {t : Triple} (ht : t.WellFormed)
    (h : Scans ('.' :: rest) (.mark '.' :: ts)) :
    Scans (t.written.toList ++ ' ' :: '.' :: rest) (t.tokens ++ ts) := by
  have hobject := (h.blank (c := ' ') (.inl rfl)).term ht.object
  have hpredicate := (hobject.blank (c := ' ') (.inl rfl)).iri ht.predicate
  have hsubject := (hpredicate.blank (c := ' ') (.inl rfl)).node ht.subject
  simpa [Triple.written, Triple.tokens, String.toList_append] using hsubject

/-- After a point the line ends, or the text. -/
theorem Scans.point (h : Scans rest ts) : Scans ('.' :: '\n' :: rest) (.mark '.' :: ts) :=
  (h.blank (.inr (.inr (.inl rfl)))).token rfl rfl le_rfl

theorem scans_point : Scans ['.'] [.mark '.'] :=
  scans_nil.token rfl rfl le_rfl

end Token

namespace NTriples

/-! ## Statements -/

variable {t : Triple} {ts : List Triple} {rest : List Token}

theorem node?_token {n : Node} (hn : n.WellFormed) : node? n.token = some n := by
  cases n with
  | iri i =>
    have hparse : Iri.parse? i.text = some i := Iri.parse?_eq_some_iff.2 ⟨rfl, hn⟩
    rw [Node.token, node?, hparse]
    rfl
  | blank b => rfl

theorem ofTagged_eq {text tag : String} (hlower : tag.toList.map Char.toLower = tag.toList) :
    Literal.ofTagged text tag = .tagged text tag := by
  rw [Literal.ofTagged, hlower, String.ofList_toList]

theorem object?_tokens {o : Term} (ho : o.WellFormed) :
    object? (o.tokens ++ .mark '.' :: rest) = some (o, .mark '.' :: rest) := by
  cases o with
  | iri i =>
    have hnode : node? (.iri i.text) = some (.iri i) := node?_token (n := .iri i) ho
    simp only [Term.tokens, List.cons_append, List.nil_append, object?, hnode, Option.map_some]
    rfl
  | blank b => rfl
  | literal l =>
    cases l with
    | plain text => rfl
    | tagged text tag =>
      simp only [Term.tokens, Literal.tokens, List.cons_append, List.nil_append, object?,
        ofTagged_eq ho.2]
    | typed text d =>
      have hparse : Iri.parse? d.text = some d := Iri.parse?_eq_some_iff.2 ⟨rfl, ho.1⟩
      simp only [Term.tokens, Literal.tokens, List.cons_append, List.nil_append, object?, hparse,
        Option.map_some, Literal.ofTyped, if_neg ho.2]

theorem statement?_tokens (ht : t.WellFormed) :
    statement? false (t.tokens ++ rest) = some (t.inDefault, rest) := by
  have hparse : Iri.parse? t.predicate.text = some t.predicate :=
    Iri.parse?_eq_some_iff.2 ⟨rfl, ht.predicate⟩
  have htokens : t.tokens ++ rest =
      t.subject.token :: .iri t.predicate.text :: (t.object.tokens ++ .mark '.' :: rest) := by
    simp [Triple.tokens]
  rw [htokens, statement?]
  simp only [node?_token ht.subject, hparse, object?_tokens ht.object, ending?]
  rfl

theorem statements?_tokens {steps : ℕ} (hsteps : ts.length ≤ steps)
    (hts : ∀ t ∈ ts, t.WellFormed) :
    statements? false steps (ts.flatMap Triple.tokens) = some (ts.map Triple.inDefault) := by
  induction ts generalizing steps with
  | nil => rw [List.flatMap_nil, statements?, List.map_nil]
  | cons t ts ih =>
    obtain ⟨ht, hts⟩ := List.forall_mem_cons.1 hts
    obtain ⟨steps, rfl⟩ : ∃ n, steps = n + 1 := ⟨steps - 1, by simp at hsteps; omega⟩
    have hne : t.tokens ++ ts.flatMap Triple.tokens ≠ [] := by simp [Triple.tokens]
    rw [List.flatMap_cons, statements?.eq_3 _ _ _ hne, statement?_tokens ht, Option.bind_some]
    simp only [ih (Nat.le_of_succ_le_succ hsteps) hts, Option.map_some, List.map_cons]

/-- The tokens of a text are the statements that they are tokens of. -/
theorem parse?_of_scans {text : String} (hts : ∀ t ∈ ts, t.WellFormed)
    (h : Token.Scans text.toList (ts.flatMap Triple.tokens)) :
    parse? false text = some (ts.map Triple.inDefault) := by
  have hsteps : ts.length ≤ (ts.flatMap Triple.tokens).length := by
    clear h hts
    induction ts with
    | nil => simp
    | cons t ts ih =>
      simp only [List.flatMap_cons, List.length_append, List.length_cons, Triple.tokens]
      omega
  rw [parse?, h.scan?, Option.bind_some, statements?_tokens hsteps hts]

theorem scans_write (hts : ∀ t ∈ ts, t.WellFormed) :
    Token.Scans (write ts).toList (ts.flatMap Triple.tokens) := by
  induction ts with
  | nil => exact Token.scans_nil
  | cons t ts ih =>
    obtain ⟨ht, hts⟩ := List.forall_mem_cons.1 hts
    have hwritten : (write (t :: ts)).toList =
        t.written.toList ++ ' ' :: '.' :: '\n' :: (write ts).toList := by
      simp [write, line, String.toList_append]
    rw [hwritten, List.flatMap_cons]
    exact (ih hts).point.triple ht

/-- To read what is written for well-formed statements is to get them back, in order. -/
theorem parse?_write (hts : ∀ t ∈ ts, t.WellFormed) :
    parse? false (write ts) = some (ts.map Triple.inDefault) :=
  parse?_of_scans hts (scans_write hts)

/-- A line is read alone, without the break that ends it. -/
theorem parse?_written (ht : t.WellFormed) :
    parse? false (t.written ++ " .") = some [t.inDefault] := by
  have hscans : Token.Scans (t.written ++ " .").toList ([t].flatMap Triple.tokens) := by
    simpa [String.toList_append] using Token.scans_point.triple ht
  exact parse?_of_scans (by simpa using ht) hscans

/-! ## Lines -/

def lines (text : String) : List String :=
  (text.toList.splitOnP Token.isLineBreak).map String.ofList

/-- A text without line breaks. -/
def OnLine (text : String) : Prop :=
  Token.NoLineBreak text.toList

instance (text : String) : Decidable (OnLine text) :=
  inferInstanceAs (Decidable (Token.NoLineBreak text.toList))

theorem onLine_append_iff {text text' : String} :
    OnLine (text ++ text') ↔ OnLine text ∧ OnLine text' := by
  simp only [OnLine, Token.NoLineBreak, String.toList_append, List.forall_mem_append]

/-- A text is on one line if all of its characters are of a kind that line breaks are not of. -/
theorem onLine_of_forall {text : String} {p : Char → Bool} (hline : p '\n' = false)
    (hreturn : p '\r' = false) (h : ∀ c ∈ text.toList, p c = true) : OnLine text := by
  intro c hc
  simp only [Token.isLineBreak, Bool.or_eq_false_iff, beq_eq_false_iff_ne]
  constructor
  · rintro rfl
    rw [h _ hc] at hline
    cases hline
  · rintro rfl
    rw [h _ hc] at hreturn
    cases hreturn

theorem lines_append {text : String} (h : OnLine text) (rest : String) :
    lines (text ++ "\n" ++ rest) = text :: lines rest := by
  have hsplit : (text ++ "\n" ++ rest).toList = text.toList ++ '\n' :: rest.toList := by
    simp [String.toList_append]
  rw [lines, hsplit, List.splitOnP_append_cons_of_forall_mem h _ rfl, List.map_cons,
    String.ofList_toList, lines]

/-- Texts that are each on one line are the lines of the text in which they stand one below the
other. -/
theorem lines_intercalate {texts : List String} (hne : texts ≠ []) (h : ∀ s ∈ texts, OnLine s) :
    lines ("\n".intercalate texts) = texts := by
  induction texts with
  | nil => exact absurd rfl hne
  | cons text texts ih =>
    obtain ⟨hline, hlines⟩ := List.forall_mem_cons.1 h
    cases texts with
    | nil =>
      rw [String.intercalate_singleton, lines, List.splitOnP_eq_singleton hline, List.map_singleton,
        String.ofList_toList]
    | cons text' texts =>
      rw [String.intercalate_cons_cons, lines_append hline, ih (List.cons_ne_nil _ _) hlines]

theorem onLine_iri {i : Iri} (hi : i.WellFormed) : OnLine i.written := by
  have htext : OnLine i.text := onLine_of_forall (p := Iri.isCharacter) rfl rfl hi.readable
  exact onLine_append_iff.2 ⟨onLine_append_iff.2 ⟨by decide, htext⟩, by decide⟩

theorem onLine_blank {b : BlankNode} (hb : b.WellFormed) : OnLine b.written := by
  refine onLine_append_iff.2 ⟨by decide, ?_⟩
  apply onLine_of_forall (p := fun c => Name.isInner c || c == '.') (by decide) (by decide)
  unfold BlankNode.WellFormed at hb
  cases hlabel : b.label.toList with
  | nil => simp
  | cons c cs =>
    rw [hlabel] at hb
    obtain ⟨hc, hcs⟩ := Bool.and_eq_true_iff.1 hb
    refine List.forall_mem_cons.2 ⟨?_, Token.inside_of_isLabelTail hcs⟩
    rcases Bool.or_eq_true_iff.1 hc with hc | hc
    · simp [Name.isInner, hc]
    · simp [Name.isInner, hc]

theorem onLine_writtenText (s : String) : OnLine (writtenText s) := by
  intro c hc
  rw [writtenText, String.toList_ofList, List.mem_append, List.mem_cons, List.mem_flatMap,
    List.mem_singleton] at hc
  rcases hc with (rfl | ⟨d, -, hd⟩) | rfl
  · rfl
  · have hstands := Token.stands_escapedChar d
    generalize escapedChar d = ds at hd hstands
    cases hstands with
    | escaped _ _ hbreak =>
      rcases List.mem_cons.1 hd with rfl | hd
      · rfl
      · exact hbreak c hd
    | plain _ _ hbreak => rwa [List.mem_singleton.1 hd]
  · rfl

theorem onLine_tag {tag : String} (htag : Language.isTag tag.toList = true)
    (hlower : tag.toList.map Char.toLower = tag.toList) : OnLine tag := by
  apply onLine_of_forall (p := fun c => c.isAlphanum || c == '-') (by decide) (by decide)
  have hsplit := Language.wellSplit_of_isTag htag hlower
  obtain ⟨s, ss, hparts, htext⟩ := Iri.exists_splitAt '-' tag.toList
  rw [hparts] at hsplit
  obtain ⟨-, hletters, hrest⟩ := hsplit
  rw [htext]
  refine List.forall_mem_append.2 ⟨fun c hc => ?_, fun c hc => ?_⟩
  · simp [Char.isAlphanum, List.all_eq_true.1 hletters c hc]
  · obtain ⟨p, hp, hc⟩ := List.mem_flatMap.1 hc
    rcases List.mem_cons.1 hc with rfl | hc
    · rfl
    · simp [List.all_eq_true.1 (hrest p hp).2 c hc]

theorem onLine_term {o : Term} (ho : o.WellFormed) : OnLine o.written := by
  cases o with
  | iri i => exact onLine_iri ho
  | blank b => exact onLine_blank ho
  | literal l =>
    cases l with
    | plain text => exact onLine_writtenText text
    | tagged text tag =>
      exact onLine_append_iff.2 ⟨onLine_append_iff.2 ⟨onLine_writtenText text, by decide⟩,
        onLine_tag ho.1 ho.2⟩
    | typed text d =>
      exact onLine_append_iff.2 ⟨onLine_append_iff.2 ⟨onLine_writtenText text, by decide⟩,
        onLine_iri ho.1⟩

theorem onLine_written (ht : t.WellFormed) : OnLine t.written := by
  have hsubject : OnLine t.subject.written := by
    rw [← Node.written_term]
    exact onLine_term (Node.wellFormed_term.2 ht.subject)
  simp only [Triple.written, onLine_append_iff]
  exact ⟨⟨⟨⟨hsubject, by decide⟩, onLine_iri ht.predicate⟩, by decide⟩, onLine_term ht.object⟩

/-- What is written for well-formed statements has a line for each of them, in order, and ends with
the last line. -/
theorem lines_write (hts : ∀ t ∈ ts, t.WellFormed) :
    lines (write ts) = ts.map (fun t => t.written ++ " .") ++ [""] := by
  induction ts with
  | nil => rfl
  | cons t ts ih =>
    obtain ⟨ht, hts⟩ := List.forall_mem_cons.1 hts
    have hline : OnLine (t.written ++ " .") := onLine_append_iff.2 ⟨onLine_written ht, by decide⟩
    have hwritten : write (t :: ts) = (t.written ++ " .") ++ "\n" ++ write ts := by
      rw [← String.toList_inj]
      simp [write, line, String.toList_append]
    rw [hwritten, lines_append hline, ih hts]
    rfl

/-! ## One text for each list of statements -/

theorem inDefault_injective : Function.Injective Triple.inDefault :=
  fun _ _ h => congrArg Quad.toTriple h

/-- No two lists of well-formed statements are written alike. -/
theorem write_injective {ts' : List Triple} (hts : ∀ t ∈ ts, t.WellFormed)
    (hts' : ∀ t ∈ ts', t.WellFormed) (h : write ts = write ts') : ts = ts' := by
  have hread := parse?_write hts
  rw [h, parse?_write hts'] at hread
  exact (List.map_injective_iff.2 inDefault_injective (Option.some.inj hread)).symm

end NTriples

end BuildingModel.Rdf
