import BuildingModel.Rdf.Dataset
import BuildingModel.Rdf.Reference
import BuildingModel.Rdf.Token

/-!
# Reading Turtle

Reading the statements of a text in Turtle, or with named graphs in TriG. Statements come in the
order in which their objects end, except that the statement that leads to a collection comes before
the cells of the collection.
-/
namespace BuildingModel.Rdf.Turtle

/-- What a reader has before it and what it has gathered. -/
structure Progress where
  tokens : List Token
  /-- The namespaces that prefixes stand for, the newest first. -/
  scopes : List (String × String)
  base : Option Iri
  /-- The number of nodes without label so far. -/
  unlabelled : Nat
  graph : Option Node
  /-- The statements so far, the newest first. -/
  quads : List Quad

/-- A reader of part of a document; it fails on a text that is not of the syntax. -/
abbrev Reader := StateT Progress Option

def peek : Reader (Option Token) := do
  return (← get).tokens.head?

def take : Reader Token := do
  let p ← get
  match p.tokens with
  | [] => failure
  | t :: ts =>
    set { p with tokens := ts }
    return t

def takeMark (c : Char) : Reader Unit := do
  let t ← take
  if t = .mark c then return () else failure

def atMark (c : Char) : Reader Bool := do
  return (← peek) = some (.mark c)

/-- A node that no other part of the document is about. -/
def unlabelledNode : Reader BlankNode := do
  let p ← get
  set { p with unlabelled := p.unlabelled + 1 }
  return ⟨"[" ++ String.ofList (Nat.toDigits 10 p.unlabelled) ++ "]"⟩

def state (s : Node) (p : Iri) (o : Term) : Reader Unit :=
  modify fun progress => { progress with quads := ⟨⟨s, p, o⟩, progress.graph⟩ :: progress.quads }

/-- The IRI of a text between brackets. -/
def iriOf (text : String) : Reader Iri := do
  match Iri.resolve? (← get).base text with
  | some iri => return iri
  | none => failure

/-- The IRI of a name with a prefix. -/
def scopedIri (scope name : String) (doubtful : Bool) : Reader Iri := do
  match (← get).scopes.lookup scope with
  | none => failure
  | some ns =>
    let iri : Iri := ⟨ns ++ name⟩
    if doubtful && !Iri.isAbsolute iri.text.toList then failure else return iri

def iri : Reader Iri := do
  match ← take with
  | .iri text => iriOf text
  | .scoped scope name doubtful => scopedIri scope name doubtful
  | _ => failure

/-- The literal of a text, with the language or the datatype that follows it. -/
def literal (text : String) : Reader Literal := do
  match ← peek with
  | some (.language tag) =>
    let _ ← take
    return .ofTagged text tag
  | some .datatypeMark =>
    let _ ← take
    return .ofTyped text (← iri)
  | _ => return .plain text

def predicate : Reader Iri := do
  match ← peek with
  | some (.keyword "a") =>
    let _ ← take
    return Vocabulary.type
  | _ => iri

/-- An object that is one token, or a text with what belongs to it. -/
def simpleObject : Reader Term := do
  match ← take with
  | .iri text => return .iri (← iriOf text)
  | .scoped scope name doubtful => return .iri (← scopedIri scope name doubtful)
  | .label l => return .blank ⟨l⟩
  | .text text _ => return .literal (← literal text)
  | .number text datatype => return .literal (.ofTyped text datatype)
  | .keyword "true" => return .literal (.typed "true" Xsd.boolean)
  | .keyword "false" => return .literal (.typed "false" Xsd.boolean)
  | _ => failure

mutual

/-- An object of a subject and predicate, and the statements that it stands for. -/
def object : Nat → Node → Iri → Reader Unit
  | 0, _, _ => failure
  | steps + 1, s, p => do
    if ← atMark '[' then
      let _ ← take
      let b ← unlabelledNode
      if !(← atMark ']') then predicates steps (.blank b)
      takeMark ']'
      state s p (.blank b)
    else if ← atMark '(' then
      let _ ← take
      if ← atMark ')' then
        let _ ← take
        state s p (.iri Vocabulary.nil)
      else
        let b ← unlabelledNode
        state s p (.blank b)
        cells steps (.blank b)
    else state s p (← simpleObject)

def objects : Nat → Node → Iri → Reader Unit
  | 0, _, _ => failure
  | steps + 1, s, p => do
    object steps s p
    if ← atMark ',' then
      let _ ← take
      objects steps s p

def predicates : Nat → Node → Reader Unit
  | 0, _ => failure
  | steps + 1, s => do
    let p ← predicate
    objects steps s p
    if ← atMark ';' then morePredicates steps s

/-- What follows a semicolon: nothing, or more predicates. -/
def morePredicates : Nat → Node → Reader Unit
  | 0, _ => failure
  | steps + 1, s => do
    if ← atMark ';' then
      let _ ← take
      morePredicates steps s
    else
      match ← peek with
      | none => return ()
      | some (.mark _) => return ()
      | some _ => predicates steps s

/-- The elements of a collection from a cell on, up to its closing mark. -/
def cells : Nat → Node → Reader Unit
  | 0, _ => failure
  | steps + 1, cell => do
    object steps cell Vocabulary.first
    if ← atMark ')' then
      let _ ← take
      state cell Vocabulary.rest (.iri Vocabulary.nil)
    else
      let b ← unlabelledNode
      state cell Vocabulary.rest (.blank b)
      cells steps (.blank b)

end

/-- A subject that names itself: an IRI, a label or brackets around nothing. -/
def plainSubject : Reader Node := do
  match ← take with
  | .iri text => return .iri (← iriOf text)
  | .scoped scope name doubtful => return .iri (← scopedIri scope name doubtful)
  | .label l => return .blank ⟨l⟩
  | .mark '[' =>
    takeMark ']'
    return .blank (← unlabelledNode)
  | _ => failure

def triples (steps : Nat) : Reader Unit := do
  if ← atMark '(' then
    let _ ← take
    if ← atMark ')' then
      let _ ← take
      predicates steps (.iri Vocabulary.nil)
    else
      let b ← unlabelledNode
      cells steps (.blank b)
      predicates steps (.blank b)
  else
    match (← get).tokens with
    | .mark '[' :: t :: _ =>
      if t = .mark ']' then predicates steps (← plainSubject)
      else
        let _ ← take
        let b ← unlabelledNode
        predicates steps (.blank b)
        takeMark ']'
        match ← peek with
        | some (.mark '.') => return ()
        | some (.mark c) => if c = Char.ofNat 0x7D then return () else predicates steps (.blank b)
        | _ => predicates steps (.blank b)
    | _ => predicates steps (← plainSubject)

/-- The statements of a graph between braces, up to the closing brace. -/
def graphBody : Nat → Reader Unit
  | 0 => failure
  | steps + 1 => do
    if ← atMark (Char.ofNat 0x7D) then
      let _ ← take
    else
      triples steps
      if ← atMark '.' then
        let _ ← take
        graphBody steps
      else takeMark (Char.ofNat 0x7D)

/-- A graph between braces. -/
def graph (steps : Nat) (name : Option Node) : Reader Unit := do
  takeMark (Char.ofNat 0x7B)
  modify fun p => { p with graph := name }
  graphBody steps
  modify fun p => { p with graph := none }

/-- A prefix and the namespace that it stands for. -/
def scopeDirective : Reader Unit := do
  match ← take with
  | .scoped scope "" _ =>
    match ← take with
    | .iri text =>
      let ns ← iriOf text
      modify fun p => { p with scopes := (scope, ns.text) :: p.scopes }
    | _ => failure
  | _ => failure

/-- The base of the references that follow. -/
def baseDirective : Reader Unit := do
  match ← take with
  | .iri text =>
    let base ← iriOf text
    modify fun p => { p with base := some base }
  | _ => failure

/-- The keyword that a token is, in lower case. -/
def keyword? : Token → Option String
  | .keyword text => some (String.ofList (text.toList.map Char.toLower))
  | _ => none

/-- Whether a subject in braces follows, that is whether the statement is a named graph. -/
def atNamedGraph : Reader Bool := do
  match (← get).tokens with
  | .mark '[' :: .mark ']' :: t :: _ => return t = .mark (Char.ofNat 0x7B)
  | _ :: t :: _ => return t = .mark (Char.ofNat 0x7B)
  | _ => return false

/-- One directive, graph or group of statements; graphs are read if `named`. -/
def statement (named : Bool) (steps : Nat) : Reader Unit := do
  match ← peek with
  | none => failure
  | some (.language "prefix") =>
    let _ ← take
    scopeDirective
    takeMark '.'
  | some (.language "base") =>
    let _ ← take
    baseDirective
    takeMark '.'
  | some t =>
    match keyword? t with
    | some "prefix" =>
      let _ ← take
      scopeDirective
    | some "base" =>
      let _ ← take
      baseDirective
    | some "graph" =>
      if !named then failure
      let _ ← take
      let name ← plainSubject
      graph steps (some name)
    | _ =>
      if named && t = .mark (Char.ofNat 0x7B) then graph steps none
      else if named && (← atNamedGraph) then
        let name ← plainSubject
        graph steps (some name)
      else
        triples steps
        takeMark '.'

def statements (named : Bool) : Nat → Reader Unit
  | 0 => failure
  | steps + 1 => do
    if (← peek).isSome then
      statement named (4 * steps + 4)
      statements named steps

/-- The statements of a text, in the order in which they are read; graphs are read if `named`. -/
def parse? (named : Bool) (text : String) : Option (List Quad) := do
  let tokens ← Token.scan? text
  let start : Progress := ⟨tokens, [], none, 0, none, []⟩
  let ((), done) ← statements named (tokens.length + 1) start
  return done.quads.reverse

end BuildingModel.Rdf.Turtle
