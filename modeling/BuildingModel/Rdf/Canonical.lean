import BuildingModel.Calendar.Moment
import BuildingModel.Calendar.Span
import BuildingModel.Number.Shortest
import BuildingModel.Rdf.Term
import BuildingModel.Rdf.Vocabulary

/-!
# Normal forms of literals

A literal whose text is valid for its datatype has one normal form: numbers, truth values, dates,
times and durations are written canonically, all whole numbers have the datatype `xsd:integer`, and
moments with a time zone that of all moments. Any other literal is its own normal form.
-/
namespace BuildingModel.Rdf

open BuildingModel.Number

/-- The local names of `xsd:integer` and of the datatypes derived from it. -/
def integerDatatypeNames : List String :=
  ["integer", "byte", "short", "int", "long", "unsignedByte", "unsignedShort", "unsignedInt",
    "unsignedLong", "positiveInteger", "negativeInteger", "nonPositiveInteger",
    "nonNegativeInteger"]

/-- The datatypes whose values are whole numbers. -/
def integerDatatypes : List Iri :=
  integerDatatypeNames.map Xsd.datatype

/-- The text of a binary number in a literal; infinities have names of their own. -/
def floatText (format : BinaryFormat) : Binary → String
  | .infinity negative => if negative then "-INF" else "INF"
  | x => x.text format

/-- The canonical text of a truth value. -/
def canonicalBoolean? (text : String) : Option String :=
  if text = "true" ∨ text = "1" then some "true"
  else if text = "false" ∨ text = "0" then some "false"
  else none

/-- The datatypes of dates, times and durations, with the canonical text of each. -/
def calendarForms : List (Iri × (String → Option String)) :=
  [(Xsd.dateTime, Calendar.canonicalDateTime?),
    (Xsd.dateTimeStamp, Calendar.canonicalDateTime?),
    (Xsd.datatype "time", Calendar.canonicalTime?),
    (Xsd.datatype "date", Calendar.canonicalDate?),
    (Xsd.datatype "gYearMonth", Calendar.canonicalYearMonth?),
    (Xsd.datatype "gYear", Calendar.canonicalYear?),
    (Xsd.datatype "gMonthDay", Calendar.canonicalMonthDay?),
    (Xsd.datatype "gDay", Calendar.canonicalDay?),
    (Xsd.datatype "gMonth", Calendar.canonicalMonth?),
    (Xsd.datatype "duration", Calendar.canonicalDuration?),
    (Xsd.datatype "yearMonthDuration", Calendar.canonicalMonths?),
    (Xsd.datatype "dayTimeDuration", Calendar.canonicalSeconds?)]

/-- The canonical text of a text that is valid for a datatype. -/
def canonicalText? (text : String) (datatype : Iri) : Option String :=
  if datatype ∈ integerDatatypes then (readSigned64 text).toOption.map integerText
  else if datatype = Xsd.boolean then canonicalBoolean? text
  else if datatype = Xsd.decimal then (readDecimal? text).map decimalText
  else if datatype = Xsd.double then
    (readBinary binary64 text).toOption.map (floatText binary64)
  else if datatype = Xsd.float then
    (readBinary binary32 text).toOption.map (floatText binary32)
  else (calendarForms.lookup datatype).bind fun form => form text

/-- The datatype under which the valid literals of a datatype are kept. -/
def normalDatatype (d : Iri) : Iri :=
  if d ∈ integerDatatypes then Xsd.integer
  else if d = Xsd.dateTimeStamp then Xsd.dateTime
  else d

/-- The normal form of a text with a datatype. -/
def normalTyped (text : String) (datatype : Iri) : Literal :=
  match canonicalText? text datatype with
  | some canonical => .typed canonical (normalDatatype datatype)
  | none => .typed text datatype

/-- The normal form of a literal. -/
def Literal.normal : Literal → Literal
  | .typed text datatype => normalTyped text datatype
  | l => l

def Term.normal : Term → Term
  | .literal l => .literal l.normal
  | t => t

def Triple.normal (t : Triple) : Triple :=
  { t with object := t.object.normal }

def Quad.normal (q : Quad) : Quad :=
  { q with object := q.object.normal }

@[simp] theorem Term.normal_iri (i : Iri) : (Term.iri i).normal = .iri i := rfl

@[simp] theorem Term.normal_blank (b : BlankNode) : (Term.blank b).normal = .blank b := rfl

@[simp] theorem Node.normal_term (n : Node) : n.term.normal = n.term := by cases n <;> rfl

@[simp] theorem Triple.normal_subject (t : Triple) : t.normal.subject = t.subject := rfl

@[simp] theorem Triple.normal_predicate (t : Triple) : t.normal.predicate = t.predicate := rfl

@[simp] theorem Triple.normal_object (t : Triple) : t.normal.object = t.object.normal := rfl

@[simp] theorem Triple.normal_inDefault (t : Triple) : t.inDefault.normal = t.normal.inDefault :=
  rfl

theorem datatype_normalTyped {text : String} {d : Iri} :
    (normalTyped text d).datatype =
      if (canonicalText? text d).isSome then normalDatatype d else d := by
  unfold normalTyped
  split <;> simp_all [Literal.datatype]

/-- A normal form has another datatype just if the literal is valid for one that is not kept. -/
theorem Literal.datatype_normal_eq_iff {l : Literal} : l.normal.datatype = l.datatype ↔
    ((canonicalText? l.text l.datatype).isSome → normalDatatype l.datatype = l.datatype) := by
  cases l with
  | plain text =>
    exact iff_of_true rfl fun _ => show normalDatatype stringDatatype = stringDatatype by decide
  | tagged text language =>
    exact iff_of_true rfl fun _ => show normalDatatype languageDatatype = languageDatatype by decide
  | typed text d =>
    rw [normal, datatype_normalTyped, Literal.datatype]
    split
    case isTrue h => exact ⟨fun heq _ => heq, fun hkept => hkept h⟩
    case isFalse h => exact iff_of_true rfl fun hvalid => absurd hvalid h

end BuildingModel.Rdf
