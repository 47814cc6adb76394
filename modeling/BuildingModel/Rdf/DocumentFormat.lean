import BuildingModel.Files
import BuildingModel.Rdf.Document
import BuildingModel.Rdf.NTriples.Reader
import BuildingModel.Rdf.Turtle.Reader

/-!
# Formats of documents

The syntax of a file is told by its extension, in any case; without a known extension it is Turtle.
-/
namespace BuildingModel.Rdf

/-- A syntax in which statements are read. -/
inductive DocumentFormat
  | turtle
  | graphTurtle
  | triples
  | quads
  deriving DecidableEq, Repr

namespace DocumentFormat

def ofExtension? (extension : String) : Option DocumentFormat :=
  match lowered extension with
  | "nt" => some .triples
  | "txt" => some .triples
  | "nq" => some .quads
  | "trig" => some .graphTurtle
  | "ttl" => some .turtle
  | _ => none

def ofPath (path : String) : DocumentFormat :=
  ((fileExtension? path).bind ofExtension?).getD .turtle

def parse? : DocumentFormat → String → Option (List Quad)
  | .turtle, text => Turtle.parse? false text
  | .graphTurtle, text => Turtle.parse? true text
  | .triples, text => NTriples.parse? false text
  | .quads, text => NTriples.parse? true text

end DocumentFormat

/-- The dataset with the statements of a document, or nothing if the document cannot be read. -/
def Dataset.loadText? (d : Dataset) (format : DocumentFormat) (document : Nat) (text : String) :
    Option Dataset :=
  (format.parse? text).map (d.load document)

end BuildingModel.Rdf
