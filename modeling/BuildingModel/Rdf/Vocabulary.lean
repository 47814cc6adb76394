import BuildingModel.Rdf.Term

/-!
# Vocabulary

The terms that the ontology is written in, by the vocabulary they belong to.
-/
namespace BuildingModel.Rdf

def inNamespace (ns name : String) : Iri := ⟨ns ++ name⟩

namespace Vocabulary

def type : Iri := ⟨"http://www.w3.org/1999/02/22-rdf-syntax-ns#type"⟩

/-- The element of a list cell. -/
def first : Iri := ⟨"http://www.w3.org/1999/02/22-rdf-syntax-ns#first"⟩

/-- The cells after a list cell. -/
def rest : Iri := ⟨"http://www.w3.org/1999/02/22-rdf-syntax-ns#rest"⟩

def nil : Iri := ⟨"http://www.w3.org/1999/02/22-rdf-syntax-ns#nil"⟩

def subClassOf : Iri := ⟨"http://www.w3.org/2000/01/rdf-schema#subClassOf"⟩
def label : Iri := ⟨"http://www.w3.org/2000/01/rdf-schema#label"⟩
def domain : Iri := ⟨"http://www.w3.org/2000/01/rdf-schema#domain"⟩
def range : Iri := ⟨"http://www.w3.org/2000/01/rdf-schema#range"⟩

def objectProperty : Iri := ⟨"http://www.w3.org/2002/07/owl#ObjectProperty"⟩

def definition : Iri := ⟨"http://www.w3.org/2004/02/skos/core#definition"⟩

def unit : Iri := ⟨"http://qudt.org/schema/qudt/Unit"⟩
def symbol : Iri := ⟨"http://qudt.org/schema/qudt/symbol"⟩
def expression : Iri := ⟨"http://qudt.org/schema/qudt/expression"⟩

def description : Iri := ⟨"http://purl.org/dc/terms/description"⟩

end Vocabulary

namespace Shacl

/-- The namespace of shapes and their constraints. -/
def namespaceText : String := "http://www.w3.org/ns/shacl#"

def nodeShape : Iri := inNamespace namespaceText "NodeShape"
def property : Iri := inNamespace namespaceText "property"
def path : Iri := inNamespace namespaceText "path"
def targetClass : Iri := inNamespace namespaceText "targetClass"
def targetNode : Iri := inNamespace namespaceText "targetNode"
def «class» : Iri := inNamespace namespaceText "class"
def datatype : Iri := inNamespace namespaceText "datatype"
def minCount : Iri := inNamespace namespaceText "minCount"
def maxCount : Iri := inNamespace namespaceText "maxCount"
def members : Iri := inNamespace namespaceText "in"
def alternatives : Iri := inNamespace namespaceText "or"
def pattern : Iri := inNamespace namespaceText "pattern"
def minLength : Iri := inNamespace namespaceText "minLength"
def maxLength : Iri := inNamespace namespaceText "maxLength"
def minInclusive : Iri := inNamespace namespaceText "minInclusive"
def maxInclusive : Iri := inNamespace namespaceText "maxInclusive"
def severity : Iri := inNamespace namespaceText "severity"
def message : Iri := inNamespace namespaceText "message"

end Shacl

namespace Xsd

/-- The namespace of the datatypes. -/
def namespaceText : String := "http://www.w3.org/2001/XMLSchema#"

def datatype (name : String) : Iri := inNamespace namespaceText name

def string : Iri := stringDatatype
def boolean : Iri := datatype "boolean"
def integer : Iri := datatype "integer"
def decimal : Iri := datatype "decimal"
def double : Iri := datatype "double"
def float : Iri := datatype "float"
def dateTime : Iri := datatype "dateTime"
def dateTimeStamp : Iri := datatype "dateTimeStamp"

end Xsd

end BuildingModel.Rdf
