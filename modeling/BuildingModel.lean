import BuildingModel.Graph.Compiled
import BuildingModel.Main
import BuildingModel.Session.Run
import BuildingModel.Settings.Logging
import BuildingModel.Proofs.Closure.Reachability
import BuildingModel.Proofs.Hierarchy.Descent
import BuildingModel.Proofs.Session.Handles
import BuildingModel.Proofs.Session.Change
import BuildingModel.Proofs.Session.Fields
import BuildingModel.Proofs.Session.WellFormed
import BuildingModel.Proofs.Session.History
import BuildingModel.Proofs.Rdf.Collection
import BuildingModel.Proofs.Validation.Constraint
import BuildingModel.Proofs.Validation.Declared
import BuildingModel.Proofs.Validation.Finding
import BuildingModel.Proofs.Validation.Report
import BuildingModel.Proofs.Graph.Compilation
import BuildingModel.Proofs.Hierarchy.Growth
import BuildingModel.Proofs.Hierarchy.Faithful
import BuildingModel.Proofs.Hierarchy.Superclasses
import BuildingModel.Proofs.Graph.Contents
import BuildingModel.Proofs.Validation.ClassTests
import BuildingModel.Proofs.Rdf.Leading
import BuildingModel.Proofs.Shape.Drafts
import BuildingModel.Proofs.Ontology.Rows
import BuildingModel.Proofs.Shape.Properties
import BuildingModel.Proofs.Graph.Records
import BuildingModel.Proofs.Number.Bounded
import BuildingModel.Proofs.Shape.Catalog
import BuildingModel.Proofs.Schema.Parts
import BuildingModel.Proofs.Validation.Acceptance
import BuildingModel.Proofs.Ontology.TermOrder
import BuildingModel.Proofs.Ontology.RelationRows
import BuildingModel.Proofs.Relation.Drafts
import BuildingModel.Proofs.Relation.Faithful
import BuildingModel.Proofs.Relation.Nearest
import BuildingModel.Proofs.Session.Capabilities
import BuildingModel.Proofs.Validation.WholeGraph
import BuildingModel.Proofs.Hierarchy.Policies
import BuildingModel.Proofs.Validation.Loadable
import BuildingModel.Proofs.Shape.Compilable
import BuildingModel.Proofs.Schema.Buildable
import BuildingModel.Proofs.Closure.Layers
import BuildingModel.Proofs.Relation.Specific
import BuildingModel.Proofs.Ontology.EntryOrder
import BuildingModel.Proofs.Ontology.Faults
import BuildingModel.Proofs.Hierarchy.Outline
import BuildingModel.Proofs.Schema.EntryOrder
import BuildingModel.Proofs.Validation.ScalarFields
import BuildingModel.Proofs.Hierarchy.Shortest
import BuildingModel.Proofs.Session.Enumerations
import BuildingModel.Proofs.Session.Ranges
import BuildingModel.Proofs.Validation.Questions
import BuildingModel.Proofs.Shape.Description
import BuildingModel.Proofs.Graph.Growth
import BuildingModel.Proofs.Session.Building
import BuildingModel.Proofs.Shape.RecordTypes
import BuildingModel.Proofs.Validation.Locality
import BuildingModel.Proofs.Number.Value
import BuildingModel.Proofs.Validation.NumericBounds
import BuildingModel.Proofs.Relation.Domains
import BuildingModel.Proofs.Rdf.Additions
import BuildingModel.Proofs.Schema.AnonymousProperties
import BuildingModel.Proofs.Hierarchy.Refusals
import BuildingModel.Proofs.Units.Catalog
import BuildingModel.Proofs.Rdf.Chain
import BuildingModel.Proofs.Rdf.IriCharacters
import BuildingModel.Proofs.Rdf.LanguageTag
import BuildingModel.Proofs.Rdf.WellFormed
import BuildingModel.Proofs.Rdf.Words
import BuildingModel.Proofs.Rdf.NTriples
import BuildingModel.Proofs.Schema.Terms
import BuildingModel.Proofs.Session.Terms
import BuildingModel.Proofs.Graph.Written
import BuildingModel.Proofs.Rdf.LocalName
import BuildingModel.Proofs.Hierarchy.PrimaryChain
import BuildingModel.Proofs.Hierarchy.ConfiguredNames
