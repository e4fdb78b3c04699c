import RouteAtlas.Main
import RouteAtlas.Proofs.MethodWalk
import RouteAtlas.Proofs.Sites
import RouteAtlas.Proofs.TypeNames
import RouteAtlas.Proofs.MethodListing
import RouteAtlas.Proofs.ConstantHistory
import RouteAtlas.Proofs.NameResolution
import RouteAtlas.Proofs.Reevaluation
import RouteAtlas.Proofs.LiteralSpelling
import RouteAtlas.Proofs.OpenedTypes
import RouteAtlas.Proofs.DistinctTypeNames
import RouteAtlas.Proofs.UnreadFields
import RouteAtlas.Proofs.ReadLiterals
import RouteAtlas.Proofs.PathLookup
import RouteAtlas.Proofs.SurveyCompletion
import RouteAtlas.Proofs.CollectionSteps
import RouteAtlas.Proofs.SurveyProgress
import RouteAtlas.Proofs.KeepGoing
import RouteAtlas.Proofs.ReportTexts
import RouteAtlas.Proofs.RunOutcome
import RouteAtlas.Proofs.Comments
import RouteAtlas.Proofs.ScopeChoices
import RouteAtlas.Proofs.References
import RouteAtlas.Proofs.QualifiedNames
import RouteAtlas.Proofs.MethodTokens
import RouteAtlas.Proofs.Outlines
import RouteAtlas.Proofs.TrimmedBodies
import RouteAtlas.Proofs.BodyFields
import RouteAtlas.Proofs.FileListing
import RouteAtlas.Proofs.LogLevels
import RouteAtlas.Proofs.JsonGrammar
import RouteAtlas.Proofs.JsonReader
import RouteAtlas.Proofs.JsonReport
import RouteAtlas.Proofs.ReportColumns
import RouteAtlas.Proofs.CutEscapes
import RouteAtlas.Proofs.ErrorSearch
import RouteAtlas.Proofs.GrammarTrees
import RouteAtlas.Proofs.TreeReading
import RouteAtlas.Proofs.ExitContract
import RouteAtlas.Proofs.LiteralLetters
import RouteAtlas.Proofs.LiteralSteps
import RouteAtlas.Proofs.LiteralAgreement
import RouteAtlas.Proofs.ReportOrder
import RouteAtlas.Proofs.ReportLines
import RouteAtlas.Proofs.Sums
import RouteAtlas.Proofs.AnnotationSpellings
import RouteAtlas.Proofs.NameParts
import RouteAtlas.Proofs.NameLayout
import RouteAtlas.Proofs.EndpointOrigins
