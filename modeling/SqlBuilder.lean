import SqlBuilder.Program.Outline
import SqlBuilder.Sql.Render
import SqlBuilder.Sql.Writer
import SqlBuilder.Program.Run
import SqlBuilder.Settings.Document
import SqlBuilder.Value.Json
import SqlBuilder.Proofs.BuilderChange
import SqlBuilder.Proofs.BuilderSession
import SqlBuilder.Proofs.PendingJoins
import SqlBuilder.Proofs.AliasSupply
import SqlBuilder.Proofs.ExprFold
import SqlBuilder.Proofs.FragmentIndependence
import SqlBuilder.Proofs.RenderedTokens
import SqlBuilder.Proofs.TokenSpacing
import SqlBuilder.Proofs.BoundLiterals
import SqlBuilder.Proofs.AlikeRendering
import SqlBuilder.Proofs.Places
import SqlBuilder.Proofs.PayloadIndependence
import SqlBuilder.Proofs.NormalForm
import SqlBuilder.Proofs.TakenPredicates
import SqlBuilder.Proofs.TokenReader
import SqlBuilder.Proofs.StatementReader
import SqlBuilder.Proofs.ReaderRules
import SqlBuilder.Proofs.ClauseReadBack
import SqlBuilder.Proofs.ReadBack
import SqlBuilder.Proofs.Calls
import SqlBuilder.Proofs.MadeExpressions
import SqlBuilder.Proofs.Course
import SqlBuilder.Proofs.SourceTrees
import SqlBuilder.Proofs.RenderErrors
import SqlBuilder.Proofs.Renderability
import SqlBuilder.Proofs.EmbeddedStatements
import SqlBuilder.Proofs.ScopeResolution
import SqlBuilder.Proofs.NeededVariables
import SqlBuilder.Proofs.AlignedBuilders
import SqlBuilder.Proofs.AlignedRuns
import SqlBuilder.Proofs.WellShaped
import SqlBuilder.Proofs.RenderSuccess
import SqlBuilder.Proofs.SourceParts
import SqlBuilder.Proofs.PostfixOrder
import SqlBuilder.Proofs.SourceForest
import SqlBuilder.Proofs.JoinPredicates
import SqlBuilder.Proofs.WrittenOffsets
import SqlBuilder.Proofs.RequotedText
import SqlBuilder.Proofs.DialectTexts
import SqlBuilder.Proofs.IntroducedShapes
import SqlBuilder.Proofs.IntactBuilders
import SqlBuilder.Proofs.OnePassWriter
import SqlBuilder.Proofs.ReplacedPlaceholders
import SqlBuilder.Proofs.EmbeddedTexts
import SqlBuilder.Proofs.UpdateTargets
import SqlBuilder.Proofs.CompoundAssignments
import SqlBuilder.Proofs.AliasSearch
import SqlBuilder.Proofs.NameScanning
import SqlBuilder.Proofs.KeywordNames
import SqlBuilder.Proofs.RowPlaces
import SqlBuilder.Proofs.SelectLists
