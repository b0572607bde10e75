import OpticScene.Named
import OpticScene.Text.Blank
import OpticScene.Text.Case
import OpticScene.Text.Cut
import OpticScene.Text.Quoted
import OpticScene.Binary64.Arithmetic
import OpticScene.Decimal.Style
import OpticScene.Decimal.Read
import OpticScene.Json.Printer
import OpticScene.Json.Reader
import OpticScene.Random.Stream
import OpticScene.Expr.Lexer
import OpticScene.Expr.Syntax
import OpticScene.Expr.Error
import OpticScene.Expr.Parser
import OpticScene.Expr.Value
import OpticScene.Expr.Evaluation
import OpticScene.Range
import OpticScene.Expansion.Basic
import OpticScene.Optics.Mirror
import OpticScene.Optics.Blocker
import OpticScene.Optics.Label
import OpticScene.Module.Instance
import OpticScene.Scene.Document
import OpticScene.Main
import OpticScene.Scene.Diagnostic
import OpticScene.Proofs.BoundedLoops
import OpticScene.Proofs.CanonicalRefresh
import OpticScene.Proofs.ContainedFailures
import OpticScene.Proofs.DemodulizedDocument
import OpticScene.Proofs.ErrorTrail
import OpticScene.Proofs.FiniteExpansion
import OpticScene.Proofs.FlatLoops
import OpticScene.Proofs.Freshness
import OpticScene.Proofs.IndependentEdits
import OpticScene.Proofs.InstanceRecord
import OpticScene.Proofs.ModuleOrder
import OpticScene.Proofs.NearestHit
import OpticScene.Proofs.NestedExpansion
import OpticScene.Proofs.Parameters
import OpticScene.Proofs.PickingAndDrawing
import OpticScene.Proofs.PlacementProtocol
import OpticScene.Proofs.PlacementRoutes
import OpticScene.Proofs.PlainData
import OpticScene.Proofs.Redefinition
import OpticScene.Proofs.RefusedOperations
import OpticScene.Proofs.Reload
import OpticScene.Proofs.Reports
import OpticScene.Proofs.RegistryBuilding
import OpticScene.Proofs.LayeredScope
import OpticScene.Proofs.ParameterBindings
import OpticScene.Proofs.UnknownNames
import OpticScene.Proofs.Carets
import OpticScene.Proofs.TextSegments
import OpticScene.Proofs.LibraryOrder
import OpticScene.Proofs.NormalizedValues
import OpticScene.Proofs.RangeDescriptors
