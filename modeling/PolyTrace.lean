import PolyTrace.Arith.Binary64
import PolyTrace.Arith.Power
import PolyTrace.Arith.Rational
import PolyTrace.Arith.Scalar
import PolyTrace.Data.Datum
import PolyTrace.Data.LinearSystem
import PolyTrace.Data.Quoted
import PolyTrace.Data.Tensor
import PolyTrace.Data.TensorAlgebra
import PolyTrace.Decimal.Numeral
import PolyTrace.Decimal.Reader
import PolyTrace.Decimal.Readout
import PolyTrace.Decimal.Shortest
import PolyTrace.Engine.CentralPath.Barrier
import PolyTrace.Engine.CentralPath.Newton
import PolyTrace.Engine.CentralPath.Stacked
import PolyTrace.Engine.CentralPath.Trace
import PolyTrace.Engine.InteriorPoint
import PolyTrace.Engine.PrimalDual
import PolyTrace.Engine.Simplex.Phase
import PolyTrace.Engine.Simplex.Pivot
import PolyTrace.Engine.Simplex.TwoPhase
import PolyTrace.Exact.Tableau
import PolyTrace.Failure
import PolyTrace.Instances.CommandLine
import PolyTrace.Instances.Polygon
import PolyTrace.Instances.Twister
import PolyTrace.Linear.Elimination
import PolyTrace.Linear.Factorize
import PolyTrace.Linear.StepLength
import PolyTrace.Linear.Vec
import PolyTrace.Log.Diary
import PolyTrace.Log.Layout
import PolyTrace.Log.Level
import PolyTrace.Log.Registry
import PolyTrace.Main
import PolyTrace.Problem.Basic
import PolyTrace.Problem.Chebyshev
import PolyTrace.Problem.Load
import PolyTrace.Proofs.Arith.Exact
import PolyTrace.Proofs.InteriorPoint.Certificate
import PolyTrace.Proofs.InteriorPoint.Orthant
import PolyTrace.Proofs.InteriorPoint.Residuals
import PolyTrace.Proofs.InteriorPoint.Trail
import PolyTrace.Proofs.Linear.Elimination
import PolyTrace.Proofs.Linear.Matrix
import PolyTrace.Proofs.Linear.StepLength
import PolyTrace.Proofs.Problem.Optimality
import PolyTrace.Proofs.Problem.Split
import PolyTrace.Proofs.Simplex.BasicSolution
import PolyTrace.Proofs.Simplex.Basis
import PolyTrace.Proofs.Simplex.Certificate
import PolyTrace.Proofs.Simplex.Correctness
import PolyTrace.Proofs.Simplex.Course
import PolyTrace.Proofs.Simplex.Exchange
import PolyTrace.Proofs.Simplex.Feasibility
import PolyTrace.Proofs.Simplex.Handover
import PolyTrace.Proofs.Simplex.NearFeasibility
import PolyTrace.Proofs.Simplex.Path
import PolyTrace.Proofs.Simplex.Programs
import PolyTrace.Proofs.Simplex.RatioTest
import PolyTrace.Proofs.Simplex.Tolerance
import PolyTrace.Schema.Issue
import PolyTrace.Schema.NumberText
import PolyTrace.Schema.Options
import PolyTrace.Schema.Rule
import PolyTrace.Service.Report
import PolyTrace.Service.Session
import PolyTrace.Service.Solve
import PolyTrace.Service.Steps.CentralPath
import PolyTrace.Service.Steps.InteriorPoint
import PolyTrace.Service.Steps.PrimalDual
import PolyTrace.Service.Steps.Simplex
import PolyTrace.Service.Tools
import PolyTrace.Status
import PolyTrace.Table
import PolyTrace.Text.Digit
import PolyTrace.Text.Unseen
import PolyTrace.Proofs.Arith.Real
import PolyTrace.Proofs.PrimalDual.Trail
import PolyTrace.Proofs.PrimalDual.Certificate
import PolyTrace.Proofs.PrimalDual.Solution
import PolyTrace.Proofs.PrimalDual.Distance
import PolyTrace.Proofs.CentralPath.Course
import PolyTrace.Proofs.CentralPath.Interior
import PolyTrace.Proofs.CentralPath.Suboptimality
import PolyTrace.Proofs.Simplex.PhaseBoundary
import PolyTrace.Proofs.Simplex.AntiCycling
import PolyTrace.Proofs.CentralPath.Start
import PolyTrace.Proofs.Arith.Binary64
import PolyTrace.Proofs.Failure
import PolyTrace.Proofs.Problem.Load
import PolyTrace.Proofs.Service.Runs
import PolyTrace.Proofs.Service.Answers
import PolyTrace.Proofs.Schema.Options
import PolyTrace.Proofs.Linear.Identity
import PolyTrace.Proofs.Simplex.Invariant
import PolyTrace.Proofs.Simplex.Bookkeeping
import PolyTrace.Proofs.Simplex.Independence
import PolyTrace.Proofs.Service.Tools
import PolyTrace.Proofs.Service.Traces
import PolyTrace.Proofs.Log.History
import PolyTrace.Proofs.CentralPath.Skipped
import PolyTrace.Proofs.StepLimit
import PolyTrace.Proofs.Linear.Reorder
import PolyTrace.Proofs.Problem.Reorder
import PolyTrace.Proofs.InteriorPoint.RowOrder
import PolyTrace.Proofs.PrimalDual.RowOrder
import PolyTrace.Proofs.CentralPath.RowOrder
import PolyTrace.Proofs.RowOrder
import PolyTrace.Proofs.InteriorPoint.Conditions
import PolyTrace.Proofs.InteriorPoint.Contraction
import PolyTrace.Proofs.InteriorPoint.Singular
import PolyTrace.Proofs.PrimalDual.FixedPoints
import PolyTrace.Proofs.Simplex.FirstPhase
import PolyTrace.Proofs.Problem.Reformulation
import PolyTrace.Proofs.Service.Forms
import PolyTrace.Proofs.Simplex.NearTies
import PolyTrace.Proofs.Simplex.Shortfall
import PolyTrace.Proofs.Linear.PivotTolerance
import PolyTrace.Proofs.Data.LinearSystem
import PolyTrace.Proofs.Data.StepLength
import PolyTrace.Proofs.Instances.Directions
import PolyTrace.Proofs.Instances.Polygon
