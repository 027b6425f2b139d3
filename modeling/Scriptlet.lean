import Scriptlet.Cache.Link
import Scriptlet.Cache.Site
import Scriptlet.Data.OrderedMap
import Scriptlet.Eval.Call
import Scriptlet.Eval.Engine
import Scriptlet.Eval.Expr
import Scriptlet.Eval.Primitive
import Scriptlet.Fault.Failure
import Scriptlet.Fault.Report
import Scriptlet.Heap.Basic
import Scriptlet.Heap.Function
import Scriptlet.Heap.Object
import Scriptlet.Heap.Printed
import Scriptlet.Heap.Scope
import Scriptlet.Inspect
import Scriptlet.Interpreter.Basic
import Scriptlet.Interpreter.Global
import Scriptlet.Interpreter.SingleRun
import Scriptlet.Interpreter.Store
import Scriptlet.Machine.Event
import Scriptlet.Machine.Printer
import Scriptlet.Machine.Stack
import Scriptlet.Machine.State
import Scriptlet.Proofs.Cache.Coherence
import Scriptlet.Proofs.Cache.Depth
import Scriptlet.Proofs.Cache.Linking
import Scriptlet.Proofs.Cache.Numbering
import Scriptlet.Proofs.Cache.Replay
import Scriptlet.Proofs.Data.InsertionOrder
import Scriptlet.Proofs.Data.OrderedMap
import Scriptlet.Proofs.Eval.Discipline
import Scriptlet.Proofs.Eval.DisciplinedCall
import Scriptlet.Proofs.Eval.DisciplinedExpr
import Scriptlet.Proofs.Eval.FrameBinding
import Scriptlet.Proofs.Eval.Likeness
import Scriptlet.Proofs.Eval.PairedSites
import Scriptlet.Proofs.Eval.PathDiscipline
import Scriptlet.Proofs.Eval.Regime
import Scriptlet.Proofs.Eval.ShapeDiscipline
import Scriptlet.Proofs.Eval.SimulatedCall
import Scriptlet.Proofs.Eval.SimulatedExpr
import Scriptlet.Proofs.Eval.Simulation
import Scriptlet.Proofs.Eval.Tracking
import Scriptlet.Proofs.Eval.Twins
import Scriptlet.Proofs.Fault.Listing
import Scriptlet.Proofs.Heap.Accumulation
import Scriptlet.Proofs.Heap.Layered
import Scriptlet.Proofs.Heap.MapFunctions
import Scriptlet.Proofs.Heap.Printing
import Scriptlet.Proofs.Heap.Registration
import Scriptlet.Proofs.Heap.Renaming
import Scriptlet.Proofs.Heap.Resolution
import Scriptlet.Proofs.Heap.Shape
import Scriptlet.Proofs.Machine.Apply
import Scriptlet.Proofs.Machine.Dispatched
import Scriptlet.Proofs.Machine.Effect
import Scriptlet.Proofs.Machine.Evolution
import Scriptlet.Proofs.Machine.Growth
import Scriptlet.Proofs.Machine.Log
import Scriptlet.Proofs.Machine.Sound
import Scriptlet.Proofs.Run.Backtrace
import Scriptlet.Proofs.Run.Balance
import Scriptlet.Proofs.Run.CacheDepth
import Scriptlet.Proofs.Run.Concatenation
import Scriptlet.Proofs.Run.Consistency
import Scriptlet.Proofs.Run.Crossing
import Scriptlet.Proofs.Run.Declaration
import Scriptlet.Proofs.Run.DepthLimit
import Scriptlet.Proofs.Run.Disciplined
import Scriptlet.Proofs.Run.Dispatch
import Scriptlet.Proofs.Run.FrameEffect
import Scriptlet.Proofs.Run.Fresh
import Scriptlet.Proofs.Run.Guarded
import Scriptlet.Proofs.Run.HeapShape
import Scriptlet.Proofs.Run.Moment
import Scriptlet.Proofs.Run.Naming
import Scriptlet.Proofs.Run.Order
import Scriptlet.Proofs.Run.Program
import Scriptlet.Proofs.Run.Reachable
import Scriptlet.Proofs.Run.Returns
import Scriptlet.Proofs.Run.Session
import Scriptlet.Proofs.Run.SingleRun
import Scriptlet.Proofs.Run.Sinks
import Scriptlet.Proofs.Run.SiteHistory
import Scriptlet.Proofs.Run.Surroundings
import Scriptlet.Proofs.Run.Termination
import Scriptlet.Proofs.Run.Transparency
import Scriptlet.Proofs.Syntax.Annotation
import Scriptlet.Proofs.Syntax.Dictation
import Scriptlet.Proofs.Syntax.Nodes
import Scriptlet.Proofs.Syntax.Renaming
import Scriptlet.Proofs.Text.ByteOrder
import Scriptlet.Proofs.Text.Interner
import Scriptlet.Proofs.Text.Parallel
import Scriptlet.Proofs.Text.Requests
import Scriptlet.Proofs.Text.Translation
import Scriptlet.Proofs.Value.Arithmetic
import Scriptlet.Proofs.Value.Comparison
import Scriptlet.Proofs.Value.Complaint
import Scriptlet.Proofs.Value.Operator
import Scriptlet.Syntax.Draft
import Scriptlet.Syntax.Expr
import Scriptlet.Text.Interner
import Scriptlet.Text.Quoted
import Scriptlet.Value.Basic
import Scriptlet.Value.Operator
