import TensorrtBackend.Lib.Transition
import TensorrtBackend.Lib.EarlyReturn
import TensorrtBackend.Lib.FirstMin
import TensorrtBackend.Lib.SortedMap
import TensorrtBackend.Basic
import TensorrtBackend.Dims
import TensorrtBackend.ShapeTensor
import TensorrtBackend.Instance
import TensorrtBackend.Profile
import TensorrtBackend.Nearest
import TensorrtBackend.InputChecks
import TensorrtBackend.Agreement
import TensorrtBackend.CudaGraph
import TensorrtBackend.GraphKey
import TensorrtBackend.GraphPairing
import TensorrtBackend.Arbitrator
import TensorrtBackend.Permits
import TensorrtBackend.Responses
import TensorrtBackend.Completion
import TensorrtBackend.Run
import TensorrtBackend.RunPhases
import TensorrtBackend.RunBatch
import TensorrtBackend.RunResponses
import TensorrtBackend.RunFaults
import TensorrtBackend.Handover
import TensorrtBackend.Pipeline
import TensorrtBackend.PipelineInvariant
import TensorrtBackend.Overlap
import TensorrtBackend.Lib.Blocks
import TensorrtBackend.ShapeBuffer
import TensorrtBackend.ShapeDistance
import TensorrtBackend.ShapeOutput
import TensorrtBackend.EngineSharing
import TensorrtBackend.AutoComplete
import TensorrtBackend.Barrier
import TensorrtBackend.SupportedBatch
import TensorrtBackend.GeneratedIo
import TensorrtBackend.ClosestGraph
import TensorrtBackend.LowerBoundKey
import TensorrtBackend.GraphBuild
import TensorrtBackend.InputReady
import TensorrtBackend.HintLoop
import TensorrtBackend.CompletedTwice
import TensorrtBackend.InputLoad
import TensorrtBackend.Lib.Box
import TensorrtBackend.InputFit
import TensorrtBackend.VectorizedFormat
import TensorrtBackend.ShapeInputs
import TensorrtBackend.ShapeFeedback
import TensorrtBackend.HintOrder
import TensorrtBackend.ConfigureTwice
import TensorrtBackend.Lib.Ledger
import TensorrtBackend.OutputAllocator
import TensorrtBackend.CopyErrors
import TensorrtBackend.Divisors
import TensorrtBackend.Lib.Numeral
import TensorrtBackend.ProfileNames
import TensorrtBackend.Lib.Accesses
import TensorrtBackend.DimAccesses
import TensorrtBackend.ShapeSetters
import TensorrtBackend.Lib.Loop
import TensorrtBackend.Plugins
import TensorrtBackend.IoBindings
import TensorrtBackend.Lib.Refinement
import TensorrtBackend.IoClaims
import TensorrtBackend.IoLoad
import TensorrtBackend.IoSound
import TensorrtBackend.Lib.Simulation
import TensorrtBackend.Lib.Monitor
import TensorrtBackend.Lib.MonitorRest
import TensorrtBackend.Semaphore
import TensorrtBackend.Lib.Turns
import TensorrtBackend.Server
import TensorrtBackend.ServerInvariant
import TensorrtBackend.ServerProgress
import TensorrtBackend.CompletedIo
import TensorrtBackend.CompletedBind
import TensorrtBackend.Lib.Takes
import TensorrtBackend.CompletedLoad
import TensorrtBackend.Lib.Worker
import TensorrtBackend.Shutdown
import TensorrtBackend.Lib.RowMajor
import TensorrtBackend.RunInputs
import TensorrtBackend.GraphLaunch
import TensorrtBackend.Service
import TensorrtBackend.Contexts
