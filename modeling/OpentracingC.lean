import OpentracingC.Lib.CMemory
import OpentracingC.Lib.CText
import OpentracingC.Lib.Machine
import OpentracingC.Lib.Simulation
import OpentracingC.Lib.RefLedger
import OpentracingC.Lib.Replacement
import OpentracingC.DynamicLoad
import OpentracingC.LoadStage
import OpentracingC.HandlePostcondition
import OpentracingC.ErrorReport
import OpentracingC.ErrorBuffer
import OpentracingC.MockTracingLib
import OpentracingC.LoaderRuns
import OpentracingC.LoaderInterleaving
import OpentracingC.LoaderNesting
import OpentracingC.NestedLedger
import OpentracingC.NestedSequence
import OpentracingC.GlobalTracer
import OpentracingC.Reentrancy
import OpentracingC.CallbackTrace
import OpentracingC.TracerLifetime
import OpentracingC.HostLifetime
import OpentracingC.Propagation
import OpentracingC.TextMapReader
import OpentracingC.TextMapWriter
import OpentracingC.NoopTracer
import OpentracingC.NoopRuns
import OpentracingC.TracerRuns
import OpentracingC.Tracing
import OpentracingC.Clients
