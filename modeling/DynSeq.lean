import DynSeq.Builder
import DynSeq.Error.Debug
import DynSeq.Main
import DynSeq.Proofs.Agreement
import DynSeq.Proofs.DecimalText
import DynSeq.Proofs.DeclaredResults
import DynSeq.Proofs.DemoCalls
import DynSeq.Proofs.DemoRun
import DynSeq.Proofs.Equality
import DynSeq.Proofs.Execution
import DynSeq.Proofs.FailureHistory
import DynSeq.Proofs.IntegerResults
import DynSeq.Proofs.JsonRoundTrip
import DynSeq.Proofs.Labels
import DynSeq.Proofs.LoadedDocument
import DynSeq.Proofs.NotFound
import DynSeq.Proofs.OpenArray
import DynSeq.Proofs.Recoverable
import DynSeq.Proofs.Refusal
import DynSeq.Proofs.SecondPass
import DynSeq.Proofs.SettingsLayers
import DynSeq.Proofs.ShapeRoundTrip
import DynSeq.Proofs.TypeDocument
import DynSeq.Proofs.Typing
import DynSeq.Proofs.UntypedLoading
import DynSeq.Proofs.ValueRoundTrip
import DynSeq.Proofs.Transcript
import DynSeq.Proofs.WholePass
import DynSeq.Proofs.Search
import DynSeq.Proofs.PlainDocument
import DynSeq.Proofs.PrintedResults
import DynSeq.Proofs.Loading
import DynSeq.Proofs.Building
import DynSeq.Proofs.FallibleCalls
import DynSeq.Proofs.FirstMisfit
