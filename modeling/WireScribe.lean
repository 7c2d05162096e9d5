import WireScribe.Evaluation
import WireScribe.Rendering
import WireScribe.Sample
import WireScribe.Sink.Buffer
import WireScribe.Ty.Json
import WireScribe.Ty.OfJson
import WireScribe.Value.Text
import WireScribe.Proofs.Replay
import WireScribe.Proofs.WireFormat
import WireScribe.Proofs.Serialization
import WireScribe.Proofs.ReadBack
import WireScribe.Proofs.LexicalScope
import WireScribe.Proofs.LostNames
import WireScribe.Proofs.NestingLimit
import WireScribe.Proofs.Schemaless
import WireScribe.Proofs.Spelling
import WireScribe.Proofs.ReservedNames
import WireScribe.Proofs.Composition
import WireScribe.Proofs.WellScoped
import WireScribe.Proofs.CodeText
import WireScribe.Proofs.Misfit
import WireScribe.Proofs.ArgumentCode
import WireScribe.Proofs.Unambiguous
import WireScribe.Proofs.NoProgram
import WireScribe.Proofs.Renaming
import WireScribe.Proofs.Renderable
import WireScribe.Proofs.StructCode
import WireScribe.Proofs.AccessText
import WireScribe.Proofs.MethodTrace
import WireScribe.Proofs.PathText
import WireScribe.Proofs.JsonRoundTrip
import WireScribe.Proofs.TypeText
