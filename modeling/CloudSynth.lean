import CloudSynth.Document.Backend
import CloudSynth.Proofs.Access.Handover
import CloudSynth.Proofs.Auth.Acceptors
import CloudSynth.Proofs.Auth.Consistency
import CloudSynth.Proofs.Auth.Handlers
import CloudSynth.Proofs.Auth.Providers
import CloudSynth.Proofs.Auth.Registration
import CloudSynth.Proofs.Backend.FailedRequests
import CloudSynth.Proofs.Backend.FunctionNames
import CloudSynth.Proofs.Backend.OrderIndependence
import CloudSynth.Proofs.Backend.PolicyNames
import CloudSynth.Proofs.Backend.PublishedParameters
import CloudSynth.Proofs.Backend.Replacement
import CloudSynth.Proofs.Backend.VariableNames
import CloudSynth.Proofs.Container.Orderly
import CloudSynth.Proofs.Container.Search
import CloudSynth.Proofs.Data.Authorization
import CloudSynth.Proofs.Data.SchemaDefinitions
import CloudSynth.Proofs.Data.TableAdoption
import CloudSynth.Proofs.Function.Environment
import CloudSynth.Proofs.Function.Schedules
import CloudSynth.Proofs.Function.Settlement
import CloudSynth.Proofs.Iam.Merging
import CloudSynth.Proofs.Identifier.HashedBytes
import CloudSynth.Proofs.Identifier.SharedNames
import CloudSynth.Proofs.Output.History
import CloudSynth.Proofs.Sandbox.Accounting
import CloudSynth.Proofs.Sandbox.Blocks
import CloudSynth.Proofs.Sandbox.Coverage
import CloudSynth.Proofs.Text.ImportPaths
import CloudSynth.Report.Backend
import CloudSynth.Report.Container
import CloudSynth.Report.Sandbox
