import RealityLayer.Foundation.Dict
import RealityLayer.Foundation.Transition
import RealityLayer.Foundation.Chain
import RealityLayer.Python.Text
import RealityLayer.RealityGit.Hashing
import RealityLayer.RealityGit.Canonical
import RealityLayer.RealityGit.Tamper
import RealityLayer.WorldState.History
import RealityLayer.WorldState.CommitLog
import RealityLayer.WorldState.Failure
import RealityLayer.WorldState.Entities
import RealityLayer.WorldState.Clocks
import RealityLayer.WorldState.ConflictIndex
import RealityLayer.Connectors.Reads
import RealityLayer.Actions.Lifecycle
import RealityLayer.Actions.Authorization
import RealityLayer.Actions.Restarts
import RealityLayer.Actions.Workers
import RealityLayer.Actions.Failure
import RealityLayer.Actions.Screening
import RealityLayer.Worker.Soundness
import RealityLayer.Api.Gate
import RealityLayer.WorldState.Provenance
import RealityLayer.Actions.Tenancy
import RealityLayer.WorldState.Independence
import RealityLayer.Foundation.Feed
import RealityLayer.WorldState.Diffs
import RealityLayer.Actions.Verifiers
import RealityLayer.RealityGit.Equality
import RealityLayer.WorldState.Renaming
import RealityLayer.Api.Agreement
import RealityLayer.Foundation.Matching
import RealityLayer.WorldState.Twins
import RealityLayer.WorldState.Served
import RealityLayer.WorldState.Consistency
import RealityLayer.WorldState.Retry
import RealityLayer.WorldState.Readiness
import RealityLayer.WorldState.Resolving
import RealityLayer.WorldState.Disputes
import RealityLayer.WorldState.Rewriting
import RealityLayer.WorldState.Cursor
import RealityLayer.WorldState.Decoders
import RealityLayer.WorldState.Queries
import RealityLayer.Api.Refusals
import RealityLayer.WorldState.Aging
import RealityLayer.Worker.Rounds
import RealityLayer.Worker.Polling
import RealityLayer.Worker.Sweep
import RealityLayer.Python.Path
import RealityLayer.Storage.Containment
import RealityLayer.WorldState.Walks
import RealityLayer.Connectors.Onboarding
import RealityLayer.Actions.Orders
import RealityLayer.Api.Columns
import RealityLayer.Db.Repositories
import RealityLayer.Db.RoundTrip
import RealityLayer.Db.Tables
import RealityLayer.Actions.Provenance
import RealityLayer.Api.Application
import RealityLayer.Api.Finality
import RealityLayer.Api.Fleet
import RealityLayer.Api.Governance
import RealityLayer.Api.Ledger
import RealityLayer.Api.Proofs
import RealityLayer.Worker.Progress
import RealityLayer.Worker.Rehearsal
import RealityLayer.Worker.Rehearsed
