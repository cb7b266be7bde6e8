import CapsuleMesh.Account.Expectations
import CapsuleMesh.Account.Nostr
import CapsuleMesh.Account.Recompute
import CapsuleMesh.Account.SampledCheck
import CapsuleMesh.Adjudication.Accounts
import CapsuleMesh.Adjudication.RefereeRecord
import CapsuleMesh.Adjudication.RefereeSelection
import CapsuleMesh.Adjudication.Symmetry
import CapsuleMesh.Adjudication.Tallies
import CapsuleMesh.Adjudication.WitnessRecompute
import CapsuleMesh.Browser.Tampering
import CapsuleMesh.Checkpoint.FailedWrites
import CapsuleMesh.Checkpoint.StaleWrites
import CapsuleMesh.Coordinator.AllGreen
import CapsuleMesh.Coordinator.Composed
import CapsuleMesh.Delegation.Reissue
import CapsuleMesh.Delegation.Revocation
import CapsuleMesh.Delegation.UntrustedDocuments
import CapsuleMesh.Evidence.AboutX
import CapsuleMesh.Evidence.Anchoring
import CapsuleMesh.Evidence.LeafPositions
import CapsuleMesh.Evidence.PeerCells
import CapsuleMesh.Evidence.SeededSample
import CapsuleMesh.History.Enrichment
import CapsuleMesh.JoinCard.Chain
import CapsuleMesh.JoinCard.Protocol
import CapsuleMesh.Ledger.FinderPage
import CapsuleMesh.Ledger.Migration
import CapsuleMesh.Lifecycle.AnyEvidence
import CapsuleMesh.Lifecycle.PluginHost
import CapsuleMesh.Moderation.Twin
import CapsuleMesh.Ownership.OwnerId
import CapsuleMesh.Pane.CrossParty
import CapsuleMesh.Pane.Issues
import CapsuleMesh.Pane.PeerGroups
import CapsuleMesh.Pane.RatingFields
import CapsuleMesh.Plugin.BodyDigests
import CapsuleMesh.Plugin.FailedSeals
import CapsuleMesh.Plugin.Interleavings
import CapsuleMesh.Plugin.LatestProvenance
import CapsuleMesh.Plugin.RuntimeAttest
import CapsuleMesh.Plugin.ServedRequestJoin
import CapsuleMesh.Sequence.PairBuckets
import CapsuleMesh.Sequence.Tampering
import CapsuleMesh.Sidecar.AppendOrder
import CapsuleMesh.Sidecar.Choices
import CapsuleMesh.Sidecar.ClientNonces
import CapsuleMesh.Sidecar.Disclosures
import CapsuleMesh.Sidecar.ModelIdentity
import CapsuleMesh.Sidecar.PairStream
import CapsuleMesh.Sidecar.ShutdownWindows
import CapsuleMesh.Sidecar.TokenCeiling
import CapsuleMesh.Stranger.Advertised
import CapsuleMesh.Stranger.Outcome
import CapsuleMesh.Tee.Binding
import CapsuleMesh.Trace.ModelClaim
import CapsuleMesh.Viewer.DisclosureBadge
import CapsuleMesh.Viewer.MergedRows
import CapsuleMesh.Viewer.OwnChips
