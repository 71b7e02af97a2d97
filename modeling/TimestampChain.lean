import TimestampChain.Main
import TimestampChain.Node.Workspace
import TimestampChain.Proofs.Controller.Lookup
import TimestampChain.Proofs.Store.Batches
import TimestampChain.Proofs.Controller.Acceptance
import TimestampChain.Proofs.Controller.Genesis
import TimestampChain.Proofs.Frames
import TimestampChain.Proofs.Controller.Memory
import TimestampChain.Proofs.Runs
import TimestampChain.Proofs.Store.Records
import TimestampChain.Proofs.Tidiness
import TimestampChain.Proofs.Chain.Linkage
import TimestampChain.Proofs.Chain.Shape
import TimestampChain.Proofs.Chain.Invariant
import TimestampChain.Proofs.Chain.Growth
import TimestampChain.Proofs.Causality
import TimestampChain.Proofs.Chain.Recovery
import TimestampChain.Proofs.Chain.AnyOrder
import TimestampChain.Proofs.Controller.Building
import TimestampChain.Proofs.Refusals
import TimestampChain.Proofs.Chain.Founding
import TimestampChain.Proofs.Chain.Rooted
import TimestampChain.Proofs.Engine.Turns
import TimestampChain.Proofs.Engine.Plans
import TimestampChain.Proofs.Engine.Standing
import TimestampChain.Proofs.Engine.Conservation
import TimestampChain.Proofs.Engine.Progress
import TimestampChain.Proofs.Controller.Waiting
import TimestampChain.Proofs.Controller.PayloadOrder
import TimestampChain.Proofs.Conflicts
import TimestampChain.Proofs.Engine.WakeUp
import TimestampChain.Proofs.Engine.Delivery
import TimestampChain.Proofs.Block.Layout
import TimestampChain.Proofs.Store.Refinement
import TimestampChain.Proofs.Lineage
import TimestampChain.Proofs.Engine.Pipelining
import TimestampChain.Proofs.Chain.Decisions
import TimestampChain.Proofs.Instances.Holding
import TimestampChain.Proofs.Instances.Truth
import TimestampChain.Proofs.Instances.Form
import TimestampChain.Proofs.Node.Lines
import TimestampChain.Proofs.Node.Sessions
import TimestampChain.Proofs.Node.Reopening
import TimestampChain.Proofs.Node.Restart
import TimestampChain.Proofs.Store.WriteOnce
import TimestampChain.Proofs.Engine.Agreement
import TimestampChain.Proofs.Chain.Lookups
import TimestampChain.Proofs.Instances.Parsing
import TimestampChain.Proofs.Block.Cursor
import TimestampChain.Proofs.Engine.Rounds
import TimestampChain.Proofs.Controller.Shutdown
import TimestampChain.Proofs.Instances.DeliveryOrder
import TimestampChain.Proofs.Requests.Queries
import TimestampChain.Proofs.Requests.Proposals
import TimestampChain.Proofs.Signals
import TimestampChain.Proofs.Settings.Precedence
import TimestampChain.Proofs.Store.Buffering
import TimestampChain.Proofs.Store.Handles
