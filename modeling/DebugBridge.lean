import DebugBridge.Link.Conversation
import DebugBridge.Main
import DebugBridge.Proofs.Adapter.Failures
import DebugBridge.Proofs.Adapter.Rebinding
import DebugBridge.Proofs.Command.Stability
import DebugBridge.Proofs.Desktop.Bindings
import DebugBridge.Proofs.Desktop.FrameSources
import DebugBridge.Proofs.Desktop.Front
import DebugBridge.Proofs.Desktop.Supersession
import DebugBridge.Proofs.Evaluation.Leftovers
import DebugBridge.Proofs.Evaluation.Quiet
import DebugBridge.Proofs.Gate.Prompt
import DebugBridge.Proofs.Gate.Releases
import DebugBridge.Proofs.Link.Opening
import DebugBridge.Proofs.Link.Transfer
import DebugBridge.Proofs.Server.Served
import DebugBridge.Proofs.Link.Delivery
import DebugBridge.Proofs.Link.Running
import DebugBridge.Proofs.Server.Headers
import DebugBridge.Proofs.Command.Decoding
import DebugBridge.Proofs.Command.Tolerance
import DebugBridge.Proofs.Traffic.Logs
