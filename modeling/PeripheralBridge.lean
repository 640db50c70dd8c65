import PeripheralBridge.Descriptor
import PeripheralBridge.Main
import PeripheralBridge.Scripted.Interface
import PeripheralBridge.Scripted.Link
import PeripheralBridge.Scripted.Pipe
import PeripheralBridge.Scripted.Port
import PeripheralBridge.Scripted.Probe
import PeripheralBridge.Proofs.MessageFormat
import PeripheralBridge.Proofs.PipeRecord
import PeripheralBridge.Proofs.PacketRecovery
import PeripheralBridge.Proofs.PacketFraming
import PeripheralBridge.Proofs.PacketReturn
import PeripheralBridge.Proofs.Turns
import PeripheralBridge.Proofs.Calls
import PeripheralBridge.Proofs.StreamReturn
import PeripheralBridge.Proofs.Transparency
import PeripheralBridge.Proofs.Schedule
import PeripheralBridge.Proofs.PacketSchedule
import PeripheralBridge.Proofs.StreamSchedule
import PeripheralBridge.Proofs.LateResponse
import PeripheralBridge.Proofs.PacketResponses
import PeripheralBridge.Proofs.PortRecord
import PeripheralBridge.Proofs.StreamInput
import PeripheralBridge.Proofs.StreamHearing
import PeripheralBridge.Proofs.StaleInput
import PeripheralBridge.Proofs.RequestParsing
import PeripheralBridge.Proofs.QueueOverflow
import PeripheralBridge.Proofs.LinkRecord
import PeripheralBridge.Proofs.Negotiation
import PeripheralBridge.Proofs.ResetCount
import PeripheralBridge.Proofs.LockSharing
import PeripheralBridge.Proofs.Serving
import PeripheralBridge.Proofs.BrokenReceives
import PeripheralBridge.Proofs.SelfDescription
import PeripheralBridge.Proofs.Agreement
import PeripheralBridge.Proofs.PacketStream
import PeripheralBridge.Proofs.InterruptedMessages
import PeripheralBridge.Proofs.Routing
import PeripheralBridge.Proofs.FaultReporting
import PeripheralBridge.Proofs.ResponseSending
import PeripheralBridge.Proofs.CallGuard
import PeripheralBridge.Proofs.QueueAccounts
import PeripheralBridge.Proofs.RegistryAssembly
import PeripheralBridge.Proofs.SharedDevice
import PeripheralBridge.Proofs.PinRegister
import PeripheralBridge.Proofs.BootOrder
import PeripheralBridge.Proofs.FailureClasses
import PeripheralBridge.Proofs.ExitCodes
import PeripheralBridge.Proofs.HexArguments
