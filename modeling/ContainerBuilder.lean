import ContainerBuilder.Lib.Machine
import ContainerBuilder.Lib.Simulation
import ContainerBuilder.Lib.Beside
import ContainerBuilder.Lib.Potential
import ContainerBuilder.Lib.Pairing
import ContainerBuilder.Lib.Custody
import ContainerBuilder.Lib.Tally
import ContainerBuilder.Lib.Wire
import ContainerBuilder.Lib.Arrivals
import ContainerBuilder.Lib.Session
import ContainerBuilder.Lib.Feed
import ContainerBuilder.Lib.Tree
import ContainerBuilder.Lib.Calls
import ContainerBuilder.Lib.Exits
import ContainerBuilder.Lib.Output
import ContainerBuilder.Lib.ShellScript
import ContainerBuilder.Lib.Lines
import ContainerBuilder.Lib.Terminal
import ContainerBuilder.Lib.ShiftRegister
import ContainerBuilder.Lib.Decimal
import ContainerBuilder.Lib.Codec
import ContainerBuilder.Lib.JsonText
import ContainerBuilder.Common.Data
import ContainerBuilder.Common.Archive
import ContainerBuilder.Common.PropertyTree
import ContainerBuilder.BuilderQueue.Queue
import ContainerBuilder.BuilderQueue.Status
import ContainerBuilder.BuilderQueue.Matching
import ContainerBuilder.BuilderQueue.Pool
import ContainerBuilder.BuilderQueue.Capacity
import ContainerBuilder.BuilderQueue.Retries
import ContainerBuilder.BuilderQueue.Places
import ContainerBuilder.BuilderQueue.Server
import ContainerBuilder.BuilderQueue.Ownership
import ContainerBuilder.BuilderQueue.InUse
import ContainerBuilder.BuilderQueue.OpenStack
import ContainerBuilder.BuilderQueue.Commands
import ContainerBuilder.BuilderQueue.Stall
import ContainerBuilder.BuilderQueue.Vms
import ContainerBuilder.BuilderQueue.Refinement
import ContainerBuilder.BuilderQueue.Site
import ContainerBuilder.BuilderQueue.Alive
import ContainerBuilder.BuilderQueue.Drain
import ContainerBuilder.BuilderQueue.Clients
import ContainerBuilder.Transfer.Crc
import ContainerBuilder.Transfer.File
import ContainerBuilder.Transfer.Delivery
import ContainerBuilder.Transfer.Process
import ContainerBuilder.Client.Input
import ContainerBuilder.Client.Image
import ContainerBuilder.Client.Context
import ContainerBuilder.Builder.Context
import ContainerBuilder.Session.Programs
import ContainerBuilder.Session.Relay
import ContainerBuilder.Session.Scripts
import ContainerBuilder.Session.Agreement
import ContainerBuilder.Client.Main
import ContainerBuilder.Client.ExitStatus
import ContainerBuilder.Session.Arrivals
import ContainerBuilder.Client.Steps
import ContainerBuilder.Client.Frame
import ContainerBuilder.Builder.Main
import ContainerBuilder.Builder.Program
import ContainerBuilder.Builder.Backend
import ContainerBuilder.Builder.Lines
import ContainerBuilder.Session.Build
import ContainerBuilder.Session.Image
import ContainerBuilder.Session.Output
import ContainerBuilder.Client.Queries
import ContainerBuilder.Client.WaitingAnimation
import ContainerBuilder.Session.Hosts
