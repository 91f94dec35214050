import MpsEmulator.Runs
import MpsEmulator.CFloat
import MpsEmulator.CNumeral
import MpsEmulator.FloatDecimal
import MpsEmulator.PrintedNumerals
import MpsEmulator.SplitString
import MpsEmulator.Protocol
import MpsEmulator.Device
import MpsEmulator.ParseCommands
import MpsEmulator.Configuration
import MpsEmulator.Packets
import MpsEmulator.ScanThread
import MpsEmulator.DeviceStatus
import MpsEmulator.Averages
import MpsEmulator.FrameNumbers
import MpsEmulator.RateArithmetic
import MpsEmulator.Accumulators
import MpsEmulator.PairedSource
import MpsEmulator.RejectedCommands
import MpsEmulator.NumericSettings
import MpsEmulator.TrailingBlanks
import MpsEmulator.SimArgument
import MpsEmulator.ListOutput
import MpsEmulator.FormatPairs
import MpsEmulator.ScanLayout
import MpsEmulator.ScanSchedule
import MpsEmulator.RepeatableScans
import MpsEmulator.LegacyPackets
import MpsEmulator.FrameSinks
import MpsEmulator.Options
import MpsEmulator.PacketReadBack
import MpsEmulator.ByteOrder
import MpsEmulator.NetworkOrder
import MpsEmulator.KeywordCase
import MpsEmulator.FrameLimit
import MpsEmulator.ThreadPool
import MpsEmulator.QueueDrain
import MpsEmulator.Networking
import MpsEmulator.OrderedMap
import MpsEmulator.StopLoop
import MpsEmulator.ServerRestart
import MpsEmulator.ActiveClients
import MpsEmulator.Tokens
import MpsEmulator.TypedCommands
import MpsEmulator.CommandBuffers
import MpsEmulator.Prompts
import MpsEmulator.Segmentation
import MpsEmulator.Supersession
import MpsEmulator.StopRequests
import MpsEmulator.Teardown
import MpsEmulator.Detach
import MpsEmulator.BlockMemory
import MpsEmulator.HeapBuffers
import MpsEmulator.OwnedBlocks
import MpsEmulator.Views
import MpsEmulator.ServerPrograms
import MpsEmulator.BufferOwnership
import MpsEmulator.PoolWakeups
import MpsEmulator.SingleClient
import MpsEmulator.ScanShutdown
import MpsEmulator.WholeEmulator
import MpsEmulator.IndependentSettings
import MpsEmulator.SegmentDelivery
import MpsEmulator.ConsoleCommands
import MpsEmulator.Relay
import MpsEmulator.DatagramDelivery
import MpsEmulator.TaskOrder
import MpsEmulator.ScanLength
import MpsEmulator.BinaryPort
import MpsEmulator.AttachedServers
import MpsEmulator.RequestedStops
import MpsEmulator.CallbackPaths
