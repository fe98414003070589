import HaBluetooth.Protocol.PacketLanguage
import HaBluetooth.Protocol.BurstErrors
import HaBluetooth.Gatt.SendFrame
import HaBluetooth.Gatt.Sessions
import HaBluetooth.Transports.Limits
import HaBluetooth.Dispatcher.Passcode
import HaBluetooth.Dispatcher.Dashboards
import HaBluetooth.Dispatcher.Answering
import HaBluetooth.Dispatcher.Robustness
import HaBluetooth.Gatt.ChunkStreams
import HaBluetooth.Protocol.RfcommReader
import HaBluetooth.Gatt.TxSessions
import HaBluetooth.Protocol.Resynchronisation
import HaBluetooth.Gatt.TxStream
import HaBluetooth.Esphome.NoiseReader
import HaBluetooth.Support.FifoLock
import HaBluetooth.Esphome.Sending
import HaBluetooth.Dispatcher.ExposurePaths
import HaBluetooth.Dispatcher.Tasks
import HaBluetooth.Dispatcher.Machine
import HaBluetooth.Dispatcher.Noninterference
import HaBluetooth.Dispatcher.ServiceCalls
import HaBluetooth.Support.Matching
import HaBluetooth.Usb.ReaderLoop
import HaBluetooth.Native.Server
import HaBluetooth.Native.ServiceCalls
import HaBluetooth.Transports.ServiceCalls
import HaBluetooth.Native.Authentication
import HaBluetooth.Esphome.PlaintextReader
import HaBluetooth.Usb.WriteWorker
import HaBluetooth.Dispatcher.CurrentStates
import HaBluetooth.Gatt.Signals
import HaBluetooth.Native.Connections
import HaBluetooth.Native.Replies
import HaBluetooth.Gatt.DisconnectDetector
import HaBluetooth.Gatt.Stopping
import HaBluetooth.Support.Handles
import HaBluetooth.Support.StoppableTask
import HaBluetooth.Usb.Lifecycle
import HaBluetooth.Esphome.Lifecycle
import HaBluetooth.Protocol.CrcDivision
import HaBluetooth.Protocol.BitErrors
import HaBluetooth.Gatt.ChunkLimits
import HaBluetooth.Gatt.LostChunks
import HaBluetooth.Protocol.HeaderSearch
import HaBluetooth.Dispatcher.DashboardContents
import HaBluetooth.Esphome.FailedEncoding
import HaBluetooth.Gatt.FailedPolls
import HaBluetooth.Integration.FailedSetup
import HaBluetooth.Usb.BrokenWriter
import HaBluetooth.Dispatcher.SentPackets
import HaBluetooth.Gatt.TxChannel
import HaBluetooth.Native.ClientView
import HaBluetooth.Native.QueryRoundTrip
import HaBluetooth.Esphome.ServiceCalls
import HaBluetooth.Esphome.Handshake
import HaBluetooth.Integration.Entries
import HaBluetooth.Integration.SerialPorts
import HaBluetooth.Integration.Pairing
import HaBluetooth.Integration.Labels
import HaBluetooth.Native.LeakNotification
import HaBluetooth.Dispatcher.Ledger
import HaBluetooth.Usb.QueryRoundTrip
import HaBluetooth.Esphome.TransportChoice
