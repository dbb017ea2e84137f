import HassSma.Bluez.Framer
import HassSma.Bluez.Rfcomm
import HassSma.Client.Dispatch
import HassSma.Client.EventLog
import HassSma.Client.Lifecycle
import HassSma.Client.Silence
import HassSma.Client.Values
import HassSma.Mqtt.Discovery
import HassSma.Daemon.Publish
import HassSma.Daemon.PollLoop
import HassSma.Client.Fragments
import HassSma.Client.Handshake
import HassSma.Client.Stale
import HassSma.Mqtt.Topics
import HassSma.Daemon.Availability
import HassSma.Daemon.Isolation
import HassSma.Client.CheckedValues
import HassSma.Client.CheckedReceive
import HassSma.Protocol.Shapes
import HassSma.Lib.LastWins
import HassSma.Client.Records
import HassSma.Client.Sentinels
import HassSma.Daemon.Pacing
import HassSma.Daemon.Cooldown
import HassSma.Daemon.Yielding
import HassSma.Storage.CsvSink
import HassSma.Daemon.Refinement
import HassSma.Bluez.RfcommStream
import HassSma.Daemon.Tasks
import HassSma.Daemon.AppSerial
import HassSma.Daemon.Connections
import HassSma.Daemon.Counters
