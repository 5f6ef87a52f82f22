import Elan0c00.Interaction.Program
import Elan0c00.Interaction.Environment
import Elan0c00.Interaction.ReplyQueue
import Elan0c00.Interaction.Translation
import Elan0c00.Interaction.Monitor
import Elan0c00.Interaction.Interleaving
import Elan0c00.Interaction.Serialization
import Elan0c00.Interaction.Budget
import Elan0c00.Formats.Format
import Elan0c00.Formats.Kinds
import Elan0c00.Bytes.Access
import Elan0c00.Bytes.Padding
import Elan0c00.Bytes.Chunks
import Elan0c00.Bytes.LittleEndian
import Elan0c00.Proto
import Elan0c00.Framing
import Elan0c00.Values
import Elan0c00.Bus
import Elan0c00.Device
import Elan0c00.Exchange
import Elan0c00.Call
import Elan0c00.Session
import Elan0c00.Attempts
import Elan0c00.Gate
import Elan0c00.ShortWrite
import Elan0c00.Record
import Elan0c00.ShortReply
import Elan0c00.Display
import Elan0c00.Elanctl
import Elan0c00.ElanctlFrames
import Elan0c00.ErrorStatus
import Elan0c00.Fifo
import Elan0c00.Lag
import Elan0c00.Sensor
import Elan0c00.Identify
import Elan0c00.Listing
import Elan0c00.Driver.UserId
import Elan0c00.Driver.DeletePrint
import Elan0c00.Driver.Agreement
import Elan0c00.Driver.CreatedPrint
import Elan0c00.Driver.DeleteSsm
import Elan0c00.Driver.Deletes
import Elan0c00.Probe
import Elan0c00.Phantoms
import Elan0c00.ReportDescriptor
import Elan0c00.Opening
import Elan0c00.Finding
import Elan0c00.Interfaces
import Elan0c00.Leftovers
import Elan0c00.System
import Elan0c00.Rendering
import Elan0c00.LineFormats
import Elan0c00.Lifecycle
import Elan0c00.Brackets
import Elan0c00.ElanctlMain
import Elan0c00.Spending
import Elan0c00.ProbeMain
import Elan0c00.Readings
import Elan0c00.World
import Elan0c00.Processes
import Elan0c00.Endings
import Elan0c00.Output
import Elan0c00.Isolation
import Elan0c00.Snapshot
import Elan0c00.Matches
import Elan0c00.Commutation
import Elan0c00.Serializability
