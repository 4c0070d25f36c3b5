import GroBro.ModbusRoundTrip
import GroBro.CommandRoundTrip
import GroBro.ConfigResponse
import GroBro.MessageDispatch
import GroBro.BatteryPlacement
import GroBro.ConfigReadOrder
import GroBro.BatteryReservation
import GroBro.CloudPolicy
import GroBro.CloudForward
import GroBro.ConfigWrites
import GroBro.Broker
import GroBro.StateSuppression
import GroBro.Availability
import GroBro.DeviceTimeouts
import GroBro.DiscoveryCache
import GroBro.HaClient
import GroBro.ConfigReadback
import GroBro.EmbeddedBlock
import GroBro.RegisterCapture
import GroBro.SerialFragments
import GroBro.BatteryLimit
import GroBro.DiagnosticRotation
import GroBro.DiagnosticWriter
import GroBro.SupervisorSaves
import GroBro.BatteryAssignments
import GroBro.SupervisorOptions
import GroBro.ConfigPersistence
import GroBro.ConfigBlock
import GroBro.NoahDecoders
import GroBro.HeaderReader
import GroBro.PreparePayload
import GroBro.RegisterExtraction
import GroBro.HomeAssistantRegisters
import GroBro.HaCommands
import GroBro.SettingReadback
import GroBro.DiscoveryPayload
import GroBro.DiscoveryWiring
import GroBro.StateMessage
import GroBro.CloudLinks
import GroBro.ManualChoices
import GroBro.PostRequest
import GroBro.GatewayLinks
import GroBro.CaptureFile
import GroBro.OptionPage
import GroBro.BatteryPage
import GroBro.IngressSlots
import GroBro.NeoProbes
