import OppoA37.Lib.Machine
import OppoA37.Gps.LinkedList
import OppoA37.Gps.Agps.Subscriber
import OppoA37.Gps.Agps.StateMachine
import OppoA37.Gps.Agps.BaseMachine
import OppoA37.Gps.Utils.LocHeap
import OppoA37.Lib.DoublyLinked
import OppoA37.Gps.Utils.ListState
import OppoA37.Lib.Fifo
import OppoA37.Gps.Utils.MsgQ
import OppoA37.Lib.Observer
import OppoA37.Gps.Agps.Requests
import OppoA37.Gps.Agps.Restart
import OppoA37.Gps.Agps.DsMachine
import OppoA37.Gps.Agps.DsSubscriptions
import OppoA37.Gps.Agps.DsReleased
import OppoA37.Gps.Agps.DsPending
import OppoA37.Gps.LocSync.Table
import OppoA37.Gps.LocSync.Calls
import OppoA37.Gps.LocSync.Ownership
import OppoA37.Gps.LocSync.SlotOwnership
import OppoA37.Gps.LocSync.Answered
import OppoA37.Gps.LocSync.OneIndication
import OppoA37.Hidl.Radio.Dial
import OppoA37.Hidl.Radio.EmergencyDial
import OppoA37.DtbTool.ChipList
import OppoA37.Lib.Layout
import OppoA37.DtbTool.FindDtb
import OppoA37.DtbTool.Image
import OppoA37.DtbTool.ReadImage
import OppoA37.Gps.Ni.Sessions
import OppoA37.Gps.Ni.Payloads
import OppoA37.Gps.Ni.Answers
import OppoA37.Gps.LocTimer.Timers
import OppoA37.Gps.LocTimer.Delegates
import OppoA37.Gps.LocTimer.Callbacks
import OppoA37.Gps.LocTimer.Due
import OppoA37.Gps.LocTimer.Soonest
import OppoA37.Lib.FrontArray
import OppoA37.Lib.KeyedLoop
import OppoA37.Gps.Core.LocApiBase
import OppoA37.Gps.LocEng.EngineThread
import OppoA37.Gps.LocEng.AidingData
import OppoA37.Gps.LocEng.MutedSession
import OppoA37.Hidl.Thermal.ThermalHelper
import OppoA37.Hidl.Thermal.Notifications
import OppoA37.Hidl.Thermal.ThermalWatcher
import OppoA37.Sensors.NativeSensorManager
import OppoA37.Sensors.Calls
import OppoA37.Sensors.Listeners
import OppoA37.Sensors.Delays
import OppoA37.Sensors.InputEventReader
import OppoA37.Sensors.ReadEvents
import OppoA37.Sensors.PollEvents
import OppoA37.Sensors.HandedOver
import OppoA37.Sensors.Blocking
import OppoA37.Lib.Block
import OppoA37.Lib.OrderedMap
import OppoA37.Camera.CameraParameters
import OppoA37.Camera.Settings
import OppoA37.Camera.LateSettings
import OppoA37.Camera.Adapter
import OppoA37.Camera.Copies
import OppoA37.Camera.SetParameters
import OppoA37.Camera.Session
import OppoA37.Lib.FanOut
import OppoA37.Hidl.Thermal.Callbacks
import OppoA37.Camera.StreamTables
import OppoA37.Lib.BitMask
import OppoA37.Gps.LocApiV02.EventMask
import OppoA37.Power.FreqCap
import OppoA37.Power.Undone
import OppoA37.Power.OtherAgents
import OppoA37.Lib.Ledger
import OppoA37.Hidl.Radio.Types
import OppoA37.Hidl.Radio.Requests
import OppoA37.Hidl.Radio.AnsweredOnce
import OppoA37.Hidl.Radio.Registration
import OppoA37.Gps.DmnConn.GlueMsg
import OppoA37.Gps.DmnConn.Server
import OppoA37.Gps.DmnConn.Survives
import OppoA37.Lib.Hysteresis
import OppoA37.Hidl.Thermal.ConfigParser
import OppoA37.Hidl.Thermal.SeverityHysteresis
import OppoA37.Hidl.Thermal.ConstantReading
import OppoA37.Lib.Text
import OppoA37.Hidl.Thermal.Uevents
import OppoA37.Hidl.Thermal.WellFormedConfig
import OppoA37.Hidl.Thermal.CpuUsages
import OppoA37.Gps.Nmea.Sentence
import OppoA37.Gps.Nmea.Satellites
import OppoA37.Gps.Nmea.Position
import OppoA37.Gps.Nmea.Coordinates
import OppoA37.Gps.Utils.LocCfg
import OppoA37.Gps.Utils.ReadConf
import OppoA37.Gps.Utils.UpdateConf
import OppoA37.Gps.Agps.Lifetimes
import OppoA37.Gps.Agps.Broadcasts
import OppoA37.Gps.Agps.BitClients
import OppoA37.Gps.Agps.DsRetries
import OppoA37.Gps.DsApi.OpenCall
import OppoA37.Camera.Venus
import OppoA37.Camera.CropColours
import OppoA37.Camera.ModeLists
import OppoA37.DtbTool.FoundRecords
import OppoA37.DtbTool.Cells
import OppoA37.DtbTool.GetChipInfo
import OppoA37.Lib.CInt
import OppoA37.Lib.FirstLeast
import OppoA37.Lib.Ring
import OppoA37.Lib.Slots
import OppoA37.Camera.PictureSizes
import OppoA37.Camera.ZoomRatios
import OppoA37.Camera.FormattedTexts
import OppoA37.Camera.CompensationStep
import OppoA37.Sensors.ReaderRuns
import OppoA37.Sensors.VirtualBuffer
import OppoA37.Sensors.Batch
import OppoA37.Sensors.Enumeration
import OppoA37.Gps.LocApiV02.ReportSv
import OppoA37.Gps.DmnConn.ShortReads
import OppoA37.Gps.DmnConn.Launch
import OppoA37.Sensors.CalLibs
import OppoA37.Hidl.Radio.DataCalls
import OppoA37.Hidl.Radio.NetworkTypes
import OppoA37.Hidl.Radio.Carriers
import OppoA37.Lights.WhiteLed
import OppoA37.Gps.Core.DecodeAddress
import OppoA37.Gps.Utils.BlankValues
import OppoA37.Lib.CString
import OppoA37.Gps.Utils.SplitString
import OppoA37.Gps.Nmea.PutChecksum
import OppoA37.Lib.Loop
import OppoA37.Lib.Percent
import OppoA37.Hidl.Radio.Service
import OppoA37.Gps.UserAgent.EncodeInPlace
import OppoA37.Gps.UserAgent.ChipsetSerialNo
import OppoA37.Sensors.GetNode
import OppoA37.Sensors.Reads
import OppoA37.Sensors.Flushes
import OppoA37.Sensors.Stream
import OppoA37.Gps.Utils.LocThread
import OppoA37.Gps.Utils.LocThreadMemory
import OppoA37.Gps.Utils.Runnables
import OppoA37.Camera.Torch
import OppoA37.Gps.LocApiV02.XtraData
import OppoA37.WireGuard.Encoding
import OppoA37.WireGuard.Device
import OppoA37.WireGuard.SyncConf
import OppoA37.WireGuard.Netlink
import OppoA37.WireGuard.Coalesce
import OppoA37.Lib.Numeral
import OppoA37.WireGuard.Config
import OppoA37.WireGuard.ShowConf
