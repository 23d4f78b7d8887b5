import CLink.Lib.Bytes
import CLink.Lib.Loop
import CLink.Lib.Machine
import CLink.Common.Types
import CLink.Common.Timer
import CLink.Common.Headers
import CLink.Common.Request
import CLink.Common.Cyclic
import CLink.Common.Response
import CLink.Common.ResponseGrammar
import CLink.Master.Config
import CLink.Master.Device
import CLink.Master.Group
import CLink.Master.Step
import CLink.Master.ScanStart
import CLink.Lib.Trace
import CLink.Master.Moves
import CLink.Master.Invariant
import CLink.Master.Init
import CLink.Master.SentFrames
import CLink.Master.Arbitration
import CLink.Master.MasterDuplication
import CLink.Master.GroupSteps
import CLink.Master.Disconnect
import CLink.Master.SequenceNumbers
import CLink.Master.Lockstep
import CLink.Master.Waiting
import CLink.Master.RejectedFrames
import CLink.Master.GroupIndependence
import CLink.Master.ClearedStatistics
import CLink.Master.FalseDuplication
import CLink.Slave.State
import CLink.Slave.Fsm
import CLink.Slave.Step
import CLink.Slave.Handling
import CLink.Slave.Invariant
import CLink.Slave.Responses
import CLink.Slave.ControlMaster
import CLink.EndToEnd.Access
import CLink.EndToEnd.Response
import CLink.EndToEnd.Request
import CLink.Slave.Disabled
import CLink.Slave.Unaffected
import CLink.Slave.MasterTimeout
import CLink.Master.RequestSpacing
import CLink.Master.TimeoutCounting
import CLink.Master.LinkScanCompletion
import CLink.Lib.ByteOrder
import CLink.Slmp.Frames
import CLink.Slmp.Codec
import CLink.Common.HostOrder
import CLink.Slmp.Master
import CLink.Slmp.Moves
import CLink.Slmp.Confirmations
import CLink.Slmp.Serials
import CLink.Slmp.Slave
import CLink.EndToEnd.Slmp
import CLink.Slmp.HostOrder
import CLink.Common.RequestGrammar
import CLink.Master.ResponseTimes
import CLink.Master.Ledger
import CLink.Slmp.NodeSearchDb
import CLink.Slmp.SearchResponses
import CLink.Slmp.AddressSetting
import CLink.Common.File
import CLink.Master.ParameterNumber
import CLink.Master.ConfigSoundness
import CLink.Lib.Cells
import CLink.Master.Access
import CLink.Master.SlaveDuplication
import CLink.Master.LatestRequest
import CLink.EndToEnd.Network
import CLink.Common.TimerRuns
import CLink.Common.LimiterRuns
import CLink.EndToEnd.Freshness
import CLink.Slave.Sessions
import CLink.EndToEnd.Agreement
import CLink.Master.Snapshots
import CLink.EndToEnd.Snapshots
import CLink.Master.StoredData
import CLink.EndToEnd.StoredData
import CLink.EndToEnd.Safety
import CLink.EndToEnd.SentRequests
import CLink.Slave.Answering
import CLink.Master.Progress
import CLink.EndToEnd.OneMaster
import CLink.Master.Rounds
import CLink.EndToEnd.OwnRequests
import CLink.Slave.Serving
import CLink.EndToEnd.GroupRounds
import CLink.Lib.InTransit
import CLink.EndToEnd.HealthyNetwork
import CLink.EndToEnd.SlmpDelivery
import CLink.Master.Deadlines
import CLink.EndToEnd.SlmpNetwork
import CLink.EndToEnd.SlmpOrigins
import CLink.EndToEnd.SlmpTruth
import CLink.EndToEnd.SlmpSearches
