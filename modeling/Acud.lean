import Acud.Lib.Memory
import Acud.Lib.Decimal
import Acud.Lib.Subnet
import Acud.Lib.KeyedTable
import Acud.Lib.Transaction
import Acud.Lib.Machine
import Acud.Lib.Paging
import Acud.Lib.Reads
import Acud.Lib.Cursor
import Acud.Lib.Redelivery
import Acud.Lib.Blocks
import Acud.Lib.Interleaving
import Acud.Lib.Framing
import Acud.Lib.Ring
import Acud.Lib.LineReader
import Acud.Lib.LastWrite
import Acud.Lib.Follower
import Acud.Protocol
import Acud.Loop
import Acud.EventLoop
import Acud.Events
import Acud.Users
import Acud.UserBin
import Acud.UserCmd
import Acud.Settings
import Acud.Access
import Acud.Panel
import Acud.Link
import Acud.Net
import Acud.Handlers
import Acud.Receive
import Acud.Daemon
import Acud.Config
import Acud.NetConfig
import Acud.Discover
import Acud.WebForm
import Acud.RequestFile
import Acud.Rru
import Acud.HalMock
import Acud.DiscoverService
import Acud.NmDiscover
import Acud.MainLoop
import Acud.Proofs.SendQueue
import Acud.Proofs.RequestEffects
import Acud.Proofs.ReceiveLoop
import Acud.Proofs.WriteInterest
import Acud.Proofs.EventStore
import Acud.Proofs.HistoryPoll
import Acud.Proofs.Delivery
import Acud.Proofs.RosterStatements
import Acud.Proofs.RosterStore
import Acud.Proofs.RosterReplacement
import Acud.Proofs.RosterChanges
import Acud.Proofs.RosterDurability
import Acud.Proofs.UserCommands
import Acud.Proofs.CallbackEffects
import Acud.Proofs.CardOwnership
import Acud.Proofs.RosterRestart
import Acud.Proofs.DaemonSteps
import Acud.Proofs.EventRecords
import Acud.Proofs.ForcedOpen
import Acud.Proofs.AlarmRelays
import Acud.Proofs.RosterExport
import Acud.Proofs.RosterTransfer
import Acud.Proofs.RosterPositions
import Acud.Proofs.Responses
import Acud.Proofs.UploadSwap
import Acud.Proofs.UploadFailure
import Acud.Proofs.UploadOwner
import Acud.Proofs.Reassembly
import Acud.Proofs.UploadStream
import Acud.Proofs.StoreRuns
import Acud.Proofs.UploadRecords
import Acud.Proofs.UploadResult
import Acud.Proofs.UploadRetry
import Acud.Proofs.RecordCodec
import Acud.Proofs.FaultlessUpload
import Acud.Proofs.RosterCopy
import Acud.Proofs.EventRetention
import Acud.Proofs.EventIndex
import Acud.Proofs.MemoryMode
import Acud.Proofs.SettingStore
import Acud.Proofs.SlotLayout
import Acud.Proofs.NetConfigRollback
import Acud.Proofs.UserAtomicity
import Acud.Proofs.UserBlocks
import Acud.Proofs.UserUpdates
import Acud.Proofs.UserRoundTrip
import Acud.Proofs.TransactionFlag
import Acud.Proofs.EventRewind
import Acud.Proofs.SendFifo
import Acud.Proofs.FrameCodec
import Acud.Proofs.FrameReads
import Acud.Proofs.AccessDecision
import Acud.Proofs.ConfigFields
import Acud.Proofs.DiscoverChecks
import Acud.Proofs.AddressRules
import Acud.Proofs.RequestText
import Acud.Proofs.LoopRegistry
import Acud.Proofs.LoopDispatch
import Acud.Proofs.RruFrames
import Acud.Proofs.RruReceiver
import Acud.Proofs.HalQueues
import Acud.Proofs.HalCards
import Acud.Proofs.DiscoverReplies
import Acud.Proofs.DiscoverSetting
import Acud.Proofs.ConfigRoundTrip
import Acud.Proofs.MainConsistency
import Acud.Proofs.ClientFrames
import Acud.Proofs.HandlerAnswers
import Acud.Proofs.ResponseView
import Acud.Proofs.ServedRequests
import Acud.Proofs.ClientExchange
import Acud.Proofs.Conversations
import Acud.Proofs.ClientDownload
import Acud.Proofs.ClientSamples
import Acud.Proofs.ClientPolls
import Acud.Proofs.HistoryWatch
import Acud.Proofs.ClientUpload
