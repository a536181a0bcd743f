import CommunicationIpc.Auth
import CommunicationIpc.AuthBalance
import CommunicationIpc.AuthComm
import CommunicationIpc.AuthGrants
import CommunicationIpc.AuthIndexes
import CommunicationIpc.BinderAnswers
import CommunicationIpc.BinderOutput
import CommunicationIpc.BinderParse
import CommunicationIpc.BinderReply
import CommunicationIpc.BinderSteps
import CommunicationIpc.BufferGrowth
import CommunicationIpc.CallbackStubs
import CommunicationIpc.CallingIdentity
import CommunicationIpc.CommandStream
import CommunicationIpc.ConcurrentCalls
import CommunicationIpc.DataThreads
import CommunicationIpc.DatabusIdentity
import CommunicationIpc.DeathCallbacks
import CommunicationIpc.FailedSends
import CommunicationIpc.Framing
import CommunicationIpc.GrantedRegions
import CommunicationIpc.HeldProxies
import CommunicationIpc.Hitrace
import CommunicationIpc.IdleHandle
import CommunicationIpc.IpcCalls
import CommunicationIpc.Kernel.Auth
import CommunicationIpc.Kernel.BinderInvoker
import CommunicationIpc.Kernel.BinderOutput
import CommunicationIpc.Kernel.BinderParse
import CommunicationIpc.Kernel.BinderTransaction
import CommunicationIpc.Kernel.CallbackStubs
import CommunicationIpc.Kernel.CallingIdentity
import CommunicationIpc.Kernel.CommandStream
import CommunicationIpc.Kernel.DataThreads
import CommunicationIpc.Kernel.DatabusIdentity
import CommunicationIpc.Kernel.DeathCallbacks
import CommunicationIpc.Kernel.DoublyLinkedList
import CommunicationIpc.Kernel.FailedSends
import CommunicationIpc.Kernel.Framing
import CommunicationIpc.Kernel.Hitrace
import CommunicationIpc.Kernel.IpcInvoker
import CommunicationIpc.Kernel.LinkedDataThreads
import CommunicationIpc.Kernel.LiteDataThreads
import CommunicationIpc.Kernel.LiteDeathRecipients
import CommunicationIpc.Kernel.LiteInvoker
import CommunicationIpc.Kernel.LiteReplyWait
import CommunicationIpc.Kernel.LiteService
import CommunicationIpc.Kernel.LiteSessions
import CommunicationIpc.Kernel.LiteThreadPool
import CommunicationIpc.Kernel.LoadReply
import CommunicationIpc.Kernel.Marshal
import CommunicationIpc.Kernel.MessageLoops
import CommunicationIpc.Kernel.MessageStrings
import CommunicationIpc.Kernel.Negotiation
import CommunicationIpc.Kernel.NegotiationData
import CommunicationIpc.Kernel.NumExecuting
import CommunicationIpc.Kernel.ObjectTable
import CommunicationIpc.Kernel.Package
import CommunicationIpc.Kernel.ParcelAppend
import CommunicationIpc.Kernel.PayloadStatistics
import CommunicationIpc.Kernel.ProxyDeathRecipients
import CommunicationIpc.Kernel.ProxyInit
import CommunicationIpc.Kernel.ProxyLife
import CommunicationIpc.Kernel.ProxySessions
import CommunicationIpc.Kernel.RawData
import CommunicationIpc.Kernel.ReceiveBuffer
import CommunicationIpc.Kernel.RecipientReferences
import CommunicationIpc.Kernel.RefreshRecipients
import CommunicationIpc.Kernel.RemoteCalls
import CommunicationIpc.Kernel.ReplyWait
import CommunicationIpc.Kernel.ReturnCommands
import CommunicationIpc.Kernel.ScatterGather
import CommunicationIpc.Kernel.SendBuffer
import CommunicationIpc.Kernel.Serializer
import CommunicationIpc.Kernel.SerializerSizes
import CommunicationIpc.Kernel.Service
import CommunicationIpc.Kernel.ServiceStubData
import CommunicationIpc.Kernel.SessionChannel
import CommunicationIpc.Kernel.SessionHandle
import CommunicationIpc.Kernel.SessionSockets
import CommunicationIpc.Kernel.SocketHash
import CommunicationIpc.Kernel.SocketListener
import CommunicationIpc.Kernel.SocketTrans
import CommunicationIpc.Kernel.StubResult
import CommunicationIpc.Kernel.ThreadCount
import CommunicationIpc.Kernel.ThreadPool
import CommunicationIpc.Kernel.Transaction
import CommunicationIpc.Kernel.Translate
import CommunicationIpc.Kernel.UnflattenObject
import CommunicationIpc.Library.Decimal
import CommunicationIpc.Library.Entries
import CommunicationIpc.Library.Framing
import CommunicationIpc.Library.Groups
import CommunicationIpc.Library.Memory
import CommunicationIpc.Library.Program
import CommunicationIpc.Library.Ring
import CommunicationIpc.Library.Run
import CommunicationIpc.Library.Table
import CommunicationIpc.Library.Text
import CommunicationIpc.Library.Threads
import CommunicationIpc.Library.Unicode
import CommunicationIpc.Library.Window
import CommunicationIpc.Library.Word
import CommunicationIpc.LinkedDataThreads
import CommunicationIpc.LinkedLists
import CommunicationIpc.LiteDataThreads
import CommunicationIpc.LiteDeathRecipients
import CommunicationIpc.LiteFraming
import CommunicationIpc.LiteNegotiation
import CommunicationIpc.LitePackage
import CommunicationIpc.LiteRegistry
import CommunicationIpc.LiteReplyWait
import CommunicationIpc.LiteResult
import CommunicationIpc.LiteServiceSteps
import CommunicationIpc.LiteSessions
import CommunicationIpc.LiteThreadPool
import CommunicationIpc.LoadReply
import CommunicationIpc.Marshal
import CommunicationIpc.MessageLoops
import CommunicationIpc.MessageStrings
import CommunicationIpc.NegotiationData
import CommunicationIpc.NewestSession
import CommunicationIpc.NumExecuting
import CommunicationIpc.Numerals
import CommunicationIpc.ObjectReads
import CommunicationIpc.ObjectTable
import CommunicationIpc.Package
import CommunicationIpc.PackageBounds
import CommunicationIpc.ParcelAppend
import CommunicationIpc.PayloadStatistics
import CommunicationIpc.ProxyDeathRecipients
import CommunicationIpc.ProxyInit
import CommunicationIpc.ProxyLife
import CommunicationIpc.ProxySessions
import CommunicationIpc.PtrObjects
import CommunicationIpc.RawData
import CommunicationIpc.RecipientReferences
import CommunicationIpc.RefreshRecipients
import CommunicationIpc.RegistryLoops
import CommunicationIpc.RemoteCalls
import CommunicationIpc.ReplyOrigin
import CommunicationIpc.ReplyWait
import CommunicationIpc.RequestParcel
import CommunicationIpc.ReturnCommands
import CommunicationIpc.ScatterGather
import CommunicationIpc.Semantics.Grants
import CommunicationIpc.Semantics.SendStream
import CommunicationIpc.Semantics.Wire
import CommunicationIpc.SendBuffer
import CommunicationIpc.SerializerAppend
import CommunicationIpc.SerializerCopies
import CommunicationIpc.SerializerCursor
import CommunicationIpc.SerializerRoundTrip
import CommunicationIpc.SerializerStrings
import CommunicationIpc.ServiceSteps
import CommunicationIpc.ServiceStubData
import CommunicationIpc.SessionChannel
import CommunicationIpc.SessionCodec
import CommunicationIpc.SessionHandle
import CommunicationIpc.SessionName
import CommunicationIpc.SessionSlots
import CommunicationIpc.SessionSockets
import CommunicationIpc.SocketHash
import CommunicationIpc.SocketListener
import CommunicationIpc.SocketTrans
import CommunicationIpc.StubIndexes
import CommunicationIpc.StubRegistry
import CommunicationIpc.StubResult
import CommunicationIpc.ThreadCount
import CommunicationIpc.ThreadPool
import CommunicationIpc.TokenId
import CommunicationIpc.Transaction
import CommunicationIpc.UnflattenObject
