import CommunicationIpc.Kernel.Framing

/-! The connections of the socket transport: a thread reads what comes and gives each read to the callbacks of the RPC layer, which
look for packages in it. -/
namespace CommunicationIpc.Kernel.SocketTrans
open CommunicationIpc.Library CommunicationIpc.Kernel.Framing

def defaultPacketSize : Nat := 1024

/-- What `read` returns. -/
inductive ReadResult
  | bytes (data : List UInt8)
  | closed
  | failed
  deriving DecidableEq

inductive Call
  | onConnected
  | startProcessLoop (package : List UInt8)
  | onDisconnected
  | tcpShutDown
  deriving DecidableEq

/-- The callback returns `ERR_NONE` whatever it finds; a loop that has used up its fuel has not returned. -/
def onRecieved (sessionId : Int) (data : List UInt8) : Option (List Call) :=
  (Lite.onMessageAvailable (data.length+1) sessionId (some (.ofBytes data)) (UInt32.ofNat data.length)).map
    fun handed => handed.map fun slice => .startProcessLoop (slice.bytes (.ofBytes data))

/-- With no read left the thread is in `read`. -/
def handleSendReply (fd : Int) : List ReadResult → Option (List Call)
  | [] => some []
  | .bytes data :: reads => do
    let started ← onRecieved fd data
    let rest ← handleSendReply fd reads
    some (started ++ rest)
  | .closed :: _ => some [.onDisconnected,.tcpShutDown]
  | .failed :: _ => some [.tcpShutDown]

/-- A connection that was accepted is left alone, and stays open, where `OnConnected` fails. -/
def handleAccept (clientFd : Int) (connected : Bool) (reads : List ReadResult) : Option (List Call) :=
  if connected then (handleSendReply clientFd reads).map (.onConnected :: ·) else some [.onConnected]

end CommunicationIpc.Kernel.SocketTrans
