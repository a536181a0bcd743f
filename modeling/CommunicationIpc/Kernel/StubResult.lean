import CommunicationIpc.Kernel.ReplyWait
import CommunicationIpc.Kernel.Transaction

/-! The way of a reply back into the requester: what the receiving thread accepts, what
`ProcessReply` stores of it for the thread that waits, and what `HandleReply` returns there.
The copy of the package is made and the allocator of the reply is set. -/
namespace CommunicationIpc.Kernel.StubResult
open CommunicationIpc.Library CommunicationIpc.Kernel.Package CommunicationIpc.Kernel.Translate CommunicationIpc.Kernel.ReplyWait

/-- The package as `OnTransaction` hands it to `ProcessReply`. -/
def receivedReply (package : List UInt8) : Option Reply :=
  let memory := Memory.ofBytes package
  let tr := TransactionData.decode memory
  if hasCompletePackage memory package.length = 0 then none
  else if isReply : tr.cmd = bcReply then some ⟨tr,memory.readBytes headerSize (tr.sizeOfSelf-headerSize),isReply⟩
  else none

def processReply (reply : Reply) (listenFd : Int32) (messageInfo : ThreadMessageInfo) : ThreadMessageInfo :=
  [Field.buffer,.flags,.bufferSize,.offsetsSize,.offsets,.socketId].foldl (Field.store reply listenFd) messageInfo

def handleReply (handleOf : Session → Nat) (messageInfo : ThreadMessageInfo) : Int32 :=
  match ReplyWait.handleReply messageInfo with
  | .status err => (UInt32.ofNat err).toInt32
  | .invalidReply err => Int32.ofNat err
  | .contents buffer bufferSize offsets offsetsSize _ =>
    -- addresses in the copy are those in the package
    let memory := Memory.writeBytes (fun _ => 0) headerSize buffer
    if (iRemoteObjectTranslateWhenRcv handleOf memory ⟨headerSize,bufferSize,offsets,offsetsSize⟩).1 then 0
    else Int32.ofNat rpcBaseInvokerInvalidReplyErr

/-- What `SendRequest` returns once this package has answered it: `WaitForReply` and
`SendOrWaitForCompletion` pass on the result of `HandleReply`. -/
def sendRequest (handleOf : Session → Nat) (socketId listenFd : Int32) (package : List UInt8) : Option Int32 :=
  (receivedReply package).map fun reply =>
    handleReply handleOf (processReply reply listenFd (makeThreadMessageInfo socketId))

end CommunicationIpc.Kernel.StubResult
