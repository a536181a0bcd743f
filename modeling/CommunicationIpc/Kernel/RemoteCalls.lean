import CommunicationIpc.Kernel.ReplyWait

/-! Requests from one process to its peers and back: the numbers they are sent with, the data threads of the peers, and the threads
here that wait for the replies. A package arrives at most once, on the session it was sent on; a peer answers a request at most once,
on the session and with the number of the request. -/
namespace CommunicationIpc.Kernel.RemoteCalls
open CommunicationIpc.Kernel.Package CommunicationIpc.Kernel.ReplyWait

/-- Where a request is: on its way, with a data thread of the peer, answered, or with the reply given to a data thread here. -/
inductive Travel where
  | sent
  | serving
  | answered (reply : Reply)
  | arrived (reply : Reply) (delivery : Nat)
  deriving DecidableEq

structure Call where
  seqNumber : UInt64
  socketId : Int32
  request : List UInt8
  travel : Travel
  thread : Option Nat
  deriving DecidableEq

structure System where
  client : State
  seqNumber : UInt64
  calls : List Call

def System.new : System := ⟨.new,0,[]⟩

def getSeqNumber (seqNumber : UInt64) : UInt64 := if seqNumber = -1 then 1 else seqNumber+1

/-- The header of a reply is what the peer writes for the parcel of its stub, but for the command and the number. -/
def replyTo (call : Call) (tr : TransactionData) (body : List UInt8) : Reply :=
  ⟨{ tr with cmd := bcReply, seqNumber := call.seqNumber.toNat },body,rfl⟩

inductive Event where
  | sendRequest (socketId : Int32) (request : List UInt8)
  | processTransaction (call : Nat)
  | sendReply (call : Nat) (tr : TransactionData) (body : List UInt8)
  | startProcessLoop (call : Nat)
  | waitForReply (call : Nat)
  | waiter (thread : Nat) (step : WaitStep)
  | delivery (index : Nat) (copied : Bool)
  | openServerSession (socketId : Int32)
  | closeServerSession (socketId : Int32)
  deriving DecidableEq

def System.step (system : System) : Event → Option System
  | .sendRequest socketId request =>
    let seqNumber := getSeqNumber system.seqNumber
    some { system with seqNumber := seqNumber, calls := system.calls ++ [⟨seqNumber,socketId,request,.sent,none⟩] }
  | .processTransaction call =>
    match system.calls[call]? with
    | none => none
    | some found =>
      match found.travel with
      | .sent => some { system with calls := system.calls.set call { found with travel := .serving } }
      | _ => none
  | .sendReply call tr body =>
    match system.calls[call]? with
    | none => none
    | some found =>
      match found.travel with
      | .serving => some { system with calls := system.calls.set call { found with travel := .answered (replyTo found tr body) } }
      | _ => none
  | .startProcessLoop call =>
    match system.calls[call]? with
    | none => none
    | some found =>
      match found.travel with
      | .answered reply =>
        (system.client.step (.startProcessLoop reply found.socketId)).map fun client =>
          { system with
            client := client
            calls := system.calls.set call { found with travel := .arrived reply system.client.deliveries.length } }
      | _ => none
  | .waitForReply call =>
    match system.calls[call]? with
    | none => none
    | some found =>
      match found.thread with
      | none =>
        (system.client.step (.waitForReply found.seqNumber.toNat found.socketId)).map fun client =>
          { system with
            client := client
            calls := system.calls.set call { found with thread := some system.client.waiters.length } }
      | some _ => none
  | .waiter thread step => (system.client.step (.waiter thread step)).map fun client => { system with client := client }
  | .delivery index copied => (system.client.step (.delivery index copied)).map fun client => { system with client := client }
  | .openServerSession socketId => (system.client.step (.openServerSession socketId)).map fun client => { system with client := client }
  | .closeServerSession socketId => (system.client.step (.closeServerSession socketId)).map fun client => { system with client := client }

end CommunicationIpc.Kernel.RemoteCalls
