import CommunicationIpc.Kernel.Negotiation
import Mathlib.Logic.Function.Basic

/-! The messages that wait in `loadSaReply_` for their system ability to load. Messages are named
by their addresses. Each step is one locked section of `OnRemoteInvokerMessage` or
`LoadSystemAbilityComplete`, or what one thread does between two of them. `replies` and
`awaiting` are not in the source: the replies handed to the listener, and the messages for which
a completion is still to come. -/
namespace CommunicationIpc.Kernel.LoadReply
open CommunicationIpc.Library CommunicationIpc.Kernel.Negotiation

/-- How far `OnRemoteInvokerMessage` is with a message. -/
inductive Phase where
  | unseen
  | loading
  | refused
  | answering
  | returned
  deriving DecidableEq

/-- A thread in the loop of `LoadSystemAbilityComplete`, with the message it has popped. -/
structure Completion where
  srcNetworkId : List UInt8
  systemAbilityId : Int32
  remoteObject : Bool
  replyMessage : Option Nat
  covers : List Nat

structure State where
  messages : Nat → DHandleEntryTxRx
  phases : Nat → Phase
  loadSaReply : List Nat
  completions : Table Nat Completion
  remoteListener : Bool
  awaiting : List Nat
  replies : List (Nat × DHandleEntryTxRx)

def State.new (messages : Nat → DHandleEntryTxRx) : State := ⟨messages,fun _ => .unseen,[],∅,true,[],[]⟩

inductive Event where
  | receive (id : Nat) (message : DHandleEntryTxRx) (distributed : Bool)
  | loadReturned (id : Nat) (available : Bool)
  | popRefused (id : Nat)
  | answerRefused (id : Nat)
  | completeCalled (thread : Nat) (srcNetworkId : List UInt8) (systemAbilityId : Int32) (remoteObject : Bool)
  | completePop (thread : Nat)
  | completeAnswer (thread : Nat) (answers : Answers)
  | startRemoteListener
  | stopRemoteListener

namespace State

def isSameLoadSaItem (state : State) (srcNetworkId : List UInt8) (systemAbilityId : Int32) (id : Nat) : Bool :=
  toInt32 (state.messages id).binderObject = systemAbilityId &&
    cString (state.messages id).deviceIdInfo.fromDeviceId = srcNetworkId

def popLoadSaItem (state : State) (srcNetworkId : List UInt8) (systemAbilityId : Int32) : Option Nat × State :=
  match state.loadSaReply.find? (state.isSameLoadSaItem srcNetworkId systemAbilityId) with
  | none => (none,state)
  | some id =>
    (some id,{ state with
      loadSaReply := state.loadSaReply.eraseP (state.isSameLoadSaItem srcNetworkId systemAbilityId) })

def firstSame (state : State) (id : Nat) : Option Nat :=
  state.loadSaReply.find? (state.isSameLoadSaItem (cString (state.messages id).deviceIdInfo.fromDeviceId)
    (toInt32 (state.messages id).binderObject))

def enter (state : State) (id : Nat) (phase : Phase) : State :=
  { state with phases := Function.update state.phases id phase }

/-- Without a listener nothing is sent and the message stays as it is. -/
def reply (state : State) (id : Nat) (dBinderCode reason : UInt32) (replyMessage : DHandleEntryTxRx) : State :=
  if state.remoteListener then
    let sent := sendReplyMessageToRemote dBinderCode reason replyMessage
    { state with messages := Function.update state.messages id sent, replies := state.replies ++ [(id,sent)] }
  else { state with messages := Function.update state.messages id replyMessage }

def receive (state : State) (id : Nat) (message : DHandleEntryTxRx) (distributed : Bool) : State :=
  match checkAndAmendSaId message with
  | none => (state.reply id messageAsRemoteError dbinderSaidInvalid message).enter id .returned
  | some amended =>
    if ¬ distributed then (state.reply id messageAsRemoteError dbinderSaNotDistrubuted amended).enter id .returned
    else
      { state.enter id .loading with
        messages := Function.update state.messages id amended,
        loadSaReply := state.loadSaReply ++ [id],
        awaiting := state.awaiting ++ [id] }

def loadReturned (state : State) (id : Nat) (available : Bool) : State :=
  if available then state.enter id .returned
  else { state.enter id .refused with awaiting := state.awaiting.filter fun other => other ≠ id }

def popRefused (state : State) (id : Nat) : State :=
  let message := state.messages id
  (state.popLoadSaItem (cString message.deviceIdInfo.fromDeviceId) (toInt32 message.binderObject)).2.enter id .answering

def answerRefused (state : State) (id : Nat) : State :=
  (state.reply id messageAsRemoteError dbinderSaNotAvailable (state.messages id)).enter id .returned

def completePop (state : State) (thread : Nat) (completion : Completion) : State :=
  match state.popLoadSaItem completion.srcNetworkId completion.systemAbilityId with
  | (some id,popped) =>
    { popped with completions := state.completions.insert thread { completion with replyMessage := some id } }
  | (none,done) =>
    { done with
      completions := state.completions.erase thread,
      awaiting := state.awaiting.filter fun id =>
        ¬ (id ∈ completion.covers ∧ state.isSameLoadSaItem completion.srcNetworkId completion.systemAbilityId id) }

def completeAnswer (state : State) (thread : Nat) (completion : Completion) (id : Nat) (answers : Answers) : State :=
  let (filled,dBinderCode,reason) := answerLoaded completion.remoteObject answers (state.messages id)
  { state.reply id dBinderCode reason filled with completions := state.completions.insert thread { completion with replyMessage := none } }

def step (state : State) : Event → Option State
  | .receive id message distributed =>
    if state.phases id = .unseen then some (state.receive id message distributed) else none
  | .loadReturned id available => if state.phases id = .loading then some (state.loadReturned id available) else none
  | .popRefused id => if state.phases id = .refused then some (state.popRefused id) else none
  | .answerRefused id => if state.phases id = .answering then some (state.answerRefused id) else none
  | .completeCalled thread srcNetworkId systemAbilityId remoteObject =>
    match state.completions.lookup thread with
    | some _ => none
    | none => some { state with completions :=
        state.completions.insert thread ⟨srcNetworkId,systemAbilityId,remoteObject,none,state.awaiting⟩ }
  | .completePop thread =>
    match state.completions.lookup thread with
    | some completion => if completion.replyMessage = none then some (state.completePop thread completion) else none
    | none => none
  | .completeAnswer thread answers =>
    match state.completions.lookup thread with
    | some completion => completion.replyMessage.map fun id => state.completeAnswer thread completion id answers
    | none => none
  | .startRemoteListener => some { state with remoteListener := true }
  | .stopRemoteListener => some { state with remoteListener := false }

end State

end CommunicationIpc.Kernel.LoadReply
