import Mathlib.Logic.Function.Basic

/-! Threads of the C invoker that wait for replies, and data threads that process them. A request is one
synchronous `RpcInvokerSendRequest`, from its number on; its delivery is the `ProcessReply` of the
reply to it. Each locked section and each group of stores is one step. A thread does one thing at a
time, and its condition is signalled by nobody else and never without a signal. Of a `ThreadMessageInfo`
the fields that only `HandleReply` reads are one field here: whose reply was stored there. -/
namespace CommunicationIpc.Kernel.LiteReplyWait

inductive Call where
  | unstarted
  | numbering
  | reading
  | sending
  | making
  | adding
  | querying
  | attaching
  | locking
  | entering
  | waiting
  | woken
  | handling
  | erasing
  | returned
  deriving DecidableEq, Repr

/-- `entry` is the request whose `ThreadMessageInfo` the lookup has found. -/
inductive Delivery where
  | absent
  | looking
  | copying (entry : Nat)
  | storing (entry : Nat)
  | naming (entry : Nat)
  | waking
  | comparing (entry : Nat)
  | querying (entry : Nat)
  | signalling (entry : Nat)
  | processed
  deriving DecidableEq, Repr

/-- `sessionId` is the session the reply arrives on, `messageSession` and `messageReply` are fields of
the `ThreadMessageInfo`, `sent` says that the package is on its way. -/
structure Request where
  threadId : Nat
  handle : UInt32
  seqNumber : UInt64
  sent : Bool
  messageSession : UInt32
  messageReply : Option Nat
  call : Call
  dataThread : Nat
  sessionId : UInt32
  delivery : Delivery
  deriving DecidableEq, Repr

def Request.unstarted : Request := ⟨0,0,0,false,0,none,.unstarted,0,0,.absent⟩

inductive Activity where
  | free
  | calling (request : Nat)
  | replying (request : Nat)
  deriving DecidableEq, Repr

structure State where
  seqNumber : UInt64
  seqNumberToThread : List Nat
  socketLockInfo : List Nat
  threads : Nat → Activity
  requests : Nat → Request

def State.new : State := ⟨0,[],[],fun _ => .free,fun _ => Request.unstarted⟩

/-- `choice` is whether `Send`, an allocation with its copy or the clock works in this step; a wait ends
with a time-out where it is false. -/
inductive Event where
  | rpcInvokerSendRequest (request threadId : Nat) (handle sessionId : UInt32)
  | processReply (request threadId : Nat)
  | call (request : Nat) (choice : Bool)
  | delivery (request : Nat) (choice : Bool)
  deriving DecidableEq, Repr

def State.put (state : State) (request : Nat) (value : Request) : State :=
  { state with requests := Function.update state.requests request value }

def State.occupy (state : State) (threadId : Nat) (activity : Activity) : State :=
  { state with threads := Function.update state.threads threadId activity }

def State.moveCall (state : State) (request : Nat) (call : Call) : State :=
  state.put request { state.requests request with call := call }

def State.moveDelivery (state : State) (request : Nat) (delivery : Delivery) : State :=
  state.put request { state.requests request with delivery := delivery }

def nextSeqNumber (seqNumber : UInt64) : UInt64 := if seqNumber+1 = 0 then seqNumber+2 else seqNumber+1

def State.queryThreadBySeqNumber (state : State) (seqNumber : UInt64) : Option Nat :=
  state.seqNumberToThread.find? fun entry => (state.requests entry).seqNumber = seqNumber

def State.addThreadBySeqNumber (state : State) (request : Nat) : State :=
  { state with seqNumberToThread := request :: state.seqNumberToThread }

def State.eraseThreadBySeqNumber (state : State) (request : Nat) : State :=
  { state with seqNumberToThread := state.seqNumberToThread.erase request }

def State.attachThreadLockInfo (state : State) (threadId : Nat) : State :=
  { state with socketLockInfo := threadId :: state.socketLockInfo }

/-- The call is over; its thread does something else. -/
def State.returns (state : State) (request : Nat) : State :=
  (state.moveCall request .returned).occupy (state.requests request).threadId .free

def State.stepCall (state : State) (request : Nat) (choice : Bool) : Option State :=
  let own := state.requests request
  match own.call with
  | .unstarted | .returned => none
  | .numbering => some { state.moveCall request .reading with seqNumber := nextSeqNumber state.seqNumber }
  -- ProcessGetSeqNumber reads the number it returns after it has unlocked
  | .reading => some (state.put request { own with seqNumber := state.seqNumber, call := .sending })
  | .sending => if choice then some (state.put request { own with sent := true, call := .making }) else some (state.returns request)
  | .making =>
    if choice then some (state.put request { own with messageSession := own.handle, messageReply := none, call := .adding })
    else some (state.returns request)
  | .adding => some ((state.addThreadBySeqNumber request).moveCall request .querying)
  | .querying => some (state.moveCall request (if own.threadId ∈ state.socketLockInfo then .locking else .attaching))
  | .attaching =>
    if choice then some ((state.attachThreadLockInfo own.threadId).moveCall request .locking)
    else some (state.moveCall request .erasing)
  | .locking => some (state.moveCall request .entering)
  | .entering => some (state.moveCall request (if choice then .waiting else .erasing))
  | .waiting => if choice then none else some (state.moveCall request .erasing)
  | .woken => some (state.moveCall request .handling)
  | .handling => some (state.moveCall request .erasing)
  | .erasing => some ((state.eraseThreadBySeqNumber request).returns request)

def State.finishes (state : State) (request : Nat) : State :=
  (state.moveDelivery request .processed).occupy (state.requests request).dataThread .free

/-- The condition of a thread wakes the call that is blocked on it. -/
def State.pthreadCondSignal (state : State) (threadId : Nat) : State :=
  match state.threads threadId with
  | .calling request => if (state.requests request).call = .waiting then state.moveCall request .woken else state
  | _ => state

def State.holdsMutex (state : State) (threadId : Nat) : Bool :=
  match state.threads threadId with
  | .calling request => (state.requests request).call = .entering
  | _ => false

/-- `ProcessReply`, with `WakeUpThreadBySeqNumber` from `waking` on. -/
def State.stepDelivery (state : State) (request : Nat) (choice : Bool) : Option State :=
  let own := state.requests request
  match own.delivery with
  | .absent | .processed => none
  | .looking =>
    match state.queryThreadBySeqNumber own.seqNumber with
    | none => some (state.finishes request)
    | some entry => some (state.moveDelivery request (.copying entry))
  | .copying entry => some (state.moveDelivery request (if choice then .storing entry else .waking))
  | .storing entry =>
    let state := state.put entry { state.requests entry with messageReply := some request }
    some (state.moveDelivery request (.naming entry))
  | .naming entry =>
    let state := state.put entry { state.requests entry with messageSession := own.sessionId }
    some (state.moveDelivery request .waking)
  | .waking =>
    match state.queryThreadBySeqNumber own.seqNumber with
    | none => some (state.finishes request)
    | some entry => some (state.moveDelivery request (.comparing entry))
  | .comparing entry =>
    if own.sessionId ≠ (state.requests entry).messageSession then some (state.finishes request)
    else if (state.requests entry).threadId = own.dataThread then some (state.finishes request)
    else some (state.moveDelivery request (.querying entry))
  | .querying entry =>
    if (state.requests entry).threadId ∈ state.socketLockInfo then some (state.moveDelivery request (.signalling entry))
    else some (state.finishes request)
  | .signalling entry =>
    if state.holdsMutex (state.requests entry).threadId then none
    else some ((state.pthreadCondSignal (state.requests entry).threadId).finishes request)

def State.step (state : State) : Event → Option State
  | .rpcInvokerSendRequest request threadId handle sessionId =>
    if state.threads threadId = .free ∧ (state.requests request).call = .unstarted then
      let started := state.put request
        { Request.unstarted with threadId := threadId, handle := handle, sessionId := sessionId, call := .numbering }
      some (started.occupy threadId (.calling request))
    else none
  | .processReply request threadId =>
    if state.threads threadId = .free ∧ (state.requests request).sent = true ∧ (state.requests request).delivery = .absent then
      let started := state.put request { state.requests request with dataThread := threadId, delivery := .looking }
      some (started.occupy threadId (.replying request))
    else none
  | .call request choice => state.stepCall request choice
  | .delivery request choice => state.stepDelivery request choice

end CommunicationIpc.Kernel.LiteReplyWait
