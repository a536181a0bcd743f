import CommunicationIpc.Kernel.LiteReplyWait
import CommunicationIpc.Library.Run

/-! When an answer is lost in the C invoker. The requester is found by its number, which it registers
after it has sent its request, and it is woken up by a signal that nobody remembers. -/
namespace CommunicationIpc.LiteReplyWait
open CommunicationIpc.Library CommunicationIpc.Kernel.LiteReplyWait

/-- Not sent yet. -/
def isEarly : Call → Bool
  | .unstarted | .numbering | .reading | .sending => true
  | _ => false

def unregistered : Call → Bool
  | .making | .adding => true
  | call => isEarly call

/-- The request is sent, and its thread is about to wait or waiting without having been woken up. -/
def expects : Call → Bool
  | .making | .adding | .querying | .attaching | .locking | .entering | .waiting => true
  | _ => false

def isActive : Call → Bool
  | .unstarted | .returned => false
  | _ => true

def entryOf : Delivery → Option Nat
  | .copying entry | .storing entry | .naming entry | .comparing entry | .querying entry | .signalling entry => some entry
  | _ => none

def isDelivering : Delivery → Bool
  | .absent | .processed => false
  | _ => true

/-- The lookup of `ProcessReply` is over. -/
def isFound : Delivery → Bool
  | .absent | .looking => false
  | _ => true

def isStored : Delivery → Bool
  | .waking | .comparing _ | .querying _ | .signalling _ => true
  | _ => false

/-- What a step of `ProcessReply` finds, as long as the requester still expects an answer: its own entry where
it looks for one, the session of the reply there if nothing could be stored, the lock info of its thread, and in
the end the thread blocked in `pthread_cond_timedwait`. It never finds the entry of another request. -/
def met (state : State) : Event → Bool
  | .delivery request choice =>
    let own := state.requests request
    match own.delivery with
    | .looking | .waking =>
      match state.queryThreadBySeqNumber own.seqNumber with
      | none => !expects own.call
      | some entry => decide (entry = request)
    | .copying _ => choice || !expects own.call || decide (own.messageSession = own.sessionId)
    | .querying _ => !expects own.call || decide (own.threadId ∈ state.socketLockInfo)
    | .signalling _ => !expects own.call || decide (own.call = .waiting)
    | _ => true
  | _ => true

/-- What the record of a request says, where `listed` is whether it is in `g_seqNumberToThread`. -/
structure Fine (own : Request) (request : Nat) (listed : Prop) : Prop where
  unsent : isEarly own.call = true → own.sent = false
  undelivered : own.sent = false → own.delivery = .absent
  unlisted : unregistered own.call = true → ¬ listed
  entry : ∀ entry, entryOf own.delivery = some entry → entry = request
  registered : isFound own.delivery = true → unregistered own.call = false
  session : isStored own.delivery = true → expects own.call = true → own.messageSession = own.sessionId
  answered : own.delivery = .processed → expects own.call = false

/-- A request that is at work has its threads. -/
structure Held (threads : Nat → Activity) (own : Request) (request : Nat) : Prop where
  calling : isActive own.call = true → threads own.threadId = .calling request
  replying : isDelivering own.delivery = true → threads own.dataThread = .replying request

/-- What is always so for one request while `met` holds at every step. -/
structure Sound (state : State) (request : Nat) : Prop where
  fine : Fine (state.requests request) request (request ∈ state.seqNumberToThread)
  held : Held state.threads (state.requests request) request

theorem fine_unsent {own : Request} {request : Nat} {listed : Prop} (sent : own.sent = false) (absent : own.delivery = .absent)
    (unlisted : ¬ listed) : Fine own request listed where
  unsent := fun _ => sent
  undelivered := fun _ => absent
  unlisted := fun _ => unlisted
  entry := by
    rw [absent]
    intro entry named
    cases named
  registered := by
    rw [absent]
    intro found
    cases found
  session := by
    rw [absent]
    intro stored
    cases stored
  answered := by
    rw [absent]
    intro processed
    cases processed

theorem sound_new (request : Nat) : Sound State.new request := by
  refine ⟨fine_unsent rfl rfl List.not_mem_nil,?_,?_⟩
  · intro active
    cases active
  · intro delivering
    cases delivering

/-- A step that is none of another request's business. -/
structure Elsewhere (state next : State) (request : Nat) : Prop where
  requests : ∀ other, other ≠ request → next.requests other = state.requests other
  listed : ∀ other, other ≠ request → other ∈ next.seqNumberToThread → other ∈ state.seqNumberToThread
  threads : ∀ other, other ≠ request → ∀ threadId,
    (state.threads threadId = .calling other → next.threads threadId = .calling other) ∧
      (state.threads threadId = .replying other → next.threads threadId = .replying other)

section Frame
variable {state next : State} {request other threadId : Nat}

theorem Sound.elsewhere (sound : Sound state other) (frame : Elsewhere state next request) (apart : other ≠ request) :
    Sound next other := by
  obtain ⟨fine,held⟩ := sound
  constructor
  · rw [frame.requests other apart]
    exact { fine with unlisted := fun early listed => fine.unlisted early (frame.listed other apart listed) }
  · rw [frame.requests other apart]
    exact ⟨fun active => (frame.threads other apart _).1 (held.calling active),
      fun active => (frame.threads other apart _).2 (held.replying active)⟩

theorem elsewhere_put (value : Request) : Elsewhere state (state.put request value) request :=
  ⟨fun _ apart => Function.update_of_ne apart ..,fun _ _ => id,fun _ _ _ => ⟨id,id⟩⟩

theorem Elsewhere.occupy (frame : Elsewhere state next request) {activity : Activity}
    (own : state.threads threadId = .free ∨ state.threads threadId = .calling request ∨
      state.threads threadId = .replying request) : Elsewhere state (next.occupy threadId activity) request := by
  refine ⟨frame.requests,frame.listed,?_⟩
  intro other apart thread
  by_cases same : thread = threadId
  · subst same
    constructor
    · intro busy
      rw [busy] at own
      rcases own with own | own | own <;> cases own
      exact absurd rfl apart
    · intro busy
      rw [busy] at own
      rcases own with own | own | own <;> cases own
      exact absurd rfl apart
  · have kept : (next.occupy threadId activity).threads thread = next.threads thread := Function.update_of_ne same ..
    rw [kept]
    exact frame.threads other apart thread

theorem put_self (value : Request) : (state.put request value).requests request = value := Function.update_self ..

end Frame

/-- One step further in a call, without a new reason to wait. -/
structure Onward (before after : Call) : Prop where
  unsent : isEarly after = true → isEarly before = true
  unregistered : unregistered after = true → unregistered before = true
  expects : expects after = true → expects before = true

theorem unregistered_of_early {call : Call} (early : isEarly call = true) : unregistered call = true := by
  cases call <;> first | rfl | cases early

theorem Onward.settled {before after : Call} (registered : LiteReplyWait.unregistered after = false)
    (settled : LiteReplyWait.expects after = false) : Onward before after := by
  refine ⟨?_,?_,?_⟩
  · intro early
    rw [unregistered_of_early early] at registered
    cases registered
  · rw [registered]
    intro early
    cases early
  · rw [settled]
    intro waits
    cases waits

theorem Onward.waits {before after : Call} (registered : LiteReplyWait.unregistered after = false)
    (waits : LiteReplyWait.expects before = true) : Onward before after := by
  refine ⟨?_,?_,fun _ => waits⟩
  · intro early
    rw [unregistered_of_early early] at registered
    cases registered
  · rw [registered]
    intro early
    cases early

theorem Onward.early {before after : Call} (early : isEarly before = true) (settled : LiteReplyWait.expects after = false) :
    Onward before after := by
  refine ⟨fun _ => early,fun _ => unregistered_of_early early,?_⟩
  · rw [settled]
    intro waits
    cases waits

section OwnCall
variable {state next : State} {own : Request} {request : Nat} {listed : Prop}

theorem Fine.onward (fine : Fine own request listed) {call : Call} (onward : Onward own.call call) :
    Fine { own with call := call } request listed where
  unsent := fun early => fine.unsent (onward.unsent early)
  undelivered := fine.undelivered
  unlisted := fun early => fine.unlisted (onward.unregistered early)
  entry := fine.entry
  registered := by
    intro found
    have before := fine.registered found
    by_contra still
    rw [onward.unregistered (by simpa using still)] at before
    cases before
  session := fun stored waits => fine.session stored (onward.expects waits)
  answered := by
    intro ended
    have before := fine.answered ended
    by_contra still
    rw [onward.expects (by simpa using still)] at before
    cases before

theorem Fine.unfound (fine : Fine own request listed) (unregistered_ : unregistered own.call = true) : isFound own.delivery = false := by
  cases found : isFound own.delivery with
  | false => rfl
  | true =>
    rw [fine.registered found] at unregistered_
    cases unregistered_

theorem active_of_expects {call : Call} (waits : expects call = true) : isActive call = true := by
  cases call <;> first | rfl | cases waits

theorem stored_found {delivery : Delivery} (stored : isStored delivery = true) : isFound delivery = true := by
  cases delivery <;> first | rfl | cases stored

theorem Fine.send (fine : Fine own request listed) (stage : own.call = .sending) :
    Fine { own with sent := true, call := .making } request listed := by
  have absent : own.delivery = .absent := fine.undelivered (fine.unsent (by rw [stage]; rfl))
  refine ⟨?_,?_,fun _ => fine.unlisted (by rw [stage]; rfl),fine.entry,?_,?_,?_⟩
  · intro early
    cases early
  · intro unsent
    cases unsent
  · rw [absent]
    intro found
    cases found
  · rw [absent]
    intro stored
    cases stored
  · rw [absent]
    intro processed
    cases processed

theorem Fine.make (fine : Fine own request listed) (stage : own.call = .making) (handle : UInt32) (reply : Option Nat) :
    Fine { own with messageSession := handle, messageReply := reply, call := .adding } request listed := by
  have unfound := fine.unfound (by rw [stage]; rfl)
  refine ⟨?_,fine.undelivered,fun _ => fine.unlisted (by rw [stage]; rfl),fine.entry,?_,?_,?_⟩
  · intro early
    cases early
  · rw [unfound]
    intro found
    cases found
  · intro stored
    rw [stored_found stored] at unfound
    cases unfound
  · intro ended
    rw [ended] at unfound
    cases unfound

theorem Sound.moveCall (sound : Sound state request) {before call : Call} (stage : (state.requests request).call = before)
    (active : isActive before = true) (onward : Onward before call) : Sound (state.moveCall request call) request := by
  subst stage
  refine ⟨?_,?_⟩
  · rw [State.moveCall,put_self]
    exact sound.fine.onward onward
  · rw [State.moveCall,put_self]
    exact ⟨fun _ => sound.held.calling active,sound.held.replying⟩

theorem Sound.returns (sound : Sound state request) {before : Call} (stage : (state.requests request).call = before)
    (active : isActive before = true) (onward : Onward before .returned) : Sound (state.returns request) request := by
  have thread : state.threads (state.requests request).threadId = .calling request := by
    apply sound.held.calling
    rw [stage]
    exact active
  have moved := sound.moveCall stage active onward
  refine ⟨moved.fine,?_⟩
  change Held (Function.update state.threads (state.requests request).threadId .free) ((state.moveCall request .returned).requests request) request
  rw [State.moveCall,put_self]
  refine ⟨?_,?_⟩
  · intro active
    cases active
  intro delivering
  have data := sound.held.replying delivering
  rw [Function.update_of_ne]
  · exact data
  · intro same
    rw [same,thread] at data
    cases data

theorem Sound.put (sound : Sound state request) {value : Request} (active : isActive (state.requests request).call = true)
    (fine : Fine value request (request ∈ state.seqNumberToThread)) (thread : value.threadId = (state.requests request).threadId)
    (data : value.dataThread = (state.requests request).dataThread) (delivery : value.delivery = (state.requests request).delivery) :
    Sound (state.put request value) request := by
  refine ⟨?_,?_⟩
  · rw [put_self]
    exact fine
  · rw [put_self]
    refine ⟨?_,?_⟩
    · intro _
      rw [thread]
      exact sound.held.calling active
    · rw [data,delivery]
      exact sound.held.replying

theorem elsewhere_returns (sound : Sound state request) (active : isActive (state.requests request).call = true) :
    Elsewhere state (state.returns request) request :=
  (elsewhere_put _).occupy (.inr (.inl (sound.held.calling active)))

theorem stepCall_sound {choice : Bool} (sound : Sound state request) (taken : state.stepCall request choice = some next) :
    Sound next request ∧ Elsewhere state next request := by
  cases stage : (state.requests request).call with
  | unstarted | returned =>
    simp only [State.stepCall,stage] at taken
    cases taken
  | numbering =>
    simp only [State.stepCall,stage,Option.some.injEq] at taken
    subst taken
    have moved : Sound (state.moveCall request .reading) request := sound.moveCall stage rfl (.early rfl rfl)
    exact ⟨⟨moved.fine,moved.held⟩,(elsewhere_put _).requests,fun _ _ => id,fun _ _ _ => ⟨id,id⟩⟩
  | reading =>
    simp only [State.stepCall,stage,Option.some.injEq] at taken
    subst taken
    have onward : Onward (state.requests request).call .sending := by
      rw [stage]
      exact .early rfl rfl
    exact ⟨sound.put (by rw [stage]; rfl) { sound.fine.onward onward with } rfl rfl rfl,elsewhere_put _⟩
  | sending =>
    simp only [State.stepCall,stage] at taken
    split at taken
    · cases taken
      exact ⟨sound.put (by rw [stage]; rfl) (sound.fine.send stage) rfl rfl rfl,elsewhere_put _⟩
    · cases taken
      exact ⟨sound.returns stage rfl (.settled rfl rfl),elsewhere_returns sound (by rw [stage]; rfl)⟩
  | making =>
    simp only [State.stepCall,stage] at taken
    split at taken
    · cases taken
      exact ⟨sound.put (by rw [stage]; rfl) (sound.fine.make stage _ _) rfl rfl rfl,elsewhere_put _⟩
    · cases taken
      exact ⟨sound.returns stage rfl (.settled rfl rfl),elsewhere_returns sound (by rw [stage]; rfl)⟩
  | adding =>
    simp only [State.stepCall,stage,Option.some.injEq] at taken
    subst taken
    have moved : Sound (state.moveCall request .querying) request := sound.moveCall stage rfl (.waits rfl rfl)
    have registered : unregistered ((state.moveCall request .querying).requests request).call = false := by
      rw [State.moveCall,put_self]
      rfl
    refine ⟨⟨{ moved.fine with unlisted := ?_ },moved.held⟩,(elsewhere_put _).requests,?_,fun _ _ _ => ⟨id,id⟩⟩
    · intro early
      exact absurd (registered.symm.trans early) Bool.false_ne_true
    · intro other apart member
      rcases List.mem_cons.mp member with same | before
      · exact absurd same apart
      · exact before
  | querying =>
    simp only [State.stepCall,stage,Option.some.injEq] at taken
    subst taken
    refine ⟨sound.moveCall stage rfl ?_,elsewhere_put _⟩
    split <;> exact .waits rfl rfl
  | attaching =>
    simp only [State.stepCall,stage] at taken
    split at taken
    · cases taken
      have moved : Sound (state.moveCall request .locking) request := sound.moveCall stage rfl (.waits rfl rfl)
      exact ⟨⟨moved.fine,moved.held⟩,(elsewhere_put _).requests,fun _ _ => id,fun _ _ _ => ⟨id,id⟩⟩
    · cases taken
      exact ⟨sound.moveCall stage rfl (.settled rfl rfl),elsewhere_put _⟩
  | locking =>
    simp only [State.stepCall,stage,Option.some.injEq] at taken
    subst taken
    exact ⟨sound.moveCall stage rfl (.waits rfl rfl),elsewhere_put _⟩
  | entering =>
    simp only [State.stepCall,stage,Option.some.injEq] at taken
    subst taken
    refine ⟨sound.moveCall stage rfl ?_,elsewhere_put _⟩
    split <;> exact .waits rfl rfl
  | waiting =>
    simp only [State.stepCall,stage] at taken
    split at taken
    · cases taken
    · cases taken
      exact ⟨sound.moveCall stage rfl (.settled rfl rfl),elsewhere_put _⟩
  | woken =>
    simp only [State.stepCall,stage,Option.some.injEq] at taken
    subst taken
    exact ⟨sound.moveCall stage rfl (.settled rfl rfl),elsewhere_put _⟩
  | handling =>
    simp only [State.stepCall,stage,Option.some.injEq] at taken
    subst taken
    exact ⟨sound.moveCall stage rfl (.settled rfl rfl),elsewhere_put _⟩
  | erasing =>
    simp only [State.stepCall,stage,Option.some.injEq] at taken
    subst taken
    have ended : Sound (state.returns request) request := sound.returns stage rfl (.settled rfl rfl)
    have frame := elsewhere_returns sound (by rw [stage]; rfl)
    have listed {other : Nat} : other ∈ ((state.eraseThreadBySeqNumber request).returns request).seqNumberToThread →
        other ∈ state.seqNumberToThread := List.mem_of_mem_erase
    exact ⟨⟨{ ended.fine with unlisted := fun early member => ended.fine.unlisted early (listed member) },ended.held⟩,
      frame.requests,fun _ _ => listed,frame.threads⟩

end OwnCall

section OwnDelivery
variable {state next : State} {own : Request} {request threadId : Nat} {listed : Prop}

theorem Fine.was_sent (fine : Fine own request listed) (delivering : isDelivering own.delivery = true) : own.sent = true := by
  cases sent : own.sent with
  | true => rfl
  | false =>
    rw [fine.undelivered sent] at delivering
    cases delivering

/-- Sent and without an expectation, a request has been registered, or its call is over. -/
theorem Fine.registered_of_settled (fine : Fine own request listed) (sent : own.sent = true) (settled : expects own.call = false) :
    unregistered own.call = false := by
  cases stage : own.call with
  | unstarted | numbering | reading | sending =>
    have unsent := fine.unsent (by rw [stage]; rfl)
    rw [sent] at unsent
    cases unsent
  | making | adding =>
    rw [stage] at settled
    cases settled
  | querying | attaching | locking | entering | waiting | woken | handling | erasing | returned => rfl

theorem Fine.redeliver (fine : Fine own request listed) {delivery : Delivery} (sent : own.sent = true)
    (entry : ∀ entry, entryOf delivery = some entry → entry = request)
    (registered : isFound delivery = true → unregistered own.call = false)
    (session : isStored delivery = true → expects own.call = true → own.messageSession = own.sessionId)
    (answered : delivery = .processed → expects own.call = false) : Fine { own with delivery := delivery } request listed where
  unsent := fine.unsent
  undelivered := by
    intro unsent
    rw [sent] at unsent
    cases unsent
  unlisted := fine.unlisted
  entry := entry
  registered := registered
  session := session
  answered := answered

theorem moveDelivery_sound (sound : ∀ request, Sound state request) {before : Delivery} (delivery : Delivery)
    (stage : (state.requests request).delivery = before) (delivering : isDelivering before = true) (still : isDelivering delivery = true)
    (entry : ∀ entry, entryOf delivery = some entry → entry = request)
    (registered : isFound delivery = true → unregistered (state.requests request).call = false)
    (session : isStored delivery = true → expects (state.requests request).call = true →
      (state.requests request).messageSession = (state.requests request).sessionId) (other : Nat) :
    Sound (state.moveDelivery request delivery) other := by
  subst stage
  by_cases same : other = request
  · subst same
    have own := sound other
    constructor
    · rw [State.moveDelivery,put_self]
      refine own.fine.redeliver (own.fine.was_sent delivering) entry registered session ?_
      intro ended
      rw [ended] at still
      cases still
    · rw [State.moveDelivery,put_self]
      exact ⟨own.held.calling,fun _ => own.held.replying delivering⟩
  · exact (sound other).elsewhere (elsewhere_put _) same

theorem finishes_sound (sound : ∀ request, Sound state request) {before : Delivery}
    (stage : (state.requests request).delivery = before) (delivering : isDelivering before = true)
    (settled : expects (state.requests request).call = false) (other : Nat) : Sound (state.finishes request) other := by
  subst stage
  have own := sound request
  have data := own.held.replying delivering
  by_cases same : other = request
  · subst same
    have sent := own.fine.was_sent delivering
    have value : (state.finishes other).requests other = { state.requests other with delivery := .processed } := put_self _
    constructor
    · rw [value]
      refine own.fine.redeliver sent ?_ (fun _ => own.fine.registered_of_settled sent settled) ?_ fun _ => settled
      · intro entry named
        cases named
      · intro stored
        cases stored
    · rw [value]
      refine ⟨?_,fun delivering => absurd delivering Bool.false_ne_true⟩
      intro active
      have thread := own.held.calling active
      change Function.update state.threads (state.requests other).dataThread .free (state.requests other).threadId = _
      rw [Function.update_of_ne]
      · exact thread
      · intro equal
        rw [equal,data] at thread
        cases thread
  · exact (sound other).elsewhere ((elsewhere_put _).occupy (.inr (.inr data))) same

theorem signal_cases : state.pthreadCondSignal threadId = state ∨ ∃ woken, state.threads threadId = .calling woken ∧
    (state.requests woken).call = .waiting ∧ state.pthreadCondSignal threadId = state.moveCall woken .woken := by
  unfold State.pthreadCondSignal
  split
  · rename_i woken busy
    split
    · rename_i blocked
      exact .inr ⟨woken,busy,blocked,rfl⟩
    · exact .inl rfl
  · exact .inl rfl

theorem signal_sound (sound : ∀ request, Sound state request) (other : Nat) : Sound (state.pthreadCondSignal threadId) other := by
  rcases @signal_cases state threadId with same | ⟨woken,-,blocked,moved⟩
  · rw [same]
    exact sound other
  · rw [moved]
    by_cases own : other = woken
    · subst own
      exact (sound other).moveCall blocked rfl (.settled rfl rfl)
    · exact (sound other).elsewhere (elsewhere_put _) own

theorem signal_request : (state.pthreadCondSignal threadId).requests request = state.requests request ∨
    ((state.requests request).call = .waiting ∧
      (state.pthreadCondSignal threadId).requests request = { state.requests request with call := .woken }) := by
  rcases @signal_cases state threadId with same | ⟨woken,-,blocked,moved⟩
  · rw [same]
    exact .inl rfl
  · rw [moved]
    by_cases own : request = woken
    · subst own
      exact .inr ⟨blocked,put_self _⟩
    · exact .inl ((elsewhere_put _).requests request own)

theorem mem_of_query {seqNumber : UInt64} {entry : Nat} (found : state.queryThreadBySeqNumber seqNumber = some entry) :
    entry ∈ state.seqNumberToThread := List.mem_of_find?_eq_some found

/-- The two lookups: under the condition they find the request's own entry, or it expects nothing. -/
theorem lookup_sound (sound : ∀ request, Sound state request) {before : Delivery} {found : Nat → Delivery}
    (stage : (state.requests request).delivery = before) (delivering : isDelivering before = true)
    (still : ∀ entry, isDelivering (found entry) = true) (entries : ∀ entry, entryOf (found entry) = some entry)
    (stored : ∀ entry, isStored (found entry) = true → isStored before = true)
    (listened : (match state.queryThreadBySeqNumber (state.requests request).seqNumber with
      | none => !expects (state.requests request).call
      | some entry => decide (entry = request)) = true)
    (taken : (match state.queryThreadBySeqNumber (state.requests request).seqNumber with
      | none => some (state.finishes request)
      | some entry => some (state.moveDelivery request (found entry))) = some next) (other : Nat) : Sound next other := by
  cases looked : state.queryThreadBySeqNumber (state.requests request).seqNumber with
  | none =>
    simp only [looked,Option.some.injEq] at taken listened
    subst taken
    exact finishes_sound sound stage delivering (by simpa using listened) other
  | some entry =>
    simp only [looked,Option.some.injEq] at taken listened
    subst taken
    obtain rfl : entry = request := of_decide_eq_true listened
    have own := (sound entry).fine
    apply moveDelivery_sound sound _ stage delivering (still entry)
    · intro named same
      rw [entries entry] at same
      exact (Option.some.inj same).symm
    · intro _
      cases early : unregistered (state.requests entry).call with
      | false => rfl
      | true => exact absurd (mem_of_query looked) (own.unlisted early)
    · intro ready
      apply own.session
      rw [stage]
      exact stored entry ready

theorem store_sound (sound : ∀ request, Sound state request) (value : Request)
    (fine : Fine value request (request ∈ state.seqNumberToThread)) (call : value.call = (state.requests request).call)
    (thread : value.threadId = (state.requests request).threadId) (data : value.dataThread = (state.requests request).dataThread)
    (delivery : value.delivery = (state.requests request).delivery) (other : Nat) : Sound (state.put request value) other := by
  by_cases same : other = request
  · subst same
    constructor
    · rw [put_self]
      exact fine
    · rw [put_self]
      refine ⟨?_,?_⟩
      · rw [call,thread]
        exact (sound other).held.calling
      · rw [delivery,data]
        exact (sound other).held.replying
  · exact (sound other).elsewhere (elsewhere_put _) same

theorem stepDelivery_sound {choice : Bool} (sound : ∀ request, Sound state request)
    (listened : met state (.delivery request choice) = true) (taken : state.stepDelivery request choice = some next) (other : Nat) :
    Sound next other := by
  have own := sound request
  cases stage : (state.requests request).delivery with
  | absent | processed =>
    simp only [State.stepDelivery,stage] at taken
    cases taken
  | looking =>
    simp only [State.stepDelivery,stage] at taken
    simp only [met,stage] at listened
    refine lookup_sound sound stage rfl ?_ ?_ ?_ listened taken other
    · exact fun _ => rfl
    · exact fun _ => rfl
    · intro entry stored
      cases stored
  | copying entry =>
    simp only [State.stepDelivery,stage,Option.some.injEq] at taken
    simp only [met,stage,Bool.or_eq_true,Bool.not_eq_true',decide_eq_true_eq] at listened
    have registered := own.fine.registered (by rw [stage]; rfl)
    cases choice with
    | true =>
      have moved : next = state.moveDelivery request (.storing entry) := taken.symm
      subst moved
      refine moveDelivery_sound sound (.storing entry) stage rfl rfl ?_ (fun _ => registered) ?_ other
      · intro named same
        apply own.fine.entry
        rw [stage]
        exact same
      · intro stored
        cases stored
    | false =>
      have moved : next = state.moveDelivery request .waking := taken.symm
      subst moved
      refine moveDelivery_sound sound .waking stage rfl rfl ?_ (fun _ => registered) ?_ other
      · intro entry named
        cases named
      · intro _ waits
        rcases listened with (copied | settled) | same
        · cases copied
        · rw [settled] at waits
          cases waits
        · exact same
  | storing entry =>
    obtain rfl : entry = request := own.fine.entry entry (by rw [stage]; rfl)
    simp only [State.stepDelivery,stage,Option.some.injEq] at taken
    rw [← taken,← stage]
    have registered := own.fine.registered (by rw [stage]; rfl)
    have kept : Fine { state.requests entry with messageReply := some entry } entry (entry ∈ state.seqNumberToThread) :=
      { own.fine with }
    have stored := store_sound sound _ kept rfl rfl rfl rfl
    refine moveDelivery_sound stored (.naming entry) ((congrArg Request.delivery (put_self _)).trans stage) rfl rfl ?_ ?_ ?_ other
    · intro named same
      exact (Option.some.inj same).symm
    · rw [put_self]
      exact fun _ => registered
    · intro stored
      cases stored
  | naming entry =>
    obtain rfl : entry = request := own.fine.entry entry (by rw [stage]; rfl)
    simp only [State.stepDelivery,stage,Option.some.injEq] at taken
    rw [← taken,← stage]
    have registered := own.fine.registered (by rw [stage]; rfl)
    have kept : Fine { state.requests entry with messageSession := (state.requests entry).sessionId } entry
        (entry ∈ state.seqNumberToThread) := { own.fine with session := fun _ _ => rfl }
    have stored := store_sound sound _ kept rfl rfl rfl rfl
    refine moveDelivery_sound stored .waking ((congrArg Request.delivery (put_self _)).trans stage) rfl rfl ?_ ?_ ?_ other
    · intro entry named
      cases named
    · rw [put_self]
      exact fun _ => registered
    · rw [put_self]
      exact fun _ _ => rfl
  | waking =>
    simp only [State.stepDelivery,stage] at taken
    simp only [met,stage] at listened
    refine lookup_sound sound stage rfl ?_ ?_ ?_ listened taken other
    · exact fun _ => rfl
    · exact fun _ => rfl
    · exact fun _ _ => rfl
  | comparing entry =>
    obtain rfl : entry = request := own.fine.entry entry (by rw [stage]; rfl)
    simp only [State.stepDelivery,stage] at taken
    have registered := own.fine.registered (by rw [stage]; rfl)
    have session := own.fine.session (by rw [stage]; rfl)
    split at taken
    · rename_i foreign
      cases taken
      refine finishes_sound sound stage rfl ?_ other
      by_contra waits
      exact foreign (session (by simpa using waits)).symm
    split at taken
    · rename_i same
      cases taken
      refine finishes_sound sound stage rfl ?_ other
      -- the thread of the call is blocked in it, so it is not the one that processes the reply
      by_contra waits
      have active : isActive (state.requests entry).call = true := active_of_expects (by simpa using waits)
      have data := own.held.replying (by rw [stage]; rfl)
      rw [← same,own.held.calling active] at data
      cases data
    · cases taken
      refine moveDelivery_sound sound (.querying entry) stage rfl rfl ?_ (fun _ => registered) (fun _ => session) other
      intro named same
      exact (Option.some.inj same).symm
  | querying entry =>
    obtain rfl : entry = request := own.fine.entry entry (by rw [stage]; rfl)
    simp only [State.stepDelivery,stage] at taken
    simp only [met,stage,Bool.or_eq_true,Bool.not_eq_true',decide_eq_true_eq] at listened
    have registered := own.fine.registered (by rw [stage]; rfl)
    have session := own.fine.session (by rw [stage]; rfl)
    split at taken
    · cases taken
      refine moveDelivery_sound sound (.signalling entry) stage rfl rfl ?_ (fun _ => registered) (fun _ => session) other
      intro named same
      exact (Option.some.inj same).symm
    · rename_i detached
      cases taken
      exact finishes_sound sound stage rfl (listened.resolve_right detached) other
  | signalling entry =>
    obtain rfl : entry = request := own.fine.entry entry (by rw [stage]; rfl)
    simp only [State.stepDelivery,stage] at taken
    simp only [met,stage,Bool.or_eq_true,Bool.not_eq_true',decide_eq_true_eq] at listened
    split at taken
    · cases taken
    cases taken
    have signalled := @signal_sound state (state.requests entry).threadId sound
    have place : ((state.pthreadCondSignal (state.requests entry).threadId).requests entry).delivery = .signalling entry := by
      rcases @signal_request state entry (state.requests entry).threadId with same | ⟨-,woken⟩
      · rw [same,stage]
      · rw [woken]
        exact stage
    refine finishes_sound signalled place rfl ?_ other
    rcases listened with settled | blocked
    · rcases @signal_request state entry (state.requests entry).threadId with same | ⟨-,woken⟩
      · rw [same,settled]
      · rw [woken]
        rfl
    · have busy : state.threads (state.requests entry).threadId = .calling entry := own.held.calling (by rw [blocked]; rfl)
      rw [State.pthreadCondSignal,busy]
      simp only [blocked,if_true]
      rw [State.moveCall,put_self]
      rfl

end OwnDelivery

section Start
variable {state next : State} {request threadId : Nat}

theorem start_sound (sound : ∀ request, Sound state request) {handle sessionId : UInt32}
    (taken : fires State.step state (.rpcInvokerSendRequest request threadId handle sessionId) next) (other : Nat) :
    Sound next other := by
  simp only [fires,State.step] at taken
  split at taken
  · rename_i able
    cases taken
    by_cases same : other = request
    · subst same
      have fresh := (sound other).fine.unlisted (by rw [able.2]; rfl)
      refine ⟨?_,?_⟩
      · refine Eq.mpr (congrArg (fun own => Fine own other _) (put_self _)) ?_
        exact fine_unsent rfl rfl fresh
      · refine Eq.mpr (congrArg (fun own => Held _ own other) (put_self _)) ?_
        exact ⟨fun _ => Function.update_self ..,fun delivering => absurd delivering Bool.false_ne_true⟩
    · exact (sound other).elsewhere ((elsewhere_put _).occupy (.inl able.1)) same
  · cases taken

theorem processReply_sound (sound : ∀ request, Sound state request)
    (taken : fires State.step state (.processReply request threadId) next) (other : Nat) : Sound next other := by
  simp only [fires,State.step] at taken
  split at taken
  · rename_i able
    obtain ⟨idle,sent,absent⟩ := able
    cases taken
    by_cases same : other = request
    · subst same
      have own := sound other
      refine ⟨?_,?_⟩
      · refine Eq.mpr (congrArg (fun own => Fine own other _) (put_self _)) ?_
        have looking : Fine { state.requests other with delivery := .looking } other (other ∈ state.seqNumberToThread) := by
          refine own.fine.redeliver sent ?_ ?_ ?_ ?_
          · intro entry named
            cases named
          · intro found
            cases found
          · intro stored
            cases stored
          · intro processed
            cases processed
        exact { looking with }
      · refine Eq.mpr (congrArg (fun own => Held _ own other) (put_self _)) ?_
        refine ⟨?_,fun _ => Function.update_self ..⟩
        intro active
        have busy := own.held.calling active
        refine (Function.update_of_ne ?_ _ _).trans busy
        intro equal
        rw [equal,idle] at busy
        cases busy
    · exact (sound other).elsewhere ((elsewhere_put _).occupy (.inl idle)) same
  · cases taken

end Start

theorem step_sound {state next : State} {event : Event} (sound : ∀ request, Sound state request)
    (taken : guarded (fires State.step) (fun state event => met state event = true) state event next) (other : Nat) :
    Sound next other := by
  obtain ⟨listened,fired⟩ := taken
  cases event with
  | rpcInvokerSendRequest request threadId handle sessionId => exact start_sound sound fired other
  | processReply request threadId => exact processReply_sound sound fired other
  | call request choice =>
    obtain ⟨own,frame⟩ := stepCall_sound (sound request) fired
    by_cases same : other = request
    · subst same
      exact own
    · exact (sound other).elsewhere frame same
  | delivery request choice => exact stepDelivery_sound sound listened fired other

/-- No request whose reply has been processed is about to wait, or waiting without having been woken up. -/
def NoAnswerLost (state : State) : Prop :=
  ∀ request, (state.requests request).delivery = .processed → expects (state.requests request).call = false

theorem met_replies_not_lost {events : List Event} {state : State}
    (run : Reaches (guarded (fires State.step) (fun state event => met state event = true)) State.new events state) :
    NoAnswerLost state := by
  intro request processed
  have sound := run.invariant (fun state => ∀ request, Sound state request) sound_new
    (fun _ _ _ sound taken => step_sound sound taken) request
  exact sound.fine.answered processed

def metReply : List Event :=
  List.flatten [[.rpcInvokerSendRequest 0 0 7 8],List.replicate 9 (.call 0 true),[.processReply 0 1],
    List.replicate 8 (.delivery 0 true)]

theorem met_reply_not_lost :
    ∃ state, Reaches (guarded (fires State.step) (fun state event => met state event = true)) State.new metReply state ∧
      ((state.requests 0).delivery = .processed ∧ (state.requests 0).call = .woken ∧ (state.requests 0).messageReply = some 0) ∧
      NoAnswerLost state := by
  obtain ⟨state,run,reached⟩ := Reaches.exists_of_foldlM_guarded State.step (fun state event => met state event = true) State.new
    metReply (fun state => decide ((state.requests 0).delivery = .processed ∧ (state.requests 0).call = .woken ∧
      (state.requests 0).messageReply = some 0)) (by decide)
  exact ⟨state,run,of_decide_eq_true reached,met_replies_not_lost run⟩

/-- The reply comes before its requester has registered: it is dropped, and the requester waits. -/
def earlyReply : List Event :=
  List.flatten [[.rpcInvokerSendRequest 0 0 7 8],List.replicate 3 (.call 0 true),[.processReply 0 1,.delivery 0 true],
    List.replicate 6 (.call 0 true)]

theorem early_reply_lost :
    ∃ state, Reaches (fires State.step) State.new earlyReply state ∧
      ((state.requests 0).delivery = .processed ∧ (state.requests 0).call = .waiting ∧ (state.requests 0).messageReply = none) ∧
      ¬ NoAnswerLost state := by
  obtain ⟨state,run,reached⟩ := Reaches.exists_of_foldlM State.step State.new earlyReply
    (fun state => decide ((state.requests 0).delivery = .processed ∧ (state.requests 0).call = .waiting ∧
      (state.requests 0).messageReply = none)) (by decide)
  have facts := of_decide_eq_true reached
  refine ⟨state,run,facts,?_⟩
  intro kept
  have ended := kept 0 facts.1
  rw [facts.2.1] at ended
  cases ended

end CommunicationIpc.LiteReplyWait
