import CommunicationIpc.Kernel.LiteService
import CommunicationIpc.Library.Entries
import CommunicationIpc.Library.Run
import CommunicationIpc.LiteServiceSteps
import Mathlib.Algebra.Order.BigOperators.Group.List
import Mathlib.Algebra.Order.Group.Nat

/-! Sequence numbers of the lite negotiation. `GetSeqNumber` returns what the counter holds after the mutex is given back; where
no other call counts in between, every request has its own number, a wait ends with the reply to its own request, and a call
whose requests are answered returns its stub. -/
namespace CommunicationIpc.LiteNegotiation
open CommunicationIpc.Library CommunicationIpc.Library.Entries CommunicationIpc.Kernel.LiteService CommunicationIpc.LiteServiceSteps

/-- The number of a call, from `GetSeqNumber` until the try ends. -/
def number? : Call → Option UInt32
  | .counted _ _ own => some own
  | .creating _ _ seqNumber => some seqNumber
  | .invoking _ _ info _ => some info.seqNumber
  | _ => none

def Stage.beforeSend : Stage → Bool
  | .attaching | .locking | .sending => true
  | _ => false

/-- The number of a call that is still to be sent. -/
def unsent? : Call → Option UInt32
  | .counted _ _ own => some own
  | .creating _ _ seqNumber => some seqNumber
  | .invoking _ _ info stage => if Stage.beforeSend stage then some info.seqNumber else none
  | _ => none

def address? (call : Call) : Option UInt64 := call.info?.map ThreadLockInfo.address

/-- Nobody counts between another's unlock and return, fewer than 2^32 numbers have been drawn, and what a reply signals has not
been freed since it was found. -/
def met (system : System) : Event → Bool
  | .call call _ _ _ =>
    match system.calls[call]? with
    | some (.numbering _ _) => decide (system.drawn < 2^32)
    | some (.counted _ _ own) => decide (system.seqNumber = own)
    | _ => true
  | .reply reply _ _ =>
    match system.replies[reply]? with
    | some ⟨_,.signalling info⟩ => system.calls.any fun call => decide (call.info? = some info)
    | _ => true
  | _ => true

def requestOf (message : DHandleEntryTxRx) : Request := ⟨message.seqNumber,message.binderObject,message.stub⟩

/-- No wait ends by the clock, memory and transport do not fail, and a reply is a valid answer to a request that was sent. -/
def served (system : System) : Event → Bool
  | .call call _ _ succeeds =>
    match system.calls[call]? with
    | some (.making serviceName deviceID _) =>
      succeeds && decide (serviceName.length ≤ SERVICENAME_LENGTH ∧ deviceID.length ≤ DEVICEID_LENGTH)
    | some (.creating _ _ _) | some (.invoking _ _ _ .sending) | some (.invoking _ _ _ .sent) => succeeds
    | _ => true
  | .timeout _ => false
  | .reply reply _ succeeds =>
    match system.replies[reply]? with
    | some ⟨_,.attaching⟩ => succeeds
    | _ => true
  | .onRemoteMessageTask message =>
    decide (message.dBinderCode = MESSAGE_AS_REPLY →
      requestOf message ∈ system.sent ∧ isValidSessionName message = true ∧ message.stubIndex ≠ 0)
  | .makeRemoteBinder _ _ _ => true

/-- One of the numbers drawn so far. -/
def Drawn (system : System) (seqNumber : UInt32) : Prop :=
  ∃ count, 0 < count ∧ count ≤ system.drawn ∧ seqNumber = UInt32.ofNat count

/-- Numbers differ, and belong to those that use them. -/
structure Paired (system : System) : Prop where
  counter : system.seqNumber = UInt32.ofNat system.drawn
  bound : system.drawn ≤ 2^32
  held : ∀ place ∈ system.calls, ∀ seqNumber, number? place = some seqNumber → Drawn system seqNumber
  past : ∀ request ∈ system.sent, Drawn system request.seqNumber
  numbers : Apart number? system.calls
  unsent : ∀ place ∈ system.calls, ∀ seqNumber, unsent? place = some seqNumber → seqNumber ∉ system.sent.map Request.seqNumber
  once : (system.sent.map Request.seqNumber).Nodup
  addresses : Apart address? system.calls
  found : ∀ reply ∈ system.replies, ∀ info, reply.place = .signalling info → info.seqNumber = reply.message.seqNumber
  woken : ∀ wake ∈ system.wakes, wake.1 = wake.2

theorem paired_new : Paired System.new := by
  refine ⟨rfl,Nat.zero_le _,?_,?_,.nil,?_,.nil,.nil,?_,?_⟩
  all_goals
    intro item member
    cases member

theorem number_wake (address : UInt64) (call : Call) : number? (call.wake address) = number? call :=
  wake_same (fun _ _ _ => rfl) address call

theorem unsent_wake (address : UInt64) (call : Call) : unsent? (call.wake address) = unsent? call :=
  wake_same (fun _ _ _ => rfl) address call

theorem info_wake (address : UInt64) (call : Call) : (call.wake address).info? = call.info? :=
  wake_same (fun _ _ _ => rfl) address call

theorem number_of_unsent {place : Call} {seqNumber : UInt32} (unsent_ : unsent? place = some seqNumber) :
    number? place = some seqNumber := by
  cases place with
  | invoking stub retryTimes info stage =>
    rw [unsent?] at unsent_
    split at unsent_
    · exact unsent_
    · cases unsent_
  | counted | creating => exact unsent_
  | _ => cases unsent_

theorem quiet_ended (stub : DBinderServiceStub) (retryTimes : Nat) (ret : Bool) :
    number? (.ended stub retryTimes ret) = none ∧ (Call.ended stub retryTimes ret).info? = none := by
  rw [Call.ended]
  split
  · exact ⟨rfl,rfl⟩
  · split <;> exact ⟨rfl,rfl⟩

section Steps
variable {system next : System} {call reply : Nat} {before after : Call} {address cookie : UInt64} {succeeds : Bool}
  {message : DHandleEntryTxRx}

/-- The lists of stubs, of waiting threads and of sessions have no part in it. -/
theorem Paired.of_lists (paired : Paired system) (dBinderStubs : List DBinderServiceStub) (threadLocks : List ThreadLockInfo)
    (sessionInfos : List SessionInfo) :
    Paired { system with dBinderStubs := dBinderStubs, threadLocks := threadLocks, sessionInfos := sessionInfos } :=
  ⟨paired.counter,paired.bound,paired.held,paired.past,paired.numbers,paired.unsent,paired.once,paired.addresses,paired.found,
    paired.woken⟩

theorem Paired.moveCall (paired : Paired system) (at_ : system.calls[call]? = some before)
    (number : ∀ seqNumber, number? after = some seqNumber → number? before = some seqNumber)
    (unsent : ∀ seqNumber, unsent? after = some seqNumber → unsent? before = some seqNumber)
    (address : ∀ own, address? after = some own → address? before = some own ∨ ∀ other ∈ system.calls, address? other ≠ some own) :
    Paired (system.moveCall call after) := by
  have member := List.mem_of_getElem? at_
  refine { paired with held := ?_, numbers := ?_, unsent := ?_, addresses := ?_ }
  · intro place inside seqNumber has
    rcases List.mem_or_eq_of_mem_set inside with old | rfl
    · exact paired.held place old seqNumber has
    · exact paired.held before member seqNumber (number seqNumber has)
  · exact paired.numbers.set at_ fun seqNumber has => .inl (number seqNumber has)
  · intro place inside seqNumber has
    rcases List.mem_or_eq_of_mem_set inside with old | rfl
    · exact paired.unsent place old seqNumber has
    · exact paired.unsent before member seqNumber (unsent seqNumber has)
  · exact paired.addresses.set at_ address

theorem Paired.leave (paired : Paired system) (at_ : system.calls[call]? = some before) (number : number? after = none)
    (info : after.info? = none) : Paired (system.moveCall call after) := by
  refine paired.moveCall at_ ?_ ?_ ?_
  · intro seqNumber has
    rw [number] at has
    cases has
  · intro seqNumber has
    have numbered := number_of_unsent has
    rw [number] at numbered
    cases numbered
  · intro own has
    rw [address?,info] at has
    cases has

theorem Paired.moveReply (paired : Paired system) {place : Place}
    (found : ∀ info, place = .signalling info → info.seqNumber = message.seqNumber) :
    Paired (system.moveReply reply message place) := by
  refine { paired with found := ?_ }
  intro other inside info same
  rcases List.mem_or_eq_of_mem_set inside with old | rfl
  · exact paired.found other old info same
  · exact found info same

theorem Paired.fresh (paired : Paired system) (room : system.drawn < 2^32) {seqNumber : UInt32} (drawn : Drawn system seqNumber) :
    seqNumber ≠ system.seqNumber+1 := by
  obtain ⟨count,positive,bound,rfl⟩ := drawn
  rw [paired.counter]
  intro same
  have values := congrArg UInt32.toNat same
  rw [UInt32.toNat_add,UInt32.toNat_ofNat',UInt32.toNat_ofNat'] at values
  have one : (1 : UInt32).toNat = 1 := rfl
  rw [one] at values
  omega

theorem Paired.number (paired : Paired system) {stub : DBinderServiceStub} {retryTimes : Nat}
    (at_ : system.calls[call]? = some (.numbering stub retryTimes)) (room : system.drawn < 2^32) :
    Paired ({ system with seqNumber := system.seqNumber+1, drawn := system.drawn+1 }.moveCall call
      (.counted stub retryTimes (system.seqNumber+1))) := by
  have later : ∀ seqNumber, Drawn system seqNumber →
      Drawn ({ system with seqNumber := system.seqNumber+1, drawn := system.drawn+1 } : System) seqNumber := by
    rintro seqNumber ⟨count,positive,bound,same⟩
    exact ⟨count,positive,Nat.le_succ_of_le bound,same⟩
  have counter : system.seqNumber+1 = UInt32.ofNat (system.drawn+1) := by
    rw [paired.counter,UInt32.ofNat_add]
    rfl
  refine { paired with counter := counter, bound := room, held := ?_, past := ?_, numbers := ?_, unsent := ?_, addresses := ?_ }
  · intro place inside seqNumber has
    rcases List.mem_or_eq_of_mem_set inside with old | rfl
    · exact later seqNumber (paired.held place old seqNumber has)
    · cases has
      exact ⟨system.drawn+1,Nat.succ_pos _,Nat.le_refl _,counter⟩
  · intro request inside
    exact later _ (paired.past request inside)
  · refine paired.numbers.set at_ ?_
    intro seqNumber has
    cases has
    refine .inr ?_
    intro other inside same
    exact paired.fresh room (paired.held other inside _ same) rfl
  · intro place inside seqNumber has
    rcases List.mem_or_eq_of_mem_set inside with old | rfl
    · exact paired.unsent place old seqNumber has
    · cases has
      intro sent
      obtain ⟨request,there,same⟩ := List.mem_map.mp sent
      exact paired.fresh room (paired.past request there) same
  · refine paired.addresses.set at_ ?_
    intro own has
    cases has

theorem Paired.send (paired : Paired system) {stub : DBinderServiceStub} {retryTimes : Nat} {info : ThreadLockInfo}
    (at_ : system.calls[call]? = some (.invoking stub retryTimes info .sending)) :
    Paired ({ system with sent := ⟨info.seqNumber,stub.binderObject,stub.cookie⟩ :: system.sent }.moveCall call
      (.invoking stub retryTimes info .sent)) := by
  have member := List.mem_of_getElem? at_
  refine { paired with held := ?_, past := ?_, numbers := ?_, unsent := ?_, once := ?_, addresses := ?_ }
  · intro place inside seqNumber has
    rcases List.mem_or_eq_of_mem_set inside with old | rfl
    · exact paired.held place old seqNumber has
    · exact paired.held _ member seqNumber has
  · intro request inside
    rcases List.mem_cons.mp inside with rfl | old
    · exact paired.held _ member info.seqNumber rfl
    · exact paired.past request old
  · exact paired.numbers.set at_ fun seqNumber has => .inl has
  · intro place inside seqNumber has
    obtain ⟨index,there⟩ := List.mem_iff_getElem?.mp inside
    rcases at_set there with ⟨-,rfl⟩ | ⟨elsewhere,old⟩
    · cases has
    · intro sent
      rcases List.mem_cons.mp sent with rfl | earlier
      · exact elsewhere (paired.numbers index call place _ _ old at_ (number_of_unsent has) rfl)
      · exact paired.unsent place (List.mem_of_getElem? old) seqNumber has earlier
  · exact List.nodup_cons.mpr ⟨paired.unsent _ member info.seqNumber rfl,paired.once⟩
  · exact paired.addresses.set at_ fun own has => .inl has

theorem invokerStep_paired (paired : Paired system) {stub : DBinderServiceStub} {retryTimes : Nat} {info : ThreadLockInfo} {stage : Stage}
    (at_ : system.calls[call]? = some (.invoking stub retryTimes info stage))
    (step : InvokerStep system call stub retryTimes info succeeds stage next) : Paired next := by
  -- within a try the call keeps its number, and what was sent stays so
  have goes : ∀ (later : Stage), (Stage.beforeSend later = true → Stage.beforeSend stage = true) →
      Paired (system.moveCall call (.invoking stub retryTimes info later)) := by
    intro later sent
    refine paired.moveCall at_ (fun _ has => has) ?_ (fun _ has => .inl has)
    intro seqNumber has
    rw [unsent?] at has ⊢
    split at has
    · rename_i still
      rw [if_pos (sent still)]
      exact has
    · cases has
  cases step with
  | attaches => exact (goes .locking fun _ => rfl).of_lists system.dBinderStubs (info :: system.threadLocks) system.sessionInfos
  | locks => exact goes .sending fun _ => rfl
  | sends => exact paired.send at_
  | unsent => exact goes (.querying false) fun _ => rfl
  | waits => exact goes .waiting fun same => same
  | timeless => exact goes (.detaching false) fun same => same
  | wakes => exact goes (.querying true) fun same => same
  | queries => exact goes (.detaching _) fun same => same
  | @detaches ret =>
    obtain ⟨number,free⟩ := quiet_ended stub retryTimes ret
    exact (paired.leave at_ number free).of_lists system.dBinderStubs _ system.sessionInfos

theorem callStep_paired (paired : Paired system) (allowed : met system (.call call address cookie succeeds) = true)
    (at_ : system.calls[call]? = some before) (step : CallStep system call address cookie succeeds before next) : Paired next := by
  simp only [met,at_] at allowed
  cases step with
  | finds | misses | makes | unmade | searches | sessionless => exact paired.leave at_ rfl rfl
  | @adds stub => exact (paired.leave at_ rfl rfl).of_lists (stub :: system.dBinderStubs) system.threadLocks system.sessionInfos
  | numbers => exact paired.number at_ (of_decide_eq_true allowed)
  | counts =>
    rw [of_decide_eq_true allowed]
    exact paired.moveCall at_ (fun _ has => has) (fun _ has => has) (fun _ has => by cases has)
  | creates free =>
    refine paired.moveCall at_ (fun _ has => has) (fun _ has => has) ?_
    intro own has
    cases has
    refine .inr ?_
    intro other inside same
    obtain ⟨info,owned,equal⟩ := Option.map_eq_some_iff.mp same
    exact List.any_eq_false.mp free info (List.mem_filterMap.mpr ⟨other,inside,owned⟩) (decide_eq_true equal)
  | @uncreated stub retryTimes =>
    obtain ⟨number,free⟩ := quiet_ended stub retryTimes false
    exact paired.leave at_ number free
  | invokes step => exact invokerStep_paired paired at_ step
  | detaches => exact (paired.leave at_ rfl rfl).of_lists system.dBinderStubs system.threadLocks _
  | deletes => exact (paired.leave at_ rfl rfl).of_lists _ system.threadLocks system.sessionInfos

/-- The call that a signal reaches is the one whose number was looked up. -/
theorem Paired.signal (paired : Paired system) {info : ThreadLockInfo} (found : info.seqNumber = message.seqNumber)
    (owned : ∃ place ∈ system.calls, place.info? = some info) :
    Paired (system.signal info.address message.seqNumber) := by
  obtain ⟨owner,member,owns⟩ := owned
  refine { paired with held := ?_, numbers := ?_, unsent := ?_, addresses := ?_, woken := ?_ }
  · intro place inside seqNumber has
    obtain ⟨earlier,old,rfl⟩ := List.mem_map.mp inside
    rw [number_wake] at has
    exact paired.held earlier old seqNumber has
  · exact paired.numbers.map (number_wake info.address)
  · intro place inside seqNumber has
    obtain ⟨earlier,old,rfl⟩ := List.mem_map.mp inside
    rw [unsent_wake] at has
    exact paired.unsent earlier old seqNumber has
  · refine paired.addresses.map ?_
    intro item
    rw [address?,address?,info_wake]
  · intro wake inside
    rcases List.mem_append.mp inside with new | old
    · obtain ⟨own,waited,rfl⟩ := List.mem_map.mp new
      obtain ⟨place,there,waits⟩ := List.mem_filterMap.mp waited
      rw [Call.waitsAt.eq_def] at waits
      split at waits
      · rename_i stub retryTimes other
        split at waits
        · rename_i same
          cases waits
          obtain ⟨one,first⟩ := List.mem_iff_getElem?.mp there
          obtain ⟨two,second⟩ := List.mem_iff_getElem?.mp member
          have mine : address? owner = some info.address := congrArg (Option.map ThreadLockInfo.address) owns
          have equal := paired.addresses one two _ _ info.address first second (congrArg some same) mine
          subst equal
          rw [first] at second
          cases second
          cases owns
          exact found
        · cases waits
      · cases waits
    · exact paired.woken wake old

theorem replyStep_paired (paired : Paired system) (allowed : met system (.reply reply address succeeds) = true) {place : Place}
    (at_ : system.replies[reply]? = some ⟨message,place⟩) (step : ReplyStep system reply address succeeds message place next) :
    Paired next := by
  simp only [met,at_] at allowed
  cases step with
  | validates | invalid | queries | answered | unattached | misses => exact paired.moveReply fun _ same => by cases same
  | attaches => exact (paired.of_lists system.dBinderStubs system.threadLocks _).moveReply fun _ same => by cases same
  | looksUp looked =>
    refine paired.moveReply ?_
    intro other same
    cases same
    rw [System.queryThreadLockInfo] at looked
    have same := List.find?_some looked
    exact of_decide_eq_true same
  | @signals info free =>
    obtain ⟨owner,inside,owns⟩ := List.any_eq_true.mp allowed
    have found := paired.found _ (List.mem_of_getElem? at_) info rfl
    exact (paired.signal found ⟨owner,inside,of_decide_eq_true owns⟩).moveReply fun _ same => by cases same

theorem step_paired {event : Event} (paired : Paired system) (allowed : met system event = true)
    (taken : fires System.step system event next) : Paired next := by
  cases event with
  | makeRemoteBinder serviceName deviceID binderObject =>
    cases taken
    refine { paired with held := ?_, numbers := paired.numbers.concat rfl, unsent := ?_, addresses := paired.addresses.concat rfl }
    · intro place inside seqNumber has
      rcases List.mem_append.mp inside with old | new
      · exact paired.held place old seqNumber has
      · cases List.mem_singleton.mp new
        cases has
    · intro place inside seqNumber has
      rcases List.mem_append.mp inside with old | new
      · exact paired.unsent place old seqNumber has
      · cases List.mem_singleton.mp new
        cases has
  | call call address cookie succeeds =>
    obtain ⟨before,at_,step⟩ := callStep_of_taken taken
    exact callStep_paired paired allowed at_ step
  | timeout call =>
    rw [fires,System.step,System.timeout] at taken
    split at taken
    · rename_i stub retryTimes info at_
      cases taken
      exact paired.moveCall at_ (fun _ has => has) (fun _ has => by cases has) (fun _ has => .inl has)
    · cases taken
  | onRemoteMessageTask message =>
    cases taken
    rw [System.onRemoteMessageTask]
    split
    · refine { paired with found := ?_ }
      intro other inside info same
      rcases List.mem_append.mp inside with old | new
      · exact paired.found other old info same
      · cases List.mem_singleton.mp new
        cases same
    · exact paired
  | reply reply address succeeds =>
    obtain ⟨message,place,at_,step⟩ := replyStep_of_taken taken
    exact replyStep_paired paired allowed at_ step

end Steps

/-- The number of a call whose request has been sent and whose wait has not ended. -/
def pending? : Call → Option UInt32
  | .invoking _ _ info .sent | .invoking _ _ info .waiting => some info.seqNumber
  | _ => none

def HasSession (system : System) (stub : UInt64) : Prop := ∃ session ∈ system.sessionInfos, session.stub = stub

/-- What holds of a try, by its stage. -/
def StageFits (system : System) (stub : DBinderServiceStub) : Stage → Prop
  | .woken | .querying true => HasSession system stub.cookie
  | .querying false | .detaching false => False
  | _ => True

/-- What holds of a call, when all requests are answered in time: it is not about to fail. -/
def Fits (system : System) : Call → Prop
  | .querying _ _ _ | .making _ _ _ | .adding _ | .returned (some _) => True
  | .numbering stub _ | .counted stub _ _ | .creating stub _ _ => stub ∈ system.dBinderStubs
  | .invoking stub _ info stage =>
    stub ∈ system.dBinderStubs ∧ (stage ≠ .attaching → info ∈ system.threadLocks) ∧
      (Stage.beforeSend stage = false → (⟨info.seqNumber,stub.binderObject,stub.cookie⟩ : Request) ∈ system.sent) ∧
      StageFits system stub stage
  | .searching _ | .detachingSession _ _ | .deleting _ | .returned none => False

/-- What a reply has brought about, by its place. -/
def PlaceFits (system : System) (message : DHandleEntryTxRx) : Place → Prop
  | .validating | .querying | .attaching => True
  | .lookingUp | .signalling _ => HasSession system message.stub
  | .done => ∀ place ∈ system.calls, pending? place ≠ some message.seqNumber

structure Serving (system : System) : Prop where
  fits : ∀ place ∈ system.calls, Fits system place
  known : ∀ request ∈ system.sent, ∃ stub ∈ system.dBinderStubs, stub.binderObject = request.binderObject
  answers : ∀ reply ∈ system.replies, requestOf reply.message ∈ system.sent ∧ isValidSessionName reply.message = true ∧
    reply.message.stubIndex ≠ 0
  places : ∀ reply ∈ system.replies, PlaceFits system reply.message reply.place

theorem serving_new : Serving System.new := by
  refine ⟨?_,?_,?_,?_⟩
  all_goals
    intro item member
    cases member

theorem querySessionObject_isSome {system : System} {stub : UInt64} :
    (system.querySessionObject stub).isSome = true ↔ HasSession system stub := by
  rw [System.querySessionObject,List.find?_isSome]
  simp only [decide_eq_true_eq,HasSession]

section Serving
variable {system next : System} {call reply : Nat} {before after : Call} {address cookie : UInt64} {succeeds : Bool}
  {message : DHandleEntryTxRx}

theorem Serving.grow (serving : Serving system) {dBinderStubs : List DBinderServiceStub} {threadLocks : List ThreadLockInfo}
    {sessionInfos : List SessionInfo} {sent : List Request} (stubs : system.dBinderStubs ⊆ dBinderStubs)
    (locks : ∀ place ∈ system.calls, ∀ info, place.info? = some info → info ∈ system.threadLocks → info ∈ threadLocks)
    (sessions : system.sessionInfos ⊆ sessionInfos) (requests : system.sent ⊆ sent)
    (known : ∀ request ∈ sent, ∃ stub ∈ dBinderStubs, stub.binderObject = request.binderObject) :
    Serving { system with
      dBinderStubs := dBinderStubs, threadLocks := threadLocks, sessionInfos := sessionInfos, sent := sent } := by
  have session : ∀ stub, HasSession system stub → ∃ session ∈ sessionInfos, session.stub = stub := by
    rintro stub ⟨session,inside,same⟩
    exact ⟨session,sessions inside,same⟩
  refine ⟨?_,known,?_,?_⟩
  · intro place inside
    have fits := serving.fits place inside
    cases place with
    | invoking stub retryTimes info stage =>
      obtain ⟨registered,listed,own,checked⟩ := fits
      refine ⟨stubs registered,fun later => locks _ inside info rfl (listed later),fun later => requests (own later),?_⟩
      cases stage with
      | woken => exact session stub.cookie checked
      | querying ret =>
        cases ret with
        | true => exact session stub.cookie checked
        | false => exact checked
      | detaching ret =>
        cases ret with
        | true => trivial
        | false => exact checked
      | _ => trivial
    | numbering | counted | creating => exact stubs fits
    | returned result =>
      cases result with
      | some stub => trivial
      | none => exact fits
    | searching | detachingSession | deleting => exact fits
    | _ => trivial
  · intro other inside
    obtain ⟨answers,valid⟩ := serving.answers other inside
    exact ⟨requests answers,valid⟩
  · intro other inside
    have fits := serving.places other inside
    obtain ⟨message,place⟩ := other
    cases place with
    | lookingUp | signalling => exact session message.stub fits
    | done => exact fits
    | _ => trivial

theorem Serving.moveCall (serving : Serving system) (at_ : system.calls[call]? = some before) (fits : Fits system after)
    (pending : ∀ seqNumber, pending? after = some seqNumber → pending? before = some seqNumber ∨
      ∀ reply ∈ system.replies, reply.place = .done → reply.message.seqNumber ≠ seqNumber) : Serving (system.moveCall call after) := by
  refine ⟨?_,serving.known,serving.answers,?_⟩
  · intro place inside
    have old : Fits system place := by
      rcases List.mem_or_eq_of_mem_set inside with before | rfl
      · exact serving.fits place before
      · exact fits
    exact old
  · intro other inside
    have places := serving.places other inside
    obtain ⟨message,place⟩ := other
    cases place with
    | done =>
      intro place there waits
      rcases List.mem_or_eq_of_mem_set there with old | rfl
      · exact places place old waits
      · rcases pending _ waits with had | fresh
        · exact places before (List.mem_of_getElem? at_) had
        · exact fresh _ inside rfl rfl
    | _ => exact places

theorem Serving.go (serving : Serving system) (at_ : system.calls[call]? = some before) (fits : Fits system after)
    (idle : pending? after = none) : Serving (system.moveCall call after) := by
  refine serving.moveCall at_ fits ?_
  intro seqNumber waits
  rw [idle] at waits
  cases waits

theorem Serving.moveReply (serving : Serving system) {place : Place}
    (at_ : ∃ earlier, system.replies[reply]? = some ⟨message,earlier⟩) (fits : PlaceFits system message place) :
    Serving (system.moveReply reply message place) := by
  obtain ⟨earlier,at_⟩ := at_
  refine ⟨serving.fits,serving.known,?_,?_⟩
  · intro other inside
    rcases List.mem_or_eq_of_mem_set inside with old | rfl
    · exact serving.answers other old
    · exact serving.answers ⟨message,earlier⟩ (List.mem_of_getElem? at_)
  · intro other inside
    have old : PlaceFits system other.message other.place := by
      rcases List.mem_or_eq_of_mem_set inside with before | rfl
      · exact serving.places other before
      · exact fits
    exact old

theorem invokerStep_serving (paired : Paired system) (serving : Serving system) {stub : DBinderServiceStub} {retryTimes : Nat}
    {info : ThreadLockInfo} {stage : Stage} (at_ : system.calls[call]? = some (.invoking stub retryTimes info stage))
    (allowed : served system (.call call address cookie succeeds) = true)
    (step : InvokerStep system call stub retryTimes info succeeds stage next) : Serving next := by
  have member := List.mem_of_getElem? at_
  obtain ⟨registered,listed,own,checked⟩ := serving.fits _ member
  have stays : ∀ place ∈ system.calls, ∀ other, place.info? = some other → other ∈ system.threadLocks → other ∈ system.threadLocks :=
    fun _ _ _ _ inside => inside
  simp only [served,at_] at allowed
  cases step with
  | attaches =>
    have grown := @Serving.grow system serving system.dBinderStubs (info :: system.threadLocks) system.sessionInfos system.sent (fun _ => id)
      (fun _ _ _ _ inside => List.mem_cons_of_mem _ inside) (fun _ => id) (fun _ => id) serving.known
    exact grown.go at_ ⟨registered,fun _ => List.mem_cons_self,(fun sent => by cases sent),trivial⟩ rfl
  | locks => exact serving.go at_ ⟨registered,fun _ => listed (by simp),(fun sent => by cases sent),trivial⟩ rfl
  | sends =>
    have grown := @Serving.grow system serving system.dBinderStubs system.threadLocks system.sessionInfos
      (⟨info.seqNumber,stub.binderObject,stub.cookie⟩ :: system.sent) (fun _ => id) stays (fun _ => id) (fun _ => List.mem_cons_of_mem _) (by
        intro request inside
        rcases List.mem_cons.mp inside with rfl | old
        · exact ⟨stub,registered,rfl⟩
        · exact serving.known request old)
    refine grown.moveCall at_ ⟨registered,fun _ => listed (by simp),fun _ => List.mem_cons_self,trivial⟩ ?_
    -- a reply that is done answered a request that was sent before
    intro seqNumber same
    cases same
    refine .inr ?_
    intro other inside _ equal
    obtain ⟨answers,-⟩ := serving.answers other inside
    refine paired.unsent _ member info.seqNumber rfl ?_
    rw [← equal]
    exact List.mem_map_of_mem answers
  | unsent failed | timeless failed =>
    rw [failed] at allowed
    cases allowed
  | waits => exact serving.moveCall at_ ⟨registered,fun _ => listed (by simp),fun _ => own rfl,trivial⟩ fun _ waits => .inl waits
  | wakes => exact serving.go at_ ⟨registered,fun _ => listed (by simp),fun _ => own rfl,checked⟩ rfl
  | @queries ret =>
    cases ret with
    | false => exact checked.elim
    | true =>
      rw [querySessionObject_isSome.mpr checked]
      exact serving.go at_ ⟨registered,fun _ => listed (by simp),fun _ => own rfl,trivial⟩ rfl
  | @detaches ret =>
    cases ret with
    | false => exact checked.elim
    | true =>
      have returned : Fits system (.ended stub retryTimes true) := trivial
      have left := serving.go at_ returned rfl
      refine left.grow (fun _ => id) ?_ (fun _ => id) (fun _ => id) serving.known
      intro place inside other owns there
      obtain ⟨index,found⟩ := List.mem_iff_getElem?.mp inside
      rcases at_set found with ⟨-,rfl⟩ | ⟨elsewhere,old⟩
      · cases owns
      · refine (List.mem_eraseP_of_neg ?_).mpr there
        intro same
        refine elsewhere (paired.addresses index call _ _ info.address old at_ ?_ rfl)
        rw [address?,owns,← of_decide_eq_true same]
        rfl

theorem callStep_serving (paired : Paired system) (serving : Serving system)
    (allowed : served system (.call call address cookie succeeds) = true) (at_ : system.calls[call]? = some before)
    (step : CallStep system call address cookie succeeds before next) : Serving next := by
  have fits := serving.fits before (List.mem_of_getElem? at_)
  cases step with
  | finds found => exact serving.go at_ (List.mem_of_find?_eq_some found) rfl
  | misses | makes =>
    refine serving.go at_ ?_ rfl
    trivial
  | unmade failed =>
    simp only [served,at_,Bool.and_eq_true,decide_eq_true_eq] at allowed
    exact absurd allowed failed
  | @adds stub =>
    have grown := @Serving.grow system serving (stub :: system.dBinderStubs) system.threadLocks system.sessionInfos system.sent
      (fun _ => List.mem_cons_of_mem _) (fun _ _ _ _ inside => inside) (fun _ => id) (fun _ => id) (by
        intro request inside
        obtain ⟨known,there,same⟩ := serving.known request inside
        exact ⟨known,List.mem_cons_of_mem _ there,same⟩)
    exact grown.go at_ List.mem_cons_self rfl
  | @numbers stub retryTimes =>
    have still : Fits system (.counted stub retryTimes (system.seqNumber+1)) := fits
    have moved := serving.go at_ still rfl
    exact ⟨moved.fits,moved.known,moved.answers,moved.places⟩
  | counts => exact serving.go at_ fits rfl
  | creates => exact serving.go at_ ⟨fits,fun attaching => absurd rfl attaching,(fun sent => by cases sent),trivial⟩ rfl
  | uncreated failed =>
    simp only [served,at_] at allowed
    rw [failed] at allowed
    cases allowed
  | invokes step => exact invokerStep_serving paired serving at_ allowed step
  | searches | sessionless | detaches | deletes => exact fits.elim

/-- A signal wakes the call whose request the reply answers. -/
theorem signal_serving (paired : Paired system) (serving : Serving system) {info : ThreadLockInfo}
    (at_ : system.replies[reply]? = some ⟨message,.signalling info⟩) (owned : ∃ place ∈ system.calls, place.info? = some info)
    (free : system.calls.any (Call.locks info.address) = false) :
    Serving ((system.signal info.address message.seqNumber).moveReply reply message .done) := by
  have handler := List.mem_of_getElem? at_
  obtain ⟨answers,valid⟩ := serving.answers _ handler
  have session : HasSession system message.stub := serving.places _ handler
  have found := paired.found _ handler info rfl
  obtain ⟨owner,member,owns⟩ := owned
  obtain ⟨two,second⟩ := List.mem_iff_getElem?.mp member
  have woken : Serving (system.signal info.address message.seqNumber) := by
    refine ⟨?_,serving.known,serving.answers,?_⟩
    · intro place inside
      obtain ⟨earlier,old,rfl⟩ := List.mem_map.mp inside
      have fits := serving.fits earlier old
      have same : Fits system (earlier.wake info.address) := by
        rw [Call.wake.eq_def]
        split
        · rename_i stub retryTimes other
          obtain ⟨registered,listed,own,-⟩ := fits
          split
          · rename_i there
            refine ⟨registered,fun _ => listed (by simp),fun _ => own rfl,?_⟩
            -- the two requests have one number
            obtain ⟨one,first⟩ := List.mem_iff_getElem?.mp old
            have equal := paired.addresses one two _ _ info.address first second (congrArg some there)
              (congrArg (Option.map ThreadLockInfo.address) owns)
            subst equal
            rw [first] at second
            cases second
            cases owns
            have requests := entry_unique paired.once (own rfl) answers found
            have cookies : stub.cookie = message.stub := congrArg Request.stub requests
            change HasSession system stub.cookie
            rw [cookies]
            exact session
          · exact ⟨registered,listed,own,trivial⟩
        · exact fits
      exact same
    · intro other inside
      have places := serving.places other inside
      obtain ⟨earlier,place⟩ := other
      cases place with
      | done =>
        intro place there waits
        obtain ⟨asleep,old,rfl⟩ := List.mem_map.mp there
        refine places asleep old ?_
        rw [Call.wake.eq_def] at waits
        split at waits
        · split at waits
          · cases waits
          · exact waits
        · exact waits
      | _ => exact places
  refine woken.moveReply ⟨_,at_⟩ ?_
  -- the call with this number had the lock, or was waiting and is woken
  intro place there waits
  obtain ⟨asleep,old,rfl⟩ := List.mem_map.mp there
  obtain ⟨one,first⟩ := List.mem_iff_getElem?.mp old
  have mine : number? owner = some message.seqNumber := by
    cases owner with
    | invoking stub retryTimes other stage =>
      cases owns
      exact congrArg some found
    | _ => cases owns
  have numbered : number? asleep = some message.seqNumber := by
    rw [← number_wake info.address]
    cases place : asleep.wake info.address with
    | invoking stub retryTimes other stage =>
      rw [place] at waits
      cases stage with
      | sent | waiting => exact waits
      | _ => cases waits
    | _ =>
      rw [place] at waits
      cases waits
  have equal := paired.numbers one two _ _ message.seqNumber first second numbered mine
  subst equal
  have same := Option.some.inj (first.symm.trans second)
  subst same
  cases asleep with
  | invoking stub retryTimes other stage =>
    cases owns
    cases stage with
    | waiting =>
      rw [Call.wake,if_pos rfl] at waits
      cases waits
    | sent =>
      refine List.any_eq_false.mp free _ old ?_
      simp [Call.locks,Stage.holds]
    | _ => cases waits
  | _ => cases owns

theorem replyStep_serving (paired : Paired system) (serving : Serving system)
    (pairs : met system (.reply reply address succeeds) = true) (allowed : served system (.reply reply address succeeds) = true)
    {place : Place} (at_ : system.replies[reply]? = some ⟨message,place⟩)
    (step : ReplyStep system reply address succeeds message place next) : Serving next := by
  have member := List.mem_of_getElem? at_
  obtain ⟨answers,valid,index⟩ := serving.answers _ member
  have fits := serving.places _ member
  simp only [met,at_] at pairs
  cases step with
  | validates | queries => exact serving.moveReply ⟨_,at_⟩ trivial
  | invalid unknown =>
    obtain ⟨stub,inside,same⟩ := serving.known _ answers
    exact absurd (decide_eq_true same) (List.any_eq_false.mp unknown stub inside)
  | answered already =>
    refine serving.moveReply ⟨_,at_⟩ ?_
    change isValidSessionName message = true at valid
    rw [valid,Bool.and_true,Option.isNone_eq_false_iff] at already
    exact querySessionObject_isSome.mp already
  | attaches =>
    have grown := @Serving.grow system serving system.dBinderStubs system.threadLocks
      (sessionOf message address :: system.sessionInfos) system.sent (fun _ => id) (fun _ _ _ _ inside => inside)
      (fun _ => List.mem_cons_of_mem _) (fun _ => id) serving.known
    exact grown.moveReply ⟨_,at_⟩ ⟨_,List.mem_cons_self,rfl⟩
  | unattached failed =>
    simp only [served,at_] at allowed
    exact absurd ⟨allowed,index⟩ failed
  | misses absent =>
    refine serving.moveReply ⟨_,at_⟩ ?_
    intro place inside waits
    have there := serving.fits place inside
    rw [System.queryThreadLockInfo,List.find?_eq_none] at absent
    cases place with
    | invoking stub retryTimes info stage =>
      obtain ⟨-,listed,-,-⟩ := there
      cases stage with
      | sent | waiting => exact absent info (listed (by simp)) (decide_eq_true (Option.some.inj waits))
      | _ => cases waits
    | _ => cases waits
  | looksUp => exact serving.moveReply ⟨_,at_⟩ fits
  | signals free =>
    obtain ⟨owner,inside,owns⟩ := List.any_eq_true.mp pairs
    exact signal_serving paired serving at_ ⟨owner,inside,of_decide_eq_true owns⟩ free

theorem step_serving {event : Event} (paired : Paired system) (serving : Serving system) (pairs : met system event = true)
    (allowed : served system event = true) (taken : fires System.step system event next) : Serving next := by
  cases event with
  | makeRemoteBinder serviceName deviceID binderObject =>
    cases taken
    refine ⟨?_,serving.known,serving.answers,?_⟩
    · intro place inside
      rcases List.mem_append.mp inside with old | new
      · exact serving.fits place old
      · cases List.mem_singleton.mp new
        trivial
    · intro other inside
      have places := serving.places other inside
      obtain ⟨message,place⟩ := other
      cases place with
      | done =>
        intro place there waits
        rcases List.mem_append.mp there with old | new
        · exact places place old waits
        · cases List.mem_singleton.mp new
          cases waits
      | _ => exact places
  | call call address cookie succeeds =>
    obtain ⟨before,at_,step⟩ := callStep_of_taken taken
    exact callStep_serving paired serving allowed at_ step
  | timeout call => cases allowed
  | onRemoteMessageTask message =>
    cases taken
    rw [System.onRemoteMessageTask]
    split
    · rename_i code
      have valid := of_decide_eq_true allowed code
      refine ⟨serving.fits,serving.known,?_,?_⟩
      all_goals
        intro other inside
        rcases List.mem_append.mp inside with old | new
      · exact serving.answers other old
      · cases List.mem_singleton.mp new
        exact valid
      · exact serving.places other old
      · cases List.mem_singleton.mp new
        trivial
    · exact serving
  | reply reply address succeeds =>
    obtain ⟨message,place,at_,step⟩ := replyStep_of_taken taken
    exact replyStep_serving paired serving pairs allowed at_ step

end Serving

/-- The steps that a call has before it at most. -/
def rest : Call → Nat
  | .querying _ _ _ => 28
  | .making _ _ _ => 27
  | .adding _ => 26
  | .numbering _ retryTimes => 14+11*(RETRY_TIMES-(retryTimes+1))
  | .counted _ retryTimes _ => 13+11*(RETRY_TIMES-(retryTimes+1))
  | .creating _ retryTimes _ => 12+11*(RETRY_TIMES-(retryTimes+1))
  | .invoking _ retryTimes _ stage =>
    3+11*(RETRY_TIMES-(retryTimes+1))+match stage with
      | .attaching => 8
      | .locking => 7
      | .sending => 6
      | .sent => 5
      | .waiting => 4
      | .woken => 3
      | .querying _ => 2
      | .detaching _ => 1
  | .searching _ => 3
  | .detachingSession _ _ => 2
  | .deleting _ => 1
  | .returned _ => 0

def ahead (reply : Reply) : Nat :=
  match reply.place with
  | .validating => 5
  | .querying => 4
  | .attaching => 3
  | .lookingUp => 2
  | .signalling _ => 1
  | .done => 0

def Event.isStep : Event → Bool
  | .call _ _ _ _ | .timeout _ | .reply _ _ _ => true
  | _ => false

def work (system : System) : Nat := (system.calls.map rest).sum+(system.replies.map ahead).sum

section Bound
variable {system next : System} {call reply : Nat} {before after : Call} {address cookie : UInt64} {succeeds : Bool}
  {message : DHandleEntryTxRx}

theorem rest_ended (stub : DBinderServiceStub) (retryTimes : Nat) (ret : Bool) :
    rest (.ended stub retryTimes ret) ≤ 3+11*(RETRY_TIMES-(retryTimes+1)) := by
  rw [Call.ended]
  split
  · exact Nat.zero_le _
  · split
    · rename_i again
      simp only [rest]
      omega
    · exact Nat.le_add_right _ _

theorem rest_wake (address : UInt64) (call : Call) : rest (call.wake address) ≤ rest call := by
  rcases wake_cases address call with still | ⟨stub,retryTimes,info,rfl,woken⟩
  · rw [still]
  · rw [woken]
    simp only [rest]
    omega

/-- A call took a step, and nobody else did. -/
structure Stepped (system next : System) : Prop where
  calls : next.calls.length = system.calls.length
  replies : next.replies.length = system.replies.length
  less : work next < work system

theorem stepped_moveCall {other : System} (at_ : system.calls[call]? = some before) (less : rest after < rest before)
    (calls : other.calls = system.calls) (replies : other.replies = system.replies) : Stepped system (other.moveCall call after) := by
  refine ⟨?_,congrArg List.length replies,?_⟩
  · rw [System.moveCall,List.length_set,calls]
  · have total := @sum_set _ system.calls before call after rest at_
    simp only [work,System.moveCall,calls,replies]
    omega

theorem stepped_moveReply {other : System} {earlier later : Place} (at_ : system.replies[reply]? = some ⟨message,earlier⟩)
    (less : ahead ⟨message,later⟩ < ahead ⟨message,earlier⟩) (size : other.calls.length = system.calls.length)
    (calls : (other.calls.map rest).sum ≤ (system.calls.map rest).sum) (replies : other.replies = system.replies) :
    Stepped system (other.moveReply reply message later) := by
  refine ⟨size,?_,?_⟩
  · rw [System.moveReply,List.length_set,replies]
  · have total := @sum_set _ system.replies _ reply ⟨message,later⟩ ahead at_
    simp only [work,System.moveReply,replies]
    omega

theorem invokerStep_stepped {stub : DBinderServiceStub} {retryTimes : Nat} {info : ThreadLockInfo} {stage : Stage}
    (at_ : system.calls[call]? = some (.invoking stub retryTimes info stage))
    (step : InvokerStep system call stub retryTimes info succeeds stage next) : Stepped system next := by
  cases step with
  | @detaches ret =>
    refine stepped_moveCall at_ ?_ rfl rfl
    have most := rest_ended stub retryTimes ret
    simp only [rest] at most ⊢
    omega
  | attaches | locks | sends | unsent | waits | timeless | wakes | queries =>
    refine stepped_moveCall at_ ?_ rfl rfl
    simp only [rest]
    omega

theorem callStep_stepped (at_ : system.calls[call]? = some before) (step : CallStep system call address cookie succeeds before next) :
    Stepped system next := by
  cases step with
  | finds | misses | makes | unmade | adds | numbers | counts | searches | sessionless | detaches | deletes =>
    refine stepped_moveCall at_ ?_ rfl rfl
    simp [rest,RETRY_TIMES]
  | creates =>
    refine stepped_moveCall at_ ?_ rfl rfl
    simp only [rest]
    omega
  | @uncreated stub retryTimes =>
    refine stepped_moveCall at_ ?_ rfl rfl
    have most := rest_ended stub retryTimes false
    simp only [rest] at most ⊢
    omega
  | invokes step => exact invokerStep_stepped at_ step

theorem replyStep_stepped {place : Place} (at_ : system.replies[reply]? = some ⟨message,place⟩)
    (step : ReplyStep system reply address succeeds message place next) : Stepped system next := by
  cases step with
  | validates | invalid | queries | answered | attaches | unattached | misses | looksUp =>
    exact stepped_moveReply at_ (by simp [ahead]) rfl (Nat.le_refl _) rfl
  | @signals info =>
    refine stepped_moveReply at_ (by simp [ahead]) (List.length_map _) ?_ rfl
    rw [System.signal,List.map_map]
    exact List.sum_le_sum fun place _ => rest_wake info.address place

/-- A call takes at most 28 steps, a reply at most 5. -/
theorem steps_bounded {events : List Event} {system : System} (run : Reaches (fires System.step) System.new events system) :
    events.countP Event.isStep+work system ≤ 28*system.calls.length+5*system.replies.length := by
  have counted : ∀ {events : List Event} {event : Event} {before after : System}, Stepped before after →
      events.countP Event.isStep+work before ≤ 28*before.calls.length+5*before.replies.length →
        (events ++ [event]).countP Event.isStep+work after ≤ 28*after.calls.length+5*after.replies.length := by
    intro events event before after stepped bound
    have calls := stepped.calls
    have replies := stepped.replies
    have less := stepped.less
    have one : [event].countP Event.isStep ≤ 1 := List.countP_le_length
    rw [List.countP_append]
    omega
  refine run.trace_invariant
    (fun events system => events.countP Event.isStep+work system ≤ 28*system.calls.length+5*system.replies.length) (Nat.le_refl _) ?_
  intro events before event after bound taken
  cases event with
  | makeRemoteBinder serviceName deviceID binderObject =>
    cases taken
    rw [work] at bound
    rw [List.countP_append,work]
    simp only [List.map_append,List.sum_append,List.length_append,List.map_cons,List.map_nil,List.sum_cons,List.sum_nil,
      List.length_cons,List.length_nil,List.countP_cons,List.countP_nil,Event.isStep,rest]
    simp only [Bool.false_eq_true,if_false]
    omega
  | call call address cookie succeeds =>
    obtain ⟨_,at_,step⟩ := callStep_of_taken taken
    exact counted (callStep_stepped at_ step) bound
  | timeout call =>
    refine counted ?_ bound
    rw [fires,System.step,System.timeout] at taken
    split at taken
    · rename_i stub retryTimes info at_
      cases taken
      refine stepped_moveCall at_ ?_ rfl rfl
      simp only [rest]
      omega
    · cases taken
  | onRemoteMessageTask message =>
    cases taken
    rw [System.onRemoteMessageTask]
    split
    · rw [work] at bound
      rw [List.countP_append,work]
      simp only [List.map_append,List.sum_append,List.length_append,List.map_cons,List.map_nil,List.sum_cons,List.sum_nil,
        List.length_cons,List.length_nil,List.countP_cons,List.countP_nil,Event.isStep,ahead]
      simp only [Bool.false_eq_true,if_false]
      omega
    · rw [List.countP_append]
      exact bound
  | reply reply address succeeds =>
    obtain ⟨_,_,at_,step⟩ := replyStep_of_taken taken
    exact counted (replyStep_stepped at_ step) bound

end Bound

/-- Neither a call nor a reply has a step to take, whatever the surroundings choose. -/
def Quiet (system : System) : Prop :=
  (∀ call address cookie succeeds, system.stepCall call address cookie succeeds = none) ∧
    ∀ reply address succeeds, system.stepReply reply address succeeds = none

def Answered (system : System) : Prop :=
  ∀ request ∈ system.sent, ∃ reply ∈ system.replies, reply.message.seqNumber = request.seqNumber

section Ends
variable {system : System}

theorem Quiet.calls (quiet : Quiet system) {place : Call} (member : place ∈ system.calls) :
    (∃ stub retryTimes info, place = .invoking stub retryTimes info .waiting) ∨ ∃ result, place = .returned result := by
  obtain ⟨call,at_⟩ := List.mem_iff_getElem?.mp member
  have stuck := quiet.1 call 0 0 false
  simp only [System.stepCall,at_] at stuck
  cases place with
  | returned result => exact .inr ⟨result,rfl⟩
  | invoking stub retryTimes info stage =>
    cases stage with
    | waiting => exact .inl ⟨stub,retryTimes,info,rfl⟩
    | _ => cases stuck
  | querying | searching =>
    simp only at stuck
    split at stuck <;> cases stuck
  | _ => cases stuck

theorem Quiet.replies (quiet : Quiet system) {reply : Reply} (member : reply ∈ system.replies) : reply.place = .done := by
  obtain ⟨index,at_⟩ := List.mem_iff_getElem?.mp member
  obtain ⟨message,place⟩ := reply
  have stuck := quiet.2 index 0 false
  simp only [System.stepReply,at_] at stuck
  cases place with
  | done => rfl
  | signalling info =>
    simp only at stuck
    split at stuck
    · rename_i locked
      -- nobody is between the lock and the wait
      obtain ⟨place,inside,locks⟩ := List.any_eq_true.mp locked
      rcases quiet.calls inside with ⟨stub,retryTimes,other,rfl⟩ | ⟨result,rfl⟩
      · simp [Call.locks,Stage.holds] at locks
      · cases locks
    · cases stuck
  | attaching => cases stuck
  | _ =>
    simp only at stuck
    split at stuck <;> cases stuck

theorem quiet_of_ended (calls : ∀ place ∈ system.calls, ∃ result, place = .returned result)
    (replies : ∀ reply ∈ system.replies, reply.place = .done) : Quiet system := by
  refine ⟨?_,?_⟩
  · intro call address cookie succeeds
    rw [System.stepCall]
    cases at_ : system.calls[call]? with
    | none => rfl
    | some place =>
      obtain ⟨result,rfl⟩ := calls place (List.mem_of_getElem? at_)
      rfl
  · intro reply address succeeds
    rw [System.stepReply]
    cases at_ : system.replies[reply]? with
    | none => rfl
    | some handler =>
      have done := replies handler (List.mem_of_getElem? at_)
      obtain ⟨message,place⟩ := handler
      cases done
      rfl

theorem Serving.returned (serving : Serving system) (answered : Answered system) (quiet : Quiet system) {place : Call}
    (member : place ∈ system.calls) : ∃ stub, place = .returned (some stub) := by
  have fits := serving.fits place member
  rcases quiet.calls member with ⟨stub,retryTimes,info,rfl⟩ | ⟨result,rfl⟩
  · obtain ⟨-,-,own,-⟩ := fits
    obtain ⟨⟨message,place⟩,inside,same⟩ := answered _ (own rfl)
    have done : place = .done := quiet.replies inside
    subst done
    refine absurd ?_ (serving.places _ inside _ member)
    exact congrArg some same.symm
  · cases result with
    | none => exact fits.elim
    | some stub => exact ⟨stub,rfl⟩

end Ends

/-- No two requests have the same number. -/
def OwnNumbers (system : System) : Prop := (system.sent.map Request.seqNumber).Nodup

/-- A wait ends with a reply that has its number. -/
def OwnWakes (system : System) : Prop := ∀ wake ∈ system.wakes, wake.1 = wake.2

/-- No call has failed, and when each request has its reply and nobody has a step to take, every call has its stub. -/
def AllReturn (system : System) : Prop :=
  (∀ place ∈ system.calls, place ≠ .returned none) ∧
    (Answered system → Quiet system → ∀ place ∈ system.calls, ∃ stub, place = .returned (some stub))

theorem met_requests_paired {events : List Event} {system : System}
    (run : Reaches (guarded (fires System.step) (fun system event => met system event = true)) System.new events system) :
    OwnNumbers system ∧ OwnWakes system ∧ events.countP Event.isStep ≤ 28*system.calls.length+5*system.replies.length ∧
      (Reaches (guarded (fires System.step) (fun system event => met system event = true ∧ served system event = true)) System.new events
        system → AllReturn system) := by
  have paired := run.invariant Paired paired_new fun _ _ _ paired taken => step_paired paired taken.1 taken.2
  have bounded := steps_bounded (run.mono fun _ _ _ taken => taken.2)
  refine ⟨paired.once,paired.woken,Nat.le_of_add_right_le bounded,?_⟩
  intro runServed
  have both := runServed.invariant (fun system => Paired system ∧ Serving system) ⟨paired_new,serving_new⟩ (by
    intro before event after both taken
    obtain ⟨⟨pairs,allowed⟩,taken⟩ := taken
    exact ⟨step_paired both.1 pairs taken,step_serving both.1 both.2 pairs allowed taken⟩)
  refine ⟨?_,fun answered quiet place => both.2.returned answered quiet⟩
  intro place member same
  subst same
  exact both.2.fits _ member

def answer (seqNumber : UInt32) (binderObject stub : UInt64) : DHandleEntryTxRx :=
  ⟨0,MESSAGE_AS_REPLY,0,0,1,seqNumber,binderObject,⟨3,[],[]⟩,stub,1,[5,0]⟩

/-- Two calls for two services are under way at once; their replies come in the other order. -/
def metEvents : List Event :=
  List.flatten [[.makeRemoteBinder [1] [9] 1,.makeRemoteBinder [2] [9] 2,.call 0 0 0 true,.call 1 0 0 true,.call 0 100 200 true,
    .call 1 101 201 true,.call 0 0 0 true,.call 1 0 0 true,.call 0 0 0 true,.call 0 0 0 true,.call 1 0 0 true,.call 1 0 0 true,
    .call 0 300 0 true,.call 1 301 0 true],List.flatten (List.replicate 4 [.call 0 0 0 true,.call 1 0 0 true]),
    [.onRemoteMessageTask (answer 2 2 201),.onRemoteMessageTask (answer 1 1 200)],
    List.replicate 5 (.reply 0 400 true),List.replicate 5 (.reply 1 401 true),
    List.flatten (List.replicate 3 [.call 0 0 0 true,.call 1 0 0 true])]

theorem met_requests_paired_two :
    ∃ system, Reaches (guarded (fires System.step) (fun system event => met system event = true)) System.new metEvents system ∧
      (OwnNumbers system ∧ OwnWakes system ∧ metEvents.countP Event.isStep ≤ 28*system.calls.length+5*system.replies.length) ∧
        system.calls = [.returned (some ⟨100,[1],[9],1,200⟩),.returned (some ⟨101,[2],[9],2,201⟩)] ∧ Answered system ∧ Quiet system ∧
          AllReturn system := by
  obtain ⟨system,run,reached⟩ := Reaches.exists_of_foldlM_guarded System.step
    (fun system event => met system event = true ∧ served system event = true) System.new metEvents
    (fun system => decide (system.calls = [.returned (some ⟨100,[1],[9],1,200⟩),.returned (some ⟨101,[2],[9],2,201⟩)] ∧
      (∀ request ∈ system.sent, ∃ reply ∈ system.replies, reply.message.seqNumber = request.seqNumber) ∧
      ∀ reply ∈ system.replies, reply.place = .done)) (by decide +kernel)
  obtain ⟨calls,answered,replies⟩ := of_decide_eq_true reached
  have runMet : Reaches (guarded (fires System.step) (fun system event => met system event = true)) System.new metEvents system :=
    run.mono fun _ _ _ taken => ⟨taken.1.1,taken.2⟩
  obtain ⟨numbers,wakes,bound,returns⟩ := met_requests_paired runMet
  refine ⟨system,runMet,⟨numbers,wakes,bound⟩,calls,answered,quiet_of_ended ?_ replies,returns run⟩
  intro place member
  rw [calls] at member
  simp only [List.mem_cons,List.not_mem_nil,or_false] at member
  rcases member with rfl | rfl <;> exact ⟨_,rfl⟩

/-- Two calls count, and then both read the counter. -/
def sameNumber : List Event :=
  List.flatten [[.makeRemoteBinder [1] [9] 1,.makeRemoteBinder [2] [9] 2,.call 0 0 0 true,.call 1 0 0 true,.call 0 100 200 true,
    .call 1 101 201 true,.call 0 0 0 true,.call 1 0 0 true,.call 0 0 0 true,.call 1 0 0 true,.call 0 0 0 true,.call 1 0 0 true,
    .call 0 300 0 true,.call 1 301 0 true],List.flatten (List.replicate 3 [.call 0 0 0 true,.call 1 0 0 true])]

theorem number_sent_twice :
    ∃ system, Reaches (fires System.step) System.new sameNumber system ∧ system.sent = [⟨2,2,201⟩,⟨2,1,200⟩] ∧ ¬ OwnNumbers system := by
  obtain ⟨system,run,reached⟩ := Reaches.exists_of_foldlM System.step System.new sameNumber
    (fun system => decide (system.sent = [⟨2,2,201⟩,⟨2,1,200⟩])) (by decide +kernel)
  have sent := of_decide_eq_true reached
  refine ⟨system,run,sent,?_⟩
  rw [OwnNumbers,sent]
  decide

end CommunicationIpc.LiteNegotiation
