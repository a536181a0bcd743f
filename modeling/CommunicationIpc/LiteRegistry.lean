import CommunicationIpc.Kernel.LiteService
import CommunicationIpc.Library.Entries
import CommunicationIpc.Library.Run
import CommunicationIpc.LiteServiceSteps

/-! The lists of the lite `DBinderService`. A call that fails deletes its stub; where it is alone with the stub, where a reply
names the stub it is for, and where no look-up comes in between another look-up and what relies on that, the stubs that were returned
stay, each service has one stub, and each session has its own. -/
namespace CommunicationIpc.LiteRegistry
open CommunicationIpc.Library CommunicationIpc.Library.Entries CommunicationIpc.Kernel.LiteService CommunicationIpc.LiteServiceSteps

/-- The registered stub that a call works on, or has returned. -/
def stub? : Call → Option DBinderServiceStub
  | .numbering stub _ | .counted stub _ _ | .creating stub _ _ | .invoking stub _ _ _ | .searching stub | .detachingSession stub _
  | .deleting stub => some stub
  | .returned result => result
  | .querying _ _ _ | .making _ _ _ | .adding _ => none

/-- The address of a stub that is allocated and not yet in the list. -/
def adding? : Call → Option UInt64
  | .adding stub => some stub.address
  | _ => none

def keyOf (stub : DBinderServiceStub) : List UInt8 × List UInt8 × UInt64 := (stub.serviceName,stub.deviceID,stub.binderObject)

/-- What a call has looked up, between its `QueryDBinderStub` and its `AddDBinderStub`. -/
def making? : Call → Option (List UInt8 × List UInt8 × UInt64)
  | .making serviceName deviceID binderObject => some (serviceName,deviceID,binderObject)
  | .adding stub => some (keyOf stub)
  | _ => none

/-- The stub of a call that failed, between its `QuerySessionObject` and its `DeleteDBinderStub`. -/
def cleaning? : Call → Option DBinderServiceStub
  | .detachingSession stub _ | .deleting stub => some stub
  | _ => none

/-- The stub field of a reply between its `HasDBinderStub` and its `AttachSessionObject`. -/
def checked? : Reply → Option UInt64
  | ⟨message,.querying⟩ | ⟨message,.attaching⟩ => some message.stub
  | _ => none

/-- The stub field of a reply between its `QuerySessionObject` and its `AttachSessionObject`. -/
def storing? : Reply → Option UInt64
  | ⟨message,.attaching⟩ => some message.stub
  | _ => none

/-- Sections that look something up and then rely on it do not overlap: no call looks up a service that another is adding a stub
for, or deleting the stub of; no reply is checked while its stub is cleaned up, or the other way round, and no two replies for one
stub store at a time. A call that fails is alone with its stub, and a reply names the cookie of a stub that has its binder object. -/
def met (system : System) : Event → Bool
  | .call call _ _ _ =>
    match system.calls[call]? with
    | some (.querying serviceName deviceID binderObject) =>
      system.calls.all fun other => decide (making? other ≠ some (serviceName,deviceID,binderObject) ∧
        (cleaning? other).map keyOf ≠ some (serviceName,deviceID,binderObject))
    | some (.searching stub) =>
      ((system.calls.eraseIdx call).all fun other => decide ((stub? other).map DBinderServiceStub.address ≠ some stub.address)) &&
        system.replies.all fun other => decide (checked? other ≠ some stub.cookie)
    | _ => true
  | .reply reply _ _ =>
    match system.replies[reply]? with
    | some ⟨message,.validating⟩ => !system.hasDBinderStub message.binderObject ||
      (system.dBinderStubs.any fun stub => decide (stub.binderObject = message.binderObject ∧ stub.cookie = message.stub)) &&
        system.calls.all fun other => decide ((cleaning? other).map DBinderServiceStub.cookie ≠ some message.stub)
    | some ⟨message,.querying⟩ => system.replies.all fun other => decide (storing? other ≠ some message.stub)
    | _ => true
  | _ => true

structure Registered (system : System) : Prop where
  held : ∀ place ∈ system.calls, ∀ stub, stub? place = some stub → stub ∈ system.dBinderStubs
  keys : (system.dBinderStubs.map keyOf).Nodup
  addresses : (system.dBinderStubs.map DBinderServiceStub.address).Nodup
  unlisted : ∀ place ∈ system.calls, ∀ address, adding? place = some address →
    address ∉ system.dBinderStubs.map DBinderServiceStub.address
  apart : Apart adding? system.calls
  named : ∀ session ∈ system.sessionInfos, ∃ stub ∈ system.dBinderStubs, stub.cookie = session.stub
  once : (system.sessionInfos.map SessionInfo.stub).Nodup

/-- What a call or a reply has looked up is still so when it relies on it. -/
structure Settled (system : System) : Prop where
  absent : ∀ place ∈ system.calls, ∀ key, making? place = some key → key ∉ system.dBinderStubs.map keyOf
  makers : Apart making? system.calls
  alone : ∀ (index : Nat) place stub, system.calls[index]? = some place → cleaning? place = some stub → ∀ other later, other ≠ index →
    system.calls[other]? = some later → (stub? later).map DBinderServiceStub.address ≠ some stub.address
  unchecked : ∀ place ∈ system.calls, ∀ stub, cleaning? place = some stub → ∀ reply ∈ system.replies, checked? reply ≠ some stub.cookie
  swept : ∀ stub, .deleting stub ∈ system.calls → ∀ session ∈ system.sessionInfos, session.stub ≠ stub.cookie
  found : ∀ stub session, .detachingSession stub session ∈ system.calls → ∀ other ∈ system.sessionInfos, other.stub = stub.cookie →
    other.address = session.address
  sessions : (system.sessionInfos.map SessionInfo.address).Nodup
  validated : ∀ reply ∈ system.replies, ∀ cookie, checked? reply = some cookie → ∃ stub ∈ system.dBinderStubs, stub.cookie = cookie
  unstored : ∀ reply ∈ system.replies, ∀ cookie, storing? reply = some cookie → ∀ session ∈ system.sessionInfos, session.stub ≠ cookie
  writers : Apart storing? system.replies

theorem stub_wake (address : UInt64) (call : Call) : stub? (call.wake address) = stub? call :=
  wake_same (fun _ _ _ => rfl) address call

theorem adding_wake (address : UInt64) (call : Call) : adding? (call.wake address) = adding? call :=
  wake_same (fun _ _ _ => rfl) address call

theorem making_wake (address : UInt64) (call : Call) : making? (call.wake address) = making? call :=
  wake_same (fun _ _ _ => rfl) address call

theorem cleaning_wake (address : UInt64) (call : Call) : cleaning? (call.wake address) = cleaning? call :=
  wake_same (fun _ _ _ => rfl) address call

theorem ended_same (stub : DBinderServiceStub) (retryTimes : Nat) (ret : Bool) :
    stub? (.ended stub retryTimes ret) = some stub ∧ adding? (.ended stub retryTimes ret) = none := by
  rw [Call.ended]
  split
  · exact ⟨rfl,rfl⟩
  · split <;> exact ⟨rfl,rfl⟩

section Steps
variable {system next : System} {call reply : Nat} {before after : Call} {address cookie : UInt64} {succeeds : Bool}
  {message : DHandleEntryTxRx}

/-- Numbers, waits and what is sent have no part in it. -/
theorem Registered.beside (registered : Registered system) (seqNumber : UInt32) (threadLocks : List ThreadLockInfo)
    (replies : List Reply) (drawn : Nat) (sent : List Request) (wakes : List (UInt32 × UInt32)) :
    Registered { system with
      seqNumber := seqNumber, threadLocks := threadLocks, replies := replies, drawn := drawn, sent := sent, wakes := wakes } :=
  ⟨registered.held,registered.keys,registered.addresses,registered.unlisted,registered.apart,registered.named,registered.once⟩

theorem Registered.moveCall (registered : Registered system) (at_ : system.calls[call]? = some before)
    (stub : ∀ stub, stub? after = some stub → stub ∈ system.dBinderStubs)
    (address : ∀ address, adding? after = some address → address ∉ system.dBinderStubs.map DBinderServiceStub.address ∧
      ∀ other ∈ system.calls, adding? other ≠ some address) : Registered (system.moveCall call after) := by
  refine { registered with held := ?_, unlisted := ?_, apart := ?_ }
  · intro place inside named has
    rcases List.mem_or_eq_of_mem_set inside with old | rfl
    · exact registered.held place old named has
    · exact stub named has
  · intro place inside own has
    rcases List.mem_or_eq_of_mem_set inside with old | rfl
    · exact registered.unlisted place old own has
    · exact (address own has).1
  · exact registered.apart.set at_ fun own has => .inr (address own has).2

theorem Registered.keep (registered : Registered system) (at_ : system.calls[call]? = some before)
    (same : ∀ stub, stub? after = some stub → stub? before = some stub) (listed : adding? after = none) :
    Registered (system.moveCall call after) := by
  refine registered.moveCall at_ ?_ ?_
  · intro stub has
    exact registered.held before (List.mem_of_getElem? at_) stub (same stub has)
  · intro address has
    rw [listed] at has
    cases has

theorem invokerStep_registered (registered : Registered system) {stub : DBinderServiceStub} {retryTimes : Nat}
    {info : ThreadLockInfo} {stage : Stage} (at_ : system.calls[call]? = some (.invoking stub retryTimes info stage))
    (step : InvokerStep system call stub retryTimes info succeeds stage next) : Registered next := by
  have goes : ∀ later : Stage, Registered (system.moveCall call (.invoking stub retryTimes info later)) :=
    fun later => registered.keep at_ (fun _ has => has) rfl
  cases step with
  | attaches => exact (goes .locking).beside system.seqNumber _ system.replies system.drawn system.sent system.wakes
  | sends => exact (goes .sent).beside system.seqNumber system.threadLocks system.replies system.drawn _ system.wakes
  | locks | unsent | waits | timeless | wakes | queries => exact goes _
  | @detaches ret =>
    obtain ⟨same,listed⟩ := ended_same stub retryTimes ret
    have ended := registered.keep at_ (fun _ has => same.symm.trans has) listed
    exact ended.beside system.seqNumber _ system.replies system.drawn system.sent system.wakes

theorem Registered.add (registered : Registered system) {stub : DBinderServiceStub} (at_ : system.calls[call]? = some (.adding stub))
    (none_ : system.queryDBinderStub stub.serviceName stub.deviceID stub.binderObject = none) :
    Registered ({ system with dBinderStubs := stub :: system.dBinderStubs }.moveCall call (.numbering stub 0)) := by
  have member := List.mem_of_getElem? at_
  rw [System.queryDBinderStub,List.find?_eq_none] at none_
  refine ⟨?_,?_,?_,?_,?_,?_,registered.once⟩
  · intro place inside named has
    rcases List.mem_or_eq_of_mem_set inside with old | rfl
    · exact List.mem_cons_of_mem _ (registered.held place old named has)
    · cases has
      exact List.mem_cons_self
  · refine List.nodup_cons.mpr ⟨?_,registered.keys⟩
    intro known
    obtain ⟨other,there,same⟩ := List.mem_map.mp known
    refine none_ other there ?_
    simp only [keyOf,Prod.mk.injEq] at same
    exact decide_eq_true same
  · exact List.nodup_cons.mpr ⟨registered.unlisted _ member stub.address rfl,registered.addresses⟩
  · intro place inside own has known
    obtain ⟨index,there⟩ := List.mem_iff_getElem?.mp inside
    rcases at_set there with ⟨-,rfl⟩ | ⟨elsewhere,old⟩
    · cases has
    · rcases List.mem_cons.mp known with same | earlier
      · subst same
        exact elsewhere (registered.apart index call place _ _ old at_ has rfl)
      · exact registered.unlisted place (List.mem_of_getElem? old) own has earlier
  · refine registered.apart.set at_ ?_
    intro own has
    cases has
  · intro session inside
    obtain ⟨known,there,same⟩ := registered.named session inside
    exact ⟨known,List.mem_cons_of_mem _ there,same⟩

/-- A stub is deleted that nobody else has, and no session names. -/
theorem Registered.delete (registered : Registered system) {stub : DBinderServiceStub}
    (at_ : system.calls[call]? = some (.deleting stub))
    (unused : ∀ other ∈ system.calls.eraseIdx call, (stub? other).map DBinderServiceStub.address ≠ some stub.address)
    (unnamed : system.querySessionObject stub.cookie = none) :
    Registered ({ system with dBinderStubs := system.dBinderStubs.eraseP fun other => other.address = stub.address }.moveCall call
      (.returned none)) := by
  have own := registered.held _ (List.mem_of_getElem? at_) stub rfl
  have sub : (system.dBinderStubs.eraseP fun other => other.address = stub.address).Sublist system.dBinderStubs := List.eraseP_sublist
  -- the others stay
  have stays : ∀ {other : DBinderServiceStub}, other ∈ system.dBinderStubs → other.address ≠ stub.address →
      other ∈ system.dBinderStubs.eraseP fun other => other.address = stub.address :=
    fun inside apart => (List.mem_eraseP_of_neg (by simpa using apart)).mpr inside
  rw [System.querySessionObject,List.find?_eq_none] at unnamed
  refine ⟨?_,registered.keys.sublist (sub.map _),registered.addresses.sublist (sub.map _),?_,?_,?_,registered.once⟩
  · intro place inside named has
    obtain ⟨index,there⟩ := List.mem_iff_getElem?.mp inside
    rcases at_set there with ⟨-,rfl⟩ | ⟨elsewhere,old⟩
    · cases has
    · refine stays (registered.held place (List.mem_of_getElem? old) named has) ?_
      intro same
      refine unused place (List.mem_eraseIdx_iff_getElem?.mpr ⟨index,elsewhere,old⟩) ?_
      rw [has,Option.map_some,same]
  · intro place inside address has known
    have before : place ∈ system.calls := by
      rcases List.mem_or_eq_of_mem_set inside with old | rfl
      · exact old
      · cases has
    exact registered.unlisted place before address has ((sub.map _).subset known)
  · refine registered.apart.set at_ ?_
    intro address has
    cases has
  · intro session inside
    obtain ⟨known,there,same⟩ := registered.named session inside
    refine ⟨known,stays there ?_,same⟩
    intro equal
    have one := entry_unique registered.addresses there own equal
    subst one
    exact unnamed session inside (decide_eq_true same.symm)

/-- A new stub is at an address that no stub has. -/
theorem Registered.make (registered : Registered system) {serviceName deviceID : List UInt8} {binderObject : UInt64}
    (at_ : system.calls[call]? = some (.making serviceName deviceID binderObject))
    (free : system.allocated.any (fun stub => stub.address = address || stub.cookie = cookie) = false) :
    Registered (system.moveCall call (.adding ⟨address,serviceName,deviceID,binderObject,cookie⟩)) := by
  have fresh : ∀ stub ∈ system.allocated, stub.address ≠ address := by
    intro stub inside same
    refine List.any_eq_false.mp free stub inside ?_
    rw [same,decide_eq_true rfl,Bool.true_or]
  refine registered.moveCall at_ (fun _ has => by cases has) ?_
  intro own has
  cases has
  refine ⟨?_,?_⟩
  · intro known
    obtain ⟨stub,inside,same⟩ := List.mem_map.mp known
    exact fresh stub (List.mem_append_left _ inside) same
  · intro other inside same
    cases other with
    | adding stub =>
      refine fresh stub (List.mem_append_right _ (List.mem_filterMap.mpr ⟨_,inside,rfl⟩)) ?_
      exact Option.some.inj same
    | _ => cases same

theorem callStep_registered (registered : Registered system) (settled : Settled system) (at_ : system.calls[call]? = some before)
    (step : CallStep system call address cookie succeeds before next) : Registered next := by
  cases step with
  | finds found =>
    refine registered.moveCall at_ ?_ (fun _ has => by cases has)
    intro same has
    cases has
    exact List.mem_of_find?_eq_some found
  | misses | unmade => exact registered.keep at_ (fun _ has => by cases has) rfl
  | makes free => exact registered.make at_ free
  | @adds stub =>
    refine registered.add at_ (List.find?_eq_none.mpr ?_)
    intro other there same
    refine settled.absent _ (List.mem_of_getElem? at_) (keyOf stub) rfl (List.mem_map.mpr ⟨other,there,?_⟩)
    obtain ⟨name,device,object⟩ := of_decide_eq_true same
    rw [keyOf,keyOf,name,device,object]
  | @numbers stub retryTimes =>
    have goes : Registered (system.moveCall call (.counted stub retryTimes (system.seqNumber+1))) :=
      registered.keep at_ (fun _ has => has) rfl
    exact goes.beside _ system.threadLocks system.replies _ system.sent system.wakes
  | counts | creates | searches | sessionless => exact registered.keep at_ (fun _ has => has) rfl
  | @uncreated stub retryTimes =>
    obtain ⟨same,listed⟩ := ended_same stub retryTimes false
    exact registered.keep at_ (fun _ has => same.symm.trans has) listed
  | invokes step => exact invokerStep_registered registered at_ step
  | @detaches stub session =>
    have goes : Registered (system.moveCall call (.deleting stub)) := registered.keep at_ (fun _ has => has) rfl
    have sub : (system.sessionInfos.eraseP fun other => other.address = session.address).Sublist system.sessionInfos :=
      List.eraseP_sublist
    exact { goes with
      named := fun other inside => registered.named other (sub.subset inside)
      once := registered.once.sublist (sub.map _) }
  | @deletes stub =>
    refine registered.delete at_ ?_ (List.find?_eq_none.mpr ?_)
    · intro other inside
      obtain ⟨index,elsewhere,there⟩ := List.mem_eraseIdx_iff_getElem?.mp inside
      exact settled.alone call _ stub at_ rfl index other elsewhere there
    · intro session inside same
      exact settled.swept stub (List.mem_of_getElem? at_) session inside (of_decide_eq_true same)

theorem Registered.signal (registered : Registered system) (address : UInt64) (seqNumber : UInt32) :
    Registered (system.signal address seqNumber) := by
  refine { registered with held := ?_, unlisted := ?_, apart := registered.apart.map (adding_wake address) }
  · intro place inside stub has
    obtain ⟨earlier,old,rfl⟩ := List.mem_map.mp inside
    rw [stub_wake] at has
    exact registered.held earlier old stub has
  · intro place inside own has
    obtain ⟨earlier,old,rfl⟩ := List.mem_map.mp inside
    rw [adding_wake] at has
    exact registered.unlisted earlier old own has

theorem replyStep_registered (registered : Registered system) (settled : Settled system) {place : Place}
    (at_ : system.replies[reply]? = some ⟨message,place⟩) (step : ReplyStep system reply address succeeds message place next) :
    Registered next := by
  have goes : ∀ {system : System} {place : Place}, Registered system → Registered (system.moveReply reply message place) :=
    fun registered => registered.beside _ _ _ _ _ _
  cases step with
  | validates | invalid | queries | answered | unattached | misses | looksUp => exact goes registered
  | signals => exact goes (registered.signal _ message.seqNumber)
  | attaches =>
    have member := List.mem_of_getElem? at_
    refine goes { registered with named := ?_, once := ?_ }
    · intro session inside
      rcases List.mem_cons.mp inside with rfl | old
      · exact settled.validated _ member message.stub rfl
      · exact registered.named session old
    · refine List.nodup_cons.mpr ⟨?_,registered.once⟩
      intro twice
      obtain ⟨session,there,equal⟩ := List.mem_map.mp twice
      exact settled.unstored _ member message.stub rfl session there equal

theorem step_registered {event : Event} (registered : Registered system) (settled : Settled system)
    (taken : fires System.step system event next) : Registered next := by
  cases event with
  | makeRemoteBinder serviceName deviceID binderObject =>
    cases taken
    refine { registered with held := ?_, unlisted := ?_, apart := registered.apart.concat rfl }
    all_goals
      intro place inside own has
      rcases List.mem_append.mp inside with old | new
    · exact registered.held place old own has
    · cases List.mem_singleton.mp new
      cases has
    · exact registered.unlisted place old own has
    · cases List.mem_singleton.mp new
      cases has
  | call call address cookie succeeds =>
    obtain ⟨before,at_,step⟩ := callStep_of_taken taken
    exact callStep_registered registered settled at_ step
  | timeout call =>
    rw [fires,System.step,System.timeout] at taken
    split at taken
    · rename_i stub retryTimes info at_
      cases taken
      exact registered.keep at_ (fun _ has => has) rfl
    · cases taken
  | onRemoteMessageTask message =>
    cases taken
    rw [System.onRemoteMessageTask]
    split
    · exact registered.beside system.seqNumber system.threadLocks _ system.drawn system.sent system.wakes
    · exact registered
  | reply reply address succeeds =>
    obtain ⟨message,place,at_,step⟩ := replyStep_of_taken taken
    exact replyStep_registered registered settled at_ step

/-- Numbers, waits and what is sent have no part in it. -/
theorem Settled.beside (settled : Settled system) (seqNumber : UInt32) (threadLocks : List ThreadLockInfo)
    (drawn : Nat) (sent : List Request) (wakes : List (UInt32 × UInt32)) :
    Settled { system with seqNumber := seqNumber, threadLocks := threadLocks, drawn := drawn, sent := sent, wakes := wakes } :=
  ⟨settled.absent,settled.makers,settled.alone,settled.unchecked,settled.swept,settled.found,settled.sessions,settled.validated,
    settled.unstored,settled.writers⟩

theorem Settled.moveCall (settled : Settled system) (at_ : system.calls[call]? = some before)
    (looks : ∀ key, making? after = some key → key ∉ system.dBinderStubs.map keyOf ∧
      (making? before = some key ∨ ∀ other ∈ system.calls, making? other ≠ some key))
    (gets : ∀ stub, stub? after = some stub → stub? before = some stub ∨
      ∀ other ∈ system.calls, ∀ cleaned, cleaning? other = some cleaned → cleaned.address ≠ stub.address)
    (cleans : ∀ stub, cleaning? after = some stub →
      (∀ other later, other ≠ call → system.calls[other]? = some later → (stub? later).map DBinderServiceStub.address ≠ some stub.address) ∧
        ∀ reply ∈ system.replies, checked? reply ≠ some stub.cookie)
    (swept : ∀ stub, after = .deleting stub → ∀ session ∈ system.sessionInfos, session.stub ≠ stub.cookie)
    (found : ∀ stub session, after = .detachingSession stub session → ∀ other ∈ system.sessionInfos, other.stub = stub.cookie →
      other.address = session.address) : Settled (system.moveCall call after) where
  absent := by
    intro place inside key makes
    rcases List.mem_or_eq_of_mem_set inside with old | rfl
    · exact settled.absent place old key makes
    · exact (looks key makes).1
  makers := settled.makers.set at_ fun key makes => (looks key makes).2
  alone := by
    intro index place stub there cleaning other later apart elsewhere
    rcases at_set there with ⟨rfl,rfl⟩ | ⟨-,old⟩
    · rcases at_set elsewhere with ⟨same,-⟩ | ⟨-,old⟩
      · exact absurd same apart
      · exact (cleans stub cleaning).1 other later apart old
    · rcases at_set elsewhere with ⟨rfl,rfl⟩ | ⟨-,older⟩
      · intro same
        obtain ⟨own,has,equal⟩ := Option.map_eq_some_iff.mp same
        rcases gets own has with had | apart
        · refine settled.alone index place stub old cleaning other before ‹_› at_ ?_
          rw [had,Option.map_some,equal]
        · exact apart place (List.mem_of_getElem? old) stub cleaning equal.symm
      · exact settled.alone index place stub old cleaning other later apart older
  unchecked := by
    intro place inside stub cleaning
    rcases List.mem_or_eq_of_mem_set inside with old | rfl
    · exact settled.unchecked place old stub cleaning
    · exact (cleans stub cleaning).2
  swept := by
    intro stub inside
    rcases List.mem_or_eq_of_mem_set inside with old | same
    · exact settled.swept stub old
    · exact swept stub same.symm
  found := by
    intro stub session inside
    rcases List.mem_or_eq_of_mem_set inside with old | same
    · exact settled.found stub session old
    · exact found stub session same.symm
  sessions := settled.sessions
  validated := settled.validated
  unstored := settled.unstored
  writers := settled.writers

theorem Settled.keep (settled : Settled system) (at_ : system.calls[call]? = some before) (plain : making? after = none ∧ cleaning? after = none)
    (same : ∀ stub, stub? after = some stub → stub? before = some stub) : Settled (system.moveCall call after) := by
  have cleans : ∀ stub, cleaning? after ≠ some stub := by
    intro stub cleaning
    rw [plain.2] at cleaning
    cases cleaning
  refine settled.moveCall at_ ?_ (fun stub has => .inl (same stub has)) (fun stub cleaning => absurd cleaning (cleans stub)) ?_ ?_
  · intro key makes
    rw [plain.1] at makes
    cases makes
  · intro stub is
    exact absurd (by rw [is]; rfl) (cleans stub)
  · intro stub session is
    exact absurd (by rw [is]; rfl) (cleans stub)

theorem Settled.eraseStub (settled : Settled system) (registered : Registered system) {stub : DBinderServiceStub}
    (own : stub ∈ system.dBinderStubs) (unchecked : ∀ reply ∈ system.replies, checked? reply ≠ some stub.cookie) :
    Settled { system with dBinderStubs := system.dBinderStubs.eraseP fun other => other.address = stub.address } := by
  have sub : (system.dBinderStubs.eraseP fun other => other.address = stub.address).Sublist system.dBinderStubs := List.eraseP_sublist
  refine { settled with absent := ?_, validated := ?_ }
  · intro place inside key makes known
    exact settled.absent place inside key makes ((sub.map keyOf).subset known)
  · intro reply inside cookie checked
    obtain ⟨other,there,same⟩ := settled.validated reply inside cookie checked
    have apart : other.address ≠ stub.address := by
      intro equal
      have one := entry_unique registered.addresses there own equal
      rw [one] at same
      rw [← same] at checked
      exact unchecked reply inside checked
    exact ⟨other,(List.mem_eraseP_of_neg (by simpa using apart)).mpr there,same⟩

section Met
variable {stub : DBinderServiceStub} {serviceName deviceID : List UInt8} {binderObject : UInt64}

end Met

theorem Settled.signal (settled : Settled system) (address : UInt64) (seqNumber : UInt32) :
    Settled (system.signal address seqNumber) := by
  have plain : ∀ call : Call, ∀ place, (∀ stub retryTimes info stage, place ≠ .invoking stub retryTimes info stage) →
      call.wake address = place → call = place := by
    intro call place other woken
    rcases wake_cases address call with still | ⟨stub,retryTimes,info,-,made⟩
    · exact still.symm.trans woken
    · exact absurd (woken.symm.trans made) (other stub retryTimes info .woken)
  refine ⟨?_,settled.makers.map (making_wake address),?_,?_,?_,?_,settled.sessions,settled.validated,settled.unstored,
    settled.writers⟩
  · intro place inside key makes
    obtain ⟨earlier,old,rfl⟩ := List.mem_map.mp inside
    rw [making_wake] at makes
    exact settled.absent earlier old key makes
  · intro index place stub there cleaning other later apart elsewhere
    simp only [System.signal,List.getElem?_map] at there elsewhere
    obtain ⟨earlier,old,rfl⟩ := Option.map_eq_some_iff.mp there
    obtain ⟨earlier',old',rfl⟩ := Option.map_eq_some_iff.mp elsewhere
    rw [cleaning_wake] at cleaning
    rw [stub_wake]
    exact settled.alone index earlier stub old cleaning other earlier' apart old'
  · intro place inside stub cleaning
    obtain ⟨earlier,old,rfl⟩ := List.mem_map.mp inside
    rw [cleaning_wake] at cleaning
    exact settled.unchecked earlier old stub cleaning
  · intro stub inside
    obtain ⟨earlier,old,woken⟩ := List.mem_map.mp inside
    exact settled.swept stub (plain earlier _ (by simp) woken ▸ old)
  · intro stub session inside
    obtain ⟨earlier,old,woken⟩ := List.mem_map.mp inside
    exact settled.found stub session (plain earlier _ (by simp) woken ▸ old)

theorem Settled.moveReply (settled : Settled system) {place later : Place} (at_ : system.replies[reply]? = some ⟨message,place⟩)
    (checks : ∀ cookie, checked? ⟨message,later⟩ = some cookie → checked? ⟨message,place⟩ = some cookie ∨
      (∃ stub ∈ system.dBinderStubs, stub.cookie = cookie) ∧
        ∀ other ∈ system.calls, ∀ stub, cleaning? other = some stub → stub.cookie ≠ cookie)
    (stores : ∀ cookie, storing? ⟨message,later⟩ = some cookie → (∀ session ∈ system.sessionInfos, session.stub ≠ cookie) ∧
      ∀ other ∈ system.replies, storing? other ≠ some cookie) : Settled (system.moveReply reply message later) := by
  refine { settled with unchecked := ?_, validated := ?_, unstored := ?_, writers := ?_ }
  · intro other inside stub cleaning handler there checked
    rcases List.mem_or_eq_of_mem_set there with old | rfl
    · exact settled.unchecked other inside stub cleaning handler old checked
    · rcases checks stub.cookie checked with had | ⟨-,apart⟩
      · exact settled.unchecked other inside stub cleaning _ (List.mem_of_getElem? at_) had
      · exact apart other inside stub cleaning rfl
  · intro handler there cookie checked
    rcases List.mem_or_eq_of_mem_set there with old | rfl
    · exact settled.validated handler old cookie checked
    · rcases checks cookie checked with had | ⟨known,-⟩
      · exact settled.validated _ (List.mem_of_getElem? at_) cookie had
      · exact known
  · intro handler there cookie storing
    rcases List.mem_or_eq_of_mem_set there with old | rfl
    · exact settled.unstored handler old cookie storing
    · exact (stores cookie storing).1
  · exact settled.writers.set at_ fun cookie storing => .inr (stores cookie storing).2

end Steps

def replyTo (seqNumber : UInt32) (binderObject stub : UInt64) : DHandleEntryTxRx :=
  ⟨0,MESSAGE_AS_REPLY,0,0,1,seqNumber,binderObject,⟨3,[],[]⟩,stub,1,[5,0]⟩

/-- A call until its request is sent, with the stub that it adds or finds. -/
def toSent (call : Nat) (address cookie lock : UInt64) (finds : Bool) : List Event :=
  List.replicate (if finds then 1 else 3) (.call call address cookie true) ++ List.replicate 6 (.call call lock 0 true)

/-- Two calls for one service, and one for another that fails, with a session that comes too late and goes with its stub; a second
reply to the first call, and one that names no registered binder object, are turned away. -/
def metEvents : List Event :=
  List.flatten [[.makeRemoteBinder [1] [9] 1],toSent 0 100 200 300 false,[.call 0 0 0 true,.onRemoteMessageTask (replyTo 1 1 200)],
    List.replicate 5 (.reply 0 400 true),List.replicate 3 (.call 0 0 0 true),
    [.makeRemoteBinder [1] [9] 1],toSent 1 0 0 301 true,[.call 1 0 0 true,.onRemoteMessageTask (replyTo 2 1 200)],
    List.replicate 4 (.reply 1 401 true),List.replicate 3 (.call 1 0 0 true),
    [.makeRemoteBinder [2] [9] 2],toSent 2 101 201 302 false,[.call 2 0 0 true,.timeout 2,.call 2 0 0 true,
    .onRemoteMessageTask (replyTo 3 7 201)],List.replicate 2 (.reply 2 402 true),[.onRemoteMessageTask (replyTo 3 2 201)],
    List.replicate 4 (.reply 3 403 true),List.replicate 6 (.call 2 303 0 true),[.call 2 0 0 true,.timeout 2],
    List.replicate 4 (.call 2 0 0 true)]

end CommunicationIpc.LiteRegistry
