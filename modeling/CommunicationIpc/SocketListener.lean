import CommunicationIpc.Kernel.SocketListener
import CommunicationIpc.Library.Entries
import CommunicationIpc.Library.Run

/-! How many client sockets a device has. `CreateClientSocket` is serialised by the lock of its device, which a failing
call, a `ShutdownSocket` and a `ClientOnShutdown` take out of its map while other calls may be waiting for it. -/
namespace CommunicationIpc.SocketListener
open CommunicationIpc.Library CommunicationIpc.Kernel.SocketListener

/-- The call has the lock of the device, or is waiting for it, and may still open a socket or record one. -/
def active (info : DBinderSocketInfo) : Create → Bool
  | .locking own _ | .looking own _ | .opening own _ | .binding own _ _ | .recording own _ _ => decide (own = info)
  | _ => false

def isRecording (socketId : Int32) : Create → Bool
  | .recording _ _ own => decide (own = socketId)
  | _ => false

/-- The lock of a device is erased when no other call needs it, a socket is closed by the other side when it is not about to
be recorded, and then there is an invoker. -/
def met (listener : Listener) : Event → Bool
  | .create call _ _ =>
    match listener.creates[call]? with
    | some (.erasing info _) => !listener.creates.any (active info)
    | _ => true
  | .close call =>
    match listener.closes[call]? with
    | some (.erasing info) => !listener.creates.any (active info)
    | some (.clientOnShutdown socketId) => !listener.creates.any (isRecording socketId)
    | _ => true
  | .clientOnShutdown _ invoker => invoker
  | _ => true

def mutexOf : Create → Option Nat
  | .querying _ | .returned _ _ => none
  | .locking _ infoMutex | .looking _ infoMutex | .opening _ infoMutex | .binding _ infoMutex _ | .shutting _ infoMutex _
  | .erasing _ infoMutex | .recording _ infoMutex _ | .unlocking _ infoMutex _ => some infoMutex

/-- The lock the call has. -/
def holds : Create → Option Nat
  | .querying _ | .locking _ _ | .returned _ _ => none
  | .looking _ infoMutex | .opening _ infoMutex | .binding _ infoMutex _ | .shutting _ infoMutex _
  | .erasing _ infoMutex | .recording _ infoMutex _ | .unlocking _ infoMutex _ => some infoMutex

/-- The call has found no socket of its device. -/
def searched : Create → Option DBinderSocketInfo
  | .opening info _ | .binding info _ _ | .recording info _ _ => some info
  | _ => none

def socketOf : Create → Option (Int32 × Socket)
  | .binding info _ socketId | .shutting info _ socketId => some (socketId,⟨info,.created⟩)
  | .recording info _ socketId => some (socketId,⟨info,.bound⟩)
  | _ => none

/-- What is so of one call. -/
structure Fits (listener : Listener) (call : Nat) (create : Create) : Prop where
  mutex : ∀ info, active info create = true → listener.infoMutexMap info = mutexOf create
  owner : ∀ infoMutex, holds create = some infoMutex → listener.owners infoMutex = some call
  absent : ∀ info, searched create = some info → ∀ entry ∈ listener.socketInfoMap, entry.1 ≠ info
  own : ∀ socketId socket, socketOf create = some (socketId,socket) → listener.sockets socketId = some socket

def Live (listener : Listener) (info : DBinderSocketInfo) (socketId : Int32) : Prop :=
  listener.sockets socketId = some ⟨info,.bound⟩

/-- What is always so while `met` holds at every step. -/
structure Sound (listener : Listener) : Prop where
  fits : ∀ (call : Nat) create, listener.creates[call]? = some create → Fits listener call create
  apart : ∀ (call : Nat) create, listener.creates[call]? = some create → ∀ (other : Nat) also, listener.creates[other]? = some also →
    ∀ socketId first second, socketOf create = some (socketId,first) → socketOf also = some (socketId,second) → call = other
  keys : (listener.socketInfoMap.map Prod.fst).Nodup
  recorded : ∀ entry ∈ listener.socketInfoMap, Live listener entry.1 entry.2
  live : ∀ info socketId, Live listener info socketId → (info,socketId) ∈ listener.socketInfoMap ∨
    ∃ (call : Nat) (infoMutex : Nat), listener.creates[call]? = some (.recording info infoMutex socketId)
  notified : ∀ (call : Nat) socketId, listener.closes[call]? = some (.clientOnShutdown socketId) →
    ∃ socket, listener.sockets socketId = some socket ∧ socket.status ≠ .created

theorem sound_new : Sound Listener.new := by
  refine ⟨?_,?_,List.nodup_nil,?_,?_,?_⟩
  · intro call create at_
    cases at_
  · intro call create at_
    cases at_
  · intro entry member
    cases member
  · intro info socketId live
    cases live
  · intro call socketId at_
    cases at_

theorem fits_idle {listener : Listener} {call : Nat} {create : Create} (inactive : ∀ info, active info create = false)
    (free : holds create = none) (unsearched : searched create = none) (none_ : socketOf create = none) : Fits listener call create := by
  refine ⟨?_,?_,?_,?_⟩
  · intro info needs
    rw [inactive] at needs
    cases needs
  · rw [free]
    intro infoMutex held
    cases held
  · rw [unsearched]
    intro info found
    cases found
  · rw [none_]
    intro socketId socket has
    cases has

section Moves
variable {listener : Listener} {call : Nat} {before after : Create}

theorem Sound.moveCreate (sound : Sound listener) (at_ : listener.creates[call]? = some before) (fits : Fits listener call after)
    (own : ∀ socketId socket, socketOf after = some (socketId,socket) → ∃ earlier, socketOf before = some (socketId,earlier))
    (kept : ∀ info infoMutex socketId, before = .recording info infoMutex socketId → (info,socketId) ∈ listener.socketInfoMap) :
    Sound (listener.moveCreate call after) := by
  refine ⟨?_,?_,sound.keys,sound.recorded,?_,sound.notified⟩
  · intro other create place
    rcases Entries.at_set place with ⟨rfl,rfl⟩ | ⟨-,old⟩
    · exact { fits with }
    · exact { sound.fits other create old with }
  · intro first create place second also there socketId one two socket socket'
    rcases Entries.at_set place with ⟨rfl,rfl⟩ | ⟨-,old⟩
    · rcases Entries.at_set there with ⟨rfl,rfl⟩ | ⟨-,other⟩
      · rfl
      · obtain ⟨earlier,had⟩ := own socketId one socket
        exact sound.apart first before at_ second also other socketId earlier two had socket'
    · rcases Entries.at_set there with ⟨rfl,rfl⟩ | ⟨-,other⟩
      · obtain ⟨earlier,had⟩ := own socketId two socket'
        exact sound.apart first create old second before at_ socketId one earlier socket had
      · exact sound.apart first create old second also other socketId one two socket socket'
  · intro info socketId live
    rcases sound.live info socketId live with member | ⟨other,infoMutex,place⟩
    · exact .inl member
    · by_cases same : other = call
      · subst same
        rw [at_] at place
        exact .inl (kept info infoMutex socketId (Option.some.inj place))
      · refine .inr ⟨other,infoMutex,?_⟩
        exact (Entries.at_set_other same).trans place

/-- A call goes on without a socket. -/
theorem Sound.moveSocketless (sound : Sound listener) (at_ : listener.creates[call]? = some before)
    (mutex : ∀ info, active info after = true → listener.infoMutexMap info = mutexOf after)
    (owner : ∀ infoMutex, holds after = some infoMutex → listener.owners infoMutex = some call)
    (absent : ∀ info, searched after = some info → ∀ entry ∈ listener.socketInfoMap, entry.1 ≠ info) (none_ : socketOf after = none)
    (early : ∀ info infoMutex socketId, before ≠ .recording info infoMutex socketId) : Sound (listener.moveCreate call after) := by
  refine sound.moveCreate at_ ⟨mutex,owner,absent,?_⟩ ?_ ?_
  · intro socketId socket pending
    rw [none_] at pending
    cases pending
  · intro socketId socket pending
    rw [none_] at pending
    cases pending
  · intro info infoMutex socketId same
    exact absurd same (early info infoMutex socketId)

theorem Sound.relock {next : Listener} (sound : Sound listener) (creates : next.creates = listener.creates)
    (closes : next.closes = listener.closes) (map : next.socketInfoMap = listener.socketInfoMap) (sockets : next.sockets = listener.sockets)
    (mutex : ∀ (call : Nat) create, listener.creates[call]? = some create → ∀ info, active info create = true →
      next.infoMutexMap info = mutexOf create)
    (owner : ∀ (call : Nat) create, listener.creates[call]? = some create → ∀ infoMutex, holds create = some infoMutex →
      next.owners infoMutex = some call) : Sound next := by
  have live : ∀ info socketId, Live next info socketId ↔ Live listener info socketId := by
    intro info socketId
    rw [Live,Live,sockets]
  refine ⟨?_,?_,?_,?_,?_,?_⟩
  · intro call create at_
    rw [creates] at at_
    obtain ⟨-,-,absent,own⟩ := sound.fits call create at_
    refine ⟨mutex call create at_,owner call create at_,?_,?_⟩
    · rw [map]
      exact absent
    · rw [sockets]
      exact own
  · rw [creates]
    exact sound.apart
  · rw [map]
    exact sound.keys
  · rw [map]
    exact fun entry member => (live _ _).mpr (sound.recorded entry member)
  · rw [map,creates]
    exact fun info socketId alive => sound.live info socketId ((live _ _).mp alive)
  · rw [closes,sockets]
    exact sound.notified

theorem Sound.acquire (sound : Sound listener) {infoMutex : Nat} (free : listener.owners infoMutex = none) (owner : Option Nat) :
    Sound (listener.setOwner infoMutex owner) := by
  refine sound.relock rfl rfl rfl rfl (fun call create at_ => (sound.fits call create at_).mutex) ?_
  intro other create at_ held holding
  have owned := (sound.fits other create at_).owner held holding
  have apart : held ≠ infoMutex := by
    rintro rfl
    rw [free] at owned
    cases owned
  exact (Function.update_of_ne apart ..).trans owned

/-- A lock that no call needs any more goes from the map. -/
theorem Sound.eraseDeviceLock (sound : Sound listener) {info : DBinderSocketInfo} (unneeded : listener.creates.any (active info) = false) :
    Sound (listener.eraseDeviceLock info) := by
  refine sound.relock rfl rfl rfl rfl ?_ (fun call create at_ => (sound.fits call create at_).owner)
  intro call create at_ other needs
  have apart : other ≠ info := by
    rintro rfl
    have none_ := List.any_eq_false.mp unneeded create (List.mem_of_getElem? at_)
    exact none_ needs
  exact (Function.update_of_ne apart ..).trans ((sound.fits call create at_).mutex other needs)

theorem query_sound (sound : Sound listener) (info : DBinderSocketInfo) :
    Sound (listener.queryOrNewInfoMutex info).1 ∧
      (listener.queryOrNewInfoMutex info).1.infoMutexMap info = some (listener.queryOrNewInfoMutex info).2 ∧
        (listener.queryOrNewInfoMutex info).1.creates = listener.creates := by
  rw [Listener.queryOrNewInfoMutex]
  cases known : listener.infoMutexMap info with
  | some infoMutex => exact ⟨sound,known,rfl⟩
  | none =>
    refine ⟨?_,Function.update_self ..,rfl⟩
    refine sound.relock rfl rfl rfl rfl ?_ (fun call create at_ => (sound.fits call create at_).owner)
    intro call create at_ other needs
    have mutex := (sound.fits call create at_).mutex other needs
    have apart : other ≠ info := by
      rintro rfl
      rw [known] at mutex
      cases create <;> cases mutex <;> cases needs
    exact (Function.update_of_ne apart ..).trans mutex

/-- Of two calls for one device that have its lock, one is the other. -/
theorem Sound.single (sound : Sound listener) {info : DBinderSocketInfo} {first second : Nat} {create also : Create}
    (at_ : listener.creates[first]? = some create) (there : listener.creates[second]? = some also)
    (needs : active info create = true) (needs' : active info also = true) (has : (holds create).isSome = true)
    (has' : (holds also).isSome = true) : first = second := by
  have same : mutexOf create = mutexOf also :=
    ((sound.fits first create at_).mutex info needs).symm.trans ((sound.fits second also there).mutex info needs')
  have holding : ∀ {place : Create}, (holds place).isSome = true → holds place = mutexOf place := by
    intro place has
    cases place with
    | querying _ => cases has
    | locking _ _ => cases has
    | returned _ _ => cases has
    | looking _ _ => rfl
    | opening _ _ => rfl
    | binding _ _ _ => rfl
    | shutting _ _ _ => rfl
    | erasing _ _ => rfl
    | recording _ _ _ => rfl
    | unlocking _ _ _ => rfl
  obtain ⟨infoMutex,held⟩ := Option.isSome_iff_exists.mp has
  have held' : holds also = some infoMutex := by rw [holding has',← same,← holding has,held]
  have owned := (sound.fits first create at_).owner infoMutex held
  rw [(sound.fits second also there).owner infoMutex held'] at owned
  exact (Option.some.inj owned).symm

end Moves

section Sockets
variable {listener : Listener} {call : Nat} {info : DBinderSocketInfo} {infoMutex : Nat} {socketId : Int32}

theorem setSocket_self (socket : Socket) : (listener.setSocket socketId socket).sockets socketId = some socket := Function.update_self ..

theorem setSocket_other (socket : Socket) {other : Int32} (apart : other ≠ socketId) :
    (listener.setSocket socketId socket).sockets other = listener.sockets other := Function.update_of_ne apart ..

/-- A socket changes that only one call knows, if any, and that is not bound before and not created after. -/
theorem Sound.setSocket (sound : Sound listener) {create : Create} {socket : Socket} (at_ : listener.creates[call]? = some create)
    (others : ∀ (other : Nat) also, listener.creates[other]? = some also → other ≠ call →
      ∀ earlier, socketOf also ≠ some (socketId,earlier))
    (quiet : ∀ info infoMutex other, create ≠ .recording info infoMutex other)
    (unbound : ∀ info, ¬ Live listener info socketId) (known : listener.sockets socketId = none ∨ socket.status ≠ .created)
    {after : Create} (fits : Fits (listener.setSocket socketId socket) call after)
    (own : ∀ other earlier, socketOf after = some (other,earlier) → other = socketId)
    (live : ∀ info, socket = ⟨info,.bound⟩ → ∃ infoMutex, after = .recording info infoMutex socketId) :
    Sound ((listener.setSocket socketId socket).moveCreate call after) := by
  have alive : ∀ {info : DBinderSocketInfo} {other : Int32}, Live listener info other → other ≠ socketId := by
    rintro info other bound rfl
    exact unbound info bound
  refine ⟨?_,?_,sound.keys,?_,?_,?_⟩
  · intro other place there
    rcases Entries.at_set there with ⟨rfl,rfl⟩ | ⟨apart,old⟩
    · exact { fits with }
    · obtain ⟨mutex,owner,absent,has⟩ := sound.fits other place old
      refine ⟨mutex,owner,absent,?_⟩
      intro named earlier pending
      have elsewhere : named ≠ socketId := by
        rintro rfl
        exact others other place old apart earlier pending
      exact (setSocket_other socket elsewhere).trans (has named earlier pending)
  · intro first place there second also there' named one two socket socket'
    rcases Entries.at_set there with ⟨rfl,rfl⟩ | ⟨apart,old⟩
    · rcases Entries.at_set there' with ⟨rfl,rfl⟩ | ⟨apart',old'⟩
      · rfl
      · have same := own named one socket
        rw [same] at socket'
        exact absurd socket' (others second also old' apart' two)
    · rcases Entries.at_set there' with ⟨rfl,rfl⟩ | ⟨-,old'⟩
      · have same := own named two socket'
        rw [same] at socket
        exact absurd socket (others first place old apart one)
      · exact sound.apart first place old second also old' named one two socket socket'
  · intro entry member
    have bound := sound.recorded entry member
    exact (setSocket_other socket (alive bound)).trans bound
  · intro named other bound
    by_cases same : other = socketId
    · subst same
      have set : (listener.setSocket other socket).sockets other = some ⟨named,.bound⟩ := bound
      rw [setSocket_self] at set
      obtain ⟨infoMutex,recording⟩ := live named (Option.some.inj set)
      refine .inr ⟨call,infoMutex,?_⟩
      rw [← recording]
      exact Entries.at_set_self at_
    · have old : Live listener named other := (setSocket_other socket same).symm.trans bound
      rcases sound.live named other old with member | ⟨holder,infoMutex,there⟩
      · exact .inl member
      · by_cases own_ : holder = call
        · subst own_
          rw [at_] at there
          cases there
          exact absurd rfl (quiet named infoMutex other)
        · exact .inr ⟨holder,infoMutex,(Entries.at_set_other own_).trans there⟩
  · intro closing named there
    obtain ⟨before,has,status⟩ := sound.notified closing named there
    by_cases same : named = socketId
    · subst same
      refine ⟨socket,setSocket_self socket,?_⟩
      rcases known with fresh | changed
      · rw [fresh] at has
        cases has
      · exact changed
    · exact ⟨before,(setSocket_other socket same).trans has,status⟩

theorem open_sound (sound : Sound listener) (at_ : listener.creates[call]? = some (.opening info infoMutex))
    (fresh : listener.sockets socketId = none) :
    Sound ((listener.setSocket socketId ⟨info,.created⟩).moveCreate call (.binding info infoMutex socketId)) := by
  obtain ⟨mutex,owner,absent,-⟩ := sound.fits call _ at_
  have unused : ∀ {socket : Socket}, listener.sockets socketId ≠ some socket := by
    intro socket has
    rw [fresh] at has
    cases has
  refine sound.setSocket at_ ?_ ?_ ?_ (.inl fresh) ⟨mutex,owner,absent,?_⟩ ?_ ?_
  · intro other also there _ earlier pending
    exact unused ((sound.fits other also there).own socketId earlier pending)
  · intro info infoMutex other same
    cases same
  · exact fun info bound => unused bound
  · intro other socket pending
    cases pending
    exact setSocket_self _
  · intro other earlier pending
    cases pending
    rfl
  · intro info same
    cases same

theorem Sound.others (sound : Sound listener) {create : Create} {socket : Socket} (at_ : listener.creates[call]? = some create)
    (has : socketOf create = some (socketId,socket)) {other : Nat} {also : Create} (there : listener.creates[other]? = some also)
    (apart : other ≠ call) (earlier : Socket) : socketOf also ≠ some (socketId,earlier) :=
  fun pending => apart (sound.apart other also there call create at_ socketId earlier socket pending has)

theorem bind_sound (sound : Sound listener) (at_ : listener.creates[call]? = some (.binding info infoMutex socketId)) :
    Sound ((listener.setSocket socketId ⟨info,.bound⟩).moveCreate call (.recording info infoMutex socketId)) := by
  obtain ⟨mutex,owner,absent,own⟩ := sound.fits call _ at_
  have created : listener.sockets socketId = some ⟨info,.created⟩ := own socketId _ rfl
  refine sound.setSocket at_ (fun other also there apart earlier => sound.others at_ rfl there apart earlier) ?_ ?_ (.inr ?_)
    ⟨mutex,owner,absent,?_⟩ ?_ ?_
  · intro info infoMutex other same
    cases same
  · intro info bound
    rw [Live,created] at bound
    cases bound
  · intro same
    cases same
  · intro other socket pending
    cases pending
    exact setSocket_self _
  · intro other earlier pending
    cases pending
    rfl
  · intro named same
    cases same
    exact ⟨infoMutex,rfl⟩

theorem shutdown_sound (sound : Sound listener) (at_ : listener.creates[call]? = some (.shutting info infoMutex socketId)) :
    Sound ((listener.shutdown socketId).moveCreate call (.erasing info infoMutex)) := by
  obtain ⟨-,owner,-,own⟩ := sound.fits call _ at_
  have created : listener.sockets socketId = some ⟨info,.created⟩ := own socketId _ rfl
  have shut : listener.shutdown socketId = listener.setSocket socketId ⟨info,.shut⟩ := by rw [Listener.shutdown,created]
  rw [shut]
  refine sound.setSocket at_ (fun other also there apart earlier => sound.others at_ rfl there apart earlier) ?_ ?_ (.inr ?_)
    ⟨?_,owner,?_,?_⟩ ?_ ?_
  · intro info infoMutex other same
    cases same
  · intro info bound
    rw [Live,created] at bound
    cases bound
  · intro same
    cases same
  · intro info needs
    cases needs
  · intro info found
    cases found
  · intro other socket pending
    cases pending
  · intro other earlier pending
    cases pending
  · intro named same
    cases same

/-- `socketInfoMap_[info] = socketId`, where there is no entry of the device. -/
theorem record_sound (sound : Sound listener) (at_ : listener.creates[call]? = some (.recording info infoMutex socketId)) :
    Sound ((listener.record info socketId).moveCreate call (.unlocking info infoMutex socketId)) := by
  obtain ⟨-,owner,absent,own⟩ := sound.fits call _ at_
  have bound : Live listener info socketId := own socketId _ rfl
  have unlisted : ∀ entry ∈ listener.socketInfoMap, entry.1 ≠ info := absent info rfl
  have map : (listener.record info socketId).socketInfoMap = listener.socketInfoMap ++ [(info,socketId)] := by
    rw [Listener.record]
    simp only
    rw [List.eraseP_of_forall_not]
    intro entry member
    simpa using unlisted entry member
  refine ⟨?_,?_,?_,?_,?_,sound.notified⟩
  · intro other create place
    rcases Entries.at_set place with ⟨rfl,rfl⟩ | ⟨apart,old⟩
    · refine ⟨?_,owner,?_,?_⟩
      · intro info needs
        cases needs
      · intro info found
        cases found
      · intro other socket pending
        cases pending
    · obtain ⟨mutex,owner',absent',own'⟩ := sound.fits other create old
      refine ⟨mutex,owner',?_,own'⟩
      intro named found entry member
      have member : entry ∈ (listener.record info socketId).socketInfoMap := member
      rw [map,List.mem_append,List.mem_singleton] at member
      rcases member with old_ | rfl
      · exact absent' named found entry old_
      · rintro rfl
        have needs : active info create = true ∧ (holds create).isSome = true := by
          cases create <;> cases found <;> exact ⟨decide_eq_true rfl,rfl⟩
        exact apart (sound.single old at_ needs.1 (decide_eq_true rfl) needs.2 rfl)
  · intro first create place second also there named one two socket socket'
    rcases Entries.at_set place with ⟨rfl,rfl⟩ | ⟨-,old⟩
    · cases socket
    · rcases Entries.at_set there with ⟨rfl,rfl⟩ | ⟨-,other⟩
      · cases socket'
      · exact sound.apart first create old second also other named one two socket socket'
  · change ((listener.record info socketId).socketInfoMap.map Prod.fst).Nodup
    rw [map,List.map_append,List.nodup_append]
    refine ⟨sound.keys,List.nodup_singleton _,?_⟩
    intro named member other also same
    obtain ⟨entry,listed,rfl⟩ := List.mem_map.mp member
    rw [List.mem_singleton.mp also] at same
    exact unlisted entry listed same
  · intro entry member
    have member : entry ∈ (listener.record info socketId).socketInfoMap := member
    rw [map,List.mem_append,List.mem_singleton] at member
    rcases member with old | rfl
    · exact sound.recorded entry old
    · exact bound
  · intro named other alive
    change (named,other) ∈ (listener.record info socketId).socketInfoMap ∨ _
    rw [map,List.mem_append,List.mem_singleton]
    rcases sound.live named other alive with member | ⟨holder,infoMutex',there⟩
    · exact .inl (.inl member)
    · by_cases same : holder = call
      · subst same
        rw [at_] at there
        cases there
        exact .inl (.inr rfl)
      · exact .inr ⟨holder,infoMutex',(Entries.at_set_other same).trans there⟩

end Sockets

section Closing
variable {listener next : Listener} {call : Nat} {socketId : Int32}

theorem Sound.moveClose (sound : Sound listener) (close : Close) (still : ∀ socketId, close ≠ .clientOnShutdown socketId) :
    Sound (listener.moveClose call close) := by
  refine ⟨fun other create at_ => { sound.fits other create at_ with },sound.apart,sound.keys,sound.recorded,sound.live,?_⟩
  intro other named there
  rcases Entries.at_set there with ⟨-,same⟩ | ⟨-,old⟩
  · exact absurd same.symm (still named)
  · exact sound.notified other named old

theorem shutdown_sockets (listener : Listener) (socketId other : Int32) (apart : other ≠ socketId) :
    (listener.shutdown socketId).sockets other = listener.sockets other := by
  rw [Listener.shutdown]
  split
  · exact setSocket_other _ apart
  · rfl

theorem shutdown_dead (listener : Listener) (socketId : Int32) (info : DBinderSocketInfo) :
    (listener.shutdown socketId).sockets socketId ≠ some ⟨info,.bound⟩ := by
  rw [Listener.shutdown]
  split
  · rw [setSocket_self]
    intro same
    cases same
  · rename_i unknown
    rw [unknown]
    intro same
    cases same

theorem shutdown_status (listener : Listener) {other socketId : Int32} {socket : Socket} (has : listener.sockets other = some socket)
    (status : socket.status ≠ .created) :
    ∃ after, (listener.shutdown socketId).sockets other = some after ∧ after.status ≠ .created := by
  by_cases same : other = socketId
  · subst same
    rw [Listener.shutdown,has]
    refine ⟨_,setSocket_self _,?_⟩
    intro created
    cases created
  · exact ⟨socket,(shutdown_sockets listener socketId other same).trans has,status⟩

theorem shutdown_rest (listener : Listener) (socketId : Int32) :
    (listener.shutdown socketId).socketInfoMap = listener.socketInfoMap ∧ (listener.shutdown socketId).infoMutexMap = listener.infoMutexMap ∧
      (listener.shutdown socketId).owners = listener.owners ∧ (listener.shutdown socketId).creates = listener.creates ∧
        (listener.shutdown socketId).closes = listener.closes := by
  rw [Listener.shutdown]
  split
  · exact ⟨rfl,rfl,rfl,rfl,rfl⟩
  · exact ⟨rfl,rfl,rfl,rfl,rfl⟩

theorem eraseSocket_rest (listener : Listener) (socketId : Int32) :
    (listener.eraseSocket socketId).1.sockets = listener.sockets ∧ (listener.eraseSocket socketId).1.infoMutexMap = listener.infoMutexMap ∧
      (listener.eraseSocket socketId).1.owners = listener.owners ∧ (listener.eraseSocket socketId).1.creates = listener.creates ∧
        (listener.eraseSocket socketId).1.closes = listener.closes := by
  rw [Listener.eraseSocket]
  split
  · exact ⟨rfl,rfl,rfl,rfl,rfl⟩
  · exact ⟨rfl,rfl,rfl,rfl,rfl⟩

theorem eraseSocket_map (map : (listener.socketInfoMap.map Prod.fst).Nodup)
    (recorded : ∀ entry ∈ listener.socketInfoMap, ∀ other ∈ listener.socketInfoMap, entry.2 = other.2 → entry.1 = other.1) :
    (listener.eraseSocket socketId).1.socketInfoMap.Sublist listener.socketInfoMap ∧
      ∀ entry, entry ∈ (listener.eraseSocket socketId).1.socketInfoMap ↔ entry ∈ listener.socketInfoMap ∧ entry.2 ≠ socketId := by
  rw [Listener.eraseSocket]
  split
  · rename_i found looked
    have perm := Entries.perm_eraseP looked
    have passed : found.2 = socketId := by simpa using List.find?_some looked
    have distinct : (found :: listener.socketInfoMap.eraseP fun entry => entry.2 = socketId).Nodup :=
      perm.nodup_iff.mp (List.Nodup.of_map _ map)
    refine ⟨List.eraseP_sublist,?_⟩
    intro entry
    have member : entry ∈ listener.socketInfoMap ↔ entry = found ∨
        entry ∈ listener.socketInfoMap.eraseP fun entry => entry.2 = socketId := by
      rw [perm.mem_iff,List.mem_cons]
    constructor
    · intro left
      have old := member.mpr (.inr left)
      refine ⟨old,?_⟩
      intro same
      have first := recorded entry old found (List.mem_of_find?_eq_some looked) (same.trans passed.symm)
      have equal := Entries.entry_unique map old (List.mem_of_find?_eq_some looked) first
      rw [equal] at left
      exact (List.nodup_cons.mp distinct).1 left
    · rintro ⟨old,apart⟩
      rcases member.mp old with rfl | left
      · exact absurd passed apart
      · exact left
  · rename_i looked
    refine ⟨List.Sublist.refl _,?_⟩
    intro entry
    constructor
    · intro member
      exact ⟨member,by simpa using List.find?_eq_none.mp looked entry member⟩
    · exact And.left

/-- The section of a close: the socket is shut, and it is recorded no more. -/
theorem close_sound (sound : Sound listener) (unused : ∀ (call : Nat) create, listener.creates[call]? = some create →
    ∀ socket, socketOf create ≠ some (socketId,socket)) : Sound ((listener.shutdown socketId).eraseSocket socketId).1 := by
  obtain ⟨map,mutexes,owners,creates,closes⟩ := shutdown_rest listener socketId
  obtain ⟨sockets',mutexes',owners',creates',closes'⟩ := eraseSocket_rest (listener.shutdown socketId) socketId
  have alone : ∀ entry ∈ listener.socketInfoMap, ∀ other ∈ listener.socketInfoMap, entry.2 = other.2 → entry.1 = other.1 := by
    intro entry member other also same
    have first := sound.recorded entry member
    have second := sound.recorded other also
    rw [Live,← same,first] at second
    exact congrArg Socket.info (Option.some.inj second)
  obtain ⟨sub,members⟩ := @eraseSocket_map (listener.shutdown socketId) socketId (by rw [map]; exact sound.keys) (by rw [map]; exact alone)
  rw [map] at sub members
  refine ⟨?_,?_,sound.keys.sublist (sub.map _),?_,?_,?_⟩
  · rw [creates',creates]
    intro other create at_
    obtain ⟨mutex,owner,absent,own⟩ := sound.fits other create at_
    refine ⟨?_,?_,?_,?_⟩
    · rw [mutexes',mutexes]
      exact mutex
    · rw [owners',owners]
      exact owner
    · exact fun info found entry member => absent info found entry (sub.mem member)
    · intro named socket pending
      have apart : named ≠ socketId := by
        rintro rfl
        exact unused other create at_ socket pending
      rw [sockets',shutdown_sockets listener socketId named apart]
      exact own named socket pending
  · rw [creates',creates]
    exact sound.apart
  · intro entry member
    obtain ⟨old,apart⟩ := (members entry).mp member
    rw [Live,sockets',shutdown_sockets listener socketId entry.2 apart]
    exact sound.recorded entry old
  · intro info other alive
    rw [Live,sockets'] at alive
    have apart : other ≠ socketId := by
      rintro rfl
      exact shutdown_dead listener other info alive
    rw [shutdown_sockets listener socketId other apart] at alive
    rw [creates',creates]
    exact (sound.live info other alive).imp_left fun member => (members (info,other)).mpr ⟨member,apart⟩
  · rw [closes',closes,sockets']
    intro closing named there
    obtain ⟨socket,has,status⟩ := sound.notified closing named there
    exact shutdown_status listener has status

/-- `ShutdownSocket` finds the socket or not, `ClientOnShutdown` knows of it, or the lock of a device is erased. -/
theorem stepClose_cases (taken : listener.stepClose call = some next) :
    (∃ socketId entry, listener.closes[call]? = some (.shutdownSocket socketId) ∧
      (listener.socketInfoMap.find? fun entry => entry.2 = socketId) = some entry ∧
      next = ((listener.shutdown socketId).eraseSocket socketId).1.moveClose call
        (.erasing ((listener.shutdown socketId).eraseSocket socketId).2)) ∨
    (∃ socketId, listener.closes[call]? = some (.shutdownSocket socketId) ∧ next = listener.moveClose call (.erasing .empty)) ∨
    (∃ socketId, listener.closes[call]? = some (.clientOnShutdown socketId) ∧
      next = ((listener.shutdown socketId).eraseSocket socketId).1.moveClose call
        (.erasing ((listener.shutdown socketId).eraseSocket socketId).2)) ∨
    ∃ info, listener.closes[call]? = some (.erasing info) ∧ next = (listener.eraseDeviceLock info).moveClose call .done := by
  unfold Listener.stepClose at taken
  split at taken
  · cases taken
  · cases taken
  · rename_i socketId place
    split at taken
    · rename_i entry looked
      exact .inl ⟨socketId,entry,place,looked,(Option.some.inj taken).symm⟩
    · exact .inr (.inl ⟨socketId,place,(Option.some.inj taken).symm⟩)
  · rename_i socketId place
    exact .inr (.inr (.inl ⟨socketId,place,(Option.some.inj taken).symm⟩))
  · rename_i info place
    exact .inr (.inr (.inr ⟨info,place,(Option.some.inj taken).symm⟩))

theorem stepClose_sound (sound : Sound listener) (listened : met listener (.close call) = true)
    (taken : listener.stepClose call = some next) : Sound next := by
  rcases stepClose_cases taken with ⟨socketId,entry,place,looked,rfl⟩ | ⟨socketId,-,rfl⟩ | ⟨socketId,place,rfl⟩ | ⟨info,place,rfl⟩
  · have member := List.mem_of_find?_eq_some looked
    have same : entry.2 = socketId := by simpa using List.find?_some looked
    have bound : listener.sockets socketId = some ⟨entry.1,.bound⟩ := same ▸ sound.recorded entry member
    refine Sound.moveClose (close_sound sound ?_) _ (fun _ same => by cases same)
    intro other create at_ socket pending
    have has := (sound.fits other create at_).own socketId socket pending
    rw [bound] at has
    have found : searched create = some entry.1 := by
      cases create <;> cases pending <;> cases has
      rfl
    exact (sound.fits other create at_).absent entry.1 found entry member rfl
  · exact sound.moveClose _ fun _ same => by cases same
  · simp only [met,place,Bool.not_eq_true'] at listened
    obtain ⟨socket,has,status⟩ := sound.notified call socketId place
    refine Sound.moveClose (close_sound sound ?_) _ (fun _ same => by cases same)
    intro other create at_ also pending
    have owned := (sound.fits other create at_).own socketId also pending
    rw [has] at owned
    have unrecorded := List.any_eq_false.mp listened create (List.mem_of_getElem? at_)
    cases create with
    | recording _ _ _ =>
      cases pending
      exact unrecorded (decide_eq_true rfl)
    | binding _ _ _ =>
      cases pending
      rw [Option.some.inj owned] at status
      exact status rfl
    | shutting _ _ _ =>
      cases pending
      rw [Option.some.inj owned] at status
      exact status rfl
    | querying _ => cases pending
    | locking _ _ => cases pending
    | looking _ _ => cases pending
    | opening _ _ => cases pending
    | erasing _ _ => cases pending
    | unlocking _ _ _ => cases pending
    | returned _ _ => cases pending
  · simp only [met,place,Bool.not_eq_true'] at listened
    exact (sound.eraseDeviceLock listened).moveClose _ fun _ same => by cases same

end Closing

section Steps
variable {listener next : Listener} {call : Nat} {info : DBinderSocketInfo} {infoMutex : Nat} {socketId result : Int32} {answer : Bool}

theorem fits_unlocking (owned : listener.owners infoMutex = some call) : Fits listener call (.unlocking info infoMutex result) := by
  refine ⟨?_,?_,?_,?_⟩
  · intro named needs
    cases needs
  · intro held same
    cases same
    exact owned
  · intro named found
    cases found
  · intro named socket pending
    cases pending

theorem Sound.unlocking (sound : Sound listener) {before : Create} (at_ : listener.creates[call]? = some before)
    (has : holds before = some infoMutex) (unrecorded : ∀ info infoMutex socketId, before ≠ .recording info infoMutex socketId) :
    Sound (listener.moveCreate call (.unlocking info infoMutex result)) := by
  refine sound.moveCreate at_ (fits_unlocking ((sound.fits call before at_).owner infoMutex has)) ?_ ?_
  · intro named socket pending
    cases pending
  · intro named held socket same
    exact absurd same (unrecorded named held socket)

theorem release_sound (sound : Sound listener) (at_ : listener.creates[call]? = some (.unlocking info infoMutex result)) :
    Sound ((listener.setOwner infoMutex none).moveCreate call (.returned info result)) := by
  have moved : Sound (listener.moveCreate call (.returned info result)) := by
    refine sound.moveCreate at_ (fits_idle (fun _ => rfl) rfl rfl rfl) ?_ ?_
    · intro named socket pending
      cases pending
    · intro named held socket same
      cases same
  have owned := (sound.fits call _ at_).owner infoMutex rfl
  refine moved.relock rfl rfl rfl rfl (fun other create there => (moved.fits other create there).mutex) ?_
  intro other create there held holding
  have also := (moved.fits other create there).owner held holding
  have apart : held ≠ infoMutex := by
    rintro rfl
    have same : (listener.moveCreate call (.returned info result)).owners held = listener.owners held := rfl
    rw [same,owned] at also
    cases also
    rw [show (listener.moveCreate call (.returned info result)).creates[call]? = some (.returned info result) from
      Entries.at_set_self at_] at there
    cases there
    cases holding
  exact (Function.update_of_ne apart ..).trans also

theorem stepCreate_sound (sound : Sound listener) (listened : met listener (.create call socketId answer) = true)
    (taken : listener.stepCreate call socketId answer = some next) : Sound next := by
  cases at_ : listener.creates[call]? with
  | none =>
    simp only [Listener.stepCreate,at_] at taken
    cases taken
  | some create =>
    have fits := sound.fits call create at_
    cases create with
    | returned info result =>
      simp only [Listener.stepCreate,at_] at taken
      cases taken
    | querying info =>
      simp only [Listener.stepCreate,at_,Option.some.injEq] at taken
      subst taken
      obtain ⟨queried,mutex,creates⟩ := query_sound sound info
      have there : (listener.queryOrNewInfoMutex info).1.creates[call]? = some (.querying info) := by rw [creates,at_]
      refine queried.moveSocketless there ?_ ?_ ?_ rfl fun _ _ _ same => by cases same
      · intro named needs
        have same : info = named := of_decide_eq_true needs
        rw [← same]
        exact mutex
      · intro held same
        cases same
      · intro named found
        cases found
    | locking info infoMutex =>
      simp only [Listener.stepCreate,at_] at taken
      split at taken
      · rename_i free
        cases taken
        refine (sound.acquire free (some call)).moveSocketless at_ fits.mutex ?_ ?_ rfl fun _ _ _ same => by cases same
        · intro held same
          cases same
          exact Function.update_self ..
        · intro named found
          cases found
      · cases taken
    | looking info infoMutex =>
      simp only [Listener.stepCreate,at_] at taken
      split at taken
      · cases taken
        exact sound.unlocking at_ rfl fun _ _ _ same => by cases same
      · rename_i looked
        cases taken
        refine sound.moveSocketless at_ fits.mutex fits.owner ?_ rfl fun _ _ _ same => by cases same
        intro named found entry member
        cases found
        rw [Listener.find,Option.map_eq_none_iff] at looked
        simpa using List.find?_eq_none.mp looked entry member
    | opening info infoMutex =>
      simp only [Listener.stepCreate,at_] at taken
      split at taken
      · cases taken
        exact sound.unlocking at_ rfl fun _ _ _ same => by cases same
      split at taken
      · rename_i fresh
        cases taken
        exact open_sound sound at_ fresh
      · cases taken
    | binding info infoMutex own =>
      simp only [Listener.stepCreate,at_] at taken
      split at taken
      · cases taken
        exact bind_sound sound at_
      · cases taken
        refine sound.moveCreate at_ ⟨?_,fits.owner,?_,fits.own⟩ ?_ ?_
        · intro named needs
          cases needs
        · intro named found
          cases found
        · intro named socket pending
          cases pending
          exact ⟨_,rfl⟩
        · intro named held socket same
          cases same
    | shutting info infoMutex own =>
      simp only [Listener.stepCreate,at_,Option.some.injEq] at taken
      subst taken
      exact shutdown_sound sound at_
    | erasing info infoMutex =>
      simp only [met,at_,Bool.not_eq_true'] at listened
      simp only [Listener.stepCreate,at_,Option.some.injEq] at taken
      subst taken
      exact (sound.eraseDeviceLock listened).unlocking at_ rfl fun _ _ _ same => by cases same
    | recording info infoMutex own =>
      simp only [Listener.stepCreate,at_,Option.some.injEq] at taken
      subst taken
      exact record_sound sound at_
    | unlocking info infoMutex result =>
      simp only [Listener.stepCreate,at_,Option.some.injEq] at taken
      subst taken
      exact release_sound sound at_

theorem Sound.beginCreate (sound : Sound listener) (info : DBinderSocketInfo) :
    Sound { listener with creates := listener.creates ++ [.querying info] } := by
  refine ⟨?_,?_,sound.keys,sound.recorded,?_,sound.notified⟩
  · intro other create at_
    rcases Entries.at_concat at_ with old | rfl
    · exact { sound.fits other create old with }
    · exact fits_idle (fun _ => rfl) rfl rfl rfl
  · intro first create at_ second also there named one two socket socket'
    rcases Entries.at_concat at_ with old | rfl
    · rcases Entries.at_concat there with other | rfl
      · exact sound.apart first create old second also other named one two socket socket'
      · cases socket'
    · cases socket
  · intro named other alive
    refine (sound.live named other alive).imp_right ?_
    rintro ⟨holder,held,there⟩
    exact ⟨holder,held,(List.getElem?_append_left (List.getElem?_eq_some_iff.mp there).1).trans there⟩

theorem Sound.beginClose (sound : Sound listener) (close : Close)
    (notified : ∀ socketId, close = .clientOnShutdown socketId → ∃ socket, listener.sockets socketId = some socket ∧ socket.status ≠ .created) :
    Sound { listener with closes := listener.closes ++ [close] } := by
  refine ⟨fun other create at_ => { sound.fits other create at_ with },sound.apart,sound.keys,sound.recorded,sound.live,?_⟩
  intro other named there
  rcases Entries.at_concat there with old | same
  · exact sound.notified other named old
  · exact notified named same.symm

theorem step_sound {event : Event} (sound : Sound listener) (listened : met listener event = true)
    (taken : fires Listener.step listener event next) : Sound next := by
  cases event with
  | createClientSocket info =>
    simp only [fires,Listener.step,Option.some.injEq] at taken
    subst taken
    exact sound.beginCreate info
  | create call socketId answer => exact stepCreate_sound sound listened taken
  | shutdownSocket socketId =>
    simp only [fires,Listener.step,Option.some.injEq] at taken
    subst taken
    exact sound.beginClose _ fun _ same => by cases same
  | clientOnShutdown socketId invoker =>
    have present : invoker = true := listened
    subst present
    simp only [fires,Listener.step,if_true] at taken
    split at taken
    · rename_i info has
      cases taken
      refine sound.beginClose _ ?_
      intro named same
      cases same
      refine ⟨_,has,?_⟩
      intro created
      cases created
    · cases taken
  | close call => exact stepClose_sound sound listened taken

end Steps

/-- The call is for the device and has not returned. -/
def inProgress (info : DBinderSocketInfo) : Create → Bool
  | .returned _ _ => false
  | .querying own | .locking own _ | .looking own _ | .opening own _ | .binding own _ _ | .shutting own _ _
  | .erasing own _ | .recording own _ _ | .unlocking own _ _ => decide (own = info)

def OneSocket (listener : Listener) : Prop :=
  ∀ info socketId other, Live listener info socketId → Live listener info other → socketId = other

/-- Where no call for a device is in progress, the map has the socket of the device that is bound and not shut, and nothing
else. -/
def Recorded (listener : Listener) : Prop :=
  ∀ info, listener.creates.any (inProgress info) = false → ∀ socketId, listener.find info = some socketId ↔ Live listener info socketId

section Results
variable {listener : Listener}

theorem find_iff (keys : (listener.socketInfoMap.map Prod.fst).Nodup) (info : DBinderSocketInfo) (socketId : Int32) :
    listener.find info = some socketId ↔ (info,socketId) ∈ listener.socketInfoMap := by
  rw [Listener.find,Option.map_eq_some_iff]
  constructor
  · rintro ⟨entry,looked,rfl⟩
    have same : entry.1 = info := by simpa using List.find?_some looked
    rw [← same]
    exact List.mem_of_find?_eq_some looked
  · intro member
    cases looked : listener.socketInfoMap.find? (fun entry => entry.1 = info) with
    | none =>
      have absent := List.find?_eq_none.mp looked (info,socketId) member
      exact absurd (decide_eq_true rfl) absent
    | some entry =>
      have same : entry.1 = info := by simpa using List.find?_some looked
      have equal := Entries.entry_unique keys (List.mem_of_find?_eq_some looked) member same
      exact ⟨entry,rfl,congrArg Prod.snd equal⟩

theorem Sound.oneSocket (sound : Sound listener) : OneSocket listener := by
  intro info socketId other first second
  have unlisted : ∀ {call : Nat} {infoMutex : Nat} {own : Int32}, listener.creates[call]? = some (.recording info infoMutex own) →
      ∀ named, (info,named) ∉ listener.socketInfoMap :=
    fun at_ named member => (sound.fits _ _ at_).absent info rfl (info,named) member rfl
  rcases sound.live info socketId first with member | ⟨call,infoMutex,at_⟩
  · rcases sound.live info other second with also | ⟨call',infoMutex',there⟩
    · exact congrArg Prod.snd (Entries.entry_unique sound.keys member also rfl)
    · exact absurd member (unlisted there socketId)
  · rcases sound.live info other second with also | ⟨call',infoMutex',there⟩
    · exact absurd also (unlisted at_ other)
    · have needs : ∀ {infoMutex : Nat} {own : Int32}, active info (.recording info infoMutex own) = true := decide_eq_true rfl
      have same := sound.single at_ there needs needs rfl rfl
      subst same
      rw [at_] at there
      cases there
      rfl

theorem Sound.recordedThere (sound : Sound listener) : Recorded listener := by
  intro info idle socketId
  rw [find_iff sound.keys]
  constructor
  · intro member
    exact sound.recorded _ member
  · intro live
    rcases sound.live info socketId live with member | ⟨call,infoMutex,at_⟩
    · exact member
    · have busy := List.any_eq_false.mp idle _ (List.mem_of_getElem? at_)
      exact absurd (decide_eq_true rfl) busy

end Results

theorem met_one_socket_per_device {events : List Event} {listener : Listener}
    (run : Reaches (guarded (fires Listener.step) (fun listener event => met listener event = true)) Listener.new events listener) :
    OneSocket listener ∧ Recorded listener := by
  have sound := run.invariant Sound sound_new (fun _ _ _ sound taken => step_sound sound taken.1 taken.2)
  exact ⟨sound.oneSocket,sound.recordedThere⟩

def device : DBinderSocketInfo := ⟨[1],[2],[3]⟩

/-- A failing bind, two calls that share a socket, and its end from the other side. -/
def metCreates : List Event :=
  List.flatten [[.createClientSocket device],List.replicate 8 (.create 0 1 false),[.createClientSocket device,.createClientSocket device],
    List.replicate 7 (.create 1 2 true),List.replicate 4 (.create 2 3 true),[.clientOnShutdown 2 true,.close 0,.close 0]]

theorem met_one_socket_per_device_shared :
    ∃ listener, Reaches (guarded (fires Listener.step) (fun listener event => met listener event = true)) Listener.new metCreates listener ∧
      (listener.creates = [.returned device socketIdInvalid,.returned device 2,.returned device 2] ∧ listener.find device = none) ∧
      OneSocket listener ∧ Recorded listener := by
  obtain ⟨listener,run,reached⟩ := Reaches.exists_of_foldlM_guarded Listener.step (fun listener event => met listener event = true)
    Listener.new metCreates (fun listener => decide (listener.creates = [.returned device socketIdInvalid,.returned device 2,
      .returned device 2] ∧ listener.find device = none)) (by decide +kernel)
  exact ⟨listener,run,of_decide_eq_true reached,met_one_socket_per_device run⟩

/-- A failing call erases the lock that a second one is waiting for, and a third one makes a new lock. -/
def twoLocks : List Event :=
  List.flatten [[.createClientSocket device,.createClientSocket device,.create 1 0 false],List.replicate 8 (.create 0 1 false),
    [.createClientSocket device],List.replicate 5 (.create 2 2 true),List.replicate 4 (.create 1 3 true)]

theorem two_locks_two_sockets :
    ∃ listener, Reaches (fires Listener.step) Listener.new twoLocks listener ∧
      (Live listener device 2 ∧ Live listener device 3) ∧ ¬ OneSocket listener := by
  obtain ⟨listener,run,reached⟩ := Reaches.exists_of_foldlM Listener.step Listener.new twoLocks
    (fun listener => decide (listener.sockets 2 = some ⟨device,.bound⟩ ∧ listener.sockets 3 = some ⟨device,.bound⟩)) (by decide +kernel)
  have live := of_decide_eq_true reached
  refine ⟨listener,run,live,?_⟩
  intro one
  have same := one device 2 3 live.1 live.2
  exact absurd same (by decide)

end CommunicationIpc.SocketListener
