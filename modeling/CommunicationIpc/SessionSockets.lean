import CommunicationIpc.Kernel.SessionSockets
import CommunicationIpc.SocketListener

/-! Sessions in use and the sockets that were shut. A thread that takes a session out, or cannot store one, asks whether another
session has the same peer before it closes the socket; a session of the peer that is about to be stored is not seen. -/
namespace CommunicationIpc.SessionSockets
open CommunicationIpc.Library CommunicationIpc.Kernel.ProxySessions CommunicationIpc.Kernel.SessionSockets
open CommunicationIpc.Kernel.SocketListener hiding Event
open CommunicationIpc.SocketListener (Live socketOf setSocket_self setSocket_other stepClose_cases)

/-- The socket that a call returns, or has found. -/
def given : Create → Option Int32
  | .unlocking _ _ result | .returned _ result => if 0 < result then some result else none
  | _ => none

/-- The socket that a call will return. -/
def carries : Create → Option Int32
  | .binding _ _ socketId | .recording _ _ socketId => some socketId
  | create => given create

/-- The thread has the socket for a session that is not stored yet. -/
def has (listener : Listener) (socketId : Int32) : Thread → Bool
  | .opening _ _ call => decide (listener.creates[call]?.bind carries = some socketId)
  | .publishing _ session => decide (session.socketId = socketId)
  | _ => false

def opens (call : Nat) : Thread → Bool
  | .opening _ _ own => decide (own = call)
  | _ => false

/-- A socket is given up when no thread has it, and no thread is given one that is being given up. -/
def met (system : System) : Event → Bool
  | .thread thread =>
    match system.threads[thread]? with
    | some (.querying session) =>
      (system.skeleton.querySessionByInfo session.serviceName session.deviceId).isSome ||
        !system.threads.any (has system.listener session.socketId)
    | _ => true
  | .create call _ _ =>
    match system.listener.creates[call]? with
    | some (.looking info _) =>
      match system.listener.find info with
      | some found => !(system.threads.any (opens call) && system.listener.closes.any fun close => close = .shutdownSocket found)
      | none => true
    | _ => true
  | _ => true

def infoOf : Create → DBinderSocketInfo
  | .querying info | .locking info _ | .looking info _ | .opening info _ | .binding info _ _ | .shutting info _ _
  | .erasing info _ | .recording info _ _ | .unlocking info _ _ | .returned info _ => info

/-- What is always so of the sockets, where none is closed by the other side. -/
structure Sockets (listener : Listener) : Prop where
  own : ∀ (call : Nat) create, listener.creates[call]? = some create → ∀ socketId socket, socketOf create = some (socketId,socket) →
    listener.sockets socketId = some socket
  apart : ∀ (call : Nat) create, listener.creates[call]? = some create → ∀ (other : Nat) also, listener.creates[other]? = some also →
    ∀ socketId first second, socketOf create = some (socketId,first) → socketOf also = some (socketId,second) → call = other
  unlisted : ∀ (call : Nat) create, listener.creates[call]? = some create → ∀ socketId socket, socketOf create = some (socketId,socket) →
    socketId ∉ listener.socketInfoMap.map Prod.snd
  listed : ∀ entry ∈ listener.socketInfoMap, Live listener entry.1 entry.2
  ids : (listener.socketInfoMap.map Prod.snd).Nodup
  local_ : ∀ (call : Nat) socketId, listener.closes[call]? ≠ some (.clientOnShutdown socketId)

/-- A socket that some call has opened keeps its device, and one that is bound stays so, but for those that are closed. -/
structure Keeps (closed : Int32 → Prop) (before after : Listener) : Prop where
  bound : ∀ info socketId, ¬ closed socketId → Live before info socketId → Live after info socketId
  known : ∀ info socketId status, before.sockets socketId = some ⟨info,status⟩ → ∃ later, after.sockets socketId = some ⟨info,later⟩

def nothing (_ : Int32) : Prop := False

theorem Keeps.of_same {closed : Int32 → Prop} {before after : Listener} (same : after.sockets = before.sockets) :
    Keeps closed before after := by
  refine ⟨?_,?_⟩
  · intro info socketId _ live
    rw [Live,same]
    exact live
  · intro info socketId status has_
    rw [same]
    exact ⟨status,has_⟩

section Creating
variable {listener next : Listener} {call : Nat} {before after : Create} {info : DBinderSocketInfo} {infoMutex : Nat} {socketId : Int32}
  {answer : Bool}

/-- A step of a call: what becomes of it, and what it learns. -/
structure Goes (listener next : Listener) (call : Nat) (before after : Create) : Prop where
  creates : next.creates = listener.creates.set call after
  closes : next.closes = listener.closes
  info : infoOf after = infoOf before
  keeps : Keeps nothing listener next
  learns : ∀ socketId, given after = some socketId → given before = some socketId ∨ Live next (infoOf after) socketId
  takes : ∀ socketId, carries after = some socketId → carries before = some socketId ∨ listener.sockets socketId = none ∨
    ∃ info infoMutex, before = .looking info infoMutex ∧ listener.find info = some socketId

theorem Sockets.advance (sockets : Sockets listener) (at_ : listener.creates[call]? = some before)
    (creates : next.creates = listener.creates.set call after) (closes : next.closes = listener.closes)
    (map : next.socketInfoMap = listener.socketInfoMap)
    (others : ∀ socketId socket, listener.sockets socketId = some socket → (∀ earlier, socketOf before ≠ some (socketId,earlier)) →
      next.sockets socketId = some socket)
    (own : ∀ socketId socket, socketOf after = some (socketId,socket) → next.sockets socketId = some socket ∧
      (listener.sockets socketId = none ∨ ∃ earlier, socketOf before = some (socketId,earlier))) : Sockets next := by
  -- nobody else has the socket that the call has now
  have alone : ∀ {other : Nat} {create : Create} {socketId : Int32} {one two : Socket}, other ≠ call →
      listener.creates[other]? = some create → socketOf create = some (socketId,one) → socketOf after ≠ some (socketId,two) := by
    intro other create socketId one two elsewhere old first second
    rcases (own socketId two second).2 with fresh | ⟨earlier,had⟩
    · have known := sockets.own other create old socketId one first
      rw [fresh] at known
      cases known
    · exact elsewhere (sockets.apart other create old call before at_ socketId one earlier first had)
  refine ⟨?_,?_,?_,?_,?_,?_⟩
  · rw [creates]
    intro other create there socketId socket pending
    rcases Entries.at_set there with ⟨rfl,rfl⟩ | ⟨elsewhere,old⟩
    · exact (own socketId socket pending).1
    · refine others socketId socket (sockets.own other create old socketId socket pending) ?_
      exact fun earlier had => elsewhere (sockets.apart other create old call before at_ socketId socket earlier pending had)
  · rw [creates]
    intro first create there second also there' socketId one two pending pending'
    rcases Entries.at_set there with ⟨rfl,rfl⟩ | ⟨elsewhere,old⟩
    · rcases Entries.at_set there' with ⟨rfl,rfl⟩ | ⟨elsewhere',old'⟩
      · rfl
      · exact absurd pending (alone elsewhere' old' pending')
    · rcases Entries.at_set there' with ⟨rfl,rfl⟩ | ⟨-,old'⟩
      · exact absurd pending' (alone elsewhere old pending)
      · exact sockets.apart first create old second also old' socketId one two pending pending'
  · rw [creates,map]
    intro other create there socketId socket pending
    rcases Entries.at_set there with ⟨rfl,rfl⟩ | ⟨-,old⟩
    · rcases (own socketId socket pending).2 with fresh | ⟨earlier,had⟩
      · intro member
        obtain ⟨entry,inside,rfl⟩ := List.mem_map.mp member
        have live := sockets.listed entry inside
        rw [Live,fresh] at live
        cases live
      · exact sockets.unlisted other before at_ socketId earlier had
    · exact sockets.unlisted other create old socketId socket pending
  · rw [map]
    intro entry member
    refine others entry.2 _ (sockets.listed entry member) ?_
    exact fun earlier had => sockets.unlisted call before at_ entry.2 earlier had (List.mem_map_of_mem member)
  · rw [map]
    exact sockets.ids
  · rw [closes]
    exact sockets.local_

theorem Sockets.record (sockets : Sockets listener) (at_ : listener.creates[call]? = some (.recording info infoMutex socketId)) :
    Sockets ((listener.record info socketId).moveCreate call (.unlocking info infoMutex socketId)) := by
  have bound : Live listener info socketId := sockets.own call _ at_ socketId _ rfl
  have sub : (listener.socketInfoMap.eraseP fun entry => entry.1 = info).Sublist listener.socketInfoMap := List.eraseP_sublist
  have unlisted : socketId ∉ listener.socketInfoMap.map Prod.snd := sockets.unlisted call _ at_ socketId _ rfl
  have mine : ∀ {other : Nat} {create : Create} {named : Int32} {socket : Socket},
      (listener.creates.set call (.unlocking info infoMutex socketId))[other]? = some create → socketOf create = some (named,socket) →
        other ≠ call ∧ listener.creates[other]? = some create := by
    intro other create named socket there pending
    rcases Entries.at_set there with ⟨-,rfl⟩ | old
    · cases pending
    · exact old
  refine ⟨?_,?_,?_,?_,?_,sockets.local_⟩
  · intro other create there named socket pending
    exact sockets.own other create (mine there pending).2 named socket pending
  · intro first create there second also there' named one two pending pending'
    exact sockets.apart first create (mine there pending).2 second also (mine there' pending').2 named one two pending pending'
  · intro other create there named socket pending member
    obtain ⟨elsewhere,old⟩ := mine there pending
    obtain ⟨entry,inside,rfl⟩ := List.mem_map.mp member
    rcases List.mem_append.mp inside with kept | new
    · exact sockets.unlisted other create old entry.2 socket pending (List.mem_map_of_mem (sub.mem kept))
    · rw [List.mem_singleton.mp new] at pending
      exact elsewhere (sockets.apart other create old call _ at_ socketId socket _ pending rfl)
  · intro entry member
    rcases List.mem_append.mp member with kept | new
    · exact sockets.listed entry (sub.mem kept)
    · rw [List.mem_singleton.mp new]
      exact bound
  · change ((_ ++ [(info,socketId)]).map Prod.snd).Nodup
    rw [List.map_append,List.nodup_append]
    refine ⟨sockets.ids.sublist (sub.map _),List.nodup_singleton _,?_⟩
    intro first kept second new same
    rw [same,List.mem_singleton.mp new] at kept
    exact unlisted ((sub.map _).mem kept)

/-- What a step of a call is, when it leaves the sockets and the map as they are. -/
theorem Sockets.quiet (sockets : Sockets listener) (at_ : listener.creates[call]? = some before)
    (creates : next.creates = listener.creates.set call after) (closes : next.closes = listener.closes)
    (map : next.socketInfoMap = listener.socketInfoMap) (same : next.sockets = listener.sockets) (info : infoOf after = infoOf before)
    (own : ∀ pair, socketOf after = some pair → socketOf before = some pair)
    (learns : ∀ socketId, given after = some socketId → given before = some socketId ∨ Live listener (infoOf after) socketId)
    (takes : ∀ socketId, carries after = some socketId → carries before = some socketId ∨
      ∃ info infoMutex, before = .looking info infoMutex ∧ listener.find info = some socketId) :
    Sockets next ∧ Goes listener next call before after := by
  refine ⟨?_,creates,closes,info,.of_same same,?_,?_⟩
  · refine sockets.advance at_ creates closes map ?_ ?_
    · intro socketId socket known _
      rw [same]
      exact known
    · intro socketId socket pending
      have had := own _ pending
      rw [same]
      exact ⟨sockets.own call before at_ socketId socket had,.inr ⟨socket,had⟩⟩
  · intro socketId gained
    rw [Live,same]
    exact learns socketId gained
  · exact fun socketId gained => (takes socketId gained).imp_right .inr

theorem Sockets.idle (sockets : Sockets listener) (at_ : listener.creates[call]? = some before)
    (creates : next.creates = listener.creates.set call after) (closes : next.closes = listener.closes)
    (map : next.socketInfoMap = listener.socketInfoMap) (same : next.sockets = listener.sockets) (info : infoOf after = infoOf before)
    (own : socketOf after = none) (nothing_ : carries after = none) : Sockets next ∧ Goes listener next call before after := by
  have none_ : given after = none := by
    cases after <;> first | exact nothing_ | rfl
  refine sockets.quiet at_ creates closes map same info ?_ ?_ ?_
  · rw [own]
    intro pair pending
    cases pending
  · rw [none_]
    intro socketId gained
    cases gained
  · rw [nothing_]
    intro socketId gained
    cases gained

theorem Sockets.setSocket (sockets : Sockets listener) (at_ : listener.creates[call]? = some before) {socket : Socket}
    (old : listener.sockets socketId = none ∨ listener.sockets socketId = some ⟨socket.info,.created⟩)
    (own : listener.sockets socketId = none ∨ ∃ earlier, socketOf before = some (socketId,earlier))
    (after_ : ∀ pair, socketOf after = some pair → pair = (socketId,socket)) (info : infoOf after = infoOf before)
    (given_ : given after = none)
    (takes : ∀ other, carries after = some other → carries before = some other ∨ listener.sockets other = none) :
    Sockets ((listener.setSocket socketId socket).moveCreate call after) ∧
      Goes listener ((listener.setSocket socketId socket).moveCreate call after) call before after := by
  refine ⟨sockets.advance at_ rfl rfl rfl ?_ ?_,rfl,rfl,info,⟨?_,?_⟩,?_,?_⟩
  · intro other known has_ free
    have elsewhere : other ≠ socketId := by
      rintro rfl
      rcases own with fresh | ⟨earlier,had⟩
      · rw [fresh] at has_
        cases has_
      · exact free earlier had
    exact (setSocket_other socket elsewhere).trans has_
  · intro other known pending
    cases after_ _ pending
    exact ⟨setSocket_self socket,own⟩
  · intro named other _ live
    have elsewhere : other ≠ socketId := by
      rintro rfl
      rw [Live] at live
      rcases old with fresh | created
      · rw [fresh] at live
        cases live
      · rw [created] at live
        cases live
    exact (setSocket_other socket elsewhere).trans live
  · intro named other status known
    by_cases same : other = socketId
    · subst same
      rcases old with fresh | created
      · rw [fresh] at known
        cases known
      · rw [created] at known
        cases known
        exact ⟨socket.status,setSocket_self socket⟩
    · exact ⟨status,(setSocket_other socket same).trans known⟩
  · rw [given_]
    intro other gained
    cases gained
  · exact fun other gained => (takes other gained).imp_right .inl

theorem given_unlocking (info : DBinderSocketInfo) (infoMutex : Nat) {result other : Int32}
    (gained : given (.unlocking info infoMutex result) = some other) : other = result := by
  simp only [given] at gained
  split at gained
  · exact (Option.some.inj gained).symm
  · cases gained

theorem stepCreate_goes (sockets : Sockets listener) (at_ : listener.creates[call]? = some before)
    (taken : listener.stepCreate call socketId answer = some next) : ∃ after, Sockets next ∧ Goes listener next call before after := by
  cases before with
  | returned info result =>
    simp only [Listener.stepCreate,at_] at taken
    cases taken
  | querying info =>
    simp only [Listener.stepCreate,at_,Option.some.injEq] at taken
    subst taken
    rw [Listener.queryOrNewInfoMutex]
    split
    · exact ⟨_,sockets.idle at_ rfl rfl rfl rfl rfl rfl rfl⟩
    · exact ⟨_,sockets.idle at_ rfl rfl rfl rfl rfl rfl rfl⟩
  | locking info infoMutex =>
    simp only [Listener.stepCreate,at_] at taken
    split at taken
    · cases taken
      exact ⟨_,sockets.idle at_ rfl rfl rfl rfl rfl rfl rfl⟩
    · cases taken
  | looking info infoMutex =>
    simp only [Listener.stepCreate,at_] at taken
    split at taken
    · rename_i found looked
      cases taken
      have live : Live listener info found := by
        obtain ⟨entry,inside,rfl⟩ := Option.map_eq_some_iff.mp looked
        have same : entry.1 = info := by simpa using List.find?_some inside
        exact same ▸ sockets.listed entry (List.mem_of_find?_eq_some inside)
      refine ⟨_,sockets.quiet at_ rfl rfl rfl rfl rfl ?_ ?_ ?_⟩
      · intro pair pending
        cases pending
      · intro other gained
        rw [given_unlocking info infoMutex gained]
        exact .inr live
      · intro other gained
        rw [given_unlocking info infoMutex gained]
        exact .inr ⟨info,infoMutex,rfl,looked⟩
    · cases taken
      exact ⟨_,sockets.idle at_ rfl rfl rfl rfl rfl rfl rfl⟩
  | opening info infoMutex =>
    simp only [Listener.stepCreate,at_] at taken
    split at taken
    · cases taken
      exact ⟨_,sockets.idle at_ rfl rfl rfl rfl rfl rfl rfl⟩
    split at taken
    · rename_i fresh
      cases taken
      refine ⟨_,sockets.setSocket at_ (.inl fresh) (.inl fresh) ?_ rfl rfl ?_⟩
      · intro pair pending
        cases pending
        rfl
      · intro other gained
        cases gained
        exact .inr fresh
    · cases taken
  | binding info infoMutex own =>
    have created : listener.sockets own = some ⟨info,.created⟩ := sockets.own call _ at_ own _ rfl
    simp only [Listener.stepCreate,at_] at taken
    split at taken
    · cases taken
      refine ⟨_,sockets.setSocket at_ (.inr created) (.inr ⟨_,rfl⟩) ?_ rfl rfl ?_⟩
      · intro pair pending
        cases pending
        rfl
      · exact fun other gained => .inl gained
    · cases taken
      refine ⟨_,sockets.quiet at_ rfl rfl rfl rfl rfl (fun pair pending => pending) ?_ ?_⟩
      · intro other gained
        cases gained
      · intro other gained
        cases gained
  | shutting info infoMutex own =>
    have created : listener.sockets own = some ⟨info,.created⟩ := sockets.own call _ at_ own _ rfl
    simp only [Listener.stepCreate,at_,Option.some.injEq] at taken
    subst taken
    rw [Listener.shutdown,created]
    refine ⟨_,sockets.setSocket at_ (.inr created) (.inr ⟨_,rfl⟩) ?_ rfl rfl ?_⟩
    · intro pair pending
      cases pending
    · intro other gained
      cases gained
  | erasing info infoMutex =>
    simp only [Listener.stepCreate,at_,Option.some.injEq] at taken
    subst taken
    exact ⟨_,sockets.idle at_ rfl rfl rfl rfl rfl rfl rfl⟩
  | recording info infoMutex own =>
    have bound : Live listener info own := sockets.own call _ at_ own _ rfl
    simp only [Listener.stepCreate,at_,Option.some.injEq] at taken
    subst taken
    refine ⟨_,sockets.record at_,rfl,rfl,rfl,.of_same rfl,?_,?_⟩
    · intro other gained
      rw [given_unlocking info infoMutex gained]
      exact .inr bound
    · intro other gained
      rw [given_unlocking info infoMutex gained]
      exact .inl rfl
  | unlocking info infoMutex result =>
    simp only [Listener.stepCreate,at_,Option.some.injEq] at taken
    subst taken
    refine ⟨_,sockets.quiet at_ rfl rfl rfl rfl rfl ?_ ?_ ?_⟩
    · intro pair pending
      cases pending
    · exact fun other gained => .inl gained
    · exact fun other gained => .inl gained

end Creating

section Closing
variable {listener next : Listener} {call : Nat} {socketId : Int32}

theorem Sockets.moveClose (sockets : Sockets listener) {close : Close} (still : ∀ socketId, close ≠ .clientOnShutdown socketId) :
    Sockets (listener.moveClose call close) := by
  refine ⟨sockets.own,sockets.apart,sockets.unlisted,sockets.listed,sockets.ids,?_⟩
  intro other named there
  rcases Entries.at_set there with ⟨-,same⟩ | ⟨-,old⟩
  · exact still named same.symm
  · exact sockets.local_ other named old

/-- A step of a `ShutdownSocket`. -/
structure Closes (listener next : Listener) (call : Nat) : Prop where
  creates : next.creates = listener.creates
  closes : ∀ (other : Nat) socketId, next.closes[other]? = some (.shutdownSocket socketId) →
    listener.closes[other]? = some (.shutdownSocket socketId)
  keeps : Keeps (fun socketId => listener.closes[call]? = some (.shutdownSocket socketId)) listener next

theorem Closes.of_move {close : Close} (still : ∀ socketId, close ≠ .shutdownSocket socketId) :
    Closes listener (listener.moveClose call close) call := by
  refine ⟨rfl,?_,.of_same rfl⟩
  intro other named there
  rcases Entries.at_set there with ⟨-,same⟩ | ⟨-,old⟩
  · exact absurd same.symm (still named)
  · exact old

/-- The section of `ShutdownSocket`: the socket is shut, and it is recorded no more. -/
theorem Sockets.close (sockets : Sockets listener) {entry : DBinderSocketInfo × Int32}
    (looked : listener.socketInfoMap.find? (fun entry => entry.2 = socketId) = some entry) :
    Sockets ((listener.shutdown socketId).eraseSocket socketId).1 ∧
      ((listener.shutdown socketId).eraseSocket socketId).1.creates = listener.creates ∧
        ((listener.shutdown socketId).eraseSocket socketId).1.closes = listener.closes ∧
          Keeps (fun other => other = socketId) listener ((listener.shutdown socketId).eraseSocket socketId).1 := by
  have inside := List.mem_of_find?_eq_some looked
  have same : entry.2 = socketId := by simpa using List.find?_some looked
  have bound : listener.sockets socketId = some ⟨entry.1,.bound⟩ := same ▸ sockets.listed entry inside
  have erased : ((listener.shutdown socketId).eraseSocket socketId).1 =
      { listener.setSocket socketId ⟨entry.1,.shut⟩ with
        socketInfoMap := listener.socketInfoMap.eraseP fun entry => entry.2 = socketId } := by
    rw [Listener.shutdown,bound,Listener.eraseSocket]
    simp only [Listener.setSocket,looked]
  rw [erased]
  have sub : (listener.socketInfoMap.eraseP fun entry => entry.2 = socketId).Sublist listener.socketInfoMap := List.eraseP_sublist
  have gone : socketId ∉ (listener.socketInfoMap.eraseP fun entry => entry.2 = socketId).map Prod.snd := by
    have distinct := ((Entries.perm_eraseP looked).map Prod.snd).nodup_iff.mp sockets.ids
    rw [List.map_cons,same] at distinct
    exact (List.nodup_cons.mp distinct).1
  refine ⟨⟨?_,sockets.apart,?_,?_,sockets.ids.sublist (sub.map _),sockets.local_⟩,rfl,rfl,⟨?_,?_⟩⟩
  · intro other create at_ named socket pending
    have elsewhere : named ≠ socketId := by
      rintro rfl
      exact sockets.unlisted other create at_ named socket pending (same ▸ List.mem_map_of_mem inside)
    exact (setSocket_other _ elsewhere).trans (sockets.own other create at_ named socket pending)
  · intro other create at_ named socket pending member
    exact sockets.unlisted other create at_ named socket pending ((sub.map _).mem member)
  · intro other member
    have elsewhere : other.2 ≠ socketId := fun equal => gone (List.mem_map.mpr ⟨other,member,equal⟩)
    exact (setSocket_other _ elsewhere).trans (sockets.listed other (sub.mem member))
  · intro info named elsewhere live
    exact (setSocket_other _ elsewhere).trans live
  · intro info named status known
    by_cases equal : named = socketId
    · subst equal
      rw [bound] at known
      cases known
      exact ⟨.shut,setSocket_self _⟩
    · exact ⟨status,(setSocket_other _ equal).trans known⟩

theorem stepClose_closes (sockets : Sockets listener) (taken : listener.stepClose call = some next) :
    Sockets next ∧ Closes listener next call := by
  rcases stepClose_cases taken with ⟨socketId,entry,place,looked,rfl⟩ | ⟨socketId,-,rfl⟩ | ⟨socketId,place,rfl⟩ | ⟨info,-,rfl⟩
  · obtain ⟨closed,creates,closes,bound,known⟩ := sockets.close looked
    refine ⟨closed.moveClose (fun _ same => by cases same),creates,?_,?_,known⟩
    · intro other named there
      rw [Listener.moveClose,closes] at there
      rcases Entries.at_set there with ⟨-,same⟩ | ⟨-,old⟩
      · cases same
      · exact old
    · intro info named open_ live
      refine bound info named ?_ live
      rintro rfl
      exact open_ place
  · exact ⟨sockets.moveClose (fun _ same => by cases same),.of_move (fun _ same => by cases same)⟩
  · exact absurd place (sockets.local_ call socketId)
  · have erased : Sockets (listener.eraseDeviceLock info) := { sockets with }
    have moved : Closes listener (listener.moveClose call .done) call := .of_move (fun _ same => by cases same)
    exact ⟨erased.moveClose (fun _ same => by cases same),rfl,moved.closes,.of_same rfl⟩

end Closing

/-- The session has a socket of its peer that is bound. -/
def Uses (listener : Listener) (session : Session) : Prop :=
  ∃ ownName, Live listener ⟨ownName,session.serviceName,session.deviceId⟩ session.socketId

def Fits (listener : Listener) : Thread → Prop
  | .opening _ session call => ∃ create ownName, listener.creates[call]? = some create ∧
    infoOf create = ⟨ownName,session.serviceName,session.deviceId⟩ ∧ ∀ socketId, given create = some socketId →
      Live listener ⟨ownName,session.serviceName,session.deviceId⟩ socketId
  | .publishing _ session => Uses listener session
  | .querying session => ∃ ownName status, listener.sockets session.socketId = some ⟨⟨ownName,session.serviceName,session.deviceId⟩,status⟩
  | .detaching _ _ | .done => True

/-- The socket is about to be shut, and no session that is stored, or will be, has it. -/
structure GivenUp (system : System) (socketId : Int32) : Prop where
  known : system.listener.sockets socketId ≠ none
  unused : ∀ entry ∈ system.skeleton.proxyToSession, (system.skeleton.sessions entry.2).socketId ≠ socketId
  untaken : ∀ thread ∈ system.threads, has system.listener socketId thread = false

/-- What is always so while `met` holds at every step. -/
structure Sound (system : System) : Prop where
  sockets : Sockets system.listener
  stored : ∀ entry ∈ system.skeleton.proxyToSession, entry.2 < system.skeleton.made ∧
    Uses system.listener (system.skeleton.sessions entry.2)
  fits : ∀ thread ∈ system.threads, Fits system.listener thread
  closing : ∀ (call : Nat) socketId, system.listener.closes[call]? = some (.shutdownSocket socketId) → GivenUp system socketId

theorem sound_new : Sound System.new := by
  refine ⟨⟨?_,?_,?_,?_,List.nodup_nil,?_⟩,?_,?_,?_⟩
  · intro call create at_
    cases at_
  · intro call create at_
    cases at_
  · intro call create at_
    cases at_
  · intro entry member
    cases member
  · intro call socketId at_
    cases at_
  · intro entry member
    cases member
  · intro thread member
    cases member
  · intro call socketId at_
    cases at_

section Storing
variable {skeleton : Skeleton} {session : Nat} {handle : UInt32}

/-- An operation that only adds one session to the map, if any. -/
structure Stores (session : Nat) (before after : Skeleton) : Prop where
  made : after.made = before.made
  sessions : after.sessions = before.sessions
  entries : ∀ entry ∈ after.proxyToSession, entry ∈ before.proxyToSession ∨ entry.2 = session

theorem insert_stores (skeleton : Skeleton) (handle : UInt32) (session : Nat) :
    Stores session skeleton (skeleton.insert handle session).1 := by
  rw [Skeleton.insert]
  split
  · exact ⟨rfl,rfl,fun _ => .inl⟩
  · refine ⟨rfl,rfl,?_⟩
    intro entry member
    rcases (List.mem_orderedInsert _).mp member with rfl | old
    · exact .inr rfl
    · exact .inl old

theorem tryHandles_stores (skeleton : Skeleton) (session count : Nat) (handle : UInt32) :
    Stores session skeleton (skeleton.tryHandles session count handle).1 := by
  induction count generalizing handle with
  | zero => exact ⟨rfl,rfl,fun _ => .inl⟩
  | succ count ih =>
    have stores := insert_stores skeleton (Skeleton.nextHandle handle) session
    rw [Skeleton.tryHandles]
    split
    · rename_i inserted ran
      rw [ran] at stores
      exact ⟨stores.made,stores.sessions,stores.entries⟩
    · exact ih (Skeleton.nextHandle handle)

theorem publish_stores (skeleton : Skeleton) (target : Target) (session : Session) :
    Stores skeleton.made (skeleton.makeSession session) (System.publish skeleton target session).1 := by
  cases target with
  | proxy handle => exact insert_stores ..
  | idle => exact tryHandles_stores ..

theorem makeSession_self (session : Session) : (skeleton.makeSession session).sessions skeleton.made = session := Function.update_self ..

theorem makeSession_other (session : Session) {other : Nat} (apart : other ≠ skeleton.made) :
    (skeleton.makeSession session).sessions other = skeleton.sessions other := Function.update_of_ne apart ..

theorem setProxy_same (skeleton : Skeleton) (session other : Nat) (proxy : Option Nat) :
    ((skeleton.setProxy session proxy).sessions other).serviceName = (skeleton.sessions other).serviceName ∧
      ((skeleton.setProxy session proxy).sessions other).deviceId = (skeleton.sessions other).deviceId ∧
        ((skeleton.setProxy session proxy).sessions other).socketId = (skeleton.sessions other).socketId := by
  rw [Skeleton.setProxy]
  by_cases same : other = session
  · subst same
    simp only [Function.update_self,and_self]
  · simp only [Function.update_of_ne same,and_self]

end Storing

section Parts
variable {system : System} {listener next : Listener} {skeleton : Skeleton} {thread place : Thread} {socketId : Int32}

theorem carries_of_given {create : Create} (gained : given create = some socketId) : carries create = some socketId := by
  cases create <;> first | exact gained | cases gained

theorem Sound.beginThread (sound : Sound system) (fits : Fits system.listener place)
    (free : ∀ socketId, has system.listener socketId place = false) : Sound (system.beginThread place) := by
  refine ⟨sound.sockets,sound.stored,?_,?_⟩
  · intro thread member
    rcases List.mem_append.mp member with old | new
    · exact sound.fits thread old
    · rw [List.mem_singleton.mp new]
      exact fits
  · intro call socketId at_
    obtain ⟨known,unused,untaken⟩ := sound.closing call socketId at_
    refine ⟨known,unused,?_⟩
    intro thread member
    rcases List.mem_append.mp member with old | new
    · exact untaken thread old
    · rw [List.mem_singleton.mp new]
      exact free socketId

theorem Sound.moveThread (sound : Sound system) {index : Nat} (at_ : system.threads[index]? = some thread)
    (fits : Fits system.listener place)
    (free : ∀ socketId, has system.listener socketId place = true → has system.listener socketId thread = true) :
    Sound (system.moveThread index place) := by
  refine ⟨sound.sockets,sound.stored,?_,?_⟩
  · intro other member
    rcases List.mem_or_eq_of_mem_set member with old | rfl
    · exact sound.fits other old
    · exact fits
  · intro call socketId closing
    obtain ⟨known,unused,untaken⟩ := sound.closing call socketId closing
    refine ⟨known,unused,?_⟩
    intro other member
    rcases List.mem_or_eq_of_mem_set member with old | rfl
    · exact untaken other old
    · have free_ := untaken thread (List.mem_of_getElem? at_)
      exact Bool.eq_false_of_not_eq_true fun taken => Bool.eq_false_iff.mp free_ (free socketId taken)

/-- The map changes, and every session in it has a socket that is bound and is not given up. -/
theorem Sound.store (sound : Sound system) (entries : ∀ entry ∈ skeleton.proxyToSession, entry.2 < skeleton.made ∧
      Uses system.listener (skeleton.sessions entry.2) ∧
        ∀ socketId, GivenUp system socketId → (skeleton.sessions entry.2).socketId ≠ socketId) :
    Sound { system with skeleton := skeleton } := by
  refine ⟨sound.sockets,fun entry member => ⟨(entries entry member).1,(entries entry member).2.1⟩,sound.fits,?_⟩
  intro call socketId at_
  have given_ := sound.closing call socketId at_
  exact ⟨given_.known,fun entry member => (entries entry member).2.2 socketId given_,given_.untaken⟩

/-- What is said of a thread holds on, if its own call goes on as it should and its socket is not closed. -/
theorem Fits.of_keeps {closed : Int32 → Prop} (fits : Fits listener thread) (keeps : Keeps closed listener next)
    (open_ : ∀ socketId, closed socketId → has listener socketId thread = false)
    (creates : ∀ (call : Nat) create, listener.creates[call]? = some create → ∃ after, next.creates[call]? = some after ∧
      infoOf after = infoOf create ∧ ∀ socketId, given after = some socketId → given create = some socketId ∨
        Live next (infoOf after) socketId) : Fits next thread := by
  cases thread with
  | opening target session call =>
    obtain ⟨create,ownName,at_,info,live⟩ := fits
    obtain ⟨after,later,same,learns⟩ := creates call create at_
    refine ⟨after,ownName,later,same.trans info,?_⟩
    intro socketId gained
    rcases learns socketId gained with had | now
    · refine keeps.bound _ socketId ?_ (live socketId had)
      intro shut
      have unheld : ¬ listener.creates[call]?.bind carries = some socketId := of_decide_eq_false (open_ socketId shut)
      rw [at_] at unheld
      exact unheld (carries_of_given had)
    · rwa [same,info] at now
  | publishing target session =>
    obtain ⟨ownName,live⟩ := fits
    refine ⟨ownName,keeps.bound _ session.socketId ?_ live⟩
    intro shut
    exact of_decide_eq_false (open_ session.socketId shut) rfl
  | querying session =>
    obtain ⟨ownName,status,known⟩ := fits
    exact ⟨ownName,keeps.known _ session.socketId status known⟩
  | detaching handle proxy => trivial
  | done => trivial

theorem Sound.listen (sound : Sound system) {closed : Int32 → Prop} (sockets : Sockets next) (keeps : Keeps closed system.listener next)
    (open_ : ∀ socketId, closed socketId → GivenUp system socketId)
    (creates : ∀ (call : Nat) create, system.listener.creates[call]? = some create → ∃ after, next.creates[call]? = some after ∧
      infoOf after = infoOf create ∧ ∀ socketId, given after = some socketId → given create = some socketId ∨
        Live next (infoOf after) socketId)
    (closing : ∀ (call : Nat) socketId, next.closes[call]? = some (.shutdownSocket socketId) → GivenUp system socketId ∧
      ∀ thread ∈ system.threads, has next socketId thread = false) :
    Sound { system with listener := next } := by
  refine ⟨sockets,?_,?_,?_⟩
  · intro entry member
    obtain ⟨bound,ownName,live⟩ := sound.stored entry member
    refine ⟨bound,ownName,keeps.bound _ _ ?_ live⟩
    exact fun shut => (open_ _ shut).unused entry member rfl
  · intro thread member
    exact (sound.fits thread member).of_keeps keeps (fun socketId shut => (open_ socketId shut).untaken thread member) creates
  · intro call socketId at_
    obtain ⟨⟨known,unused,-⟩,untaken⟩ := closing call socketId at_
    refine ⟨?_,unused,untaken⟩
    obtain ⟨⟨info,status⟩,has_⟩ := Option.ne_none_iff_exists'.mp known
    obtain ⟨later,still⟩ := keeps.known info socketId status has_
    rw [still]
    intro same
    cases same

end Parts

section Steps
variable {system next : System}

theorem has_same {listener later : Listener} {thread : Thread} {socketId : Int32}
    (creates : ∀ target session (call : Nat), thread = .opening target session call →
      later.creates[call]?.bind carries = some socketId → listener.creates[call]?.bind carries = some socketId)
    (free : has listener socketId thread = false) : has later socketId thread = false := by
  cases thread with
  | opening target session call =>
    have before : ¬ listener.creates[call]?.bind carries = some socketId := of_decide_eq_false free
    exact decide_eq_false fun gained => before (creates target session call rfl gained)
  | publishing target session => exact free
  | querying session => rfl
  | detaching handle proxy => rfl
  | done => rfl

theorem Sound.beginCreate (sound : Sound system) (info : DBinderSocketInfo) :
    Sound { system with listener := { system.listener with creates := system.listener.creates ++ [.querying info] } } := by
  have fresh : ∀ {call : Nat} {create : Create} {socketId : Int32} {socket : Socket},
      (system.listener.creates ++ [.querying info])[call]? = some create → socketOf create = some (socketId,socket) →
        system.listener.creates[call]? = some create := by
    intro call create socketId socket at_ pending
    rcases Entries.at_concat at_ with old | rfl
    · exact old
    · cases pending
  have sockets := sound.sockets
  refine @Sound.listen system _ sound nothing ⟨?_,?_,?_,sockets.listed,sockets.ids,sockets.local_⟩ (.of_same rfl) (fun _ shut => shut.elim) ?_ ?_
  · intro call create at_ socketId socket pending
    exact sockets.own call create (fresh at_ pending) socketId socket pending
  · intro call create at_ other also there socketId one two pending pending'
    exact sockets.apart call create (fresh at_ pending) other also (fresh there pending') socketId one two pending pending'
  · intro call create at_ socketId socket pending
    exact sockets.unlisted call create (fresh at_ pending) socketId socket pending
  · intro call create at_
    exact ⟨create,(List.getElem?_append_left (List.getElem?_eq_some_iff.mp at_).1).trans at_,rfl,fun _ => .inl⟩
  · intro call socketId at_
    refine ⟨sound.closing call socketId at_,?_⟩
    intro thread member
    refine has_same ?_ ((sound.closing call socketId at_).untaken thread member)
    intro target session own _ gained
    obtain ⟨create,there,carried⟩ := Option.bind_eq_some_iff.mp gained
    rcases Entries.at_concat there with old | rfl
    · rw [old]
      exact carried
    · cases carried

theorem updateClientSession_sound (sound : Sound system) {target : Target} {ownName : List UInt8} {session : Session}
    (taken : system.updateClientSession target ownName session = some next) : Sound next := by
  simp only [System.updateClientSession,Listener.step,Option.bind_eq_bind,Option.bind_some,Option.some.injEq] at taken
  subst taken
  refine (sound.beginCreate _).beginThread ⟨_,ownName,List.getElem?_concat_length,rfl,?_⟩ ?_
  · intro socketId gained
    cases gained
  · intro socketId
    refine decide_eq_false ?_
    rw [List.getElem?_concat_length]
    intro gained
    cases gained

theorem create_sound (sound : Sound system) {call : Nat} {socketId : Int32} {answer : Bool}
    (allowed : met system (.create call socketId answer) = true) {listener : Listener}
    (taken : system.listener.stepCreate call socketId answer = some listener) : Sound { system with listener := listener } := by
  cases at_ : system.listener.creates[call]? with
  | none =>
    rw [Listener.stepCreate,at_] at taken
    cases taken
  | some before =>
    obtain ⟨after,sockets,goes⟩ := stepCreate_goes sound.sockets at_ taken
    refine sound.listen sockets goes.keeps (fun _ shut => shut.elim) ?_ ?_
    · intro other create there
      rw [goes.creates]
      by_cases same : other = call
      · subst same
        rw [at_] at there
        cases there
        exact ⟨after,Entries.at_set_self at_,goes.info,goes.learns⟩
      · exact ⟨create,(Entries.at_set_other same).trans there,rfl,fun _ => .inl⟩
    · intro closing shut there
      rw [goes.closes] at there
      have given_ := sound.closing closing shut there
      refine ⟨given_,?_⟩
      intro thread member
      refine has_same ?_ (given_.untaken thread member)
      intro target session other opening gained
      rw [goes.creates] at gained
      by_cases same : other = call
      · subst same
        rw [Entries.at_set_self at_] at gained
        rw [at_]
        rcases goes.takes shut gained with had | fresh | ⟨info,infoMutex,rfl,found⟩
        · exact had
        · exact absurd fresh given_.known
        · -- the call may not find a socket that is being given up
          have opens_ : system.threads.any (opens other) = true :=
            List.any_eq_true.mpr ⟨thread,member,by rw [opening]; exact decide_eq_true rfl⟩
          have closes_ : (system.listener.closes.any fun close => close = .shutdownSocket shut) = true :=
            List.any_eq_true.mpr ⟨_,List.mem_of_getElem? there,decide_eq_true rfl⟩
          rw [met,at_] at allowed
          simp only [found,opens_,closes_] at allowed
          cases allowed
      · rwa [Entries.at_set_other same] at gained

theorem close_sound (sound : Sound system) {call : Nat} {listener : Listener}
    (taken : system.listener.stepClose call = some listener) : Sound { system with listener := listener } := by
  obtain ⟨sockets,closes⟩ := stepClose_closes sound.sockets taken
  refine sound.listen sockets closes.keeps (fun socketId place => sound.closing call socketId place) ?_ ?_
  · intro other create at_
    rw [closes.creates]
    exact ⟨create,at_,rfl,fun _ => .inl⟩
  · intro other socketId there
    have given_ := sound.closing other socketId (closes.closes other socketId there)
    refine ⟨given_,?_⟩
    intro thread member
    refine has_same ?_ (given_.untaken thread member)
    intro target session own _ gained
    rwa [closes.creates] at gained

theorem Sound.shutdownSocket (sound : Sound system) {socketId : Int32} (given_ : GivenUp system socketId) :
    Sound { system with listener := { system.listener with closes := system.listener.closes ++ [.shutdownSocket socketId] } } := by
  have sockets := sound.sockets
  refine @Sound.listen system _ sound nothing ⟨sockets.own,sockets.apart,sockets.unlisted,sockets.listed,sockets.ids,?_⟩ (.of_same rfl)
    (fun _ shut => shut.elim) (fun call create at_ => ⟨create,at_,rfl,fun _ => .inl⟩) ?_
  · intro call other at_
    rcases Entries.at_concat at_ with old | same
    · exact sockets.local_ call other old
    · cases same
  · intro call other at_
    have also : GivenUp system other := by
      rcases Entries.at_concat at_ with old | same
      · exact sound.closing call other old
      · cases same
        exact given_
    exact ⟨also,also.untaken⟩

theorem Sound.publish (sound : Sound system) {index : Nat} {target : Target} {session : Session}
    (at_ : system.threads[index]? = some (.publishing target session)) :
    Sound { system with skeleton := (System.publish system.skeleton target session).1 } := by
  have member := List.mem_of_getElem? at_
  have uses : Uses system.listener session := sound.fits _ member
  have stores := publish_stores system.skeleton target session
  refine sound.store ?_
  intro entry inside
  rw [stores.made,stores.sessions]
  change entry.2 < system.skeleton.made+1 ∧ _
  rcases stores.entries entry inside with old | new
  · obtain ⟨bound,known⟩ := sound.stored entry old
    rw [makeSession_other session (Nat.ne_of_lt bound)]
    exact ⟨Nat.lt_succ_of_lt bound,known,fun socketId given_ => given_.unused entry old⟩
  · rw [new,makeSession_self]
    refine ⟨Nat.lt_succ_self _,uses,?_⟩
    intro socketId given_
    exact of_decide_eq_false (given_.untaken _ member)

theorem detach_sound (sound : Sound system) {handle : UInt32} {proxy session : Nat} {skeleton : Skeleton}
    (detached : system.skeleton.proxyDetachDBinderSession handle proxy = (skeleton,some session)) :
    Sound { system with skeleton := skeleton } ∧ Fits system.listener (.querying (skeleton.sessions session)) := by
  rw [Skeleton.proxyDetachDBinderSession] at detached
  split at detached
  · cases detached
  · rename_i found looked
    split at detached
    · cases detached
      refine ⟨?_,?_⟩
      · refine sound.store ?_
        intro entry inside
        have old := List.mem_of_mem_eraseP inside
        obtain ⟨bound,known⟩ := sound.stored entry old
        exact ⟨bound,known,fun socketId given_ => given_.unused entry old⟩
      · obtain ⟨entry,inside,rfl⟩ := Option.map_eq_some_iff.mp looked
        obtain ⟨-,ownName,live⟩ := sound.stored entry (List.mem_of_find?_eq_some inside)
        exact ⟨ownName,.bound,live⟩
    · cases detached

theorem givenUp_of_query (sound : Sound system) {index : Nat} {session : Session}
    (at_ : system.threads[index]? = some (.querying session))
    (absent : system.skeleton.querySessionByInfo session.serviceName session.deviceId = none)
    (free : system.threads.any (has system.listener session.socketId) = false) : GivenUp system session.socketId := by
  obtain ⟨ownName,status,known⟩ := sound.fits _ (List.mem_of_getElem? at_)
  refine ⟨?_,?_,fun thread member => Bool.eq_false_of_not_eq_true (List.any_eq_false.mp free thread member)⟩
  · rw [known]
    intro same
    cases same
  · intro entry member same
    obtain ⟨-,own,live⟩ := sound.stored entry member
    rw [same,Live,known] at live
    have peer : (system.skeleton.sessions entry.2).deviceId = session.deviceId ∧
        (system.skeleton.sessions entry.2).serviceName = session.serviceName := by
      simp only [Option.some.injEq,Socket.mk.injEq,DBinderSocketInfo.mk.injEq] at live
      exact ⟨live.1.2.2.symm,live.1.2.1.symm⟩
    rw [Skeleton.querySessionByInfo,Option.map_eq_none_iff] at absent
    exact List.find?_eq_none.mp absent entry member (decide_eq_true peer)

theorem stepThread_sound (sound : Sound system) {index : Nat} (allowed : met system (.thread index) = true)
    (taken : system.stepThread index = some next) : Sound next := by
  cases at_ : system.threads[index]? with
  | none =>
    rw [System.stepThread,at_] at taken
    cases taken
  | some thread =>
    have fits := sound.fits thread (List.mem_of_getElem? at_)
    cases thread with
    | done =>
      rw [System.stepThread,at_] at taken
      cases taken
    | opening target session call =>
      obtain ⟨create,ownName,there,info,live⟩ := fits
      simp only [System.stepThread,at_,there] at taken
      split at taken
      · rename_i named result same
        cases same
        split at taken
        · cases taken
          exact sound.moveThread at_ trivial (fun _ gained => by cases gained)
        · rename_i positive
          cases taken
          have gained : given (.returned named result) = some result := if_pos (Int32.not_le.mp positive)
          refine sound.moveThread at_ ⟨ownName,live result gained⟩ ?_
          intro socketId same
          rw [← of_decide_eq_true same]
          refine decide_eq_true ?_
          rw [there]
          exact gained
      · cases taken
    | publishing target session =>
      simp only [System.stepThread,at_] at taken
      have published := sound.publish at_
      split at taken
      · rename_i skeleton stored
        cases taken
        rw [stored] at published
        exact published.moveThread at_ trivial (fun _ gained => by cases gained)
      · rename_i skeleton stored
        cases taken
        rw [stored] at published
        obtain ⟨ownName,live⟩ := fits
        exact published.moveThread at_ ⟨ownName,.bound,live⟩ (fun _ gained => by cases gained)
    | detaching handle proxy =>
      simp only [System.stepThread,at_] at taken
      split at taken
      · cases taken
        exact sound.moveThread at_ trivial (fun _ gained => by cases gained)
      split at taken
      · cases taken
        exact sound.moveThread at_ trivial (fun _ gained => by cases gained)
      · rename_i skeleton session detached
        cases taken
        obtain ⟨stored,querying⟩ := detach_sound sound detached
        exact stored.moveThread at_ querying (fun _ gained => by cases gained)
    | querying session =>
      simp only [System.stepThread,at_] at taken
      split at taken
      · cases taken
        exact sound.moveThread at_ trivial (fun _ gained => by cases gained)
      · rename_i absent
        simp only [met,at_,absent,Option.isSome_none,Bool.false_or,Bool.not_eq_true'] at allowed
        simp only [Listener.step,Option.bind_eq_bind,Option.bind_some,Option.some.injEq] at taken
        subst taken
        exact (sound.shutdownSocket (givenUp_of_query sound at_ absent allowed)).moveThread at_ trivial (fun _ gained => by cases gained)

theorem Sound.setProxy (sound : Sound system) (session : Nat) (proxy : Option Nat) :
    Sound { system with skeleton := system.skeleton.setProxy session proxy } := by
  refine sound.store ?_
  intro entry member
  obtain ⟨bound,known⟩ := sound.stored entry member
  obtain ⟨serviceName,deviceId,socketId⟩ := setProxy_same system.skeleton session entry.2 proxy
  rw [Uses,serviceName,deviceId,socketId]
  exact ⟨bound,known,fun other given_ => given_.unused entry member⟩

theorem step_sound {event : Event} (sound : Sound system) (allowed : met system event = true)
    (taken : fires System.step system event next) : Sound next := by
  cases event with
  | makeDBinderTransSession handle ownName session => exact updateClientSession_sound sound taken
  | makeRemoteHandle ownName session => exact updateClientSession_sound sound taken
  | releaseDatabusProto handle proxy =>
    cases taken
    exact sound.beginThread trivial (fun _ => rfl)
  | createClientSocket info =>
    cases taken
    exact sound.beginCreate info
  | thread thread => exact stepThread_sound sound allowed taken
  | create call socketId answer =>
    obtain ⟨listener,stepped,rest⟩ := Option.bind_eq_some_iff.mp taken
    cases rest
    exact create_sound sound allowed stepped
  | close call =>
    obtain ⟨listener,stepped,rest⟩ := Option.bind_eq_some_iff.mp taken
    cases rest
    exact close_sound sound stepped
  | queryHandleByDatabusSession name deviceId stubIndex =>
    cases taken
    rw [Skeleton.queryHandleByDatabusSession]
    split
    · exact sound
    · exact sound.setProxy _ _
  | proxyMoveDBinderSession handle proxy =>
    cases taken
    rw [Skeleton.proxyMoveDBinderSession]
    split
    · exact sound
    · exact sound.setProxy _ _

end Steps

/-- No session that is stored has a socket that was shut. -/
def LiveSessions (system : System) : Prop :=
  ∀ entry ∈ system.skeleton.proxyToSession, ∀ info, system.listener.sockets (system.skeleton.sessions entry.2).socketId ≠ some ⟨info,.shut⟩

theorem Sound.liveSessions {system : System} (sound : Sound system) : LiveSessions system := by
  intro entry member info shut
  obtain ⟨-,ownName,live⟩ := sound.stored entry member
  rw [Live,shut] at live
  cases live

theorem met_no_session_on_shut_socket {events : List Event} {system : System}
    (run : Reaches (guarded (fires System.step) (fun system event => met system event = true)) System.new events system) :
    LiveSessions system :=
  (run.invariant Sound sound_new (fun _ _ _ sound taken => step_sound sound taken.1 taken.2)).liveSessions

def toPeer (stubIndex : UInt64) (proxy : Nat) : Session := ⟨[2],[3],stubIndex,some proxy,0⟩

/-- Two sessions of one peer share a socket; it is shut when both proxies are gone, and a third session gets another. -/
def metEvents : List Event :=
  List.flatten [[.makeDBinderTransSession 1 [1] (toPeer 5 10)],List.replicate 7 (.create 0 7 true),[.thread 0,.thread 0,
    .makeRemoteHandle [1] (toPeer 6 11)],List.replicate 4 (.create 1 0 true),[.thread 1,.thread 1,.releaseDatabusProto 1 10,.thread 2,.thread 2,
    .releaseDatabusProto 687200001 11,.thread 3,.thread 3,.close 0,.close 0,.makeDBinderTransSession 2 [1] (toPeer 5 12)],
    List.replicate 7 (.create 2 8 true),[.thread 4,.thread 4]]

theorem met_no_session_on_shut_socket_shared :
    ∃ system, Reaches (guarded (fires System.step) (fun system event => met system event = true)) System.new metEvents system ∧
      (system.skeleton.proxyToSession = [(2,2)] ∧ system.listener.sockets 7 = some ⟨⟨[1],[2],[3]⟩,.shut⟩) ∧ LiveSessions system := by
  obtain ⟨system,run,reached⟩ := Reaches.exists_of_foldlM_guarded System.step (fun system event => met system event = true)
    System.new metEvents (fun system => decide (system.skeleton.proxyToSession = [(2,2)] ∧
      system.listener.sockets 7 = some ⟨⟨[1],[2],[3]⟩,.shut⟩)) (by decide +kernel)
  exact ⟨system,run,of_decide_eq_true reached,met_no_session_on_shut_socket run⟩

/-- A proxy that goes finds no other session of its peer, while a second thread has been given the socket. -/
def sharedThenShut : List Event :=
  List.flatten [[.makeDBinderTransSession 1 [1] (toPeer 5 10)],List.replicate 7 (.create 0 7 true),[.thread 0,.thread 0,
    .releaseDatabusProto 1 10,.thread 1,.makeDBinderTransSession 2 [1] (toPeer 6 11)],List.replicate 4 (.create 1 0 true),
    [.thread 1,.thread 2,.close 0,.thread 2]]

theorem shut_socket_published :
    ∃ system, Reaches (fires System.step) System.new sharedThenShut system ∧
      ((2,1) ∈ system.skeleton.proxyToSession ∧ (system.skeleton.sessions 1).socketId = 7 ∧
        system.listener.sockets 7 = some ⟨⟨[1],[2],[3]⟩,.shut⟩) ∧ ¬ LiveSessions system := by
  obtain ⟨system,run,reached⟩ := Reaches.exists_of_foldlM System.step System.new sharedThenShut
    (fun system => decide ((2,1) ∈ system.skeleton.proxyToSession ∧ (system.skeleton.sessions 1).socketId = 7 ∧
      system.listener.sockets 7 = some ⟨⟨[1],[2],[3]⟩,.shut⟩)) (by decide +kernel)
  have stored := of_decide_eq_true reached
  refine ⟨system,run,stored,?_⟩
  intro live
  refine live (2,1) stored.1 ⟨[1],[2],[3]⟩ ?_
  rw [stored.2.1]
  exact stored.2.2

end CommunicationIpc.SessionSockets
