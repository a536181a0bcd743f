import CommunicationIpc.Kernel.SessionHandle
import CommunicationIpc.Library.Run

/-! Whose connection the ready flag of a session id speaks of. The node of an id outlives its connections and
its flag is never cleared, so no waiter misses it, and none can tell an old connection from the new one. -/
namespace CommunicationIpc.SessionHandle
open CommunicationIpc.Library CommunicationIpc.Kernel.SessionHandle

/-- A connection gets an id whose node is not ready, `OnConnected` sets the flag while its connection is the newest
of the id, and no waiter reads a ready flag of an id that no connection has. -/
def met (state : State) : Event → Bool
  | .connect sessionId =>
    match state.find sessionId with
    | some node => !(state.nodes node).isReady
    | none => true
  | .handleNewConnection callback _ =>
    match state.callbacks callback with
    | .setting sessionId connection _ => decide ((state.sessions sessionId).connection = connection)
    | _ => true
  | .wait thread _ =>
    match state.waits thread with
    | .checking sessionId node | .woken sessionId node =>
      !(state.nodes node).isReady || decide ((state.sessions sessionId).status ≠ .closed)
    | _ => true
  | _ => true

def Named (state : State) (sessionId : Int32) (node : Nat) : Prop :=
  node ∈ state.idList ∧ (state.nodes node).sessionId = sessionId.toUInt32

/-- One node for each id. -/
structure Listed (state : State) : Prop where
  made : ∀ node ∈ state.idList, node < state.made
  one : ∀ node ∈ state.idList, ∀ other ∈ state.idList, (state.nodes node).sessionId = (state.nodes other).sessionId → node = other

def Ready (state : State) (sessionId : Int32) : Prop :=
  ∃ node, Named state sessionId node ∧ (state.nodes node).isReady = true

def WaitFine (state : State) : Wait → Prop
  | .checking sessionId node => Named state sessionId node
  | .waiting sessionId node => Named state sessionId node ∧ (state.nodes node).isReady = false
  | .woken sessionId node => Named state sessionId node ∧ (state.nodes node).isReady = true
  | _ => True

def CallbackFine (state : State) : Callback → Prop
  | .setting sessionId _ node => Named state sessionId node
  | .returned sessionId result => result = errNone → Ready state sessionId
  | _ => True

/-- What is so in every run. -/
structure Sound (state : State) : Prop where
  listed : Listed state
  waits : ∀ thread, WaitFine state (state.waits thread)
  callbacks : ∀ callback, CallbackFine state (state.callbacks callback)

/-- No node goes, and a flag that is set stays set. -/
structure Keeps (state next : State) : Prop where
  idList : ∀ node ∈ state.idList, node ∈ next.idList
  sessionId : ∀ node ∈ state.idList, (next.nodes node).sessionId = (state.nodes node).sessionId
  isReady : ∀ node ∈ state.idList, (state.nodes node).isReady = true → (next.nodes node).isReady = true

section Nodes
variable {state next : State} {sessionId : Int32} {node : Nat}

theorem Listed.same (listed : Listed state) (named : Named state sessionId node) {other : Nat} (also : Named state sessionId other) :
    node = other := listed.one node named.1 other also.1 (named.2.trans also.2.symm)

theorem named_of_find (found : state.find sessionId = some node) : Named state sessionId node :=
  ⟨List.mem_of_find?_eq_some found,by simpa using List.find?_some found⟩

theorem Listed.find (listed : Listed state) (named : Named state sessionId node) : state.find sessionId = some node := by
  cases found : state.find sessionId with
  | none =>
    have absent := List.find?_eq_none.mp found node named.1
    exact absurd named.2 (by simpa using absent)
  | some other => rw [listed.same named (named_of_find found)]

theorem Keeps.refl (state : State) : Keeps state state := ⟨fun _ => id,fun _ _ => rfl,fun _ _ => id⟩

theorem Keeps.beside {after : State} (keeps : Keeps state next) (idList : after.idList = next.idList) (nodes : after.nodes = next.nodes) :
    Keeps state after := by
  obtain ⟨members,sessionIds,flags⟩ := keeps
  constructor
  · rw [idList]
    exact members
  · rw [nodes]
    exact sessionIds
  · rw [nodes]
    exact flags

theorem Keeps.named (keeps : Keeps state next) (named : Named state sessionId node) : Named next sessionId node :=
  ⟨keeps.idList node named.1,(keeps.sessionId node named.1).trans named.2⟩

theorem Keeps.ready (keeps : Keeps state next) (ready : Ready state sessionId) : Ready next sessionId := by
  obtain ⟨node,named,set⟩ := ready
  exact ⟨node,keeps.named named,keeps.isReady node named.1 set⟩

theorem Keeps.callbackFine (keeps : Keeps state next) {callback : Callback} (fine : CallbackFine state callback) :
    CallbackFine next callback := by
  cases callback with
  | unstarted => trivial
  | finding _ _ => trivial
  | setting _ _ _ => exact keeps.named fine
  | returned _ _ => exact fun succeeded => keeps.ready (fine succeeded)

theorem Keeps.waitFine (keeps : Keeps state next) (same : ∀ node ∈ state.idList, next.nodes node = state.nodes node) {wait : Wait}
    (fine : WaitFine state wait) : WaitFine next wait := by
  cases wait with
  | unstarted => trivial
  | finding _ => trivial
  | checking _ _ => exact keeps.named fine
  | waiting _ node =>
    refine ⟨keeps.named fine.1,?_⟩
    rw [same node fine.1.1]
    exact fine.2
  | woken _ node => exact ⟨keeps.named fine.1,keeps.isReady node fine.1.1 fine.2⟩
  | returned _ _ => trivial

/-- `FindOrNewSessionIdObject` leaves the nodes that are there as they are. -/
structure Finds (state next : State) (sessionId : Int32) (found : Option Nat) : Prop where
  listed : Listed next
  idList : ∀ node ∈ state.idList, node ∈ next.idList
  nodes : ∀ node ∈ state.idList, next.nodes node = state.nodes node
  named : ∀ node, found = some node → Named next sessionId node
  known : ∀ node, Named state sessionId node → found = some node
  unready : ∀ node ∈ next.idList, (next.nodes node).isReady = true → node ∈ state.idList
  sessions : next.sessions = state.sessions
  waits : next.waits = state.waits
  callbacks : next.callbacks = state.callbacks

theorem Finds.keeps {found : Option Nat} (finds : Finds state next sessionId found) : Keeps state next := by
  refine ⟨finds.idList,?_,?_⟩
  · intro node member
    rw [finds.nodes node member]
  · intro node member
    rw [finds.nodes node member]
    exact id

theorem newNode_finds (listed : Listed state) (absent : state.find sessionId = none) :
    Finds state (state.newNode sessionId) sessionId (some state.made) := by
  have unnamed : ∀ node ∈ state.idList, (state.nodes node).sessionId ≠ sessionId.toUInt32 := by
    intro node member
    simpa using List.find?_eq_none.mp absent node member
  have old : ∀ node ∈ state.idList, (state.newNode sessionId).nodes node = state.nodes node := by
    intro node member
    exact Function.update_of_ne (Nat.ne_of_lt (listed.made node member)) ..
  have new : (state.newNode sessionId).nodes state.made = ⟨sessionId.toUInt32,false⟩ := Function.update_self ..
  refine ⟨⟨?_,?_⟩,?_,old,?_,?_,?_,rfl,rfl,rfl⟩
  · intro node member
    rcases List.mem_cons.mp member with rfl | member
    · exact Nat.lt_succ_self _
    · exact Nat.lt_succ_of_lt (listed.made node member)
  · intro node member other also equal
    rcases List.mem_cons.mp member with rfl | member
    · rcases List.mem_cons.mp also with rfl | also
      · rfl
      · rw [new,old other also] at equal
        exact absurd equal.symm (unnamed other also)
    · rcases List.mem_cons.mp also with rfl | also
      · rw [new,old node member] at equal
        exact absurd equal (unnamed node member)
      · rw [old node member,old other also] at equal
        exact listed.one node member other also equal
  · exact fun node member => List.mem_cons_of_mem _ member
  · intro node same
    cases same
    refine ⟨List.mem_cons_self,?_⟩
    rw [new]
  · intro node named
    exact absurd named.2 (unnamed node named.1)
  · intro node member ready
    rcases List.mem_cons.mp member with rfl | member
    · rw [new] at ready
      cases ready
    · exact member

theorem findOrNew_finds (listed : Listed state) {choice : Bool} {found : Option Nat}
    (done : state.findOrNewSessionIdObject sessionId choice = (next,found)) : Finds state next sessionId found := by
  rw [State.findOrNewSessionIdObject] at done
  cases looked : state.find sessionId with
  | some node =>
    simp only [looked,Prod.mk.injEq] at done
    obtain ⟨rfl,rfl⟩ := done
    refine ⟨listed,fun _ => id,fun _ _ => rfl,?_,?_,fun _ member _ => member,rfl,rfl,rfl⟩
    · intro other same
      cases same
      exact named_of_find looked
    · intro other named
      rw [listed.same named (named_of_find looked)]
  | none =>
    simp only [looked] at done
    split at done
    · obtain ⟨rfl,rfl⟩ := Prod.mk.inj done
      exact newNode_finds listed looked
    · obtain ⟨rfl,rfl⟩ := Prod.mk.inj done
      refine ⟨listed,fun _ => id,fun _ _ => rfl,?_,?_,fun _ member _ => member,rfl,rfl,rfl⟩
      · intro node same
        cases same
      · intro node named
        rw [listed.find named] at looked
        cases looked

end Nodes

theorem Sound.moved {state next : State} (sound : Sound state) (listed : Listed next) (keeps : Keeps state next)
    (same : ∀ node ∈ state.idList, next.nodes node = state.nodes node)
    (waits : ∀ thread, next.waits thread = state.waits thread ∨ WaitFine next (next.waits thread))
    (callbacks : ∀ callback, next.callbacks callback = state.callbacks callback ∨ CallbackFine next (next.callbacks callback)) :
    Sound next := by
  refine ⟨listed,?_,?_⟩
  · intro thread
    rcases waits thread with kept | fine
    · rw [kept]
      exact keeps.waitFine same (sound.waits thread)
    · exact fine
  · intro callback
    rcases callbacks callback with kept | fine
    · rw [kept]
      exact keeps.callbackFine (sound.callbacks callback)
    · exact fine

theorem moveWait_waits (state : State) (thread other : Nat) (wait : Wait) (fine : WaitFine (state.moveWait thread wait) wait) :
    (state.moveWait thread wait).waits other = state.waits other ∨
      WaitFine (state.moveWait thread wait) ((state.moveWait thread wait).waits other) := by
  by_cases same : other = thread
  · subst same
    right
    simp only [State.moveWait,Function.update_self] at fine ⊢
    exact fine
  · exact .inl (Function.update_of_ne same ..)

theorem moveCallback_callbacks (state : State) (callback other : Nat) (place : Callback)
    (fine : CallbackFine (state.moveCallback callback place) place) :
    (state.moveCallback callback place).callbacks other = state.callbacks other ∨
      CallbackFine (state.moveCallback callback place) ((state.moveCallback callback place).callbacks other) := by
  by_cases same : other = callback
  · subst same
    right
    simp only [State.moveCallback,Function.update_self] at fine ⊢
    exact fine
  · exact .inl (Function.update_of_ne same ..)

section Taken
variable {state next : State} {thread callback : Nat} {choice : Bool}

/-- The sections of a `WaitForSessionIdReady`, by where it is. -/
inductive WaitStep (state : State) (thread : Nat) : Wait → State → Prop
  | finds {sessionId : Int32} {choice : Bool} {after : State} {node : Nat}
      (found : state.findOrNewSessionIdObject sessionId choice = (after,some node)) :
      WaitStep state thread (.finding sessionId) (after.moveWait thread (.checking sessionId node))
  | misses {sessionId : Int32} {choice : Bool} {after : State} (found : state.findOrNewSessionIdObject sessionId choice = (after,none)) :
      WaitStep state thread (.finding sessionId) (after.moveWait thread (.returned sessionId errFailed))
  | sees {sessionId : Int32} {node : Nat} (ready : (state.nodes node).isReady = true) :
      WaitStep state thread (.checking sessionId node) (state.moveWait thread (.returned sessionId errNone))
  | blocks {sessionId : Int32} {node : Nat} (unready : (state.nodes node).isReady = false) :
      WaitStep state thread (.checking sessionId node) (state.moveWait thread (.waiting sessionId node))
  | gives {sessionId : Int32} {node : Nat} :
      WaitStep state thread (.checking sessionId node) (state.moveWait thread (.returned sessionId errFailed))
  | timesOut {sessionId : Int32} {node : Nat} :
      WaitStep state thread (.waiting sessionId node) (state.moveWait thread (.returned sessionId errFailed))
  | wakes {sessionId : Int32} {node : Nat} : WaitStep state thread (.woken sessionId node)
      (state.moveWait thread (.returned sessionId (if (state.nodes node).isReady then errNone else errFailed)))

theorem waitStep_of_taken (taken : state.stepWait thread choice = some next) : WaitStep state thread (state.waits thread) next := by
  cases place : state.waits thread with
  | unstarted | returned _ _ =>
    simp only [State.stepWait,place] at taken
    cases taken
  | finding sessionId =>
    simp only [State.stepWait,place] at taken
    split at taken
    · rename_i found
      cases taken
      exact .finds found
    · rename_i found
      cases taken
      exact .misses found
  | checking sessionId node =>
    simp only [State.stepWait,place] at taken
    split at taken
    · rename_i ready
      cases taken
      exact .sees ready
    · rename_i unready
      split at taken
      · cases taken
        exact .blocks (Bool.eq_false_iff.mpr unready)
      · cases taken
        exact .gives
  | waiting sessionId node =>
    simp only [State.stepWait,place] at taken
    split at taken
    · cases taken
    · cases taken
      exact .timesOut
  | woken sessionId node =>
    simp only [State.stepWait,place,Option.some.injEq] at taken
    subst taken
    exact .wakes

/-- The sections of a `HandleNewConnection`. -/
inductive CallbackStep (state : State) (callback : Nat) : Callback → State → Prop
  | finds {sessionId : Int32} {connection : Nat} {choice : Bool} {after : State} {node : Nat}
      (found : state.findOrNewSessionIdObject sessionId choice = (after,some node)) :
      CallbackStep state callback (.finding sessionId connection) (after.moveCallback callback (.setting sessionId connection node))
  | misses {sessionId : Int32} {connection : Nat} {choice : Bool} {after : State}
      (found : state.findOrNewSessionIdObject sessionId choice = (after,none)) :
      CallbackStep state callback (.finding sessionId connection) (after.moveCallback callback (.returned sessionId errFailed))
  | sees {sessionId : Int32} {connection node : Nat} (ready : (state.nodes node).isReady = true) :
      CallbackStep state callback (.setting sessionId connection node) (state.moveCallback callback (.returned sessionId errNone))
  | sets {sessionId : Int32} {connection node : Nat} : CallbackStep state callback (.setting sessionId connection node)
      (((state.setReady node).pthreadCondBroadcast node).moveCallback callback (.returned sessionId errNone))

theorem callbackStep_of_taken (taken : state.stepCallback callback choice = some next) :
    CallbackStep state callback (state.callbacks callback) next := by
  cases place : state.callbacks callback with
  | unstarted | returned _ _ =>
    simp only [State.stepCallback,place] at taken
    cases taken
  | finding sessionId connection =>
    simp only [State.stepCallback,place] at taken
    split at taken
    · rename_i found
      cases taken
      exact .finds found
    · rename_i found
      cases taken
      exact .misses found
  | setting sessionId connection node =>
    simp only [State.stepCallback,place] at taken
    split at taken
    · rename_i ready
      cases taken
      exact .sees ready
    · cases taken
      exact .sets

/-- The steps of the system. -/
inductive Taken (state : State) : Event → State → Prop
  | connects {sessionId : Int32} :
      Taken state (.connect sessionId) (state.setSession sessionId ⟨(state.sessions sessionId).connection+1,.connecting⟩)
  | refuses {callback : Nat} {sessionId result : Int32} :
      Taken state (.onConnected callback sessionId result) (state.moveCallback callback (.returned sessionId errFailed))
  | connected {callback : Nat} {sessionId result : Int32} : Taken state (.onConnected callback sessionId result)
      ((state.setSession sessionId ⟨(state.sessions sessionId).connection,.connected⟩).moveCallback callback
        (.finding sessionId (state.sessions sessionId).connection))
  | disconnected {sessionId : Int32} :
      Taken state (.onDisconnected sessionId) (state.setSession sessionId ⟨(state.sessions sessionId).connection,.closed⟩)
  | handles {callback : Nat} {choice : Bool} {next : State} (step : CallbackStep state callback (state.callbacks callback) next) :
      Taken state (.handleNewConnection callback choice) next
  | begins {thread : Nat} {sessionId : Int32} {wait : Wait} (unstarted : state.waits thread = .unstarted)
      (start : wait = .returned sessionId errFailed ∨ wait = .finding sessionId) :
      Taken state (.waitForSessionIdReady thread sessionId) (state.moveWait thread wait)
  | waits {thread : Nat} {choice : Bool} {next : State} (step : WaitStep state thread (state.waits thread) next) :
      Taken state (.wait thread choice) next

theorem taken_of_step {event : Event} (taken : fires State.step state event next) : Taken state event next := by
  cases event with
  | connect sessionId =>
    simp only [fires,State.step] at taken
    split at taken
    · cases taken
      exact .connects
    · cases taken
  | onConnected callback sessionId result =>
    simp only [fires,State.step] at taken
    split at taken
    · split at taken
      · cases taken
        exact .refuses
      · cases taken
        exact .connected
    · cases taken
  | onDisconnected sessionId =>
    simp only [fires,State.step] at taken
    split at taken
    · cases taken
    · cases taken
      exact .disconnected
  | handleNewConnection callback choice => exact .handles (callbackStep_of_taken taken)
  | waitForSessionIdReady thread sessionId =>
    simp only [fires,State.step] at taken
    split at taken
    · rename_i unstarted
      split at taken
      · cases taken
        exact .begins unstarted (.inl rfl)
      · cases taken
        exact .begins unstarted (.inr rfl)
    · cases taken
  | wait thread choice => exact .waits (waitStep_of_taken taken)

end Taken

section Steps
variable {state next : State} {thread callback : Nat} {choice : Bool}

theorem Sound.moveWait (sound : Sound state) {wait : Wait} (fine : WaitFine state wait) : Sound (state.moveWait thread wait) := by
  refine sound.moved ⟨sound.listed.made,sound.listed.one⟩ ((Keeps.refl state).beside rfl rfl) (fun _ _ => rfl) ?_ (fun _ => .inl rfl)
  intro other
  apply moveWait_waits
  cases wait <;> exact fine

theorem Sound.moveCallback (sound : Sound state) {place : Callback} (fine : CallbackFine state place) :
    Sound (state.moveCallback callback place) := by
  refine sound.moved ⟨sound.listed.made,sound.listed.one⟩ ((Keeps.refl state).beside rfl rfl) (fun _ _ => rfl) (fun _ => .inl rfl) ?_
  intro other
  apply moveCallback_callbacks
  cases place <;> exact fine

theorem Finds.sound {sessionId : Int32} {found : Option Nat} (finds : Finds state next sessionId found) (sound : Sound state) :
    Sound next := by
  refine sound.moved finds.listed finds.keeps finds.nodes ?_ ?_
  · intro thread
    rw [finds.waits]
    exact .inl rfl
  · intro callback
    rw [finds.callbacks]
    exact .inl rfl

theorem setReady_self (state : State) (node : Nat) :
    ((state.setReady node).pthreadCondBroadcast node).nodes node = { state.nodes node with isReady := true } := Function.update_self ..

theorem setReady_other (state : State) {node other : Nat} (apart : other ≠ node) :
    ((state.setReady node).pthreadCondBroadcast node).nodes other = state.nodes other := Function.update_of_ne apart ..

theorem setReady_sessionId (state : State) (node other : Nat) :
    (((state.setReady node).pthreadCondBroadcast node).nodes other).sessionId = (state.nodes other).sessionId := by
  by_cases same : other = node
  · rw [same,setReady_self]
  · rw [setReady_other state same]

theorem setReady_keeps (state : State) (node : Nat) : Keeps state ((state.setReady node).pthreadCondBroadcast node) := by
  refine ⟨fun _ => id,fun other _ => setReady_sessionId state node other,?_⟩
  intro other _ ready
  by_cases same : other = node
  · rw [same,setReady_self]
  · rw [setReady_other state same]
    exact ready

/-- Nobody is left blocked on a node that becomes ready. -/
theorem Sound.broadcast (sound : Sound state) (node : Nat) : Sound ((state.setReady node).pthreadCondBroadcast node) := by
  have keeps := setReady_keeps state node
  refine ⟨⟨sound.listed.made,?_⟩,?_,fun callback => keeps.callbackFine (sound.callbacks callback)⟩
  · intro left member right also equal
    rw [setReady_sessionId,setReady_sessionId] at equal
    exact sound.listed.one left member right also equal
  · intro thread
    have fine := sound.waits thread
    change WaitFine _ (State.wake node (state.waits thread))
    cases place : state.waits thread with
    | unstarted => trivial
    | finding _ => trivial
    | returned _ _ => trivial
    | checking _ _ =>
      rw [place] at fine
      exact keeps.named fine
    | woken _ _ =>
      rw [place] at fine
      exact ⟨keeps.named fine.1,keeps.isReady _ fine.1.1 fine.2⟩
    | waiting _ blocked =>
      rw [place] at fine
      simp only [State.wake]
      split
      · rename_i same
        subst same
        exact ⟨keeps.named fine.1,by rw [setReady_self]⟩
      · rename_i apart
        refine ⟨keeps.named fine.1,?_⟩
        rw [setReady_other state apart]
        exact fine.2

theorem waitStep_sound (sound : Sound state) (step : WaitStep state thread (state.waits thread) next) : Sound next ∧ Keeps state next := by
  have fine := sound.waits thread
  generalize state.waits thread = wait at step fine
  cases step with
  | finds found =>
    have finds := findOrNew_finds sound.listed found
    exact ⟨(finds.sound sound).moveWait (finds.named _ rfl),finds.keeps.beside rfl rfl⟩
  | misses found =>
    have finds := findOrNew_finds sound.listed found
    exact ⟨(finds.sound sound).moveWait trivial,finds.keeps.beside rfl rfl⟩
  | blocks unready => exact ⟨sound.moveWait ⟨fine,unready⟩,(Keeps.refl state).beside rfl rfl⟩
  | sees | gives | timesOut | wakes => exact ⟨sound.moveWait trivial,(Keeps.refl state).beside rfl rfl⟩

theorem callbackStep_sound (sound : Sound state) (step : CallbackStep state callback (state.callbacks callback) next) :
    Sound next ∧ Keeps state next := by
  have fine := sound.callbacks callback
  generalize state.callbacks callback = place at step fine
  cases step with
  | finds found =>
    have finds := findOrNew_finds sound.listed found
    exact ⟨(finds.sound sound).moveCallback (finds.named _ rfl),finds.keeps.beside rfl rfl⟩
  | misses found =>
    have finds := findOrNew_finds sound.listed found
    refine ⟨(finds.sound sound).moveCallback ?_,finds.keeps.beside rfl rfl⟩
    intro failed
    cases failed
  | @sees _ _ node ready => exact ⟨sound.moveCallback fun _ => ⟨node,fine,ready⟩,(Keeps.refl state).beside rfl rfl⟩
  | @sets sessionId _ node =>
    have ready : Ready ((state.setReady node).pthreadCondBroadcast node) sessionId :=
      ⟨node,(setReady_keeps state node).named fine,by rw [setReady_self]⟩
    exact ⟨(sound.broadcast node).moveCallback fun _ => ready,(setReady_keeps state node).beside rfl rfl⟩

theorem Sound.setSession (sound : Sound state) (sessionId : Int32) (session : Session) : Sound (state.setSession sessionId session) :=
  sound.moved ⟨sound.listed.made,sound.listed.one⟩ ⟨fun _ => id,fun _ _ => rfl,fun _ _ => id⟩ (fun _ _ => rfl) (fun _ => .inl rfl)
    (fun _ => .inl rfl)

end Steps

theorem sound_new : Sound State.new := by
  refine ⟨⟨?_,?_⟩,fun _ => trivial,fun _ => trivial⟩
  · intro node member
    cases member
  · intro node member
    cases member

theorem step_sound {state next : State} {event : Event} (sound : Sound state) (taken : fires State.step state event next) :
    Sound next ∧ Keeps state next := by
  cases taken_of_step taken with
  | connects | disconnected => exact ⟨sound.setSession ..,(Keeps.refl state).beside rfl rfl⟩
  | refuses =>
    refine ⟨sound.moveCallback ?_,(Keeps.refl state).beside rfl rfl⟩
    intro failed
    cases failed
  | connected => exact ⟨(sound.setSession ..).moveCallback trivial,(Keeps.refl state).beside rfl rfl⟩
  | handles step => exact callbackStep_sound sound step
  | begins _ start =>
    refine ⟨sound.moveWait ?_,(Keeps.refl state).beside rfl rfl⟩
    rcases start with rfl | rfl <;> trivial
  | waits step => exact waitStep_sound sound step

/-- In `WaitForSessionIdReady` of the id, neither returned nor timed out. -/
def InCall (sessionId : Int32) : Wait → Prop
  | .finding waited | .checking waited _ | .waiting waited _ | .woken waited _ => waited = sessionId
  | _ => False

/-- On the way to `ERR_NONE`, or there. -/
def Served (sessionId : Int32) : Wait → Prop
  | .finding waited | .checking waited _ | .woken waited _ => waited = sessionId
  | .returned waited result => waited = sessionId ∧ result = errNone
  | _ => False

/-- How many sections of the call are left. -/
def left : Wait → Nat
  | .finding _ => 2
  | .checking _ _ | .waiting _ _ | .woken _ _ => 1
  | _ => 0

section Answers
variable {state next : State} {sessionId : Int32} {thread : Nat}

theorem Sound.served (sound : Sound state) (ready : Ready state sessionId) (waits : InCall sessionId (state.waits thread)) :
    Served sessionId (state.waits thread) := by
  have fine := sound.waits thread
  cases place : state.waits thread with
  | unstarted | returned _ _ =>
    rw [place] at waits
    exact waits.elim
  | finding _ | checking _ _ | woken _ _ =>
    rw [place] at waits
    exact waits
  | waiting waited node =>
    rw [place] at waits fine
    obtain rfl : waited = sessionId := waits
    obtain ⟨other,named,set⟩ := ready
    rw [sound.listed.same named fine.1,fine.2] at set
    cases set

theorem Sound.ready_at (sound : Sound state) (ready : Ready state sessionId) {node : Nat} (named : Named state sessionId node) :
    (state.nodes node).isReady = true := by
  obtain ⟨other,also,set⟩ := ready
  rw [sound.listed.same named also]
  exact set

theorem Sound.serves (sound : Sound state) (ready : Ready state sessionId) (served : Served sessionId (state.waits thread))
    (open_ : InCall sessionId (state.waits thread)) (choice : Bool) :
    ∃ after, state.step (.wait thread choice) = some after ∧ Served sessionId (after.waits thread) ∧
      left (after.waits thread) < left (state.waits thread) := by
  have fine := sound.waits thread
  cases place : state.waits thread with
  | unstarted | returned _ _ =>
    rw [place] at open_
    exact open_.elim
  | waiting _ _ =>
    rw [place] at served
    exact served.elim
  | finding waited =>
    rw [place] at served
    obtain rfl : waited = sessionId := served
    obtain ⟨node,named,-⟩ := ready
    have found : state.findOrNewSessionIdObject waited choice = (state,some node) := by
      rw [State.findOrNewSessionIdObject,sound.listed.find named]
    refine ⟨state.moveWait thread (.checking waited node),?_,?_⟩
    · simp only [State.step,State.stepWait,place,found]
    · simp only [State.moveWait,Function.update_self]
      exact ⟨rfl,Nat.lt_succ_self 1⟩
  | checking waited node =>
    rw [place] at served fine
    obtain rfl : waited = sessionId := served
    refine ⟨state.moveWait thread (.returned waited errNone),?_,?_⟩
    · simp only [State.step,State.stepWait,place,sound.ready_at ready fine,if_true]
    · simp only [State.moveWait,Function.update_self]
      exact ⟨⟨rfl,rfl⟩,Nat.lt_succ_self 0⟩
  | woken waited node =>
    rw [place] at served fine
    obtain rfl : waited = sessionId := served
    refine ⟨state.moveWait thread (.returned waited errNone),?_,?_⟩
    · simp only [State.step,State.stepWait,place,fine.2,if_true]
    · simp only [State.moveWait,Function.update_self]
      exact ⟨⟨rfl,rfl⟩,Nat.lt_succ_self 0⟩

theorem wake_served {node : Nat} {wait : Wait} (served : Served sessionId wait) : Served sessionId (State.wake node wait) := by
  cases wait with
  | waiting _ _ => exact served.elim
  | unstarted => exact served
  | finding _ => exact served
  | checking _ _ => exact served
  | woken _ _ => exact served
  | returned _ _ => exact served

theorem Finds.waits_at {id : Int32} {found : Option Nat} (finds : Finds state next id found) (thread : Nat) :
    next.waits thread = state.waits thread := by
  rw [finds.waits]

theorem waitStep_waits (listed : Listed state) {other : Nat} {wait : Wait} (step : WaitStep state other wait next)
    (apart : thread ≠ other) : next.waits thread = state.waits thread := by
  have moved : ∀ (after : State) (wait : Wait), (after.moveWait other wait).waits thread = after.waits thread :=
    fun _ _ => Function.update_of_ne apart ..
  cases step with
  | finds found | misses found => exact (moved ..).trans ((findOrNew_finds listed found).waits_at thread)
  | sees | blocks | gives | timesOut | wakes => exact moved ..

theorem callbackStep_waits (listed : Listed state) {callback : Nat} {place : Callback} (step : CallbackStep state callback place next) :
    next.waits thread = state.waits thread ∨ ∃ node, next.waits thread = State.wake node (state.waits thread) := by
  cases step with
  | finds found | misses found => exact .inl ((findOrNew_finds listed found).waits_at thread)
  | sees => exact .inl rfl
  | @sets _ _ node => exact .inr ⟨node,rfl⟩

theorem step_served {event : Event} (sound : Sound state) (ready : Ready state sessionId) (served : Served sessionId (state.waits thread))
    (taken : fires State.step state event next) : Served sessionId (next.waits thread) := by
  cases taken_of_step taken with
  | connects | refuses | connected | disconnected => exact served
  | handles step =>
    rcases callbackStep_waits sound.listed step with same | ⟨node,woken⟩
    · rw [same]
      exact served
    · rw [woken]
      exact wake_served served
  | @begins other _ wait unstarted =>
    have apart : thread ≠ other := by
      rintro rfl
      rw [unstarted] at served
      exact served
    have moved : (state.moveWait other wait).waits thread = state.waits thread := Function.update_of_ne apart ..
    rw [moved]
    exact served
  | @waits other choice _ step =>
    by_cases apart : thread = other
    · subst apart
      by_cases open_ : InCall sessionId (state.waits thread)
      · obtain ⟨after,stepped,kept,-⟩ := sound.serves ready served open_ choice
        rw [fires,stepped] at taken
        cases taken
        exact kept
      · generalize state.waits thread = wait at step served open_
        cases step with
        | finds | misses | sees | blocks | gives | wakes => exact absurd served open_
        | timesOut => exact served.elim
    · rw [waitStep_waits sound.listed step apart]
      exact served

end Answers

theorem run_served {state final : State} {sessionId : Int32} {thread : Nat} {events : List Event} (sound : Sound state)
    (ready : Ready state sessionId) (served : Served sessionId (state.waits thread))
    (run : Reaches (fires State.step) state events final) :
    Sound final ∧ Ready final sessionId ∧ Served sessionId (final.waits thread) := by
  refine run.invariant (fun state => Sound state ∧ Ready state sessionId ∧ Served sessionId (state.waits thread))
    ⟨sound,ready,served⟩ ?_
  intro state event next ⟨sound,ready,served⟩ taken
  obtain ⟨kept,keeps⟩ := step_sound sound taken
  exact ⟨kept,keeps.ready ready,step_served sound ready served taken⟩

def pendingOf : Callback → Option (Int32 × Nat)
  | .finding sessionId connection | .setting sessionId connection _ => some (sessionId,connection)
  | _ => none

/-- What is so while `met` holds at every step: no connection is waited for by a flag that is not its own. -/
structure Current (state : State) : Prop where
  fresh : ∀ sessionId, Ready state sessionId → (state.sessions sessionId).status ≠ .connecting
  pending : ∀ callback sessionId connection, pendingOf (state.callbacks callback) = some (sessionId,connection) →
    connection ≤ (state.sessions sessionId).connection ∧
      ((state.sessions sessionId).connection = connection → (state.sessions sessionId).status ≠ .connecting)

theorem current_new : Current State.new := by
  refine ⟨?_,?_⟩
  · intro sessionId ready
    obtain ⟨node,named,-⟩ := ready
    exact absurd named.1 List.not_mem_nil
  · intro callback sessionId connection pending
    cases pending

section Connections
variable {state next : State} {sessionId : Int32} {thread callback : Nat} {choice : Bool}

theorem Current.moved (current : Current state) (ready : ∀ sessionId, Ready next sessionId → Ready state sessionId)
    (sessions : next.sessions = state.sessions)
    (callbacks : ∀ callback, pendingOf (next.callbacks callback) = none ∨
      ∃ other, pendingOf (next.callbacks callback) = pendingOf (state.callbacks other)) : Current next := by
  refine ⟨?_,?_⟩
  · rw [sessions]
    exact fun sessionId set => current.fresh sessionId (ready sessionId set)
  · rw [sessions]
    intro callback sessionId connection pending
    rcases callbacks callback with done | ⟨other,same⟩
    · rw [done] at pending
      cases pending
    · rw [same] at pending
      exact current.pending other sessionId connection pending

theorem Finds.ready {found : Option Nat} {id : Int32} (finds : Finds state next id found) (ready : Ready next sessionId) :
    Ready state sessionId := by
  obtain ⟨node,named,set⟩ := ready
  have old := finds.unready node named.1 set
  refine ⟨node,⟨old,?_⟩,?_⟩
  · rw [← finds.nodes node old]
    exact named.2
  · rw [← finds.nodes node old]
    exact set

theorem Finds.current {found : Option Nat} (finds : Finds state next sessionId found) (current : Current state) : Current next := by
  apply current.moved (fun _ => finds.ready) finds.sessions
  intro callback
  rw [finds.callbacks]
  exact .inr ⟨callback,rfl⟩

theorem Current.moveWait (current : Current state) (wait : Wait) : Current (state.moveWait thread wait) :=
  current.moved (fun _ => id) rfl fun callback => .inr ⟨callback,rfl⟩

theorem Current.moveCallback (current : Current state) {place : Callback}
    (kept : pendingOf place = none ∨ pendingOf place = pendingOf (state.callbacks callback)) :
    Current (state.moveCallback callback place) := by
  refine current.moved (fun _ => id) rfl ?_
  intro other
  by_cases same : other = callback
  · subst same
    simp only [State.moveCallback,Function.update_self]
    exact kept.imp_right fun same => ⟨other,same⟩
  · exact .inr ⟨other,congrArg pendingOf (Function.update_of_ne same ..)⟩

theorem Current.setSession (current : Current state) {session : Session} (status : session.status ≠ .connecting)
    (connection : session.connection = (state.sessions sessionId).connection) : Current (state.setSession sessionId session) := by
  refine ⟨?_,?_⟩
  · intro other ready
    by_cases same : other = sessionId
    · subst same
      simp only [State.setSession,Function.update_self]
      exact status
    · simp only [State.setSession,Function.update_of_ne same]
      exact current.fresh other ready
  · intro callback other named pending
    have known := current.pending callback other named pending
    by_cases same : other = sessionId
    · subst same
      simp only [State.setSession,Function.update_self]
      rw [connection]
      exact ⟨known.1,fun _ => status⟩
    · simp only [State.setSession,Function.update_of_ne same]
      exact known

theorem connect_current (sound : Sound state) (current : Current state) (listened : met state (.connect sessionId) = true) :
    Current (state.setSession sessionId ⟨(state.sessions sessionId).connection+1,.connecting⟩) := by
  refine ⟨?_,?_⟩
  · intro other ready
    by_cases same : other = sessionId
    · subst same
      obtain ⟨node,named,set⟩ := ready
      have found : state.find other = some node := sound.listed.find named
      have unset : (state.nodes node).isReady = false := by simpa [met,found] using listened
      have ready : (state.nodes node).isReady = true := set
      rw [ready] at unset
      cases unset
    · simp only [State.setSession,Function.update_of_ne same]
      exact current.fresh other ready
  · intro callback other connection pending
    have known := current.pending callback other connection pending
    by_cases same : other = sessionId
    · subst same
      simp only [State.setSession,Function.update_self]
      exact ⟨Nat.le_succ_of_le known.1,fun later => absurd known.1 (by omega)⟩
    · simp only [State.setSession,Function.update_of_ne same]
      exact known

theorem waitStep_current (sound : Sound state) (current : Current state) {wait : Wait} (step : WaitStep state thread wait next) :
    Current next := by
  cases step with
  | finds found | misses found => exact ((findOrNew_finds sound.listed found).current current).moveWait _
  | sees | blocks | gives | timesOut | wakes => exact current.moveWait _

/-- The flag is set for the newest connection of the id. -/
theorem broadcast_current (sound : Sound state) (current : Current state) {connection node : Nat}
    (place : state.callbacks callback = .setting sessionId connection node)
    (newest : (state.sessions sessionId).connection = connection) : Current ((state.setReady node).pthreadCondBroadcast node) := by
  have named : Named state sessionId node := by
    have fine := sound.callbacks callback
    rw [place] at fine
    exact fine
  have known := current.pending callback sessionId connection (by rw [place]; rfl)
  refine ⟨?_,fun callback => current.pending callback⟩
  intro other ready
  obtain ⟨set,also,flag⟩ := ready
  have sameId := also.2
  rw [setReady_sessionId] at sameId
  by_cases same : set = node
  · subst same
    have equal : other = sessionId := congrArg UInt32.toInt32 (sameId.symm.trans named.2)
    rw [equal]
    exact known.2 newest
  · rw [setReady_other state same] at flag
    exact current.fresh other ⟨set,⟨also.1,sameId⟩,flag⟩

theorem callbackStep_current (sound : Sound state) (current : Current state)
    (listened : met state (.handleNewConnection callback choice) = true)
    (step : CallbackStep state callback (state.callbacks callback) next) : Current next := by
  generalize place : state.callbacks callback = stage at step
  cases step with
  | finds found =>
    have finds := findOrNew_finds sound.listed found
    refine (finds.current current).moveCallback (.inr ?_)
    rw [finds.callbacks,place]
    rfl
  | misses found => exact ((findOrNew_finds sound.listed found).current current).moveCallback (.inl rfl)
  | sees => exact current.moveCallback (.inl rfl)
  | sets =>
    simp only [met,place,decide_eq_true_eq] at listened
    exact (broadcast_current sound current place listened).moveCallback (.inl rfl)

/-- `OnConnected` is delivered for the newest connection. -/
theorem connected_current (current : Current state) :
    Current ((state.setSession sessionId ⟨(state.sessions sessionId).connection,.connected⟩).moveCallback callback
      (.finding sessionId (state.sessions sessionId).connection)) := by
  have connected : Current (state.setSession sessionId ⟨(state.sessions sessionId).connection,.connected⟩) := by
    refine current.setSession ?_ rfl
    intro same
    cases same
  refine ⟨connected.fresh,?_⟩
  intro other id connection pending
  by_cases same : other = callback
  · subst same
    simp only [State.moveCallback,Function.update_self,pendingOf,Option.some.injEq,Prod.mk.injEq] at pending
    obtain ⟨rfl,rfl⟩ := pending
    simp only [State.moveCallback,State.setSession,Function.update_self]
    refine ⟨Nat.le_refl _,?_⟩
    intro _ same
    cases same
  · simp only [State.moveCallback,Function.update_of_ne same] at pending
    exact connected.pending other id connection pending

theorem step_current {event : Event} (sound : Sound state) (current : Current state) (listened : met state event = true)
    (taken : fires State.step state event next) : Current next := by
  cases taken_of_step taken with
  | connects => exact connect_current sound current listened
  | refuses => exact current.moveCallback (.inl rfl)
  | connected => exact connected_current current
  | disconnected =>
    refine current.setSession ?_ rfl
    intro same
    cases same
  | handles step => exact callbackStep_current sound current listened step
  | begins => exact current.moveWait _
  | waits step => exact waitStep_current sound current step

end Connections

/-- Returning `ERR_NONE` is news of the connection that has the id. -/
def ReadyForConnection (state next : State) : Prop :=
  ∀ thread sessionId, next.waits thread = .returned sessionId errNone →
    state.waits thread = .returned sessionId errNone ∨ (next.sessions sessionId).status = .connected

section Returns
variable {state next : State} {thread : Nat} {choice : Bool}

theorem moveWait_returned {wait : Wait} {other : Nat} {sessionId : Int32}
    (news : wait = .returned sessionId errNone → (state.sessions sessionId).status = .connected)
    (returned : (state.moveWait thread wait).waits other = .returned sessionId errNone) :
    state.waits other = .returned sessionId errNone ∨ (state.sessions sessionId).status = .connected := by
  by_cases same : other = thread
  · subst same
    simp only [State.moveWait,Function.update_self] at returned
    exact .inr (news returned)
  · simp only [State.moveWait,Function.update_of_ne same] at returned
    exact .inl returned

theorem wake_returned {node : Nat} {wait : Wait} {sessionId result : Int32}
    (returned : State.wake node wait = .returned sessionId result) : wait = .returned sessionId result := by
  cases wait with
  | waiting _ _ =>
    simp only [State.wake] at returned
    split at returned <;> cases returned
  | unstarted => cases returned
  | finding _ => cases returned
  | checking _ _ => cases returned
  | woken _ _ => cases returned
  | returned _ _ => exact returned

theorem Current.connected (current : Current state) {sessionId : Int32} {node : Nat} (named : Named state sessionId node)
    (listened : (!(state.nodes node).isReady || decide ((state.sessions sessionId).status ≠ .closed)) = true)
    (ready : (state.nodes node).isReady = true) : (state.sessions sessionId).status = .connected := by
  have open_ : (state.sessions sessionId).status ≠ .closed := by simpa [ready] using listened
  have fresh := current.fresh sessionId ⟨node,named,ready⟩
  cases status : (state.sessions sessionId).status with
  | closed => exact absurd status open_
  | connecting => exact absurd status fresh
  | connected => rfl

theorem waitStep_returned (sound : Sound state) (current : Current state) (listened : met state (.wait thread choice) = true)
    (step : WaitStep state thread (state.waits thread) next) : ReadyForConnection state next := by
  have fine := sound.waits thread
  have failed : ∀ {id sessionId : Int32}, Wait.returned id errFailed ≠ .returned sessionId errNone := by
    intro id sessionId same
    cases same
  intro other sessionId returned
  generalize place : state.waits thread = wait at step fine
  cases step with
  | finds found =>
    have kept := moveWait_returned (fun same => by cases same) returned
    rw [(findOrNew_finds sound.listed found).waits] at kept
    exact kept
  | misses found =>
    have kept := moveWait_returned (fun same => absurd same failed) returned
    rw [(findOrNew_finds sound.listed found).waits] at kept
    exact kept
  | sees ready =>
    simp only [met,place] at listened
    refine moveWait_returned ?_ returned
    intro same
    cases same
    exact current.connected fine listened ready
  | blocks => exact moveWait_returned (fun same => by cases same) returned
  | gives | timesOut => exact moveWait_returned (fun same => absurd same failed) returned
  | wakes =>
    simp only [met,place] at listened
    refine moveWait_returned ?_ returned
    intro same
    obtain ⟨rfl,-⟩ := Wait.returned.inj same
    exact current.connected fine.1 listened fine.2

theorem step_returned {event : Event} (sound : Sound state) (current : Current state) (listened : met state event = true)
    (taken : fires State.step state event next) : ReadyForConnection state next := by
  cases taken_of_step taken with
  | connects | refuses | connected | disconnected => exact fun other sessionId returned => .inl returned
  | handles step =>
    intro other sessionId returned
    rcases callbackStep_waits sound.listed step with same | ⟨node,woken⟩
    · exact .inl (same.symm.trans returned)
    · exact .inl (wake_returned (woken.symm.trans returned))
  | begins _ start =>
    intro other sessionId returned
    refine moveWait_returned ?_ returned
    rcases start with rfl | rfl <;> exact fun same => by cases same
  | waits step => exact waitStep_returned sound current listened step

end Returns

/-- Once `OnConnected` of an id has been handled, every call that is still waiting for the id returns `ERR_NONE`:
it is never blocked, and no other outcome can be reached. -/
def AnswersWaiters (state : State) : Prop :=
  ∀ callback sessionId, state.callbacks callback = .returned sessionId errNone →
    ∀ thread, InCall sessionId (state.waits thread) →
      ∀ events final, Reaches (fires State.step) state events final →
        Served sessionId (final.waits thread) ∧
          (InCall sessionId (final.waits thread) → ∀ choice, ∃ next, final.step (.wait thread choice) = some next ∧
            left (next.waits thread) < left (final.waits thread))

theorem Sound.answersWaiters {state : State} (sound : Sound state) : AnswersWaiters state := by
  intro callback sessionId returned thread waits events final run
  have fine := sound.callbacks callback
  rw [returned] at fine
  have ready : Ready state sessionId := fine rfl
  obtain ⟨kept,still,served⟩ := run_served sound ready (sound.served ready waits) run
  refine ⟨served,?_⟩
  intro open_ choice
  obtain ⟨next,stepped,-,fewer⟩ := kept.serves still served open_ choice
  exact ⟨next,stepped,fewer⟩

theorem met_waits_for_own_connection {events : List Event} {state : State}
    (run : Reaches (guarded (fires State.step) (fun state event => met state event = true)) State.new events state) :
    AnswersWaiters state ∧ ∀ event next, met state event = true → fires State.step state event next → ReadyForConnection state next := by
  have facts := run.invariant (fun state => Sound state ∧ Current state) ⟨sound_new,current_new⟩ (by
    intro state event next ⟨sound,current⟩ ⟨listened,taken⟩
    exact ⟨(step_sound sound taken).1,step_current sound current listened taken⟩)
  exact ⟨facts.1.answersWaiters,fun event next listened taken => step_returned facts.1 facts.2 listened taken⟩

/-- The waiter comes first and is woken up by the connection. -/
def metConnection : List Event :=
  [.connect 1,.waitForSessionIdReady 0 1,.wait 0 true,.wait 0 true,.onConnected 0 1 0,.handleNewConnection 0 true,
    .handleNewConnection 0 true]

theorem met_waits_for_own_connection_first :
    ∃ state, Reaches (guarded (fires State.step) (fun state event => met state event = true)) State.new metConnection state ∧
      (state.waits 0 = .woken 1 0 ∧ state.callbacks 0 = .returned 1 errNone) ∧
      AnswersWaiters state ∧ ∀ event next, met state event = true → fires State.step state event next → ReadyForConnection state next := by
  obtain ⟨state,run,reached⟩ := Reaches.exists_of_foldlM_guarded State.step (fun state event => met state event = true) State.new
    metConnection (fun state => decide (state.waits 0 = .woken 1 0 ∧ state.callbacks 0 = .returned 1 errNone)) (by decide)
  exact ⟨state,run,of_decide_eq_true reached,met_waits_for_own_connection run⟩

/-- The id is used again, and its node is still ready. -/
def staleReady : List Event :=
  [.connect 1,.onConnected 0 1 0,.handleNewConnection 0 true,.handleNewConnection 0 true,.onDisconnected 1,.connect 1,
    .waitForSessionIdReady 0 1,.wait 0 true]

theorem stale_ready_returned :
    ∃ state next, Reaches (fires State.step) State.new staleReady state ∧ fires State.step state (.wait 0 true) next ∧
      (next.waits 0 = .returned 1 errNone ∧ (next.sessions 1).status = .connecting) ∧ ¬ ReadyForConnection state next := by
  obtain ⟨state,run,reached⟩ := Reaches.exists_of_foldlM State.step State.new staleReady
    (fun state => decide (state.waits 0 = .checking 1 0 ∧ (state.nodes 0).isReady = true ∧ (state.sessions 1).status = .connecting))
    (by decide)
  obtain ⟨place,ready,status⟩ := of_decide_eq_true reached
  have returned : (state.moveWait 0 (.returned 1 errNone)).waits 0 = .returned 1 errNone := by
    simp only [State.moveWait,Function.update_self]
  refine ⟨state,state.moveWait 0 (.returned 1 errNone),run,?_,⟨returned,status⟩,?_⟩
  · simp only [fires,State.step,State.stepWait,place,ready,if_true]
  · intro truthful
    rcases truthful 0 1 returned with before | connected
    · rw [place] at before
      cases before
    · have other : (state.sessions 1).status = .connected := connected
      rw [status] at other
      cases other

end CommunicationIpc.SessionHandle
