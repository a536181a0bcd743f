import CommunicationIpc.Kernel.LiteSessions
import CommunicationIpc.Library.Entries
import CommunicationIpc.Library.Run

/-! What becomes of the sessions of the C invoker. A connection that this process opened gets a stub session too, so that
`OnDatabusSessionClosed` returns once it has detached that one. -/
namespace CommunicationIpc.LiteSessions
open CommunicationIpc.Library CommunicationIpc.Kernel.LiteSessions

/-- A call that has attached a node for the handle, and has neither stored a session nor given up yet. -/
def updating (handle : UInt32) : Call → Nat
  | .serving node | .detachingOwn node => if node.handle = handle then 1 else 0
  | .connectingTo other | .waiting other _ | .storing other _ => if other = handle then 1 else 0
  | _ => 0

/-- A callback that has taken a session of the handle, and not yet its index. -/
def burying (handle : UInt32) (connection : Connection) : Nat :=
  match connection.stage with
  | .queryingIndex other | .detachingIndex other _ => if other = handle then 1 else 0
  | _ => 0

def owns : Call → Option IndexNode
  | .serving node | .detachingOwn node => some node
  | _ => none

/-- `OnDatabusSessionClosed` has found no stub session. -/
def proxied : Stage → Bool
  | .closingProxy | .detachingProxy _ | .queryingIndex _ | .detachingIndex _ _ => true
  | _ => false

/-- Outside `OnDatabusSessionClosed`. -/
def calm : Stage → Bool
  | .opened | .attachingStub | .signalling | .connected | .refused | .closed => true
  | _ => false

inductive Step (skeleton : Skeleton) : Event → Skeleton → Prop
  | began (handle : Int32) {place : Call} (free : ∀ handle, updating handle place = 0) (alone : owns place = none) :
      Step skeleton (.updateProto handle) { skeleton with calls := skeleton.calls ++ [place] }
  | turned (choice : Choice) {call : Nat} {place later : Call} (at_ : skeleton.calls[call]? = some place)
      (weight : ∀ handle, updating handle later = updating handle place)
      (own : ∀ node, owns later = some node → owns place = some node) :
      Step skeleton (.update call choice) (skeleton.moveCall call later)
  | indexed (choice : Choice) {call : Nat} {handle : UInt32} {index : UInt64}
      (at_ : skeleton.calls[call]? = some (.attachingIndex handle index)) :
      Step skeleton (.update call choice)
        ((skeleton.attachHandleToIndex ⟨handle,index,skeleton.made⟩).moveCall call (.serving ⟨handle,index,skeleton.made⟩))
  | unindexed (choice : Choice) {call : Nat} {node : IndexNode} (at_ : skeleton.calls[call]? = some (.detachingOwn node)) :
      Step skeleton (.update call choice) ((skeleton.detachHandleToIndex node).moveCall call (.updated .databus))
  | gaveUp (choice : Choice) {call : Nat} {place : Call} {handle : UInt32} (at_ : skeleton.calls[call]? = some place)
      (weight : ∀ other, updating other place = if handle = other then 1 else 0) :
      Step skeleton (.update call choice) ((skeleton.giveUp handle).moveCall call (.updated .databus))
  | connected (choice : Choice) {call : Nat} {handle : UInt32} {sessionId : Int32}
      (at_ : skeleton.calls[call]? = some (.connectingTo handle)) (free : skeleton.inUse sessionId = false) :
      Step skeleton (.update call choice)
        ((skeleton.addConnection sessionId).moveCall call (.waiting handle skeleton.connections.length))
  | stored (choice : Choice) {call index : Nat} {handle : UInt32} {node : SessionNode}
      (at_ : skeleton.calls[call]? = some (.storing handle index)) (named : node.session.handle = handle) :
      Step skeleton (.update call choice) ((skeleton.attachProxySession node).moveCall call (.updated .databus))
  | accepted (sessionId : Int32) (free : skeleton.inUse sessionId = false) :
      Step skeleton (.accept sessionId) (skeleton.addConnection sessionId)
  | went (event : Event) {index : Nat} {connection : Connection} {stage : Stage} (ready : Int32 → Bool)
      (there : skeleton.connections[index]? = some connection) (used : connection.stage ≠ .closed)
      (before : calm connection.stage = true) (after : calm stage = true) :
      Step skeleton event ({ skeleton with ready := ready }.setConnection index (connection.goTo stage))
  | disconnected {index : Nat} {connection : Connection} (there : skeleton.connections[index]? = some connection)
      (still : connection.stage.quiet = true) :
      Step skeleton (.onDisconnected index) (skeleton.setConnection index (connection.goTo .closing))
  | stubbed (works : Bool) {index : Nat} {connection : Connection} {node : SessionNode}
      (there : skeleton.connections[index]? = some connection) (stage : connection.stage = .attachingStub)
      (named : node.session.handle = connection.sessionId.toUInt32) :
      Step skeleton (.callback index works)
        ((skeleton.attachStubSession node).setConnection index ⟨connection.sessionId,true,.signalling⟩)
  | found (works : Bool) {index : Nat} {connection : Connection} {node : SessionNode}
      (there : skeleton.connections[index]? = some connection) (stage : connection.stage = .closing)
      (found : skeleton.queryStubSession connection.sessionId.toUInt32 = some node) :
      Step skeleton (.callback index works) (skeleton.setConnection index (connection.goTo (.detachingStub node)))
  | unfound (works : Bool) {index : Nat} {connection : Connection}
      (there : skeleton.connections[index]? = some connection) (stage : connection.stage = .closing)
      (missing : skeleton.queryStubSession connection.sessionId.toUInt32 = none) :
      Step skeleton (.callback index works) (skeleton.setConnection index (connection.goTo .closingProxy))
  | unstubbed (works : Bool) {index : Nat} {connection : Connection} {node : SessionNode}
      (there : skeleton.connections[index]? = some connection) (stage : connection.stage = .detachingStub node) :
      Step skeleton (.callback index works) ((skeleton.detachStubSession node).setConnection index (connection.goTo .closed))
  | looked (works : Bool) {index : Nat} {connection : Connection} {later : Stage}
      (there : skeleton.connections[index]? = some connection) (stage : connection.stage = .closingProxy)
      (after : later = .closed ∨ ∃ node, later = .detachingProxy node) :
      Step skeleton (.callback index works) (skeleton.setConnection index (connection.goTo later))
  | unproxied (works : Bool) {index : Nat} {connection : Connection} {node : SessionNode}
      (there : skeleton.connections[index]? = some connection) (stage : connection.stage = .detachingProxy node) :
      Step skeleton (.callback index works)
        ((skeleton.detachProxySession node).setConnection index (connection.goTo (.queryingIndex node.session.handle)))
  | numbered (works : Bool) {index : Nat} {connection : Connection} {handle : UInt32} {node : IndexNode}
      (there : skeleton.connections[index]? = some connection) (stage : connection.stage = .queryingIndex handle)
      (found : skeleton.queryHandleToIndex handle = some node) :
      Step skeleton (.callback index works) (skeleton.setConnection index (connection.goTo (.detachingIndex handle node)))
  | unnumbered (works : Bool) {index : Nat} {connection : Connection} {handle : UInt32}
      (there : skeleton.connections[index]? = some connection) (stage : connection.stage = .queryingIndex handle)
      (missing : skeleton.queryHandleToIndex handle = none) :
      Step skeleton (.callback index works) (skeleton.setConnection index (connection.goTo .closed))
  | buried (works : Bool) {index : Nat} {connection : Connection} {handle : UInt32} {node : IndexNode}
      (there : skeleton.connections[index]? = some connection) (stage : connection.stage = .detachingIndex handle node)
      (obituaries : List UInt32) :
      Step skeleton (.callback index works)
        ({ skeleton.detachHandleToIndex node with obituaries := obituaries }.setConnection index (connection.goTo .closed))

section Step
variable {skeleton next : Skeleton} {event : Event}

theorem quiet_calm {stage : Stage} (still : stage.quiet = true) : calm stage = true ∧ stage ≠ .closed := by
  cases stage <;> simp_all [Stage.quiet,calm]

theorem calm_unproxied {stage : Stage} (still : calm stage = true) : proxied stage = false := by
  cases stage <;> first | rfl | cases still

theorem stepCall_cases {call : Nat} {place : Call} {choice : Choice} (at_ : skeleton.calls[call]? = some place)
    (fired : skeleton.stepCall call place choice = some next) : Step skeleton (.update call choice) next := by
  unfold Skeleton.stepCall at fired
  split at fired
  · split at fired
    all_goals
      cases fired
      exact .turned _ at_ (fun _ => rfl) (by simp [owns])
  · cases fired
    exact .turned _ at_ (fun _ => rfl) (by simp [owns])
  · cases fired
    exact .turned _ at_ (fun _ => rfl) (by simp [owns])
  · cases fired
    exact .turned _ at_ (fun _ => rfl) (by simp [owns])
  · cases fired
    exact .turned _ at_ (fun _ => rfl) (by simp [owns])
  · cases fired
    exact .indexed _ at_
  · cases fired
    exact .turned _ at_ (fun _ => rfl) (by simp [owns])
  · cases fired
    exact .turned _ at_ (fun _ => rfl) (by simp [owns])
  · cases fired
    exact .unindexed _ at_
  · split at fired
    · cases fired
      exact .gaveUp _ at_ fun _ => rfl
    · split at fired
      · cases fired
      · cases fired
        exact .connected _ at_ (Bool.eq_false_iff.mpr ‹_›)
  · cases fired
    exact .gaveUp _ at_ fun _ => rfl
  · split at fired
    · split at fired
      · cases fired
        exact .turned _ at_ (fun _ => rfl) (by simp [owns])
      · cases fired
    · cases fired
  · cases fired
    exact .gaveUp _ at_ fun _ => rfl
  · split at fired
    · cases fired
      exact .stored _ at_ rfl
    · cases fired
  · cases fired

theorem stepCallback_cases {index : Nat} {connection : Connection} {works : Bool}
    (there : skeleton.connections[index]? = some connection) (fired : skeleton.stepCallback index connection works = some next) :
    Step skeleton (.callback index works) next := by
  unfold Skeleton.stepCallback at fired
  split at fired
  · rename_i stage
    have used : connection.stage ≠ .closed := by simp [stage]
    split at fired
    · cases fired
      exact .stubbed works there stage rfl
    · cases fired
      exact .went _ skeleton.ready there used (by rw [stage]; rfl) rfl
  · rename_i stage
    have used : connection.stage ≠ .closed := by simp [stage]
    split at fired
    · cases fired
      exact .went _ _ there used (by rw [stage]; rfl) rfl
    · cases fired
      exact .went _ skeleton.ready there used (by rw [stage]; rfl) rfl
  · dsimp only at fired
    split at fired
    · cases fired
      exact .found works there ‹_› ‹_›
    · cases fired
      exact .unfound works there ‹_› ‹_›
  · cases fired
    exact .unstubbed works there ‹_›
  · dsimp only at fired
    split at fired
    · cases fired
      exact .looked works there ‹_› (.inr ⟨_,rfl⟩)
    · cases fired
      exact .looked works there ‹_› (.inl rfl)
  · cases fired
    exact .unproxied works there ‹_›
  · split at fired
    · cases fired
      exact .numbered works there ‹_› ‹_›
    · cases fired
      exact .unnumbered works there ‹_› ‹_›
  · rename_i handle node stage
    cases fired
    cases works with
    | true => exact .buried true there stage ((skeleton.detachHandleToIndex node).obituaries ++ [handle])
    | false => exact .buried false there stage (skeleton.detachHandleToIndex node).obituaries
  all_goals cases fired

theorem step_cases (fired : skeleton.step event = some next) : skeleton.crashed = false ∧ Step skeleton event next := by
  unfold Skeleton.step at fired
  split at fired
  · cases fired
  · refine ⟨Bool.eq_false_iff.mpr ‹_›,?_⟩
    split at fired
    · cases fired
      refine .began _ (fun handle => ?_) ?_ <;> split <;> rfl
    · split at fired
      · exact stepCall_cases ‹_› fired
      · cases fired
    · split at fired
      · cases fired
      · cases fired
        exact .accepted _ (Bool.eq_false_iff.mpr ‹_›)
    · split at fired
      · rename_i connection there
        unfold Skeleton.onConnected at fired
        split at fired
        · cases fired
        · have stage : connection.stage = .opened := by
            by_contra other
            exact absurd other ‹_›
          have used : connection.stage ≠ .closed := by simp [stage]
          split at fired <;> cases fired <;> exact .went _ skeleton.ready there used (by rw [stage]; rfl) rfl
      · cases fired
    · split at fired
      · rename_i there
        unfold Skeleton.onDisconnected at fired
        split at fired
        · rename_i still
          cases fired
          split
          · exact .went _ skeleton.ready there (quiet_calm still).2 (quiet_calm still).1 rfl
          · exact .disconnected there still
        · cases fired
      · cases fired
    · split at fired
      · exact stepCallback_cases ‹_› fired
      · cases fired
    · split at fired
      · split at fired
        · rename_i there still
          cases fired
          exact .went _ skeleton.ready there (quiet_calm still).2 (quiet_calm still).1 rfl
        · cases fired
      · cases fired

end Step

section Counting
variable {skeleton next : Skeleton} {event : Event}

def indexes (skeleton : Skeleton) (handle : UInt32) : Nat := skeleton.handleToIndexList.countP fun node => node.handle = handle

def sessions (skeleton : Skeleton) (handle : UInt32) : Nat := skeleton.proxySessionList.countP fun node => node.session.handle = handle

def updatings (skeleton : Skeleton) (handle : UInt32) : Nat := (skeleton.calls.map (updating handle)).sum

def buryings (skeleton : Skeleton) (handle : UInt32) : Nat := (skeleton.connections.map (burying handle)).sum

structure Counted (skeleton : Skeleton) : Prop where
  counted : ∀ handle, indexes skeleton handle =
    sessions skeleton handle+updatings skeleton handle+buryings skeleton handle+skeleton.givenUp.count handle
  named : ∀ connection ∈ skeleton.connections, ∀ handle node, connection.stage = .detachingIndex handle node → node.handle = handle

theorem counted_new : Counted Skeleton.new := ⟨fun _ => rfl,by simp [Skeleton.new]⟩

theorem countP_cons_one {α : Type} {items : List α} {item : α} {key : α → UInt32} (handle : UInt32) :
    (item :: items).countP (fun item => key item = handle) =
      items.countP (fun item => key item = handle)+if key item = handle then 1 else 0 := by
  simp [List.countP_cons]

theorem countP_erase_one {α : Type} [DecidableEq α] {items : List α} {item : α} {key : α → UInt32} (handle : UInt32)
    (member : item ∈ items) :
    items.countP (fun item => key item = handle) =
      (items.erase item).countP (fun item => key item = handle)+if key item = handle then 1 else 0 := by
  rw [(List.perm_cons_erase member).countP_eq,countP_cons_one]

theorem burying_calm {connection : Connection} (handle : UInt32) (still : calm connection.stage = true) :
    burying handle connection = 0 := by
  unfold burying
  cases stage : connection.stage <;> simp_all [calm]

theorem detachProxySession_whole {node : SessionNode} (whole : (skeleton.detachProxySession node).crashed = false) :
    node ∈ skeleton.proxySessionList := by
  by_contra absent
  rw [Skeleton.detachProxySession,if_neg absent] at whole
  cases whole

theorem detachHandleToIndex_whole {node : IndexNode} (whole : (skeleton.detachHandleToIndex node).crashed = false) :
    node ∈ skeleton.handleToIndexList := by
  by_contra absent
  rw [Skeleton.detachHandleToIndex,if_neg absent] at whole
  cases whole

namespace Counted

theorem pos_of_querying (counted : Counted skeleton) {connection : Connection} {handle : UInt32}
    (member : connection ∈ skeleton.connections) (own : burying handle connection = 1) : 0 < indexes skeleton handle := by
  have part : burying handle connection ≤ buryings skeleton handle :=
    List.single_le_sum (fun _ _ => Nat.zero_le _) _ (List.mem_map_of_mem member)
  have balance := counted.counted handle
  omega

theorem isSome_of_pos {handle : UInt32} (positive : 0 < indexes skeleton handle) :
    (skeleton.queryHandleToIndex handle).isSome = true := by
  obtain ⟨node,member,named⟩ := List.countP_pos_iff.mp positive
  exact List.find?_isSome.mpr ⟨node,member,named⟩

/-- A connection goes on to another stage. -/
theorem named_set (counted : Counted skeleton) {index : Nat} {later : Connection}
    (own : ∀ handle node, later.stage = .detachingIndex handle node → node.handle = handle) :
    ∀ connection ∈ skeleton.connections.set index later, ∀ handle node, connection.stage = .detachingIndex handle node →
      node.handle = handle := by
  intro connection member
  rcases List.mem_or_eq_of_mem_set member with old | rfl
  · exact counted.named connection old
  · exact own

theorem moved (counted : Counted skeleton) {call : Nat} {place later : Call} (at_ : skeleton.calls[call]? = some place)
    (weight : ∀ handle, updating handle later = updating handle place) : Counted (skeleton.moveCall call later) := by
  refine ⟨?_,counted.named⟩
  intro handle
  have balance := counted.counted handle
  have calls := @Entries.sum_set _ _ _ call later (updating handle) at_
  simp only [indexes,sessions,updatings,buryings,Skeleton.moveCall,weight handle] at balance calls ⊢
  omega

theorem set (counted : Counted skeleton) {index : Nat} {connection later : Connection}
    (there : skeleton.connections[index]? = some connection) (weight : ∀ handle, burying handle later = burying handle connection)
    (own : ∀ handle node, later.stage = .detachingIndex handle node → node.handle = handle) :
    Counted (skeleton.setConnection index later) := by
  refine ⟨?_,counted.named_set own⟩
  intro handle
  have balance := counted.counted handle
  have connections := @Entries.sum_set _ _ _ index later (burying handle) there
  simp only [indexes,sessions,updatings,buryings,Skeleton.setConnection,weight handle] at balance connections ⊢
  omega

theorem added (counted : Counted skeleton) (sessionId : Int32) : Counted (skeleton.addConnection sessionId) := by
  refine ⟨?_,?_⟩
  · intro handle
    have balance := counted.counted handle
    simp only [indexes,sessions,updatings,buryings,Skeleton.addConnection,List.map_append,List.sum_append,List.map_singleton,
      List.sum_singleton] at balance ⊢
    have none_ : burying handle ⟨sessionId,false,.opened⟩ = 0 := rfl
    omega
  · intro connection member handle node stage
    rcases List.mem_append.mp member with old | new
    · exact counted.named connection old handle node stage
    · rw [List.mem_singleton.mp new] at stage
      cases stage

/-- An index node of the handle goes with what it was counted for. -/
theorem detachedIndex (counted : Counted skeleton) {node : IndexNode} (member : node ∈ skeleton.handleToIndexList) (handle : UInt32) :
    indexes (skeleton.detachHandleToIndex node) handle+(if node.handle = handle then 1 else 0) =
      sessions skeleton handle+updatings skeleton handle+buryings skeleton handle+skeleton.givenUp.count handle := by
  rw [← counted.counted handle,Skeleton.detachHandleToIndex,if_pos member]
  exact (countP_erase_one handle member).symm

theorem step (counted : Counted skeleton) (step : Step skeleton event next) (whole : next.crashed = false) : Counted next := by
  cases step with
  | began handle free alone =>
    refine ⟨?_,counted.named⟩
    intro handle
    have balance := counted.counted handle
    simp only [indexes,sessions,updatings,buryings,List.map_append,List.sum_append,List.map_singleton,List.sum_singleton,
      free handle] at balance ⊢
    omega
  | turned choice at_ weight own => exact counted.moved at_ weight
  | @indexed choice call handle index at_ =>
    refine ⟨?_,counted.named⟩
    intro other
    have balance := counted.counted other
    have calls := @Entries.sum_set _ _ _ call (.serving ⟨handle,index,skeleton.made⟩) (updating other) at_
    simp only [indexes,sessions,updatings,buryings,Skeleton.moveCall,Skeleton.attachHandleToIndex,countP_cons_one] at balance calls ⊢
    simp only [updating] at calls
    omega
  | @unindexed choice call node at_ =>
    have member := detachHandleToIndex_whole whole
    refine ⟨?_,?_⟩
    · intro other
      have balance := counted.detachedIndex member other
      have calls := @Entries.sum_set _ _ _ call (.updated .databus) (updating other) at_
      simp only [indexes,sessions,updatings,buryings,Skeleton.moveCall,Skeleton.detachHandleToIndex,if_pos member] at balance calls ⊢
      simp only [updating] at calls
      omega
    · simp only [Skeleton.moveCall,Skeleton.detachHandleToIndex,if_pos member]
      exact counted.named
  | @gaveUp choice call place handle at_ weight =>
    refine ⟨?_,counted.named⟩
    intro other
    have balance := counted.counted other
    have calls := @Entries.sum_set _ _ _ call (.updated .databus) (updating other) at_
    rw [weight other] at calls
    simp only [indexes,sessions,updatings,buryings,Skeleton.moveCall,Skeleton.giveUp,List.count_cons,beq_iff_eq] at balance calls ⊢
    simp only [updating] at calls
    omega
  | connected choice at_ free => exact (counted.added _).moved at_ fun _ => rfl
  | @stored choice call index handle node at_ named =>
    refine ⟨?_,counted.named⟩
    intro other
    have balance := counted.counted other
    have calls := @Entries.sum_set _ _ _ call (.updated .databus) (updating other) at_
    simp only [indexes,sessions,updatings,buryings,Skeleton.moveCall,Skeleton.attachProxySession,countP_cons_one,named] at balance calls ⊢
    simp only [updating] at calls
    omega
  | accepted sessionId free => exact counted.added sessionId
  | @went _ index connection stage ready there used before after =>
    have ready_ : Counted { skeleton with ready := ready } := ⟨counted.counted,counted.named⟩
    refine ready_.set there (fun handle => ?_) ?_
    · rw [burying_calm handle before]
      exact burying_calm handle after
    · intro handle node same
      change stage = _ at same
      rw [same] at after
      cases after
  | @disconnected index connection there still =>
    refine counted.set there (fun handle => ?_) (by simp [Connection.goTo])
    rw [burying_calm handle (quiet_calm still).1]
    rfl
  | @stubbed works index connection node there stage named =>
    have listed : Counted (skeleton.attachStubSession node) := ⟨counted.counted,counted.named⟩
    refine listed.set there (fun handle => ?_) (by simp)
    simp only [burying,stage]
  | found works there stage found =>
    refine counted.set there (fun handle => ?_) (by simp [Connection.goTo])
    simp only [burying,stage,Connection.goTo]
  | unfound works there stage missing =>
    refine counted.set there (fun handle => ?_) (by simp [Connection.goTo])
    simp only [burying,stage,Connection.goTo]
  | @unstubbed works index connection node there stage =>
    have listed : Counted (skeleton.detachStubSession node) := by
      unfold Skeleton.detachStubSession
      split <;> exact ⟨counted.counted,counted.named⟩
    have same : (skeleton.detachStubSession node).connections[index]? = some connection := by
      unfold Skeleton.detachStubSession
      split <;> exact there
    refine listed.set same (fun handle => ?_) (by simp [Connection.goTo])
    simp only [burying,stage,Connection.goTo]
  | looked works there stage after =>
    rcases after with rfl | ⟨node,rfl⟩
    all_goals
      refine counted.set there (fun handle => ?_) (by simp [Connection.goTo])
      simp only [burying,stage,Connection.goTo]
  | @unproxied works index connection node there stage =>
    have member := detachProxySession_whole whole
    refine ⟨?_,?_⟩
    · intro handle
      have balance := counted.counted handle
      have erased := @countP_erase_one _ _ _ _ (fun node : SessionNode => node.session.handle) handle member
      have connections := @Entries.sum_set _ _ _ index (connection.goTo (.queryingIndex node.session.handle)) (burying handle) there
      simp only [indexes,sessions,updatings,buryings,Skeleton.setConnection,Skeleton.detachProxySession,if_pos member]
        at balance connections ⊢
      simp only [burying,stage,Connection.goTo] at connections ⊢
      omega
    · simp only [Skeleton.setConnection,Skeleton.detachProxySession,if_pos member]
      exact counted.named_set (by simp [Connection.goTo])
  | @numbered works index connection handle node there stage found =>
    refine counted.set there (fun handle => ?_) ?_
    · simp only [burying,stage,Connection.goTo]
    · intro other item same
      cases same
      have named := List.find?_some found
      simp only [decide_eq_true_eq] at named
      exact named
  | @unnumbered works index connection handle there stage missing =>
    have own : burying handle connection = 1 := by simp [burying,stage]
    have positive := counted.pos_of_querying (List.mem_of_getElem? there) own
    have some_ := isSome_of_pos positive
    rw [missing] at some_
    cases some_
  | @buried works index connection handle node there stage obituaries =>
    have member : node ∈ skeleton.handleToIndexList := detachHandleToIndex_whole whole
    have named := counted.named connection (List.mem_of_getElem? there) handle node stage
    refine ⟨?_,?_⟩
    · intro other
      have balance := counted.detachedIndex member other
      have connections := @Entries.sum_set _ _ _ index (connection.goTo .closed) (burying other) there
      simp only [indexes,sessions,updatings,buryings,Skeleton.setConnection,Skeleton.detachHandleToIndex,if_pos member,named]
        at balance connections ⊢
      simp only [burying,stage,Connection.goTo] at connections ⊢
      omega
    · simp only [Skeleton.setConnection,Skeleton.detachHandleToIndex,if_pos member]
      exact counted.named_set (by simp [Connection.goTo])

end Counted

theorem run_counted {events : List Event} (run : Reaches (fires Skeleton.step) Skeleton.new events next) (whole : next.crashed = false) :
    Counted next := by
  refine run.invariant (fun skeleton => skeleton.crashed = false → Counted skeleton) (fun _ => counted_new) ?_ whole
  intro before event after earlier fired sound
  obtain ⟨sound_,step⟩ := step_cases fired
  exact (earlier sound_).step step sound

/-- Of a handle there are as many index nodes as sessions, calls that have attached a node and neither stored a session nor given up yet,
callbacks that have taken one, and calls that gave up, for each of which a node stays behind for ever. So a session has an index, and `OnDatabusSessionClosed` finds one for the session
that it takes. -/
theorem index_for_each_session {events : List Event} (run : Reaches (fires Skeleton.step) Skeleton.new events next)
    (whole : next.crashed = false) :
    (∀ handle, indexes next handle = sessions next handle+updatings next handle+buryings next handle+next.givenUp.count handle) ∧
      (∀ node ∈ next.proxySessionList, (next.queryHandleToIndex node.session.handle).isSome = true) ∧
      ∀ connection ∈ next.connections, ∀ handle, connection.stage = .queryingIndex handle →
        (next.queryHandleToIndex handle).isSome = true := by
  have counted := run_counted run whole
  refine ⟨counted.counted,?_,?_⟩
  · intro node member
    have positive : 0 < sessions next node.session.handle := List.countP_pos_iff.mpr ⟨node,member,by simp⟩
    have balance := counted.counted node.session.handle
    exact Counted.isSome_of_pos (by omega)
  · intro connection member handle stage
    have own : burying handle connection = 1 := by simp [burying,stage]
    exact Counted.isSome_of_pos (counted.pos_of_querying member own)

/-- One call gives up and another adds a session. -/
def givesUpOnce : List Event :=
  [.updateProto 7,.update 0 .goes,.update 0 (.databus 3),.update 0 .goes,.update 0 .goes,.update 0 .failed,.updateProto 7,.update 1 .goes,
    .update 1 (.databus 3),.update 1 .goes,.update 1 .goes,.update 1 (.connected 5),.onConnected 0 0,.callback 0 true,.callback 0 true,
    .update 1 .goes,.update 1 .goes]

theorem index_after_giving_up : ∃ next, Reaches (fires Skeleton.step) Skeleton.new givesUpOnce next ∧ sessions next 7 = 1 ∧
    indexes next 7 = 2 := by
  obtain ⟨next,run,test⟩ := Reaches.exists_of_foldlM Skeleton.step Skeleton.new givesUpOnce
    (fun next => next.crashed = false ∧ sessions next 7 = 1 ∧ updatings next 7 = 0 ∧ buryings next 7 = 0 ∧ next.givenUp = [7])
    (by decide)
  obtain ⟨whole,one,none_,none',gaveUp⟩ := of_decide_eq_true test
  have balance := (index_for_each_session run whole).1 7
  rw [one,none_,none',gaveUp] at balance
  exact ⟨next,run,one,balance⟩

end Counting

section Staying
variable {skeleton next : Skeleton} {event : Event}

/-- The transport reports the end of a connection only after `OnReceiveNewConnection` has attached its stub session. -/
def reported (skeleton : Skeleton) : Event → Bool
  | .onDisconnected index => (skeleton.connections[index]?.map Connection.attached).getD false
  | _ => true

structure Kept (stubs : List SessionNode) (connection : Connection) : Prop where
  stub : connection.attached = true → connection.stage ≠ .closed → ∃ node ∈ stubs, node.session.handle = connection.sessionId.toUInt32
  detaching : ∀ node, connection.stage = .detachingStub node → node ∈ stubs ∧ node.session.handle = connection.sessionId.toUInt32
  unattached : proxied connection.stage = true → connection.attached = false

namespace Kept
variable {stubs later : List SessionNode} {connection : Connection} {stage : Stage}

theorem more (kept : Kept stubs connection)
    (more : connection.stage ≠ .closed → ∀ node ∈ stubs, node.session.handle = connection.sessionId.toUInt32 → node ∈ later) :
    Kept later connection where
  stub := by
    intro attached used
    obtain ⟨node,member,named⟩ := kept.stub attached used
    exact ⟨node,more used node member named,named⟩
  detaching := by
    intro node stage
    obtain ⟨member,named⟩ := kept.detaching node stage
    exact ⟨more (by simp [stage]) node member named,named⟩
  unattached := kept.unattached

theorem goTo (kept : Kept stubs connection) (used : connection.stage ≠ .closed) (stubless : ∀ node, stage ≠ .detachingStub node)
    (unproxied : proxied stage = true → connection.attached = false) : Kept stubs (connection.goTo stage) where
  stub := fun attached _ => kept.stub attached used
  detaching := fun node same => absurd same (stubless node)
  unattached := unproxied

theorem calm (kept : Kept stubs connection) (used : connection.stage ≠ .closed) (still : calm stage = true) :
    Kept stubs (connection.goTo stage) := by
  refine kept.goTo used ?_ ?_
  · rintro node rfl
    cases still
  · rw [calm_unproxied still]
    exact fun proxied => absurd proxied Bool.false_ne_true

end Kept

def usedId (connection : Connection) : Option Int32 := if connection.stage = .closed then none else some connection.sessionId

structure Steady (skeleton : Skeleton) : Prop where
  distinct : Entries.Apart usedId skeleton.connections
  kept : ∀ (index : Nat) connection, skeleton.connections[index]? = some connection → Kept skeleton.stubSessionList connection

namespace Steady

theorem set (steady : Steady skeleton) {index : Nat} {connection : Connection} (later : Connection)
    (there : skeleton.connections[index]? = some connection) (used : connection.stage ≠ .closed)
    (same : later.sessionId = connection.sessionId) (own : Kept next.stubSessionList later)
    (rest : ∀ node ∈ skeleton.stubSessionList, node.session.handle ≠ connection.sessionId.toUInt32 → node ∈ next.stubSessionList)
    (connections : next.connections = skeleton.connections.set index later) : Steady next := by
  have usedNow : usedId connection = some connection.sessionId := if_neg used
  refine ⟨?_,?_⟩
  · rw [connections]
    refine steady.distinct.set there ?_
    intro sessionId keyed
    left
    rw [usedNow,← same]
    unfold usedId at keyed
    split at keyed
    · cases keyed
    · exact keyed
  · intro other item at_
    rw [connections] at at_
    rcases Entries.at_set at_ with ⟨rfl,rfl⟩ | ⟨elsewhere,old⟩
    · exact own
    · refine (steady.kept other item old).more ?_
      intro open_ node member named
      refine rest node member ?_
      rw [named]
      intro equal
      have id_ : item.sessionId = connection.sessionId := by
        rw [← Int32.toInt32_toUInt32 item.sessionId,equal,Int32.toInt32_toUInt32]
      exact elsewhere (steady.distinct other index item connection _ old there (if_neg open_) (by rw [usedNow,id_]))

theorem added (steady : Steady skeleton) {sessionId : Int32} (free : skeleton.inUse sessionId = false) :
    Steady (skeleton.addConnection sessionId) := by
  have fresh : ∀ (index : Nat) connection, skeleton.connections[index]? = some connection → usedId connection ≠ some sessionId := by
    intro index connection at_ keyed
    unfold usedId at keyed
    split at keyed
    · cases keyed
    · have member := List.mem_of_getElem? at_
      simp only [Skeleton.inUse,List.any_eq_false] at free
      refine free connection member ?_
      simpa using ⟨Option.some.inj keyed,‹_›⟩
  refine ⟨?_,?_⟩
  · intro one two first second k at_ at_' keyed keyed'
    rcases Entries.at_concat_last at_ with old | ⟨rfl,rfl⟩
    · rcases Entries.at_concat_last at_' with old' | ⟨rfl,rfl⟩
      · exact steady.distinct one two first second k old old' keyed keyed'
      · cases keyed'
        exact absurd keyed (fresh one first old)
    · rcases Entries.at_concat_last at_' with old' | ⟨rfl,rfl⟩
      · cases keyed
        exact absurd keyed' (fresh two second old')
      · rfl
  · intro index connection at_
    rcases Entries.at_concat_last at_ with old | ⟨-,rfl⟩
    · exact steady.kept index connection old
    · exact ⟨by simp,by simp,fun proxied => absurd proxied Bool.false_ne_true⟩

/-- The connection goes on, and no stub session comes or goes. -/
theorem goTo (steady : Steady skeleton) {index : Nat} {connection : Connection} {stage : Stage}
    (there : skeleton.connections[index]? = some connection) (used : connection.stage ≠ .closed)
    (own : Kept skeleton.stubSessionList (connection.goTo stage)) (stubs : next.stubSessionList = skeleton.stubSessionList)
    (connections : next.connections = skeleton.connections.set index (connection.goTo stage)) : Steady next := by
  refine steady.set (connection.goTo stage) there used rfl ?_ ?_ connections
  · rw [stubs]
    exact own
  · rw [stubs]
    exact fun _ member _ => member

/-- `OnDatabusSessionClosed` goes on among the sessions of handles. -/
theorem proxied_goTo (steady : Steady skeleton) {index : Nat} {connection : Connection} {stage : Stage}
    (there : skeleton.connections[index]? = some connection) (busy : proxied connection.stage = true)
    (stubless : ∀ node, stage ≠ .detachingStub node) (stubs : next.stubSessionList = skeleton.stubSessionList)
    (connections : next.connections = skeleton.connections.set index (connection.goTo stage)) : Steady next := by
  have kept := steady.kept _ _ there
  have used : connection.stage ≠ .closed := by
    intro closed
    rw [closed] at busy
    cases busy
  exact steady.goTo there used (kept.goTo used stubless fun _ => kept.unattached busy) stubs connections

theorem step (steady : Steady skeleton) (step : Step skeleton event next) : Steady next := by
  cases step with
  | began | turned | indexed | gaveUp | stored => exact ⟨steady.distinct,steady.kept⟩
  | unindexed choice at_ =>
    unfold Skeleton.detachHandleToIndex
    split <;> exact ⟨steady.distinct,steady.kept⟩
  | connected choice at_ free => exact ⟨(steady.added free).distinct,(steady.added free).kept⟩
  | accepted sessionId free => exact steady.added free
  | @went _ index connection stage ready there used before after =>
    exact steady.goTo there used ((steady.kept _ _ there).calm used after) rfl rfl
  | @disconnected index connection there still =>
    have used := (quiet_calm still).2
    have own : Kept skeleton.stubSessionList (connection.goTo .closing) :=
      (steady.kept _ _ there).goTo used (by simp) fun proxied => absurd proxied Bool.false_ne_true
    exact steady.goTo there used own rfl rfl
  | stubbed works there stage named =>
    refine steady.set ⟨_,true,.signalling⟩ there (by simp [stage]) rfl ?_ (fun _ member _ => .tail _ member) rfl
    exact ⟨fun _ _ => ⟨_,.head _,named⟩,by simp,fun proxied => absurd proxied Bool.false_ne_true⟩
  | @found works index connection node there stage found =>
    have kept := steady.kept _ _ there
    have used : connection.stage ≠ .closed := by simp [stage]
    have own : Kept skeleton.stubSessionList (connection.goTo (.detachingStub node)) := by
      refine ⟨fun attached _ => kept.stub attached used,?_,fun proxied => absurd proxied Bool.false_ne_true⟩
      intro other same
      cases same
      have named := List.find?_some found
      simp only [decide_eq_true_eq] at named
      exact ⟨List.mem_of_find?_eq_some found,named⟩
    exact steady.goTo there used own rfl rfl
  | @unfound works index connection there stage missing =>
    have kept := steady.kept _ _ there
    have used : connection.stage ≠ .closed := by simp [stage]
    -- the stub session of a connection that has one would have been found
    have unattached : connection.attached = false := by
      by_contra attached
      obtain ⟨node,member,named⟩ := kept.stub (by simpa using attached) used
      have none_ := List.find?_eq_none.mp missing node member
      simp [named] at none_
    exact steady.goTo there used (kept.goTo used (by simp) fun _ => unattached) rfl rfl
  | @unstubbed works index connection node there stage =>
    have kept := steady.kept _ _ there
    obtain ⟨member,named⟩ := kept.detaching node stage
    have used : connection.stage ≠ .closed := by simp [stage]
    rw [Skeleton.detachStubSession,if_pos member]
    have own : Kept (skeleton.stubSessionList.erase node) (connection.goTo .closed) := (kept.calm used rfl).more (absurd rfl)
    refine steady.set (connection.goTo .closed) there used rfl own ?_ rfl
    intro other member_ apart
    refine (List.mem_erase_of_ne ?_).mpr member_
    rintro rfl
    exact apart named
  | looked works there stage after =>
    refine steady.proxied_goTo there (by rw [stage]; rfl) ?_ rfl rfl
    rcases after with rfl | ⟨node,rfl⟩ <;> simp
  | unproxied works there stage =>
    unfold Skeleton.detachProxySession
    split <;> exact steady.proxied_goTo there (by rw [stage]; rfl) (by simp) rfl rfl
  | numbered works there stage found => exact steady.proxied_goTo there (by rw [stage]; rfl) (by simp) rfl rfl
  | unnumbered works there stage missing => exact steady.proxied_goTo there (by rw [stage]; rfl) (by simp) rfl rfl
  | buried works there stage obituaries =>
    unfold Skeleton.detachHandleToIndex
    split <;> exact steady.proxied_goTo there (by rw [stage]; rfl) (by simp) rfl rfl

end Steady

/-- The index nodes that calls may still detach are in the list. -/
structure Owned (skeleton : Skeleton) : Prop where
  apart : Entries.Apart owns skeleton.calls
  there : ∀ call ∈ skeleton.calls, ∀ node, owns call = some node → node ∈ skeleton.handleToIndexList
  fresh : ∀ node ∈ skeleton.handleToIndexList, node.address < skeleton.made

namespace Owned

theorem moved (owned : Owned skeleton) {call : Nat} {place later : Call} (at_ : skeleton.calls[call]? = some place)
    (own : ∀ node, owns later = some node → owns place = some node) (calls : next.calls = skeleton.calls.set call later)
    (list : next.handleToIndexList = skeleton.handleToIndexList) (made : next.made = skeleton.made) : Owned next := by
  refine ⟨?_,?_,?_⟩
  · rw [calls]
    exact owned.apart.set at_ fun node keyed => .inl (own node keyed)
  · intro item member node keyed
    rw [calls] at member
    rw [list]
    rcases List.mem_or_eq_of_mem_set member with old | rfl
    · exact owned.there item old node keyed
    · exact owned.there place (List.mem_of_getElem? at_) node (own node keyed)
  · rw [list,made]
    exact owned.fresh

theorem same (owned : Owned skeleton) (calls : next.calls = skeleton.calls) (list : next.handleToIndexList = skeleton.handleToIndexList)
    (made : next.made = skeleton.made) : Owned next := by
  refine ⟨?_,?_,?_⟩
  · rw [calls]
    exact owned.apart
  · rw [calls,list]
    exact owned.there
  · rw [list,made]
    exact owned.fresh

theorem indexed (owned : Owned skeleton) {call : Nat} {handle : UInt32} {index : UInt64}
    (at_ : skeleton.calls[call]? = some (.attachingIndex handle index)) :
    Owned ((skeleton.attachHandleToIndex ⟨handle,index,skeleton.made⟩).moveCall call (.serving ⟨handle,index,skeleton.made⟩)) where
  apart := by
    refine owned.apart.set at_ ?_
    intro node keyed
    cases keyed
    right
    intro other member keyed
    exact absurd (owned.fresh _ (owned.there other member _ keyed)) (Nat.lt_irrefl _)
  there := by
    intro item member node keyed
    rcases List.mem_or_eq_of_mem_set member with old | rfl
    · exact .tail _ (owned.there item old node keyed)
    · cases keyed
      exact .head _
  fresh := by
    intro node member
    rcases List.mem_cons.mp member with rfl | old
    · exact Nat.lt_succ_self _
    · exact Nat.lt_succ_of_lt (owned.fresh node old)

theorem unindexed (owned : Owned skeleton) {call : Nat} {node : IndexNode} (at_ : skeleton.calls[call]? = some (.detachingOwn node)) :
    Owned ((skeleton.detachHandleToIndex node).moveCall call (.updated .databus)) := by
  have member : node ∈ skeleton.handleToIndexList := owned.there _ (List.mem_of_getElem? at_) node rfl
  rw [Skeleton.detachHandleToIndex,if_pos member]
  refine ⟨?_,?_,?_⟩
  · exact owned.apart.set at_ (by simp [owns])
  · intro item member_ other keyed
    obtain ⟨place,there⟩ := List.getElem?_of_mem member_
    rcases Entries.at_set there with ⟨-,rfl⟩ | ⟨elsewhere,old⟩
    · cases keyed
    · refine (List.mem_erase_of_ne ?_).mpr (owned.there item (List.mem_of_getElem? old) other keyed)
      -- nobody else owns the node
      rintro rfl
      exact elsewhere (owned.apart place call item _ _ old at_ keyed rfl)
  · intro other member_
    exact owned.fresh other (List.mem_of_mem_erase member_)

end Owned

/-- `OnDatabusSessionClosed` is only at work on connections for which `AttachStubSession` was reached. -/
def Told (skeleton : Skeleton) : Prop :=
  ∀ (index : Nat) connection, skeleton.connections[index]? = some connection → connection.attached = false → calm connection.stage = true

namespace Told

theorem set (told : Told skeleton) {index : Nat} {later : Connection} (own : later.attached = false → calm later.stage = true)
    (connections : next.connections = skeleton.connections.set index later) : Told next := by
  intro other connection at_
  rw [connections] at at_
  rcases Entries.at_set at_ with ⟨-,rfl⟩ | ⟨-,old⟩
  · exact own
  · exact told other connection old

theorem added (told : Told skeleton) (sessionId : Int32) : Told (skeleton.addConnection sessionId) := by
  intro index connection at_
  rcases Entries.at_concat at_ with old | rfl
  · exact told index connection old
  · exact fun _ => rfl

theorem unproxied (told : Told skeleton) (steady : Steady skeleton) {index : Nat} {connection : Connection}
    (there : skeleton.connections[index]? = some connection) : proxied connection.stage = false := by
  by_contra proxied_
  have unattached := (steady.kept _ _ there).unattached (by simpa using proxied_)
  exact proxied_ (calm_unproxied (told _ _ there unattached))

end Told

structure Stays (skeleton : Skeleton) : Prop where
  whole : skeleton.crashed = false
  silent : skeleton.obituaries = []
  steady : Steady skeleton
  owned : Owned skeleton
  told : Told skeleton

theorem steady_new : Steady Skeleton.new := ⟨.nil,by simp [Skeleton.new]⟩

theorem stays_new : Stays Skeleton.new :=
  ⟨rfl,rfl,steady_new,⟨.nil,by simp [Skeleton.new],by simp [Skeleton.new]⟩,by simp [Told,Skeleton.new]⟩

theorem Stays.step (stays : Stays skeleton) (step : Step skeleton event next) (report : reported skeleton event = true) :
    Stays next ∧ skeleton.proxySessionList <:+ next.proxySessionList := by
  have steady := stays.steady.step step
  have owned := stays.owned
  have told := stays.told
  cases step with
  | @began handle place free alone =>
    refine ⟨⟨stays.whole,stays.silent,steady,⟨owned.apart.concat alone,?_,owned.fresh⟩,told⟩,List.suffix_refl _⟩
    intro item member node keyed
    rcases List.mem_append.mp member with old | new
    · exact owned.there item old node keyed
    · rw [List.mem_singleton.mp new,alone] at keyed
      cases keyed
  | turned choice at_ weight own =>
    exact ⟨⟨stays.whole,stays.silent,steady,owned.moved at_ own rfl rfl rfl,told⟩,List.suffix_refl _⟩
  | indexed choice at_ => exact ⟨⟨stays.whole,stays.silent,steady,owned.indexed at_,told⟩,List.suffix_refl _⟩
  | @unindexed choice call node at_ =>
    have member : node ∈ skeleton.handleToIndexList := owned.there _ (List.mem_of_getElem? at_) node rfl
    have owned_ := owned.unindexed at_
    rw [Skeleton.detachHandleToIndex,if_pos member] at steady owned_ ⊢
    exact ⟨⟨stays.whole,stays.silent,steady,owned_,told⟩,List.suffix_refl _⟩
  | gaveUp choice at_ weight =>
    exact ⟨⟨stays.whole,stays.silent,steady,owned.moved at_ (by simp [owns]) rfl rfl rfl,told⟩,List.suffix_refl _⟩
  | @connected choice call handle sessionId at_ free =>
    exact ⟨⟨stays.whole,stays.silent,steady,owned.moved at_ (by simp [owns]) rfl rfl rfl,told.added sessionId⟩,List.suffix_refl _⟩
  | stored choice at_ named =>
    exact ⟨⟨stays.whole,stays.silent,steady,owned.moved at_ (by simp [owns]) rfl rfl rfl,told⟩,List.suffix_cons _ _⟩
  | accepted sessionId free =>
    exact ⟨⟨stays.whole,stays.silent,steady,owned.same rfl rfl rfl,told.added sessionId⟩,List.suffix_refl _⟩
  | went _ ready there used before after =>
    exact ⟨⟨stays.whole,stays.silent,steady,owned.same rfl rfl rfl,told.set (fun _ => after) rfl⟩,List.suffix_refl _⟩
  | @disconnected index connection there still =>
    have attached : connection.attached = true := by
      simp only [reported,there,Option.map_some,Option.getD_some] at report
      exact report
    refine ⟨⟨stays.whole,stays.silent,steady,owned.same rfl rfl rfl,told.set (fun unattached => ?_) rfl⟩,List.suffix_refl _⟩
    exact absurd (unattached.symm.trans attached) Bool.false_ne_true
  | stubbed works there stage named =>
    refine ⟨⟨stays.whole,stays.silent,steady,owned.same rfl rfl rfl,told.set (fun unattached => ?_) rfl⟩,List.suffix_refl _⟩
    cases unattached
  | @found works index connection node there stage found =>
    refine ⟨⟨stays.whole,stays.silent,steady,owned.same rfl rfl rfl,told.set (fun unattached => ?_) rfl⟩,List.suffix_refl _⟩
    have still := told index connection there unattached
    rw [stage] at still
    cases still
  | @unfound works index connection there stage missing =>
    have unattached := (steady.kept index _ (Entries.at_set_self there)).unattached rfl
    have still := told index connection there unattached
    rw [stage] at still
    cases still
  | @unstubbed works index connection node there stage =>
    have member := ((stays.steady.kept _ _ there).detaching node stage).1
    rw [Skeleton.detachStubSession,if_pos member] at steady ⊢
    exact ⟨⟨stays.whole,stays.silent,steady,owned.same rfl rfl rfl,told.set (fun _ => rfl) rfl⟩,List.suffix_refl _⟩
  | looked works there stage | unproxied works there stage | numbered works there stage | unnumbered works there stage
  | buried works there stage =>
    have unproxied := told.unproxied stays.steady there
    rw [stage] at unproxied
    cases unproxied

theorem run_stays {events : List Event} (stays : Stays skeleton)
    (run : Reaches (guarded (fires Skeleton.step) fun skeleton event => reported skeleton event = true) skeleton events next) :
    Stays next ∧ skeleton.proxySessionList <:+ next.proxySessionList := by
  refine run.invariant (fun later => Stays later ∧ skeleton.proxySessionList <:+ later.proxySessionList)
    ⟨stays,List.suffix_refl _⟩ ?_
  rintro before event after ⟨held,suffix⟩ ⟨report,fired⟩
  obtain ⟨kept,further⟩ := held.step (step_cases fired).2 report
  exact ⟨kept,suffix.trans further⟩

theorem run_steady {events : List Event} (run : Reaches (fires Skeleton.step) Skeleton.new events next) : Steady next :=
  run.invariant Steady steady_new fun _ _ _ steady fired => steady.step (step_cases fired).2

/-- What takes sessions of handles away, or looks after a death, is `OnDatabusSessionClosed` for a connection that got no stub session. -/
theorem Steady.taken (steady : Steady skeleton) (step : Step skeleton event next) :
    skeleton.proxySessionList <:+ next.proxySessionList ∧ next.obituaries = skeleton.obituaries ∨
      ∃ index works connection, event = .callback index works ∧ skeleton.connections[index]? = some connection ∧
        connection.attached = false := by
  cases step with
  | began | turned | indexed | gaveUp | connected | accepted | went | disconnected | stubbed | found | unfound | looked | numbered |
      unnumbered =>
    exact .inl ⟨List.suffix_refl _,rfl⟩
  | stored => exact .inl ⟨List.suffix_cons _ _,rfl⟩
  | unindexed choice at_ =>
    left
    unfold Skeleton.detachHandleToIndex
    split <;> exact ⟨List.suffix_refl _,rfl⟩
  | unstubbed works there stage =>
    left
    unfold Skeleton.detachStubSession
    split <;> exact ⟨List.suffix_refl _,rfl⟩
  | unproxied works there stage =>
    exact .inr ⟨_,works,_,rfl,there,(steady.kept _ _ there).unattached (by rw [stage]; rfl)⟩
  | buried works there stage =>
    exact .inr ⟨_,works,_,rfl,there,(steady.kept _ _ there).unattached (by rw [stage]; rfl)⟩

/-- `OnDatabusSessionClosed` looks among the sessions of handles only for a connection that got no stub session, and
`OnReceiveNewConnection` gives one to the connections that this process opened as well. So where the transport reports the end of a
connection only after that, no session of a handle is detached and no object reported dead, though the connections close and their ids go
to others. -/
theorem client_sessions_stay {events : List Event} (run : Reaches (fires Skeleton.step) Skeleton.new events next) :
    (∀ connection ∈ next.connections, proxied connection.stage = true → connection.attached = false) ∧
      (∀ connection ∈ next.connections, connection.attached = true → connection.stage ≠ .closed →
        (next.queryStubSession connection.sessionId.toUInt32).isSome = true) ∧
      (∀ event later, next.step event = some later →
        next.proxySessionList <:+ later.proxySessionList ∧ later.obituaries = next.obituaries ∨
          ∃ index works connection, event = .callback index works ∧ next.connections[index]? = some connection ∧
            connection.attached = false) ∧
      (Reaches (guarded (fires Skeleton.step) fun before event => reported before event = true) Skeleton.new events next →
        next.crashed = false ∧ next.obituaries = [] ∧
          ∀ more later, Reaches (guarded (fires Skeleton.step) fun before event => reported before event = true) next more later →
            next.proxySessionList <:+ later.proxySessionList) := by
  have steady := run_steady run
  refine ⟨?_,?_,fun event later fired => steady.taken (step_cases fired).2,?_⟩
  · intro connection member
    obtain ⟨index,at_⟩ := List.getElem?_of_mem member
    exact (steady.kept index connection at_).unattached
  · intro connection member attached used
    obtain ⟨index,at_⟩ := List.getElem?_of_mem member
    obtain ⟨node,listed,named⟩ := (steady.kept index connection at_).stub attached used
    exact List.find?_isSome.mpr ⟨node,listed,by simpa using named⟩
  · intro reports
    have stays := (run_stays stays_new reports).1
    exact ⟨stays.whole,stays.silent,fun more later rest => (run_stays stays rest).2⟩

/-- `UpdateProto` for a handle, whose connection closes and leaves its id to a connection of somebody else. -/
def idGoesOn : List Event :=
  [.updateProto 7,.update 0 .goes,.update 0 (.databus 3),.update 0 .goes,.update 0 .goes,.update 0 (.connected 5),.onConnected 0 0,
    .callback 0 true,.callback 0 true,.update 0 .goes,.update 0 .goes,.onDisconnected 0,.callback 0 true,.callback 0 true,.accept 5,
    .onConnected 1 0,.callback 1 true,.callback 1 true,.updateProto 7,.update 1 .goes]

theorem client_session_of_another : ∃ next, Reaches (fires Skeleton.step) Skeleton.new idGoesOn next ∧
    (next.queryProxySession 7 = some ⟨⟨7,5⟩,0⟩ ∧ next.connections = [⟨5,true,.closed⟩,⟨5,true,.connected⟩] ∧
      next.calls = [.updated .databus,.updated .databus]) ∧ next.obituaries = [] := by
  obtain ⟨next,run,test⟩ := Reaches.exists_of_foldlM_guarded Skeleton.step (fun before event => reported before event = true)
    Skeleton.new idGoesOn (fun next => next.queryProxySession 7 = some ⟨⟨7,5⟩,0⟩ ∧
      next.connections = [⟨5,true,.closed⟩,⟨5,true,.connected⟩] ∧ next.calls = [.updated .databus,.updated .databus]) (by decide)
  have plain : Reaches (fires Skeleton.step) Skeleton.new idGoesOn next := run.mono fun _ _ _ taken => taken.2
  exact ⟨next,plain,of_decide_eq_true test,((client_sessions_stay plain).2.2.2 run).2.1⟩

end Staying

end CommunicationIpc.LiteSessions
