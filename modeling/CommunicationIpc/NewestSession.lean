import CommunicationIpc.ServiceSteps

/-! The replies to several requests for one stub, handled at the same time: which of them
leaves its session behind. -/
namespace CommunicationIpc.NewestSession
open CommunicationIpc.Library CommunicationIpc.Kernel.Negotiation CommunicationIpc.Kernel.Service CommunicationIpc.ServiceSteps

/-- A reply that makes a session for the stub with this tag. -/
def Valid (tag : UInt64) (message : DHandleEntryTxRx) : Prop :=
  message.stub = tag ∧ isValidSessionName message = true ∧ message.stubIndex ≠ 0

/-- The stub is registered under the tag, and has no session yet. -/
structure Fresh (tag stub : UInt64) (shared : Shared) : Prop where
  mapped : shared.registry.queryStubPtr tag = stub
  registered : stub ∈ shared.registry.dBinderStubRegisted
  empty : shared.registry.sessionObject.lookup stub = none

/-- All the replies have arrived; nothing else is going on. -/
def arrived (shared : Shared) (messages : List DHandleEntryTxRx) : Pool Shared Task where
  shared := shared
  tasks := fun i => match messages[i]? with
    | some message => .reply message .checkTag
    | none => .finished

/-- A reply between its `QuerySessionObject` and its `AttachSessionObject`. -/
def between : Task → Bool
  | .reply _ .detachTag | .reply _ (.detachSession _) | .reply _ .attachTag | .reply _ (.attachSession _) => true
  | _ => false

/-- The look-up of a reply comes in between the look-up of another and what that does with it. -/
def overlaps (_ : Shared) (task other : Task) : Bool :=
  match task with
  | .reply _ (.querySession _) => between other
  | _ => false

/-- A reply finds no older session with its own contents. -/
def Differs (pool : Pool Shared Task) (move : Pool.Move Choice) : Prop :=
  match pool.tasks move.1 with
  | .reply message (.querySession stub) => ∀ stored, pool.shared.registry.sessionObject.lookup stub = some stored →
      isSameSession stored (initializeSession message) = true → message.seqNumber ≤ stored.seqNumber
  | _ => True

instance (pool : Pool Shared Task) (move : Pool.Move Choice) : Decidable (Differs pool move) := by
  unfold Differs
  split
  · exact inferInstanceAs (Decidable (∀ stored ∈ pool.shared.registry.sessionObject.lookup _,_ → _))
  · exact isTrue trivial

/-- The replies look up and write one after the other, and none has the contents of an older one that is stored. -/
def Orderly (pool : Pool Shared Task) (move : Pool.Move Choice) : Prop := Pool.Undisturbed overlaps pool move ∧ Differs pool move

def Targets (stub : UInt64) : ReplyPc → Prop
  | .checkStub target | .querySession target | .detachSession target | .attachSession target => target = stub
  | .checkTag | .queryTag | .detachTag | .attachTag => True

def Attaching : ReplyPc → Prop
  | .attachTag | .attachSession _ => True
  | _ => False

/-- The replies before their last section. -/
def Placed (tag stub : UInt64) : Option DHandleEntryTxRx → Task → Prop
  | some message,.reply other pc => other = message ∧ Valid tag message ∧ Targets stub pc
  | _,.wake _ _ => True
  | _,.finished => True
  | _,_ => False

/-- What the replies that are done have left: a session that is not older, or a reply about to attach one. -/
def Covered (stub : UInt64) (pool : Pool Shared Task) (seqNumber : UInt32) : Prop :=
  (∃ stored, pool.shared.registry.sessionObject.lookup stub = some stored ∧ seqNumber ≤ stored.seqNumber) ∨
    ∃ i message pc, pool.tasks i = .reply message pc ∧ Attaching pc ∧ seqNumber ≤ message.seqNumber

def replying : Task → Bool
  | .reply _ _ => true
  | _ => false

structure Settling (tag stub : UInt64) (messages : List DHandleEntryTxRx) (pool : Pool Shared Task) : Prop where
  mapped : pool.shared.registry.queryStubPtr tag = stub
  registered : stub ∈ pool.shared.registry.dBinderStubRegisted
  placed : ∀ i, Placed tag stub messages[i]? (pool.tasks i)
  stored : ∀ session, pool.shared.registry.sessionObject.lookup stub = some session →
    ∃ message ∈ messages, session = initializeSession message
  covered : ∀ (i : Nat) message, messages[i]? = some message → replying (pool.tasks i) = false →
    Covered stub pool message.seqNumber

/-- What a reply has seen of the session that is stored. -/
def Compared (stub : UInt64) (shared : Shared) (message : DHandleEntryTxRx) : ReplyPc → Prop
  | .detachTag | .detachSession _ => ∀ stored, shared.registry.sessionObject.lookup stub = some stored →
      stored.seqNumber ≤ message.seqNumber
  | .attachTag | .attachSession _ => ∀ stored, shared.registry.sessionObject.lookup stub = some stored →
      message.seqNumber ≤ stored.seqNumber
  | _ => True

theorem compared_outside {stub : UInt64} {shared : Shared} {message : DHandleEntryTxRx} {pc : ReplyPc}
    (outside : between (.reply message pc) = false) : Compared stub shared message pc := by
  cases pc with
  | detachTag | detachSession | attachTag | attachSession => cases outside
  | _ => trivial

/-- One reply at a time is between its look-up and its last section, and what it has seen is still so. -/
structure Sectioned (stub : UInt64) (pool : Pool Shared Task) : Prop where
  alone : ∀ i j, between (pool.tasks i) = true → between (pool.tasks j) = true → i = j
  compared : ∀ i message pc, pool.tasks i = .reply message pc → Compared stub pool.shared message pc

/-- What one section of a reply does to the session of its stub. -/
inductive Section (stub : UInt64) (message : DHandleEntryTxRx) (shared : Shared) (pc : ReplyPc) : Shared × Task → Prop
  | local (later : ReplyPc) (kept : Attaching pc → Attaching later) (targets : Targets stub later)
      (inside : between (.reply message later) = true → between (.reply message pc) = true ∨ pc = .querySession stub)
      (compared : Compared stub shared message pc → Compared stub shared message later) :
      Section stub message shared pc (shared,.reply message later)
  | same (session : SessionInfo) (found : shared.registry.sessionObject.lookup stub = some session) (at_query : pc = .querySession stub)
      (equal : isSameSession session (initializeSession message) = true) :
      Section stub message shared pc (shared,.wake message.seqNumber .query)
  | detach (at_detach : pc = .detachSession stub) :
      Section stub message shared pc (shared.detachSessionObject stub,.reply message .attachTag)
  | attach (at_attach : pc = .attachSession stub) :
      Section stub message shared pc (shared.attachSessionObject (initializeSession message) stub,.wake message.seqNumber .query)

theorem section_of_advanceReply {tag stub : UInt64} {message : DHandleEntryTxRx} {shared : Shared} {pc : ReplyPc}
    (mapped : shared.registry.queryStubPtr tag = stub) (registered : stub ∈ shared.registry.dBinderStubRegisted)
    (valid : Valid tag message) (targets : Targets stub pc) :
    Section stub message shared pc (advanceReply shared message pc) := by
  obtain ⟨named,name,index⟩ := valid
  have query : shared.registry.queryStubPtr message.stub = stub := by
    rw [named]
    exact mapped
  cases pc with
  | checkTag => exact .local (.checkStub _) (fun impossible => False.elim impossible) query (fun inside => .inl inside) fun _ => trivial
  | checkStub target =>
    cases targets
    have passes : ¬ (¬ shared.hasDBinderStub stub = true ∨ ¬ isValidSessionName message = true ∨
        (initializeSession message).stubIndex = 0) := by
      intro refused
      rcases refused with unregistered | unnamed | zero
      · exact unregistered (decide_eq_true registered)
      · exact unnamed name
      · exact index zero
    simp only [advanceReply,if_neg passes]
    exact .local .queryTag (fun impossible => False.elim impossible) trivial (fun inside => .inl inside) fun _ => trivial
  | queryTag =>
    exact .local (.querySession _) (fun impossible => False.elim impossible) query (fun inside => .inl inside) fun _ => trivial
  | querySession target =>
    cases targets
    simp only [advanceReply]
    split
    · rename_i missing
      refine .local .attachTag (fun impossible => False.elim impossible) trivial (fun _ => .inr rfl) fun _ stored found => ?_
      rw [missing] at found
      cases found
    · rename_i session found
      split
      · rename_i equal
        exact .same session found rfl equal
      · split
        · rename_i older
          refine .local .detachTag (fun impossible => False.elim impossible) trivial (fun _ => .inr rfl) fun _ stored again => ?_
          cases found.symm.trans again
          exact older
        · -- the session that is stored was asked for later
          rename_i newer
          refine .local .attachTag (fun impossible => False.elim impossible) trivial (fun _ => .inr rfl) fun _ stored again => ?_
          cases found.symm.trans again
          exact UInt32.le_of_lt (UInt32.not_le.mp newer)
  | detachTag =>
    exact .local (.detachSession _) (fun impossible => False.elim impossible) query (fun inside => .inl inside) fun compared => compared
  | detachSession target =>
    cases targets
    exact .detach rfl
  | attachTag => exact .local (.attachSession _) (fun attaching => attaching) query (fun inside => .inl inside) fun compared => compared
  | attachSession target =>
    cases targets
    exact .attach rfl

section Steps
variable {host : Host} {tag stub : UInt64} {messages : List DHandleEntryTxRx} {pool next : Pool Shared Task}
  {move : Pool.Move Choice}

theorem Covered.keep {seqNumber : UInt32} (covered : Covered stub pool seqNumber)
    (same : next.shared.registry.sessionObject.lookup stub = pool.shared.registry.sessionObject.lookup stub)
    (pending : ∀ i message pc, pool.tasks i = .reply message pc → Attaching pc →
      ∃ later, next.tasks i = .reply message later ∧ Attaching later) : Covered stub next seqNumber := by
  rcases covered with ⟨stored,found,newer⟩ | ⟨i,message,pc,task,attaching,newer⟩
  · exact .inl ⟨stored,same.trans found,newer⟩
  · obtain ⟨later,kept,still⟩ := pending i message pc task attaching
    exact .inr ⟨i,message,later,kept,still,newer⟩

/-- A section of one reply: the session changes only in the hands of the reply that is between its look-up and its last section. -/
theorem Sectioned.moves (sectioned : Sectioned stub pool) {i : Nat} (others : ∀ j, j ≠ i → next.tasks j = pool.tasks j)
    (entered : between (next.tasks i) = true → between (pool.tasks i) = true ∨ ∀ j, j ≠ i → between (pool.tasks j) = false)
    (sessions : next.shared.registry.sessionObject.lookup stub = pool.shared.registry.sessionObject.lookup stub ∨
      between (pool.tasks i) = true)
    (own : ∀ message pc, next.tasks i = .reply message pc → Compared stub next.shared message pc) : Sectioned stub next := by
  have outside : between (next.tasks i) = true → ∀ j, j ≠ i → between (pool.tasks j) = false := by
    intro inside j apart
    rcases entered inside with before | empty
    · exact Bool.eq_false_iff.mpr fun also => apart (sectioned.alone j i also before)
    · exact empty j apart
  refine ⟨?_,?_⟩
  · intro j k first second
    by_cases left : j = i
    · by_cases right : k = i
      · exact left.trans right.symm
      · rw [left] at first
        rw [others k right,outside first k right] at second
        cases second
    · rw [others j left] at first
      by_cases right : k = i
      · rw [right] at second
        rw [outside second j left] at first
        cases first
      · rw [others k right] at second
        exact sectioned.alone j k first second
  · intro j message pc task
    by_cases same : j = i
    · rw [same] at task
      exact own message pc task
    · rw [others j same] at task
      rcases sessions with kept | inside
      · have before := sectioned.compared j message pc task
        unfold Compared at before ⊢
        rw [kept]
        exact before
      · refine compared_outside (Bool.eq_false_iff.mpr fun also => same ?_)
        rw [← task] at also
        exact sectioned.alone j i also inside

theorem placed_update (placed : ∀ i, Placed tag stub messages[i]? (pool.tasks i)) {i : Nat}
    (others : ∀ j, j ≠ i → next.tasks j = pool.tasks j) (own : Placed tag stub messages[i]? (next.tasks i)) (j : Nat) :
    Placed tag stub messages[j]? (next.tasks j) := by
  by_cases same : j = i
  · rw [same]
    exact own
  · rw [others j same]
    exact placed j

/-- A section that leaves the registry as it is, and is not the last one of a reply. -/
theorem Settling.quiet (settling : Settling tag stub messages pool) {i : Nat}
    (shared : next.shared.registry = pool.shared.registry) (others : ∀ j, j ≠ i → next.tasks j = pool.tasks j)
    (own : Placed tag stub messages[i]? (next.tasks i))
    (pending : ∀ message pc, pool.tasks i = .reply message pc →
      ∃ later, next.tasks i = .reply message later ∧ (Attaching pc → Attaching later)) :
    Settling tag stub messages next := by
  refine ⟨by rw [shared]; exact settling.mapped,by rw [shared]; exact settling.registered,
    placed_update settling.placed others own,by rw [shared]; exact settling.stored,?_⟩
  intro j message known done
  have before : replying (pool.tasks j) = false := by
    by_cases same : j = i
    · subst same
      cases task : pool.tasks j with
      | reply other pc =>
        obtain ⟨later,made,-⟩ := pending other pc task
        rw [made] at done
        cases done
      | _ => rfl
    · rw [← others j same]
      exact done
  refine (settling.covered j message known before).keep (by rw [shared]) ?_
  intro k other pc task attaching
  by_cases same : k = i
  · subst same
    obtain ⟨later,made,kept⟩ := pending other pc task
    exact ⟨later,made,kept attaching⟩
  · rw [others k same]
    exact ⟨pc,task,attaching⟩

theorem Settling.detach (settling : Settling tag stub messages pool) {i : Nat} {message : DHandleEntryTxRx}
    (task : pool.tasks i = .reply message (.detachSession stub))
    (older : ∀ stored, pool.shared.registry.sessionObject.lookup stub = some stored → stored.seqNumber ≤ message.seqNumber)
    (shared : next.shared = pool.shared.detachSessionObject stub) (others : ∀ j, j ≠ i → next.tasks j = pool.tasks j)
    (own : next.tasks i = .reply message .attachTag) : Settling tag stub messages next := by
  have empty : next.shared.registry.sessionObject.lookup stub = none := by
    rw [shared]
    exact lookup_detachSessionObject pool.shared.registry stub
  refine ⟨by rw [shared]; exact settling.mapped,by rw [shared]; exact settling.registered,?_,?_,?_⟩
  · refine placed_update settling.placed others ?_
    have place := settling.placed i
    rw [own]
    rw [task] at place
    cases known : messages[i]? with
    | none =>
      rw [known] at place
      cases place
    | some sent =>
      rw [known] at place
      exact ⟨place.1,place.2.1,trivial⟩
  · intro session found
    rw [empty] at found
    cases found
  · intro j other known done
    have apart : j ≠ i := by
      intro same
      rw [same,own] at done
      cases done
    rw [others j apart] at done
    rcases settling.covered j other known done with ⟨stored,found,newer⟩ | ⟨k,later,pc,attached,attaching,newer⟩
    · exact .inr ⟨i,message,.attachTag,own,trivial,UInt32.le_trans newer (older stored found)⟩
    · have elsewhere : k ≠ i := by
        intro same
        rw [same,task] at attached
        cases attached
        cases attaching
      exact .inr ⟨k,later,pc,(others k elsewhere).trans attached,attaching,newer⟩

theorem Settling.attach (settling : Settling tag stub messages pool) {i : Nat} {message : DHandleEntryTxRx}
    (task : pool.tasks i = .reply message (.attachSession stub))
    (later : ∀ stored, pool.shared.registry.sessionObject.lookup stub = some stored → message.seqNumber ≤ stored.seqNumber)
    (shared : next.shared = pool.shared.attachSessionObject (initializeSession message) stub)
    (others : ∀ j, j ≠ i → next.tasks j = pool.tasks j) (own : next.tasks i = .wake message.seqNumber .query) :
    Settling tag stub messages next := by
  have kept : next.shared.registry.queryStubPtr tag = pool.shared.registry.queryStubPtr tag ∧
      next.shared.registry.dBinderStubRegisted = pool.shared.registry.dBinderStubRegisted := by
    rw [shared]
    simp only [Shared.attachSessionObject,Registry.attachSessionObject]
    split <;> exact ⟨rfl,rfl⟩
  have left : next.shared.registry.sessionObject.lookup stub =
      some ((pool.shared.registry.sessionObject.lookup stub).getD (initializeSession message)) := by
    rw [shared]
    exact lookup_attachSessionObject pool.shared.registry (initializeSession message) stub
  have newer : message.seqNumber ≤ ((pool.shared.registry.sessionObject.lookup stub).getD (initializeSession message)).seqNumber := by
    cases found : pool.shared.registry.sessionObject.lookup stub with
    | none => exact UInt32.le_refl message.seqNumber
    | some stored => exact later stored found
  have place := settling.placed i
  rw [task] at place
  refine ⟨kept.1.trans settling.mapped,kept.2 ▸ settling.registered,?_,?_,?_⟩
  · refine placed_update settling.placed others ?_
    rw [own]
    cases messages[i]? <;> trivial
  · intro session found
    rw [left] at found
    cases before : pool.shared.registry.sessionObject.lookup stub with
    | some stored =>
      rw [before] at found
      cases found
      exact settling.stored _ before
    | none =>
      rw [before] at found
      cases found
      cases known : messages[i]? with
      | none =>
        rw [known] at place
        cases place
      | some sent =>
        rw [known] at place
        obtain ⟨same,-⟩ := place
        exact ⟨sent,List.mem_of_getElem? known,by rw [same]; rfl⟩
  · intro j other known done
    by_cases same : j = i
    · subst same
      rw [known] at place
      rw [← place.1]
      exact .inl ⟨_,left,newer⟩
    · rw [others j same] at done
      rcases settling.covered j other known done with ⟨stored,found,less⟩ | ⟨k,later,pc,attached,attaching,less⟩
      · rw [found] at left
        exact .inl ⟨stored,left,less⟩
      · by_cases here : k = i
        · rw [here,task] at attached
          cases attached
          exact .inl ⟨_,left,UInt32.le_trans less newer⟩
        · exact .inr ⟨k,later,pc,(others k here).trans attached,attaching,less⟩

theorem Settling.same (settling : Settling tag stub messages pool) {i : Nat} {message : DHandleEntryTxRx} {pc : ReplyPc}
    {session : SessionInfo} (task : pool.tasks i = .reply message pc) (early : ¬ Attaching pc)
    (found : pool.shared.registry.sessionObject.lookup stub = some session) (newer : message.seqNumber ≤ session.seqNumber)
    (shared : next.shared = pool.shared) (others : ∀ j, j ≠ i → next.tasks j = pool.tasks j)
    (own : next.tasks i = .wake message.seqNumber .query) : Settling tag stub messages next := by
  have place := settling.placed i
  rw [task] at place
  refine ⟨by rw [shared]; exact settling.mapped,by rw [shared]; exact settling.registered,?_,
    by rw [shared]; exact settling.stored,?_⟩
  · refine placed_update settling.placed others ?_
    rw [own]
    cases messages[i]? <;> trivial
  · intro j other known done
    by_cases same : j = i
    · subst same
      rw [known] at place
      rw [← place.1]
      exact .inl ⟨session,by rw [shared]; exact found,newer⟩
    · rw [others j same] at done
      refine (settling.covered j other known done).keep (by rw [shared]) ?_
      intro k later pc attached attaching
      have elsewhere : k ≠ i := by
        intro here
        rw [here,task] at attached
        cases attached
        exact early attaching
      exact ⟨pc,(others k elsewhere).trans attached,attaching⟩

/-- One section of a reply. That no other reply is between its look-up and its last section when this one looks up is the
condition on the run; that what it saw is still so later is `Sectioned`. -/
theorem settling_section (settling : Settling tag stub messages pool) (sectioned : Sectioned stub pool) {message : DHandleEntryTxRx}
    {pc : ReplyPc} {after : Shared × Task} (task : pool.tasks move.1 = .reply message pc) (known : messages[move.1]? = some message)
    (valid : Valid tag message) (effect : Section stub message pool.shared pc after) (orderly : Orderly pool move)
    (shared : next.shared = after.1) (own : next.tasks move.1 = after.2) (others : ∀ i, i ≠ move.1 → next.tasks i = pool.tasks i) :
    Settling tag stub messages next ∧ Sectioned stub next := by
  obtain ⟨undisturbed,differs⟩ := orderly
  have compared := sectioned.compared move.1 message pc task
  unfold Differs at differs
  unfold Pool.Undisturbed at undisturbed
  rw [task] at differs undisturbed
  cases effect with
  | «local» later kept still inside seen =>
    refine ⟨settling.quiet (by rw [shared]) others ?_ ?_,sectioned.moves others ?_ (.inl (by rw [shared])) ?_⟩
    · rw [known,own]
      exact ⟨rfl,valid,still⟩
    · intro other before running
      rw [task] at running
      cases running
      exact ⟨later,own,kept⟩
    · intro entered
      rw [own] at entered
      rw [task]
      refine (inside entered).imp_right ?_
      intro at_query
      subst at_query
      exact undisturbed
    · intro other pc running
      rw [own] at running
      cases running
      rw [shared]
      exact seen compared
  | same session found at_query equal =>
    subst at_query
    refine ⟨settling.same task (fun attaching => attaching) found (differs session found equal) shared others own,
      sectioned.moves others ?_ (.inl (by rw [shared])) ?_⟩
    · intro entered
      rw [own] at entered
      cases entered
    · intro other pc running
      rw [own] at running
      cases running
  | detach at_detach =>
    subst at_detach
    have inside : between (pool.tasks move.1) = true := by
      rw [task]
      rfl
    refine ⟨settling.detach task compared shared others own,sectioned.moves others (fun _ => .inl inside) (.inr inside) ?_⟩
    intro other pc running
    rw [own] at running
    cases running
    intro stored found
    rw [shared] at found
    cases (lookup_detachSessionObject pool.shared.registry stub).symm.trans found
  | attach at_attach =>
    subst at_attach
    refine ⟨settling.attach task compared shared others own,sectioned.moves others ?_ (.inr (by rw [task]; rfl)) ?_⟩
    · intro entered
      rw [own] at entered
      cases entered
    · intro other pc running
      rw [own] at running
      cases running

/-- What wakes the call of a reply, and what is over, touches no session. -/
theorem settling_wake (settling : Settling tag stub messages pool) (sectioned : Sectioned stub pool) {seqNumber : UInt32} {pc : WakePc}
    (task : pool.tasks move.1 = .wake seqNumber pc) (shared : next.shared = (advanceWake pool.shared seqNumber pc).1)
    (own : next.tasks move.1 = (advanceWake pool.shared seqNumber pc).2) (others : ∀ i, i ≠ move.1 → next.tasks i = pool.tasks i) :
    Settling tag stub messages next ∧ Sectioned stub next := by
  have registry := advanceWake_registry pool.shared seqNumber pc
  have later : (∃ later, next.tasks move.1 = .wake seqNumber later) ∨ next.tasks move.1 = .finished := by
    rw [own]
    exact advanceWake_task pool.shared seqNumber pc
  have outside : ∀ message pc, next.tasks move.1 ≠ .reply message pc := by
    intro message pc running
    rcases later with ⟨later,made⟩ | made
    · cases made.symm.trans running
    · cases made.symm.trans running
  refine ⟨settling.quiet (by rw [shared,registry]) others ?_ ?_,
    sectioned.moves others ?_ (.inl (by rw [shared,registry])) fun message pc running => absurd running (outside message pc)⟩
  · rcases later with ⟨later,made⟩ | made
    · rw [made]
      cases messages[move.1]? <;> trivial
    · rw [made]
      cases messages[move.1]? <;> trivial
  · intro message before running
    rw [task] at running
    cases running
  · intro entered
    rcases later with ⟨later,made⟩ | made
    · rw [made] at entered
      cases entered
    · rw [made] at entered
      cases entered

theorem settling_step (settling : Settling tag stub messages pool) (sectioned : Sectioned stub pool)
    (taken : guarded (fires (Pool.step (advance host))) Orderly pool move next) :
    Settling tag stub messages next ∧ Sectioned stub next := by
  obtain ⟨orderly,fired⟩ := taken
  obtain ⟨after,advanced,shared,own,others⟩ := Pool.step_cases fired
  have place := settling.placed move.1
  cases task : pool.tasks move.1 with
  | reply message pc =>
    rw [task] at place advanced
    cases known : messages[move.1]? with
    | none =>
      rw [known] at place
      cases place
    | some sent =>
      rw [known] at place
      obtain ⟨rfl,valid,targets⟩ := place
      simp only [advance,onGo_eq_some,Option.some.injEq] at advanced
      obtain ⟨-,advanced⟩ := advanced
      have effect := section_of_advanceReply settling.mapped settling.registered valid targets
      rw [advanced] at effect
      exact settling_section settling sectioned task known valid effect orderly shared own others
  | wake seqNumber pc =>
    rw [task] at advanced
    simp only [advance,onGo_eq_some,Option.some.injEq] at advanced
    obtain ⟨-,advanced⟩ := advanced
    subst advanced
    exact settling_wake settling sectioned task shared own others
  | finished =>
    rw [task] at advanced
    cases advanced
  | _ =>
    rw [task] at place
    generalize messages[move.1]? = known at place
    cases known <;> cases place

end Steps

theorem settling_arrived {tag stub : UInt64} {shared : Shared} {messages : List DHandleEntryTxRx} (fresh : Fresh tag stub shared)
    (valid : ∀ message ∈ messages, Valid tag message) : Settling tag stub messages (arrived shared messages) where
  mapped := fresh.mapped
  registered := fresh.registered
  placed := by
    intro i
    simp only [arrived]
    cases known : messages[i]? with
    | none => trivial
    | some message => exact ⟨rfl,valid message (List.mem_of_getElem? known),trivial⟩
  stored := by
    intro session found
    rw [show (arrived shared messages).shared.registry.sessionObject.lookup stub = none from fresh.empty] at found
    cases found
  covered := by
    intro i message known done
    simp only [arrived,known,replying] at done
    cases done

theorem sectioned_arrived (stub : UInt64) (shared : Shared) (messages : List DHandleEntryTxRx) :
    Sectioned stub (arrived shared messages) := by
  have outside : ∀ i, between ((arrived shared messages).tasks i) = false := by
    intro i
    simp only [arrived]
    cases messages[i]? <;> rfl
  refine ⟨?_,?_⟩
  · intro i j first second
    rw [outside i] at first
    cases first
  · intro i message pc task
    refine compared_outside ?_
    rw [← task]
    exact outside i

/-- In every interleaving of orderly steps the last session is the one of the latest request. -/
theorem newest_session_stored (host : Host) {tag stub : UInt64} {shared : Shared} {messages : List DHandleEntryTxRx}
    (fresh : Fresh tag stub shared) (valid : ∀ message ∈ messages, Valid tag message)
    (distinct : (messages.map DHandleEntryTxRx.seqNumber).Nodup) {moves : List (Pool.Move Choice)} {pool : Pool Shared Task}
    (run : Reaches (guarded (fires (Pool.step (advance host))) Orderly) (arrived shared messages) moves pool)
    (settled : ∀ i < messages.length, replying (pool.tasks i) = false) {newest : DHandleEntryTxRx}
    (member : newest ∈ messages) (greatest : ∀ message ∈ messages, message.seqNumber ≤ newest.seqNumber) :
    pool.shared.registry.sessionObject.lookup stub = some (initializeSession newest) := by
  obtain ⟨settling,-⟩ := run.invariant (fun pool => Settling tag stub messages pool ∧ Sectioned stub pool)
    ⟨settling_arrived fresh valid,sectioned_arrived stub shared messages⟩
    (fun _ _ _ holds taken => settling_step holds.1 holds.2 taken)
  obtain ⟨i,bound,at_i⟩ := List.mem_iff_getElem.mp member
  have known : messages[i]? = some newest := List.getElem?_eq_some_iff.mpr ⟨bound,at_i⟩
  rcases settling.covered i newest known (settled i bound) with ⟨session,found,newer⟩ | ⟨j,message,pc,task,-,-⟩
  · obtain ⟨origin,among,made⟩ := settling.stored session found
    have equal : origin.seqNumber = newest.seqNumber := by
      rw [made] at newer
      exact UInt32.le_antisymm (greatest origin among) newer
    rw [found,made,List.inj_on_of_nodup_map distinct among member equal]
  · -- no reply is left that could still attach
    have place := settling.placed j
    rw [task] at place
    cases other : messages[j]? with
    | none =>
      rw [other] at place
      cases place
    | some sent =>
      have bound := (List.getElem?_eq_some_iff.mp other).1
      have done := settled j bound
      rw [task] at done
      cases done

def sampleShared : Shared :=
  { Shared.empty with registry := ⟨(∅ : Table UInt64 UInt64).insert 1 7,[7],∅⟩ }

/-- The answers to requests 2, 1 and 3: the second is kept out, the third takes the place of the first. -/
def threeReplies : List DHandleEntryTxRx := [sampleReply 2 41,sampleReply 1 40,sampleReply 3 42]

def orderlyMoves : List (Pool.Move Choice) :=
  List.replicate 3 (1,.go) ++ List.replicate 2 (2,.go) ++ List.replicate 6 (0,.go) ++ List.replicate 3 (1,.go) ++
    List.replicate 6 (2,.go) ++ [(0,.go),(1,.go)]

theorem newest_session_stored_sample :
    ∃ pool, Reaches (guarded (fires (Pool.step (advance sampleHost))) Orderly) (arrived sampleShared threeReplies) orderlyMoves pool ∧
      pool.shared.registry.sessionObject.lookup 7 = some (initializeSession (sampleReply 3 42)) := by
  have idle : ∀ (shared : Shared) task i, 3 ≤ i → overlaps shared task ((arrived sampleShared threeReplies).tasks i) = false := by
    intro shared task i beyond
    have none_ : threeReplies[i]? = none := List.getElem?_eq_none beyond
    simp only [arrived,none_,overlaps]
    split <;> rfl
  obtain ⟨pool,run,settled⟩ := Pool.exists_of_foldlM_undisturbed (advance sampleHost) overlaps Differs
    (arrived sampleShared threeReplies) orderlyMoves 3 (by decide) idle
    (fun pool => (List.range 3).all fun i => !replying (pool.tasks i)) (by decide +kernel)
  simp only [List.all_eq_true,List.mem_range,Bool.not_eq_true'] at settled
  have fresh : Fresh 1 7 sampleShared := ⟨by decide +kernel,by decide +kernel,by decide +kernel⟩
  have valid : ∀ message ∈ threeReplies, Valid 1 message := by
    intro message member
    simp only [threeReplies,List.mem_cons,List.not_mem_nil,or_false] at member
    rcases member with first | second | third
    · subst first
      exact ⟨rfl,by decide +kernel,by decide +kernel⟩
    · subst second
      exact ⟨rfl,by decide +kernel,by decide +kernel⟩
    · subst third
      exact ⟨rfl,by decide +kernel,by decide +kernel⟩
  exact ⟨pool,run,newest_session_stored sampleHost fresh valid (by decide +kernel) run settled (by decide +kernel)
    (by decide +kernel)⟩

/-- The latest request, with number 3, is answered with the session that is there; the session keeps number 1,
and the answer to request 2 replaces it. -/
theorem newest_session_lost :
    ∃ pool, Reaches (fires (Pool.step (advance sampleHost)))
        (arrived sampleShared [sampleReply 1 40,sampleReply 3 40,sampleReply 2 41])
        (List.replicate 6 (0,.go) ++ List.replicate 4 (1,.go) ++ List.replicate 8 (2,.go)) pool ∧
      (∀ i < 3, replying (pool.tasks i) = false) ∧
      pool.shared.registry.sessionObject.lookup 7 = some (initializeSession (sampleReply 2 41)) ∧
      (initializeSession (sampleReply 2 41)).stubIndex ≠ (initializeSession (sampleReply 3 40)).stubIndex := by
  obtain ⟨pool,run,final⟩ := Reaches.exists_of_foldlM (Pool.step (advance sampleHost))
    (arrived sampleShared [sampleReply 1 40,sampleReply 3 40,sampleReply 2 41])
    (List.replicate 6 (0,Choice.go) ++ List.replicate 4 (1,Choice.go) ++ List.replicate 8 (2,Choice.go))
    (fun pool => ((List.range 3).all fun i => !replying (pool.tasks i)) &&
      decide (pool.shared.registry.sessionObject.lookup 7 = some (initializeSession (sampleReply 2 41)))) (by decide +kernel)
  simp only [Bool.and_eq_true,decide_eq_true_eq,List.all_eq_true,List.mem_range,Bool.not_eq_true'] at final
  exact ⟨pool,run,final.1,final.2,by decide⟩

end CommunicationIpc.NewestSession
