import CommunicationIpc.Kernel.ProxyInit
import CommunicationIpc.Library.Entries
import CommunicationIpc.Library.Run

/-! Exclusive initialisation of a proxy: as long as no call takes the flag back from another one that initialises, one at a time
runs `UpdateProto`, and who did not run it has seen what a completed one stored. -/
namespace CommunicationIpc.ProxyInit
open CommunicationIpc.Library CommunicationIpc.Kernel.ProxyInit

/-- Where a call stands to the initialisation. -/
inductive Stand
  | before
  /-- In `UpdateProto`, without and with `proto_` settled. -/
  | working
  | settled
  /-- Behind `UpdateProto`, with the flag still its own. -/
  | updated
  | waiting
  | past
deriving DecidableEq

def standOf : Phase → Stand
  | .entered => .before
  | .foundDead => .before
  | .revived => .before
  | .ready => .before
  | .updating .begun => .working
  | .updating .died => .working
  | .updating (.settled _) => .settled
  | .updated _ => .updated
  | .waiting => .waiting
  | _ => .past

/-- It executes `UpdateProto`. -/
def Updating (call : Call) : Prop := standOf call.phase = .working ∨ standOf call.phase = .settled

/-- From the exchange that wins the flag to the store that gives it up. -/
def Initialising (call : Call) : Prop := Updating call ∨ standOf call.phase = .updated

instance (call : Call) : Decidable (Updating call) := inferInstanceAs (Decidable (_ ∨ _))
instance (call : Call) : Decidable (Initialising call) := inferInstanceAs (Decidable (_ ∨ _))

/-- What a step of a call does. -/
inductive Move (index : Nat) (shared after : Shared) (call later : Call) : Prop
  | stays (stand : standOf later.phase = standOf call.phase) (ran : later.ran = call.ran) (seen : later.seen = call.seen)
      (initState : after.initState = shared.initState) (author : after.author = shared.author)
  | resets (phase : call.phase = .revived) (old : standOf call.phase = .before) (stand : standOf later.phase = .before) (ran : later.ran = call.ran)
      (initState : after.initState = .notInitialized) (author : after.author = shared.author)
  | wins (old : standOf call.phase = .before) (stand : standOf later.phase = .working) (ran : later.ran = true)
      (free : shared.initState = .notInitialized) (initState : after.initState = .initializing) (author : after.author = shared.author)
  | waits (old : standOf call.phase = .before) (stand : standOf later.phase = .waiting) (ran : later.ran = call.ran) (same : after = shared)
      (initState : shared.initState = .initializing)
  | finds (old : standOf call.phase = .before) (stand : standOf later.phase = .past) (seen : later.seen = shared.author)
      (same : after = shared) (initState : shared.initState = .initialized)
  | settles (old : standOf call.phase = .working) (stand : standOf later.phase = .settled) (ran : later.ran = call.ran)
      (initState : after.initState = shared.initState) (author : after.author = some index)
  | completes (old : standOf call.phase = .settled) (stand : standOf later.phase = .updated) (ran : later.ran = call.ran)
      (same : after = shared)
  | stores (old : standOf call.phase = .updated) (stand : standOf later.phase = .past) (ran : later.ran = call.ran)
      (initState : after.initState ≠ .initializing) (author : after.author = shared.author)
  | wakes (old : standOf call.phase = .waiting) (stand : standOf later.phase = .past) (seen : later.seen = shared.author)
      (same : after = shared) (initState : shared.initState ≠ .initializing)

theorem advance_move {index : Nat} {shared after : Shared} {call later : Call} {choice : Choice}
    (taken : advance index shared call choice = some (after,later)) : Move index shared after call later := by
  obtain ⟨phase,ran,seen⟩ := call
  cases phase with
  | entered =>
    cases taken
    refine .stays ?_ rfl rfl rfl rfl
    dsimp only
    split <;> rfl
  | foundDead =>
    cases taken
    exact .stays rfl rfl rfl rfl rfl
  | revived =>
    cases taken
    exact .resets rfl rfl rfl rfl rfl rfl
  | ready =>
    simp only [advance] at taken
    split at taken
    · rename_i free
      cases taken
      exact .wins rfl rfl rfl free rfl rfl
    · rename_i busy
      cases taken
      exact .waits rfl rfl rfl rfl busy
    · rename_i done
      cases taken
      exact .finds rfl rfl rfl rfl done
  | updating stage =>
    cases stage with
    | begun =>
      simp only [advance] at taken
      split at taken
      · cases taken
        exact .stays rfl rfl rfl rfl rfl
      · cases taken
        exact .settles rfl rfl rfl rfl rfl
    | died =>
      cases taken
      exact .settles rfl rfl rfl rfl rfl
    | settled success =>
      cases taken
      exact .completes rfl rfl rfl rfl
  | updated success =>
    cases taken
    cases success with
    | true => exact .stores rfl rfl rfl (by simp) rfl
    | false => exact .stores rfl rfl rfl (by simp) rfl
  | waiting =>
    simp only [advance] at taken
    split at taken
    · cases taken
      exact .stays rfl rfl rfl rfl rfl
    · rename_i free
      cases taken
      exact .wakes rfl rfl rfl rfl free
  | woken =>
    cases taken
    refine .stays ?_ rfl rfl rfl rfl
    dsimp only
    split <;> rfl
  | found =>
    simp only [advance] at taken
    split at taken
    · cases taken
      exact .stays rfl rfl rfl rfl rfl
    · cases taken
      exact .stays rfl rfl rfl rfl rfl
  | lost =>
    cases taken
    exact .stays rfl rfl rfl rfl rfl
  | checking =>
    simp only [advance] at taken
    split at taken
    · cases taken
      exact .stays rfl rfl rfl rfl rfl
    · cases taken
      exact .stays rfl rfl rfl rfl rfl
  | failing =>
    cases taken
    exact .stays rfl rfl rfl rfl rfl
  | returned => cases taken

def Completed (system : System) (author : Nat) : Prop :=
  ∃ call, system.calls[author]? = some call ∧ call.ran = true ∧ ¬ Updating call

structure Sound (system : System) : Prop where
  alone : ∀ (one two : Nat) first second, system.calls[one]? = some first → system.calls[two]? = some second →
    Initialising first → Initialising second → one = two
  flagged : system.shared.initState = .initializing ↔ ∃ (index : Nat) (call : Call), system.calls[index]? = some call ∧ Initialising call
  ran : ∀ (index : Nat) call, system.calls[index]? = some call → Initialising call → call.ran = true
  fresh : ∀ (index : Nat) call, system.calls[index]? = some call → standOf call.phase = .before ∨ standOf call.phase = .waiting →
    call.ran = false
  written : ∀ author, system.shared.author = some author →
    ∃ call, system.calls[author]? = some call ∧ call.ran = true ∧ standOf call.phase ≠ .working
  stored : system.shared.initState = .initialized → system.shared.author ≠ none
  settled : ∀ (index : Nat) call, system.calls[index]? = some call → standOf call.phase = .settled ∨ standOf call.phase = .updated →
    system.shared.author ≠ none
  waits : ∀ (index : Nat) call, system.calls[index]? = some call → standOf call.phase = .waiting →
    system.shared.initState = .initializing ∨ system.shared.author ≠ none
  saw : ∀ (index : Nat) call, system.calls[index]? = some call → standOf call.phase = .past → call.ran = false →
    ∃ author, call.seen = some author ∧ Completed system author

/-- No call takes the flag back while another one initialises. -/
def met (system : System) : Event → Prop
  | .advance index _ => system.calls[index]?.map Call.phase = some .revived → ∀ call ∈ system.calls, ¬ Initialising call
  | _ => True

instance (system : System) (event : Event) : Decidable (met system event) := by
  cases event with
  | advance => exact inferInstanceAs (Decidable (_ → _))
  | enter => exact inferInstanceAs (Decidable True)
  | remoteDied => exact inferInstanceAs (Decidable True)

section Step
variable {system : System} {index : Nat} {call later : Call} {after : Shared}

theorem Sound.completed (sound : Sound system) (at_ : system.calls[index]? = some call) (move : Move index system.shared after call later)
    {author : Nat} (completed : Completed system author) : Completed ⟨after,system.calls.set index later⟩ author := by
  obtain ⟨found,there,ran,ended⟩ := completed
  by_cases same : author = index
  · subst same
    rw [at_,Option.some.injEq] at there
    subst there
    refine ⟨later,Entries.at_set_self at_,?_⟩
    have fresh := sound.fresh author call at_
    have initial := sound.ran author call at_
    simp only [Updating,Initialising] at ended initial ⊢
    cases move <;> grind
  · exact ⟨found,(Entries.at_set_other same).trans there,ran,ended⟩

theorem Sound.initialising_cases (at_ : system.calls[index]? = some call) (move : Move index system.shared after call later)
    {other : Nat} {found : Call} (there : (system.calls.set index later)[other]? = some found) (initial : Initialising found) :
    (∃ before, system.calls[other]? = some before ∧ Initialising before) ∨
      other = index ∧ system.shared.initState = .notInitialized ∧ after.initState = .initializing := by
  rcases Entries.at_set there with ⟨rfl,rfl⟩ | ⟨-,was⟩
  · simp only [Initialising,Updating] at initial
    cases move with
    | wins old stand ran free initState author => exact .inr ⟨rfl,free,initState⟩
    | stays stand =>
      rw [stand] at initial
      exact .inl ⟨call,at_,initial⟩
    | settles old => exact .inl ⟨call,at_,.inl (.inl old)⟩
    | completes old => exact .inl ⟨call,at_,.inl (.inr old)⟩
    | resets _ _ stand => simp [stand] at initial
    | waits _ stand => simp [stand] at initial
    | finds _ stand => simp [stand] at initial
    | stores _ stand => simp [stand] at initial
    | wakes _ stand => simp [stand] at initial
  · exact .inl ⟨found,was,initial⟩

theorem Sound.free (sound : Sound system) (unset : system.shared.initState ≠ .initializing) {other : Nat} {found : Call}
    (was : system.calls[other]? = some found) : ¬ Initialising found :=
  fun initial => unset (sound.flagged.mpr ⟨other,found,was,initial⟩)

/-- What is stored when nobody initialises is stored by a completed `UpdateProto`. -/
theorem Sound.completed_of_free (sound : Sound system) (unset : system.shared.initState ≠ .initializing)
    (some_ : system.shared.author ≠ none) : ∃ author, system.shared.author = some author ∧ Completed system author := by
  obtain ⟨author,known⟩ := Option.ne_none_iff_exists'.mp some_
  obtain ⟨call,at_,ran,-⟩ := sound.written author known
  exact ⟨author,known,call,at_,ran,fun running => sound.free unset at_ (.inl running)⟩

theorem Move.author (move : Move index system.shared after call later) (some_ : system.shared.author ≠ none) : after.author ≠ none := by
  cases move <;> simp_all

theorem Sound.flagged_after (sound : Sound system) (at_ : system.calls[index]? = some call)
    (move : Move index system.shared after call later) (allowed : call.phase = .revived → ∀ other ∈ system.calls, ¬ Initialising other) :
    after.initState = .initializing ↔
      ∃ (other : Nat) (found : Call), (system.calls.set index later)[other]? = some found ∧ Initialising found := by
  have own : (system.calls.set index later)[index]? = some later := Entries.at_set_self at_
  constructor
  · intro set
    -- the call that held the flag before, should the move have left it alone
    have kept : system.shared.initState = .initializing → (Initialising call → Initialising later) →
        ∃ (other : Nat) (found : Call), (system.calls.set index later)[other]? = some found ∧ Initialising found := by
      intro before same
      obtain ⟨other,found,was,initial⟩ := sound.flagged.mp before
      by_cases moved : other = index
      · subst moved
        rw [at_,Option.some.injEq] at was
        subst was
        exact ⟨other,later,own,same initial⟩
      · exact ⟨other,found,(Entries.at_set_other moved).trans was,initial⟩
    cases move with
    | stays stand _ _ initState =>
      refine kept (initState ▸ set) ?_
      simp only [Initialising,Updating,stand]
      exact id
    | resets _ _ _ _ initState => simp [initState] at set
    | wins _ stand => exact ⟨index,later,own,.inl (.inl stand)⟩
    | waits old _ _ same =>
      refine kept (same ▸ set) ?_
      simp [Initialising,Updating,old]
    | finds _ _ _ same initState =>
      subst same
      simp [initState] at set
    | settles _ stand => exact ⟨index,later,own,.inl (.inr stand)⟩
    | completes _ stand => exact ⟨index,later,own,.inr stand⟩
    | stores _ _ _ initState => exact absurd set initState
    | wakes _ _ _ same initState =>
      subst same
      exact absurd set initState
  · rintro ⟨other,found,there,initial⟩
    rcases Sound.initialising_cases at_ move there initial with ⟨before,was,held⟩ | ⟨-,-,set⟩
    · have set : system.shared.initState = .initializing := sound.flagged.mpr ⟨other,before,was,held⟩
      cases move with
      | stays _ _ _ initState => exact initState.trans set
      | resets phase => exact absurd held (allowed phase before (List.mem_of_getElem? was))
      | wins _ _ _ free => simp [free] at set
      | waits _ _ _ same => exact same ▸ set
      | finds _ _ _ same => exact same ▸ set
      | settles _ _ _ initState => exact initState.trans set
      | completes _ _ _ same => exact same ▸ set
      | stores old stand =>
        -- the call that gives up the flag was the only one to initialise
        have same : other = index := sound.alone other index before call was at_ held (.inr old)
        subst same
        rw [own,Option.some.injEq] at there
        subst there
        simp [Initialising,Updating,stand] at initial
      | wakes _ _ _ same => exact same ▸ set
    · exact set

theorem Sound.waits_after (sound : Sound system) (at_ : system.calls[index]? = some call)
    (move : Move index system.shared after call later) (allowed : call.phase = .revived → ∀ other ∈ system.calls, ¬ Initialising other)
    (before : system.shared.initState = .initializing ∨ system.shared.author ≠ none) :
    after.initState = .initializing ∨ after.author ≠ none := by
  rcases before with set | some_
  · obtain ⟨other,found,was,initial⟩ := sound.flagged.mp set
    cases move with
    | stays _ _ _ initState => exact .inl (initState.trans set)
    | resets phase => exact absurd initial (allowed phase found (List.mem_of_getElem? was))
    | wins _ _ _ free => simp [free] at set
    | waits _ _ _ same => exact .inl (same ▸ set)
    | finds _ _ _ same => exact .inl (same ▸ set)
    | settles _ _ _ _ author => exact .inr (by simp [author])
    | completes _ _ _ same => exact .inl (same ▸ set)
    | stores old _ _ _ author =>
      refine .inr ?_
      rw [author]
      exact sound.settled index call at_ (.inr old)
    | wakes _ _ _ same => exact .inl (same ▸ set)
  · exact .inr (move.author some_)

theorem Sound.step (sound : Sound system) (at_ : system.calls[index]? = some call) (move : Move index system.shared after call later)
    (allowed : call.phase = .revived → ∀ other ∈ system.calls, ¬ Initialising other) : Sound ⟨after,system.calls.set index later⟩ := by
  refine ⟨?_,sound.flagged_after at_ move allowed,?_,?_,?_,?_,?_,?_,?_⟩
  · intro one two first second there there' initial initial'
    rcases Sound.initialising_cases at_ move there initial with ⟨before,was,held⟩ | ⟨same,unset,-⟩
    · rcases Sound.initialising_cases at_ move there' initial' with ⟨before',was',held'⟩ | ⟨-,unset,-⟩
      · exact sound.alone one two before before' was was' held held'
      · exact absurd held (sound.free (by simp [unset]) was)
    · rcases Sound.initialising_cases at_ move there' initial' with ⟨before',was',held'⟩ | ⟨same',-⟩
      · exact absurd held' (sound.free (by simp [unset]) was')
      · rw [same,same']
  · intro other found there initial
    rcases Entries.at_set there with ⟨rfl,rfl⟩ | ⟨-,was⟩
    · have before := sound.ran other call at_
      simp only [Initialising,Updating] at before initial
      cases move <;> grind
    · exact sound.ran other found was initial
  · intro other found there early
    rcases Entries.at_set there with ⟨rfl,rfl⟩ | ⟨-,was⟩
    · have before := sound.fresh other call at_
      cases move <;> grind
    · exact sound.fresh other found was early
  · intro author stored
    have written := sound.written author
    have ran := sound.ran index call at_
    have fresh := sound.fresh index call at_
    simp only [Initialising,Updating] at ran
    by_cases same : author = index
    · subst same
      refine ⟨later,Entries.at_set_self at_,?_⟩
      cases move <;> grind
    · have before : system.shared.author = some author := by
        cases move <;> grind
      obtain ⟨found,was,kept⟩ := written before
      exact ⟨found,(Entries.at_set_other same).trans was,kept⟩
  · intro done
    cases move with
    | stays _ _ _ initState author => exact author ▸ sound.stored (initState ▸ done)
    | resets _ _ _ _ initState => simp [initState] at done
    | wins _ _ _ _ initState => simp [initState] at done
    | waits _ _ _ same => exact same ▸ sound.stored (same ▸ done)
    | finds _ _ _ same => exact same ▸ sound.stored (same ▸ done)
    | settles _ _ _ _ author => simp [author]
    | completes _ _ _ same => exact same ▸ sound.stored (same ▸ done)
    | stores old _ _ _ author => exact author ▸ sound.settled index call at_ (.inr old)
    | wakes _ _ _ same => exact same ▸ sound.stored (same ▸ done)
  · intro other found there late
    rcases Entries.at_set there with ⟨rfl,rfl⟩ | ⟨-,was⟩
    · have before := sound.settled other call at_
      cases move <;> grind
    · exact move.author (sound.settled other found was late)
  · intro other found there waiting
    rcases Entries.at_set there with ⟨rfl,rfl⟩ | ⟨-,was⟩
    · have before := sound.waits other call at_
      cases move <;> grind
    · exact sound.waits_after at_ move allowed (sound.waits other found was waiting)
  · intro other found there past unrun
    have seen : ∃ author, found.seen = some author ∧ Completed system author := by
      rcases Entries.at_set there with ⟨rfl,rfl⟩ | ⟨-,was⟩
      · cases move with
        | stays stand ran seen =>
          rw [seen]
          exact sound.saw other call at_ (stand ▸ past) (ran ▸ unrun)
        | finds _ _ seen _ initState =>
          rw [seen]
          exact sound.completed_of_free (by simp [initState]) (sound.stored initState)
        | wakes old _ seen _ initState =>
          rw [seen]
          exact sound.completed_of_free initState ((sound.waits other call at_ old).resolve_left initState)
        | stores old _ ran =>
          rw [ran,sound.ran other call at_ (.inr old)] at unrun
          cases unrun
        | resets _ _ stand => simp [stand] at past
        | wins _ stand => simp [stand] at past
        | waits _ stand => simp [stand] at past
        | settles _ stand => simp [stand] at past
        | completes _ stand => simp [stand] at past
      · exact sound.saw other found was past unrun
    obtain ⟨author,known,completed⟩ := seen
    exact ⟨author,known,sound.completed at_ move completed⟩

theorem Sound.enter (sound : Sound system) : Sound {system with calls := system.calls ++ [⟨.entered,false,none⟩]} := by
  have old : ∀ {other : Nat} {found : Call}, (system.calls ++ [⟨.entered,false,none⟩])[other]? = some found →
      system.calls[other]? = some found ∨ found = ⟨.entered,false,none⟩ := Entries.at_concat
  have keeps : ∀ {other : Nat} {found : Call}, system.calls[other]? = some found →
      (system.calls ++ [⟨.entered,false,none⟩])[other]? = some found := by
    intro other found was
    rw [List.getElem?_append_left (List.getElem?_eq_some_iff.mp was).1]
    exact was
  -- who initialises has been here before
  have busy : ∀ {other : Nat} {found : Call}, (system.calls ++ [⟨.entered,false,none⟩])[other]? = some found → Initialising found →
      system.calls[other]? = some found := by
    intro other found there initial
    rcases old there with was | rfl
    · exact was
    · simp [Initialising,Updating,standOf] at initial
  refine ⟨?_,?_,?_,?_,?_,sound.stored,?_,?_,?_⟩
  · intro one two first second there there' initial initial'
    exact sound.alone one two first second (busy there initial) (busy there' initial') initial initial'
  · refine sound.flagged.trans ⟨?_,?_⟩
    · rintro ⟨other,found,was,initial⟩
      exact ⟨other,found,keeps was,initial⟩
    · rintro ⟨other,found,there,initial⟩
      exact ⟨other,found,busy there initial,initial⟩
  · intro other found there initial
    exact sound.ran other found (busy there initial) initial
  · intro other found there early
    rcases old there with was | rfl
    · exact sound.fresh other found was early
    · rfl
  · intro author stored
    obtain ⟨found,was,kept⟩ := sound.written author stored
    exact ⟨found,keeps was,kept⟩
  · intro other found there late
    refine sound.settled other found (busy there ?_) late
    exact late.elim (fun settled => .inl (.inr settled)) .inr
  · intro other found there waiting
    rcases old there with was | rfl
    · exact sound.waits other found was waiting
    · cases waiting
  · intro other found there past unrun
    rcases old there with was | rfl
    · obtain ⟨author,known,call,at_,completed⟩ := sound.saw other found was past unrun
      exact ⟨author,known,call,keeps at_,completed⟩
    · cases past

theorem step_sound {next : System} {event : Event} (sound : Sound system) (allowed : met system event)
    (taken : fires System.step system event next) : Sound next := by
  cases event with
  | enter =>
    cases taken
    exact sound.enter
  | advance index choice =>
    simp only [fires,System.step,Option.bind_eq_bind,Option.bind_eq_some_iff,Option.pure_def,Option.some.injEq] at taken
    obtain ⟨call,at_,⟨after,later⟩,advanced,rfl⟩ := taken
    refine sound.step at_ (advance_move advanced) ?_
    intro phase
    exact allowed (by rw [at_,Option.map_some,phase])
  | remoteDied =>
    cases taken
    exact ⟨sound.alone,sound.flagged,sound.ran,sound.fresh,sound.written,sound.stored,sound.settled,sound.waits,sound.saw⟩

end Step

theorem sound_new : Sound System.new := by
  have none_ : ∀ (index : Nat) call, System.new.calls[index]? = some call → False := by
    intro index call at_
    cases at_
  refine ⟨?_,?_,?_,?_,?_,?_,?_,?_,?_⟩
  · exact fun one _ first _ at_ => (none_ one first at_).elim
  · refine iff_of_false (by simp [System.new]) ?_
    rintro ⟨index,call,at_,-⟩
    exact none_ index call at_
  · exact fun index call at_ => (none_ index call at_).elim
  · exact fun index call at_ => (none_ index call at_).elim
  · intro author stored
    cases stored
  · intro done
    cases done
  · exact fun index call at_ => (none_ index call at_).elim
  · exact fun index call at_ => (none_ index call at_).elim
  · exact fun index call at_ => (none_ index call at_).elim

/-- One call initialises, one waits for it; the remote dies, and a third one initialises again. -/
def revived : List Event :=
  let on (call : Nat) (success : Bool) : Event := .advance call ⟨true,success⟩
  [.enter,.enter,on 0 true,on 0 true,on 1 true,on 1 true,on 0 true,on 1 true,on 0 true,on 0 true,on 0 true,on 1 true,on 1 true,on 1 true,
    .remoteDied,.enter,on 2 true,on 2 true,on 2 true,on 2 true,on 2 false,on 2 true]

end CommunicationIpc.ProxyInit
