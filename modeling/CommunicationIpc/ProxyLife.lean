import CommunicationIpc.Kernel.ProxyLife
import CommunicationIpc.Library.Entries
import CommunicationIpc.Library.Run
import CommunicationIpc.Numerals

/-! Proxies found, shared and let go of by any number of calls: what the strong counts are made of, what the table names, and the
references taken from the driver. -/
namespace CommunicationIpc.ProxyLife
open CommunicationIpc.Library CommunicationIpc.Kernel.ProxyLife CommunicationIpc.Numerals

theorem makeHandleDescriptor_injective {left right : Int32} (same : makeHandleDescriptor left = makeHandleDescriptor right) :
    left = right :=
  toString32_injective (List.append_cancel_left same)

/-- The strong references to a proxy that a call has. -/
def refs (index : Nat) : Call → Nat
  | .attaching proxy => if proxy = index then 1 else 0
  | .unlocking (some proxy) => if proxy = index then 1 else 0
  | .initialising proxy => if proxy = index then 2 else 0
  | .failed proxy => if proxy = index then 2 else 0
  | .detaching proxy => if proxy = index then 2 else 0
  | .dropping proxy => if proxy = index then 2 else 0
  | _ => 0

def hasMutex : Call → Bool
  | .querying _ => true
  | .found _ _ => true
  | .attempting _ _ => true
  | .missing _ => true
  | .attaching _ => true
  | .unlocking _ => true
  | _ => false

/-- A step of a call that changes its place only. -/
inductive Turn (state : State) : Call → Call → Prop
  | absent {handle : Int32} : state.objects (makeHandleDescriptor handle) = none → Turn state (.querying handle) (.missing handle)
  | present {handle : Int32} {index : Nat} : state.objects (makeHandleDescriptor handle) = some index →
      Turn state (.querying handle) (.found handle index)
  | invalid {handle : Int32} {index : Nat} {proxy : Proxy} : state.proxies[index]? = some proxy → proxy.stage = .destroyed →
      Turn state (.found handle index) (.missing handle)
  | valid {handle : Int32} {index : Nat} : Turn state (.found handle index) (.attempting handle index)
  | late {handle : Int32} {index : Nat} {proxy : Proxy} : state.proxies[index]? = some proxy → proxy.strong = 0 →
      Turn state (.attempting handle index) (.missing handle)
  | unanswered {handle : Int32} : Turn state (.missing handle) (.unlocking none)
  | fails {index : Nat} : Turn state (.initialising index) (.failed index)
  | alone {index : Nat} : Turn state (.failed index) (.detaching index)
  | shared {index : Nat} {proxy : Proxy} : state.proxies[index]? = some proxy → detachProxyRefCount < proxy.strong →
      Turn state (.failed index) (.dropping index)
  | unseen {handle : Int32} : Turn state (.looking handle) (.returned none)
  | seen {handle : Int32} {index : Nat} : state.objectMutex = none → state.objects (makeHandleDescriptor handle) = some index →
      Turn state (.looking handle) (.looked index)
  | gone {index : Nat} : Turn state (.looked index) (.returned none)
  | checked {index : Nat} : Turn state (.looked index) (.checked index)
  | lost {index : Nat} : Turn state (.checked index) (.returned none)

/-- Everything that a step can do. -/
inductive Step (state : State) : Event → State → Prop
  | opened (handle : Int32) (free : state.objectMutex = none) : Step state (.findOrNewObject handle)
      { state with calls := state.calls ++ [.querying handle], objectMutex := some state.calls.length }
  | queried (handle : Int32) : Step state (.queryObject handle) { state with calls := state.calls ++ [.looking handle] }
  | turned {call : Nat} {old place : Call} (choice : Bool) (at_ : state.calls[call]? = some old) (turn : Turn state old place) :
      Step state (.call call choice) (state.moveCall call place)
  | ended {call : Nat} (choice : Bool) (at_ : state.calls[call]? = some (.unlocking none)) :
      Step state (.call call choice) ({ state with objectMutex := none }.moveCall call (.returned none))
  | attempted {call index : Nat} {handle : Int32} {proxy : Proxy} (choice : Bool)
      (at_ : state.calls[call]? = some (.attempting handle index)) (there : state.proxies[index]? = some proxy)
      (positive : 0 < proxy.strong) :
      Step state (.call call choice) ((state.put index proxy.incStrong).moveCall call (.unlocking (some index)))
  | made {call : Nat} {handle : Int32} (choice : Bool) (at_ : state.calls[call]? = some (.missing handle)) :
      Step state (.call call choice) { state with
        proxies := state.proxies ++ [⟨handle,1,0,.referenced⟩]
        acquired := Function.update state.acquired handle (state.acquired handle+1)
        calls := state.calls.set call (.attaching state.proxies.length) }
  | attached {call index : Nat} {proxy : Proxy} (choice : Bool) (at_ : state.calls[call]? = some (.attaching index))
      (there : state.proxies[index]? = some proxy) :
      Step state (.call call choice)
        ({ state with objects := Function.update state.objects (makeHandleDescriptor proxy.handle) (some index) }.moveCall call
          (.unlocking (some index)))
  | unlocked {call index : Nat} {proxy : Proxy} (choice : Bool) (at_ : state.calls[call]? = some (.unlocking (some index)))
      (there : state.proxies[index]? = some proxy) :
      Step state (.call call choice)
        (({ state with objectMutex := none }.put index proxy.incStrong).moveCall call (.initialising index))
  | initialised {call index : Nat} {proxy : Proxy} (choice : Bool) (at_ : state.calls[call]? = some (.initialising index))
      (there : state.proxies[index]? = some proxy) :
      Step state (.call call choice)
        ((state.put index { proxy with held := proxy.held+1 }.decStrong).moveCall call (.returned (some index)))
  | detached {call index : Nat} {proxy : Proxy} (choice : Bool) (at_ : state.calls[call]? = some (.detaching index))
      (there : state.proxies[index]? = some proxy) (free : state.objectMutex = none) :
      Step state (.call call choice) ((state.detachObject index proxy).moveCall call (.dropping index))
  | dropped {call index : Nat} {proxy : Proxy} (choice : Bool) (at_ : state.calls[call]? = some (.dropping index))
      (there : state.proxies[index]? = some proxy) :
      Step state (.call call choice) ((state.put index proxy.decStrong.decStrong).moveCall call (.returned none))
  | recovered {call index : Nat} {proxy : Proxy} (choice : Bool) (at_ : state.calls[call]? = some (.checked index))
      (there : state.proxies[index]? = some proxy) (positive : 0 < proxy.strong) :
      Step state (.call call choice)
        ((state.put index { proxy.incStrong with held := proxy.held+1 }).moveCall call (.returned (some index)))
  | copied {index : Nat} {proxy : Proxy} (there : state.proxies[index]? = some proxy) (held : 0 < proxy.held) :
      Step state (.copy index) (state.put index { proxy.incStrong with held := proxy.held+1 })
  | gave {index : Nat} {proxy : Proxy} (there : state.proxies[index]? = some proxy) (held : 0 < proxy.held) :
      Step state (.drop index) (state.put index { proxy.decStrong with held := proxy.held-1 })
  | reset {index : Nat} {proxy : Proxy} (there : state.proxies[index]? = some proxy) (stage : proxy.stage = .releasing)
      (invalid : proxy.handle = invalidHandleValue) :
      Step state (.onLastStrongRef index) (state.put index { proxy with stage := .detaching })
  | released {index : Nat} {proxy : Proxy} (there : state.proxies[index]? = some proxy) (stage : proxy.stage = .releasing)
      (valid : proxy.handle ≠ invalidHandleValue) :
      Step state (.onLastStrongRef index) { state.put index { proxy with stage := .detaching } with
        released := Function.update state.released proxy.handle (state.released proxy.handle+1) }
  | forgotten {index : Nat} {proxy : Proxy} (there : state.proxies[index]? = some proxy) (stage : proxy.stage = .detaching)
      (free : state.objectMutex = none) :
      Step state (.onLastStrongRef index) ((state.detachObject index proxy).put index { proxy with stage := .detached })
  | destroyed {index : Nat} {proxy : Proxy} (there : state.proxies[index]? = some proxy) (stage : proxy.stage = .detached) :
      Step state (.destroy index) (state.put index { proxy with stage := .destroyed })

section Step
variable {state next : State} {event : Event}

theorem stepCall_cases {call : Nat} {choice : Bool} (taken : state.stepCall call choice = some next) :
    Step state (.call call choice) next := by
  unfold State.stepCall at taken
  cases at_ : state.calls[call]? with
  | none =>
    rw [at_] at taken
    cases taken
  | some old =>
    rw [at_] at taken
    cases old with
    | querying handle =>
      dsimp only at taken
      split at taken <;> cases taken
      · exact .turned choice at_ (.absent ‹_›)
      · exact .turned choice at_ (.present ‹_›)
    | found handle index =>
      dsimp only at taken
      split at taken
      · cases taken
      · rename_i proxy there
        cases taken
        by_cases gone : proxy.stage = .destroyed
        · simpa [Proxy.isValidObject,gone] using Step.turned choice at_ (.invalid there gone)
        · simpa [Proxy.isValidObject,gone] using Step.turned choice at_ .valid
    | attempting handle index =>
      dsimp only at taken
      split at taken
      · cases taken
      · rename_i proxy there
        split at taken
        · cases taken
        · split at taken <;> cases taken
          · exact .turned choice at_ (.late there ‹_›)
          · exact .attempted choice at_ there (by omega)
    | missing handle =>
      dsimp only at taken
      split at taken <;> cases taken
      · exact .made choice at_
      · exact .turned choice at_ .unanswered
    | attaching index =>
      dsimp only at taken
      split at taken <;> cases taken
      exact .attached choice at_ ‹_›
    | unlocking result =>
      cases result with
      | none =>
        cases taken
        exact .ended choice at_
      | some index =>
        dsimp only at taken
        split at taken <;> cases taken
        exact .unlocked choice at_ ‹_›
    | initialising index =>
      dsimp only at taken
      split at taken
      · cases taken
      · split at taken <;> cases taken
        · exact .initialised choice at_ ‹_›
        · exact .turned choice at_ .fails
    | failed index =>
      dsimp only at taken
      split at taken
      · cases taken
      · rename_i proxy there
        cases taken
        by_cases few : proxy.strong ≤ detachProxyRefCount
        · rw [if_pos few]
          exact .turned choice at_ .alone
        · rw [if_neg few]
          exact .turned choice at_ (.shared there (by omega))
    | detaching index =>
      dsimp only at taken
      split at taken
      · cases taken
        exact .detached choice at_ ‹_› ‹_›
      · cases taken
    | dropping index =>
      dsimp only at taken
      split at taken <;> cases taken
      exact .dropped choice at_ ‹_›
    | looking handle =>
      dsimp only at taken
      split at taken <;> cases taken
      · exact .turned choice at_ .unseen
      · exact .turned choice at_ (.seen ‹_› ‹_›)
    | looked index =>
      dsimp only at taken
      split at taken
      · cases taken
      · cases taken
        split
        · exact .turned choice at_ .checked
        · exact .turned choice at_ .gone
    | checked index =>
      dsimp only at taken
      split at taken
      · cases taken
      · split at taken
        · cases taken
        · split at taken <;> cases taken
          · exact .turned choice at_ .lost
          · exact .recovered choice at_ ‹_› (by omega)
    | returned result => cases taken

theorem step_cases (taken : state.step event = some next) : Step state event next := by
  cases event with
  | findOrNewObject handle =>
    simp only [State.step] at taken
    split at taken <;> cases taken
    exact .opened handle ‹_›
  | queryObject handle =>
    cases taken
    exact .queried handle
  | call call choice => exact stepCall_cases taken
  | copy index =>
    simp only [State.step] at taken
    split at taken
    · cases taken
    · split at taken <;> cases taken
      exact .copied ‹_› ‹_›
  | drop index =>
    simp only [State.step] at taken
    split at taken
    · cases taken
    · split at taken <;> cases taken
      exact .gave ‹_› ‹_›
  | onLastStrongRef index =>
    simp only [State.step,State.onLastStrongRef] at taken
    split at taken
    · cases taken
    · split at taken
      · split at taken <;> cases taken
        · exact .reset ‹_› ‹_› ‹_›
        · exact .released ‹_› ‹_› ‹_›
      · split at taken <;> cases taken
        exact .forgotten ‹_› ‹_› ‹_›
      · cases taken
  | destroy index =>
    simp only [State.step] at taken
    split at taken
    · cases taken
    · split at taken <;> cases taken
      rename_i there both
      exact .destroyed there both.1

end Step

section Counted

def strongAt (proxies : List Proxy) (index : Nat) : Nat := (proxies[index]?.map Proxy.strong).getD 0

def heldAt (proxies : List Proxy) (index : Nat) : Nat := (proxies[index]?.map Proxy.held).getD 0

def refsOf (calls : List Call) (index : Nat) : Nat := (calls.map (refs index)).sum

/-- The strong count of a proxy is what callers hold and what the calls under way have. -/
def Counted (proxies : List Proxy) (calls : List Call) : Prop :=
  ∀ index, strongAt proxies index = heldAt proxies index+refsOf calls index

variable {proxies : List Proxy} {calls : List Call} {index call : Nat} {proxy later : Proxy} {old place : Call}

theorem strongAt_of (there : proxies[index]? = some proxy) : strongAt proxies index = proxy.strong := by simp [strongAt,there]

theorem heldAt_of (there : proxies[index]? = some proxy) : heldAt proxies index = proxy.held := by simp [heldAt,there]

theorem refsOf_set (at_ : calls[call]? = some old) (place : Call) (index : Nat) :
    refsOf (calls.set call place) index+refs index old = refsOf calls index+refs index place :=
  Entries.sum_set (refs index) at_

theorem Counted.of_refs (counted : Counted proxies calls) {others : List Call} (same : ∀ index, refsOf others index = refsOf calls index) :
    Counted proxies others := by
  intro index
  rw [same]
  exact counted index

theorem Counted.concat (counted : Counted proxies calls) (none_ : ∀ index, refs index place = 0) : Counted proxies (calls ++ [place]) :=
  counted.of_refs fun index => by simp [refsOf,none_ index]

theorem Counted.turn (counted : Counted proxies calls) (at_ : calls[call]? = some old)
    (same : ∀ index, refs index place = refs index old) : Counted proxies (calls.set call place) := by
  refine counted.of_refs fun index => ?_
  have moved := refsOf_set at_ place index
  rw [same] at moved
  omega

/-- A proxy changes with the calls: what is counted for it changes by as much, and nothing for the others. -/
theorem Counted.put (counted : Counted proxies calls) (there : proxies[index]? = some proxy) {others : List Call}
    (apart : ∀ other, other ≠ index → refsOf others other = refsOf calls other)
    (own : later.strong+proxy.held+refsOf calls index = proxy.strong+later.held+refsOf others index) :
    Counted (proxies.set index later) others := by
  intro other
  by_cases same : other = index
  · subst same
    have set := @Entries.at_set_self _ _ _ _ later there
    have before := counted other
    rw [strongAt_of there,heldAt_of there] at before
    rw [strongAt_of set,heldAt_of set]
    omega
  · have before := counted other
    simp only [strongAt,heldAt,Entries.at_set_other same] at before ⊢
    rw [apart other same]
    exact before

/-- A call that changes its place changes a proxy too. -/
theorem Counted.putTurn (counted : Counted proxies calls) (there : proxies[index]? = some proxy) (at_ : calls[call]? = some old)
    (apart : ∀ other, other ≠ index → refs other place = refs other old)
    (own : later.strong+proxy.held+refs index old = proxy.strong+later.held+refs index place) :
    Counted (proxies.set index later) (calls.set call place) := by
  refine counted.put there ?_ ?_
  · intro other different
    have moved := refsOf_set at_ place other
    rw [apart other different] at moved
    omega
  · have moved := refsOf_set at_ place index
    omega

theorem Counted.refs_le (counted : Counted proxies calls) (there : proxies[index]? = some proxy) (at_ : calls[call]? = some old) :
    proxy.held+refs index old ≤ proxy.strong := by
  have moved := refsOf_set at_ (.returned none) index
  have before := counted index
  have none_ : refs index (.returned none) = 0 := rfl
  rw [strongAt_of there,heldAt_of there] at before
  omega

theorem Counted.held_le (counted : Counted proxies calls) (there : proxies[index]? = some proxy) : proxy.held ≤ proxy.strong := by
  have before := counted index
  rw [strongAt_of there,heldAt_of there] at before
  omega

/-- A proxy at a new address has one reference, which the call has that made it. -/
theorem Counted.made (counted : Counted proxies calls) (handle : Int32) (at_ : calls[call]? = some (.missing handle)) :
    Counted (proxies ++ [⟨handle,1,0,.referenced⟩]) (calls.set call (.attaching proxies.length)) := by
  intro other
  have before := counted other
  have moved := refsOf_set at_ (.attaching proxies.length) other
  rcases Nat.lt_trichotomy other proxies.length with inside | rfl | outside
  · have apart : proxies.length ≠ other := by omega
    simp only [strongAt,heldAt,List.getElem?_append_left inside,refs,if_neg apart] at before moved ⊢
    omega
  · simp [strongAt,heldAt,refs] at before moved ⊢
    omega
  · have apart : proxies.length ≠ other := by omega
    have beyond : ∀ item : Proxy, (proxies ++ [item])[other]? = none := fun item => List.getElem?_eq_none (by simp; omega)
    have nothing : proxies[other]? = none := List.getElem?_eq_none (by omega)
    simp only [strongAt,heldAt,beyond,nothing,refs,if_neg apart] at before moved ⊢
    simp at before ⊢
    omega

end Counted

section Sound
variable {state next : State} {event : Event} {old place : Call}

theorem Turn.refs (turn : Turn state old place) (index : Nat) : ProxyLife.refs index place = ProxyLife.refs index old := by
  cases turn <;> rfl

theorem Turn.hasMutex (turn : Turn state old place) : ProxyLife.hasMutex place = ProxyLife.hasMutex old := by
  cases turn <;> rfl

@[simp] theorem moveCall_proxies (call : Nat) (place : Call) : (state.moveCall call place).proxies = state.proxies := rfl
@[simp] theorem moveCall_calls (call : Nat) (place : Call) : (state.moveCall call place).calls = state.calls.set call place := rfl
@[simp] theorem moveCall_objects (call : Nat) (place : Call) : (state.moveCall call place).objects = state.objects := rfl
@[simp] theorem moveCall_objectMutex (call : Nat) (place : Call) : (state.moveCall call place).objectMutex = state.objectMutex := rfl
@[simp] theorem put_proxies (index : Nat) (proxy : Proxy) : (state.put index proxy).proxies = state.proxies.set index proxy := rfl
@[simp] theorem put_calls (index : Nat) (proxy : Proxy) : (state.put index proxy).calls = state.calls := rfl
@[simp] theorem put_objects (index : Nat) (proxy : Proxy) : (state.put index proxy).objects = state.objects := rfl
@[simp] theorem put_objectMutex (index : Nat) (proxy : Proxy) : (state.put index proxy).objectMutex = state.objectMutex := rfl

theorem detachObject_eq (index : Nat) (proxy : Proxy) :
    state.detachObject index proxy = { state with objects := (state.detachObject index proxy).objects } := by
  simp only [State.detachObject]
  split <;> rfl

@[simp] theorem detachObject_proxies (index : Nat) (proxy : Proxy) : (state.detachObject index proxy).proxies = state.proxies := by
  rw [detachObject_eq]

@[simp] theorem detachObject_calls (index : Nat) (proxy : Proxy) : (state.detachObject index proxy).calls = state.calls := by
  rw [detachObject_eq]

@[simp] theorem detachObject_objectMutex (index : Nat) (proxy : Proxy) :
    (state.detachObject index proxy).objectMutex = state.objectMutex := by
  rw [detachObject_eq]

theorem detachObject_objects {index : Nat} {proxy : Proxy} {descriptor : List UInt8} {other : Nat} :
    (state.detachObject index proxy).objects descriptor = some other ↔
      state.objects descriptor = some other ∧ (descriptor = makeHandleDescriptor proxy.handle → other ≠ index) := by
  simp only [State.detachObject]
  split
  · rename_i named
    by_cases same : descriptor = makeHandleDescriptor proxy.handle
    · subst same
      simp [named]
      rintro rfl
      rfl
    · simp [same]
  · rename_i named
    refine ⟨fun there => ⟨there,?_⟩,And.left⟩
    rintro rfl rfl
    exact named there

theorem step_counted (counted : Counted state.proxies state.calls) (step : Step state event next) : Counted next.proxies next.calls := by
  cases step with
  | opened handle free => exact counted.concat fun _ => rfl
  | queried handle => exact counted.concat fun _ => rfl
  | turned choice at_ turn => exact counted.turn at_ turn.refs
  | ended choice at_ => exact counted.turn at_ fun _ => rfl
  | attempted choice at_ there positive =>
    refine counted.putTurn there at_ ?_ ?_
    · intro other different
      simp [refs,different.symm]
    · simp [refs,Proxy.incStrong]
      omega
  | made choice at_ => exact counted.made _ at_
  | attached choice at_ there => exact counted.turn at_ fun _ => rfl
  | unlocked choice at_ there =>
    refine counted.putTurn there at_ ?_ ?_
    · intro other different
      simp [refs,different.symm]
    · simp [refs,Proxy.incStrong]
      omega
  | initialised choice at_ there =>
    have few := counted.refs_le there at_
    refine counted.putTurn there at_ ?_ ?_
    · intro other different
      simp [refs,different.symm]
    · simp [refs,Proxy.decStrong] at few ⊢
      omega
  | detached choice at_ there free =>
    simp only [moveCall_proxies,moveCall_calls,detachObject_proxies,detachObject_calls]
    exact counted.turn at_ fun _ => rfl
  | dropped choice at_ there =>
    have few := counted.refs_le there at_
    refine counted.putTurn there at_ ?_ ?_
    · intro other different
      simp [refs,different.symm]
    · simp [refs,Proxy.decStrong] at few ⊢
      omega
  | recovered choice at_ there positive =>
    refine counted.putTurn there at_ ?_ ?_
    · intro other different
      rfl
    · simp [refs,Proxy.incStrong]
      omega
  | copied there held =>
    refine counted.put there (fun _ _ => rfl) ?_
    simp [Proxy.incStrong]
    omega
  | gave there held =>
    have few := counted.held_le there
    refine counted.put there (fun _ _ => rfl) ?_
    simp [Proxy.decStrong]
    omega
  | reset there stage invalid => exact counted.put there (fun _ _ => rfl) rfl
  | released there stage valid => exact counted.put there (fun _ _ => rfl) rfl
  | forgotten there stage free =>
    simp only [put_proxies,put_calls,detachObject_proxies,detachObject_calls]
    exact counted.put there (fun _ _ => rfl) rfl
  | destroyed there stage => exact counted.put there (fun _ _ => rfl) rfl

/-- The last strong reference, and nothing else, starts the end of a proxy. -/
def Staged (proxies : List Proxy) : Prop :=
  ∀ (index : Nat) (proxy : Proxy), proxies[index]? = some proxy → (proxy.stage = .referenced ↔ 0 < proxy.strong)

theorem Staged.put {proxies : List Proxy} (staged : Staged proxies) {index : Nat} {later : Proxy}
    (own : later.stage = .referenced ↔ 0 < later.strong) : Staged (proxies.set index later) := by
  intro other proxy there
  rcases Entries.at_set there with ⟨_,rfl⟩ | ⟨_,before⟩
  · exact own
  · exact staged other proxy before

theorem decStrong_staged {proxy : Proxy} (own : proxy.stage = .referenced ↔ 0 < proxy.strong) (positive : 0 < proxy.strong) :
    proxy.decStrong.stage = .referenced ↔ 0 < proxy.decStrong.strong := by
  have stage := own.mpr positive
  by_cases last : proxy.strong-1 = 0
  · simp [Proxy.decStrong,last]
  · simp [Proxy.decStrong,last,stage]
    omega

theorem step_staged (counted : Counted state.proxies state.calls) (staged : Staged state.proxies) (step : Step state event next) :
    Staged next.proxies := by
  cases step with
  | opened handle free => exact staged
  | queried handle => exact staged
  | turned choice at_ turn => exact staged
  | ended choice at_ => exact staged
  | attempted choice at_ there positive =>
    have stage := (staged _ _ there).mpr positive
    exact staged.put ⟨fun _ => Nat.succ_pos _,fun _ => stage⟩
  | made choice at_ =>
    intro other proxy there
    rcases Entries.at_concat there with before | rfl
    · exact staged other proxy before
    · simp
  | attached choice at_ there => exact staged
  | unlocked choice at_ there =>
    have few := counted.refs_le there at_
    simp only [refs,if_true] at few
    have stage := (staged _ _ there).mpr (by omega)
    exact staged.put ⟨fun _ => Nat.succ_pos _,fun _ => stage⟩
  | initialised choice at_ there =>
    have few := counted.refs_le there at_
    simp only [refs,if_true] at few
    have own := staged _ _ there
    exact staged.put (decStrong_staged (by simpa using own) (by dsimp only; omega))
  | detached choice at_ there free =>
    simp only [moveCall_proxies,detachObject_proxies]
    exact staged
  | dropped choice at_ there =>
    have few := counted.refs_le there at_
    simp only [refs,if_true] at few
    refine staged.put (decStrong_staged (decStrong_staged (staged _ _ there) (by omega)) ?_)
    simp only [Proxy.decStrong]
    omega
  | recovered choice at_ there positive =>
    have stage := (staged _ _ there).mpr positive
    exact staged.put ⟨fun _ => Nat.succ_pos _,fun _ => stage⟩
  | copied there held =>
    have few := counted.held_le there
    have stage := (staged _ _ there).mpr (by omega)
    exact staged.put ⟨fun _ => Nat.succ_pos _,fun _ => stage⟩
  | gave there held =>
    have few := counted.held_le there
    exact staged.put (decStrong_staged (staged _ _ there) (by omega))
  | reset there stage invalid =>
    have own := staged _ _ there
    rw [stage] at own
    exact staged.put (by simpa using own)
  | released there stage valid =>
    have own := staged _ _ there
    rw [stage] at own
    exact staged.put (by simpa using own)
  | forgotten there stage free =>
    have own := staged _ _ there
    rw [stage] at own
    simp only [put_proxies,detachObject_proxies]
    exact staged.put (by simpa using own)
  | destroyed there stage =>
    have own := staged _ _ there
    rw [stage] at own
    exact staged.put (by simpa using own)

/-- The mutex belongs to the one call that is between its lock and its unlock. -/
def Locked (objectMutex : Option Nat) (calls : List Call) : Prop :=
  ∀ call, objectMutex = some call ↔ ∃ place, calls[call]? = some place ∧ hasMutex place = true

theorem Locked.turn {objectMutex : Option Nat} {calls : List Call} (locked : Locked objectMutex calls) {call : Nat}
    (at_ : calls[call]? = some old) (same : hasMutex place = hasMutex old) : Locked objectMutex (calls.set call place) := by
  intro other
  rw [locked other]
  by_cases own : other = call
  · subst own
    simp [at_,Entries.at_set_self at_,same]
  · rw [Entries.at_set_other own]

theorem Locked.free {calls : List Call} (locked : Locked none calls) {call : Nat} (at_ : calls[call]? = some old) :
    hasMutex old = false := by
  by_contra has
  exact nomatch (locked call).mpr ⟨old,at_,by simpa using has⟩

theorem Locked.unlock {objectMutex : Option Nat} {calls : List Call} (locked : Locked objectMutex calls) {call : Nat}
    (at_ : calls[call]? = some old) (has : hasMutex old = true) (gives : hasMutex place = false) :
    Locked none (calls.set call place) := by
  have mine := (locked call).mpr ⟨old,at_,has⟩
  intro other
  constructor
  · nofun
  · rintro ⟨found,there,busy⟩
    rcases Entries.at_set there with ⟨_,rfl⟩ | ⟨apart,before⟩
    · simp [gives] at busy
    · have theirs := (locked other).mpr ⟨found,before,busy⟩
      rw [mine] at theirs
      exact absurd (Option.some.inj theirs).symm apart

theorem step_locked (locked : Locked state.objectMutex state.calls) (step : Step state event next) :
    Locked next.objectMutex next.calls := by
  cases step with
  | opened handle free =>
    rw [free] at locked
    intro other
    constructor
    · intro own
      cases own
      exact ⟨.querying handle,by simp,rfl⟩
    · rintro ⟨place,there,busy⟩
      by_cases inside : other < state.calls.length
      · rw [List.getElem?_append_left inside] at there
        simp [locked.free there] at busy
      · have bound := (List.getElem?_eq_some_iff.mp there).1
        simp only [List.length_append,List.length_cons,List.length_nil] at bound
        exact congrArg some (by omega)
  | queried handle =>
    intro other
    rw [locked other]
    constructor
    · rintro ⟨place,there,busy⟩
      exact ⟨place,by rw [List.getElem?_append_left (List.getElem?_eq_some_iff.mp there).1]; exact there,busy⟩
    · rintro ⟨place,there,busy⟩
      rcases Entries.at_concat there with before | rfl
      · exact ⟨place,before,busy⟩
      · cases busy
  | turned choice at_ turn => exact locked.turn at_ turn.hasMutex
  | ended choice at_ => exact locked.unlock at_ rfl rfl
  | attempted choice at_ there positive => exact locked.turn at_ rfl
  | made choice at_ => exact locked.turn at_ rfl
  | attached choice at_ there => exact locked.turn at_ rfl
  | unlocked choice at_ there => exact locked.unlock at_ rfl rfl
  | initialised choice at_ there => exact locked.turn at_ rfl
  | detached choice at_ there free =>
    simp only [moveCall_objectMutex,moveCall_calls,detachObject_objectMutex,detachObject_calls]
    exact locked.turn at_ rfl
  | dropped choice at_ there => exact locked.turn at_ rfl
  | recovered choice at_ there positive => exact locked.turn at_ rfl
  | copied there held => exact locked
  | gave there held => exact locked
  | reset there stage invalid => exact locked
  | released there stage valid => exact locked
  | forgotten there stage free =>
    simp only [put_objectMutex,put_calls,detachObject_objectMutex,detachObject_calls]
    exact locked
  | destroyed there stage => exact locked

def inTable : Stage → Bool
  | .referenced => true
  | .releasing => true
  | .detaching => true
  | _ => false

/-- The table names proxies that have not been through `DetachObject`, under their own descriptors. -/
def Tabled (objects : List UInt8 → Option Nat) (proxies : List Proxy) : Prop :=
  ∀ descriptor index, objects descriptor = some index →
    ∃ proxy, proxies[index]? = some proxy ∧ descriptor = makeHandleDescriptor proxy.handle ∧ inTable proxy.stage = true

section Tabled
variable {objects : List UInt8 → Option Nat} {proxies : List Proxy} {index : Nat} {proxy later : Proxy}

theorem Tabled.put (tabled : Tabled objects proxies) (there : proxies[index]? = some proxy) (handle : later.handle = proxy.handle)
    (kept : ∀ descriptor, objects descriptor = some index → inTable proxy.stage = true → inTable later.stage = true) :
    Tabled objects (proxies.set index later) := by
  intro descriptor other named
  obtain ⟨found,at_,own,live⟩ := tabled descriptor other named
  by_cases same : other = index
  · subst same
    cases there.symm.trans at_
    exact ⟨later,Entries.at_set_self there,by rw [handle]; exact own,kept descriptor named live⟩
  · exact ⟨found,by rw [Entries.at_set_other same]; exact at_,own,live⟩

theorem Tabled.detachObject (tabled : Tabled state.objects state.proxies) (index : Nat) (proxy : Proxy) :
    Tabled (state.detachObject index proxy).objects state.proxies :=
  fun descriptor other named => tabled descriptor other (detachObject_objects.mp named).1

/-- After `DetachObject` the table does not name the proxy any more. -/
theorem Tabled.detached (tabled : Tabled state.objects state.proxies) (there : state.proxies[index]? = some proxy)
    (descriptor : List UInt8) : (state.detachObject index proxy).objects descriptor ≠ some index := by
  intro named
  obtain ⟨before,apart⟩ := detachObject_objects.mp named
  obtain ⟨found,at_,own,_⟩ := tabled descriptor index before
  cases there.symm.trans at_
  exact apart own rfl

end Tabled

theorem decStrong_inTable {proxy : Proxy} (live : inTable proxy.stage = true) : inTable proxy.decStrong.stage = true := by
  simp only [Proxy.decStrong]
  split
  · rfl
  · exact live

theorem step_tabled (counted : Counted state.proxies state.calls) (staged : Staged state.proxies)
    (tabled : Tabled state.objects state.proxies) (step : Step state event next) : Tabled next.objects next.proxies := by
  cases step with
  | opened handle free => exact tabled
  | queried handle => exact tabled
  | turned choice at_ turn => exact tabled
  | ended choice at_ => exact tabled
  | attempted choice at_ there positive => exact tabled.put there rfl fun _ _ live => live
  | made choice at_ =>
    intro descriptor index named
    obtain ⟨proxy,there,own,live⟩ := tabled descriptor index named
    exact ⟨proxy,by rw [List.getElem?_append_left (List.getElem?_eq_some_iff.mp there).1]; exact there,own,live⟩
  | @attached call index proxy choice at_ there =>
    have few := counted.refs_le there at_
    simp only [refs,if_true] at few
    have stage := (staged _ _ there).mpr (by omega)
    intro descriptor other named
    simp only [moveCall_objects] at named
    by_cases same : descriptor = makeHandleDescriptor proxy.handle
    · subst same
      rw [Function.update_self] at named
      cases named
      exact ⟨proxy,there,rfl,by rw [stage]; rfl⟩
    · rw [Function.update_of_ne same] at named
      exact tabled descriptor other named
  | unlocked choice at_ there => exact tabled.put there rfl fun _ _ live => live
  | initialised choice at_ there => exact tabled.put there rfl fun _ _ live => decStrong_inTable live
  | detached choice at_ there free =>
    simp only [moveCall_objects,moveCall_proxies,detachObject_proxies]
    exact tabled.detachObject _ _
  | dropped choice at_ there => exact tabled.put there rfl fun _ _ live => decStrong_inTable (decStrong_inTable live)
  | recovered choice at_ there positive => exact tabled.put there rfl fun _ _ live => live
  | copied there held => exact tabled.put there rfl fun _ _ live => live
  | gave there held => exact tabled.put there rfl fun _ _ live => decStrong_inTable live
  | reset there stage invalid => exact tabled.put there rfl fun _ _ _ => rfl
  | released there stage valid => exact tabled.put there rfl fun _ _ _ => rfl
  | forgotten there stage free =>
    simp only [put_objects,put_proxies,detachObject_proxies]
    exact (tabled.detachObject _ _).put there rfl fun descriptor named _ => absurd named (tabled.detached there descriptor)
  | destroyed there stage => exact tabled.put there rfl fun _ _ live => by simp [stage,inTable] at live

/-- The proxy that a call with the mutex has from the table. -/
def finds : Call → Option (Int32 × Nat)
  | .found handle index => some (handle,index)
  | .attempting handle index => some (handle,index)
  | _ => none

theorem hasMutex_of_finds {handle : Int32} {index : Nat} (found : finds place = some (handle,index)) : hasMutex place = true := by
  cases place <;> first | rfl | cases found

/-- What a call with the mutex has found is what the table names. -/
def Finding (objects : List UInt8 → Option Nat) (calls : List Call) : Prop :=
  ∀ (call : Nat) (place : Call) (handle : Int32) (index : Nat), calls[call]? = some place → finds place = some (handle,index) →
    objects (makeHandleDescriptor handle) = some index

section Finding
variable {objects : List UInt8 → Option Nat} {calls : List Call}

theorem Finding.free (locked : Locked none calls) : Finding objects calls := by
  intro call place handle index at_ found
  have busy := hasMutex_of_finds found
  rw [locked.free at_] at busy
  cases busy

theorem Finding.turn (finding : Finding objects calls) {call : Nat} (own : ∀ handle index, finds place = some (handle,index) →
    objects (makeHandleDescriptor handle) = some index) : Finding objects (calls.set call place) := by
  intro other found handle index at_ names
  rcases Entries.at_set at_ with ⟨_,rfl⟩ | ⟨_,before⟩
  · exact own handle index names
  · exact finding other found handle index before names

/-- Only the call that has the mutex may have found something. -/
theorem Finding.mine {objectMutex : Option Nat} (locked : Locked objectMutex calls) {call : Nat} (at_ : calls[call]? = some old)
    (busy : hasMutex old = true) (none_ : finds place = none) : Finding objects (calls.set call place) := by
  have mine := (locked call).mpr ⟨old,at_,busy⟩
  intro other found handle index there names
  rcases Entries.at_set there with ⟨_,rfl⟩ | ⟨apart,before⟩
  · rw [none_] at names
    cases names
  · have theirs := (locked other).mpr ⟨found,before,hasMutex_of_finds names⟩
    rw [mine] at theirs
    exact absurd (Option.some.inj theirs).symm apart

end Finding

theorem step_finding (locked : Locked state.objectMutex state.calls) (finding : Finding state.objects state.calls)
    (step : Step state event next) : Finding next.objects next.calls := by
  cases step with
  | opened handle free =>
    intro call place other index at_ names
    rcases Entries.at_concat at_ with before | rfl
    · exact finding call place other index before names
    · cases names
  | queried handle =>
    intro call place other index at_ names
    rcases Entries.at_concat at_ with before | rfl
    · exact finding call place other index before names
    · cases names
  | turned choice at_ turn =>
    refine finding.turn fun other named names => ?_
    cases turn with
    | present there =>
      cases names
      exact there
    | valid =>
      cases names
      exact finding _ _ _ _ at_ rfl
    | _ => cases names
  | ended choice at_ => exact finding.turn nofun
  | attempted choice at_ there positive => exact finding.turn nofun
  | made choice at_ => exact finding.turn nofun
  | attached choice at_ there => exact .mine locked at_ rfl rfl
  | unlocked choice at_ there => exact finding.turn nofun
  | initialised choice at_ there => exact finding.turn nofun
  | detached choice at_ there free =>
    rw [free] at locked
    simp only [moveCall_objects,moveCall_calls,detachObject_calls]
    exact .free (locked.turn at_ rfl)
  | dropped choice at_ there => exact finding.turn nofun
  | recovered choice at_ there positive => exact finding.turn nofun
  | copied there held => exact finding
  | gave there held => exact finding
  | reset there stage invalid => exact finding
  | released there stage valid => exact finding
  | forgotten there stage free =>
    rw [free] at locked
    simp only [put_objects,put_calls,detachObject_calls]
    exact .free locked
  | destroyed there stage => exact finding

/-- The proxies whose reference has not been given back to the driver. -/
def unreleased (handle : Int32) (proxy : Proxy) : Bool :=
  proxy.handle = handle ∧ (proxy.stage = .referenced ∨ proxy.stage = .releasing)

/-- Each `BC_ACQUIRE` for a handle has its `BC_RELEASE`, or a proxy that will give it. -/
def Balanced (state : State) : Prop :=
  ∀ handle, handle ≠ invalidHandleValue → state.acquired handle = state.released handle+state.proxies.countP (unreleased handle)

theorem balanced_put {proxies : List Proxy} {index acquired released : Nat} {proxy later : Proxy} {handle : Int32}
    (before : acquired = released+proxies.countP (unreleased handle)) (there : proxies[index]? = some proxy)
    (same : unreleased handle later = unreleased handle proxy) :
    acquired = released+(proxies.set index later).countP (unreleased handle) := by
  rw [Entries.countP_set_same there same]
  exact before

theorem decStrong_unreleased {proxy : Proxy} (own : proxy.stage = .referenced ↔ 0 < proxy.strong) (positive : 0 < proxy.strong)
    (handle : Int32) : unreleased handle proxy.decStrong = unreleased handle proxy := by
  have stage := own.mpr positive
  simp only [unreleased,Proxy.decStrong,stage]
  split <;> simp

theorem step_balanced (counted : Counted state.proxies state.calls) (staged : Staged state.proxies) (balanced : Balanced state)
    (step : Step state event next) : Balanced next := by
  intro handle valid_
  have before := balanced handle valid_
  cases step with
  | opened other free => exact before
  | queried other => exact before
  | turned choice at_ turn => exact before
  | ended choice at_ => exact before
  | attempted choice at_ there positive => exact balanced_put before there rfl
  | @made call other choice at_ =>
    simp only [List.countP_append,List.countP_singleton]
    by_cases same : handle = other
    · subst same
      simp [unreleased]
      omega
    · simp [unreleased,Ne.symm same,Function.update_of_ne same]
      exact before
  | attached choice at_ there => exact before
  | unlocked choice at_ there => exact balanced_put before there rfl
  | initialised choice at_ there =>
    have few := counted.refs_le there at_
    simp only [refs,if_true] at few
    have own := staged _ _ there
    refine balanced_put before there (decStrong_unreleased ?_ ?_ handle)
    · simpa using own
    · dsimp only
      omega
  | detached choice at_ there free =>
    rw [detachObject_eq]
    exact before
  | dropped choice at_ there =>
    have few := counted.refs_le there at_
    simp only [refs,if_true] at few
    have own := staged _ _ there
    have first := decStrong_unreleased own (by omega) handle
    have second := decStrong_unreleased (decStrong_staged own (by omega)) (by simp only [Proxy.decStrong]; omega) handle
    exact balanced_put before there (second.trans first)
  | recovered choice at_ there positive => exact balanced_put before there rfl
  | copied there held => exact balanced_put before there rfl
  | gave there held =>
    have few := counted.held_le there
    have same := decStrong_unreleased (staged _ _ there) (by omega) handle
    exact balanced_put before there same
  | reset there stage invalid =>
    have other : invalidHandleValue ≠ handle := valid_.symm
    exact balanced_put before there (by simp [unreleased,invalid,other])
  | @released index proxy there stage valid =>
    have bound := (List.getElem?_eq_some_iff.mp there).1
    have item := (List.getElem?_eq_some_iff.mp there).2
    have member : 0 < if unreleased handle proxy then state.proxies.countP (unreleased handle) else 1 := by
      split
      · exact List.countP_pos_iff.mpr ⟨proxy,List.mem_of_getElem? there,‹_›⟩
      · exact Nat.one_pos
    change state.acquired handle =
      Function.update state.released proxy.handle (state.released proxy.handle+1) handle+
        (state.proxies.set index { proxy with stage := .detaching }).countP (unreleased handle)
    rw [List.countP_set bound,item]
    by_cases same : handle = proxy.handle
    · subst same
      have own : unreleased proxy.handle proxy = true := by simp [unreleased,stage]
      have later : unreleased proxy.handle { proxy with stage := .detaching } = false := by simp [unreleased]
      rw [own,if_pos rfl] at member
      rw [own,later,Function.update_self,before,if_pos rfl,if_neg nofun]
      omega
    · simp [unreleased,Ne.symm same,Function.update_of_ne same]
      exact before
  | forgotten there stage free =>
    rw [detachObject_eq]
    exact balanced_put before there (by simp [unreleased,stage])
  | destroyed there stage => exact balanced_put before there (by simp [unreleased,stage])

structure Sound (state : State) : Prop where
  counted : Counted state.proxies state.calls
  staged : Staged state.proxies
  locked : Locked state.objectMutex state.calls
  tabled : Tabled state.objects state.proxies
  finding : Finding state.objects state.calls
  balanced : Balanced state

theorem sound_new : Sound State.new := by
  refine ⟨fun _ => rfl,nofun,fun call => ⟨nofun,?_⟩,nofun,nofun,fun _ _ => rfl⟩
  rintro ⟨_,there,_⟩
  cases there

theorem Sound.step (sound : Sound state) (step : Step state event next) : Sound next :=
  ⟨step_counted sound.counted step,step_staged sound.counted sound.staged step,step_locked sound.locked step,
    step_tabled sound.counted sound.staged sound.tabled step,step_finding sound.locked sound.finding step,
    step_balanced sound.counted sound.staged sound.balanced step⟩

end Sound

theorem sound_run {events : List Event} {state : State} (run : Reaches (fires State.step) State.new events state) : Sound state :=
  run.invariant Sound sound_new fun _ _ _ sound taken => sound.step (step_cases taken)

/-- Whatever the order of the steps: a strong count is what callers hold and what the calls under way have, and `OnLastStrongRef` comes
when it is zero and only then; each reference that was taken from the driver is given back, or a proxy is there that will; and what
`QueryObject` finds under the mutex is a proxy of the handle that has not been freed, when it asks whether it is valid and when it
tries to take a reference. -/
theorem proxy_references {events : List Event} {state : State} (run : Reaches (fires State.step) State.new events state) :
    (∀ (index : Nat) (proxy : Proxy), state.proxies[index]? = some proxy →
      proxy.strong = proxy.held+(state.calls.map (refs index)).sum ∧ (proxy.stage = .referenced ↔ 0 < proxy.strong)) ∧
      (∀ handle, handle ≠ invalidHandleValue →
        state.acquired handle = state.released handle+state.proxies.countP (unreleased handle)) ∧
      ∀ (call : Nat) (handle : Int32) (index : Nat),
        state.calls[call]? = some (.found handle index) ∨ state.calls[call]? = some (.attempting handle index) →
          state.objectMutex = some call ∧
            ∃ proxy, state.proxies[index]? = some proxy ∧ proxy.handle = handle ∧ proxy.isValidObject = true := by
  have sound := sound_run run
  refine ⟨?_,sound.balanced,?_⟩
  · intro index proxy there
    have counted := sound.counted index
    rw [strongAt_of there,heldAt_of there] at counted
    exact ⟨counted,sound.staged index proxy there⟩
  · intro call handle index at_
    have place : ∃ place, state.calls[call]? = some place ∧ finds place = some (handle,index) := by
      rcases at_ with at_ | at_
      · exact ⟨_,at_,rfl⟩
      · exact ⟨_,at_,rfl⟩
    obtain ⟨place,at_,found⟩ := place
    obtain ⟨proxy,there,own,live⟩ := sound.tabled _ _ (sound.finding call place handle index at_ found)
    refine ⟨(sound.locked call).mpr ⟨place,at_,hasMutex_of_finds found⟩,proxy,there,(makeHandleDescriptor_injective own).symm,?_⟩
    cases stage : proxy.stage <;> simp [stage,inTable] at live <;> simp [Proxy.isValidObject,stage]

/-- Two calls find proxies of one handle, the second the one that the first made, and a third finds it after both have let go. -/
def findsTwice : List Event :=
  [.findOrNewObject 7,.call 0 true,.call 0 true,.call 0 true,.call 0 true,.call 0 true,.findOrNewObject 7,.call 1 true,.call 1 true,
    .call 1 true,.call 1 true,.call 1 true]

def givesUp : List Event :=
  findsTwice ++ [.drop 0,.drop 0,.onLastStrongRef 0,.findOrNewObject 7,.call 2 true,.call 2 true]

theorem proxy_references_given_up : ∃ state, Reaches (fires State.step) State.new givesUp state ∧
    state.acquired 7 = state.released 7 ∧ ∃ proxy, state.proxies[0]? = some proxy ∧ proxy.isValidObject = true ∧ proxy.strong = 0 := by
  obtain ⟨state,run,test⟩ := Reaches.exists_of_foldlM State.step State.new givesUp
    (fun state => state.calls[2]? = some (.attempting 7 0) ∧ state.proxies.countP (unreleased 7) = 0 ∧ strongAt state.proxies 0 = 0)
    (by decide +kernel)
  obtain ⟨at_,none_,zero⟩ := of_decide_eq_true test
  have balance := (proxy_references run).2.1 7 (by decide)
  obtain ⟨_,proxy,there,_,valid⟩ := (proxy_references run).2.2 2 7 0 (.inr at_)
  rw [none_] at balance
  rw [strongAt_of there] at zero
  exact ⟨state,run,balance,proxy,there,valid,zero⟩

end CommunicationIpc.ProxyLife
