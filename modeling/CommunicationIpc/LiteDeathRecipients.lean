import CommunicationIpc.Kernel.LiteDeathRecipients
import CommunicationIpc.Library.Run
import Mathlib.Data.List.Count
import Mathlib.Data.List.Nodup

/-! Which callbacks of the C library are called when their object dies. `ProcessAddDeathRecipient` starts from
success, tells the driver of the first callback after it is in its slot, and looks at `isRemoteDead` under another
lock than the one `SendObituary` sets it under. -/
namespace CommunicationIpc.LiteDeathRecipients
open CommunicationIpc.Library CommunicationIpc.Kernel.LiteDeathRecipients

/-- The handle of an `AddDeathRecipient` has a node, whose object is still not dead when the slot is filled, and the
driver takes the first registration. -/
def met (state : State) : Event → Bool
  | .add call _ answer =>
    match state.adds call with
    | .checking handle => (state.find handle).isSome
    | .filling _ node => !(state.nodes node).isRemoteDead
    | .registering _ _ => decide (answer = some errNone)
    | _ => true
  | _ => true

def funcs (node : DeathCallback) : List Nat := node.handler.filterMap slotFunc

def used (node : DeathCallback) : Nat := node.handler.countP Handler.usedFlag

structure Filled (node : DeathCallback) : Prop where
  size : node.handler.length = maxDeathCallbackNum
  deathNum : node.deathNum = used node
  full : ∀ slot ∈ node.handler, slot.usedFlag = true → slot.func.isSome = true

section Node
variable {node : DeathCallback} {index func : Nat}

theorem filled_new (handle : Int32) : Filled (DeathCallback.new handle) := by
  refine ⟨rfl,rfl,?_⟩
  intro slot member flag
  rw [List.eq_of_mem_replicate member] at flag
  cases flag

theorem funcs_new (handle : Int32) : funcs (DeathCallback.new handle) = [] := rfl

theorem Filled.length_funcs (filled : Filled node) : (funcs node).length = used node := by
  rw [funcs,List.length_filterMap_eq_countP,used]
  apply List.countP_congr
  intro slot member
  cases flag : slot.usedFlag with
  | false => simp [slotFunc,flag]
  | true => simp [slotFunc,flag,filled.full slot member flag]

theorem Filled.copyHandlers (filled : Filled node) : copyHandlers node = (funcs node).map some := by
  have length : node.deathNum.toNat = (funcs node).length := by
    rw [filled.length_funcs,filled.deathNum]
    rfl
  have all : (node.handler.filterMap slotFunc).take node.deathNum.toNat = funcs node := by
    rw [length]
    exact List.take_length
  rw [Kernel.LiteDeathRecipients.copyHandlers,all,length,Nat.sub_self,List.replicate_zero,List.append_nil]

theorem mem_funcs (stored : node.handler[index]? = some ⟨true,some func⟩) : func ∈ funcs node := by
  rw [funcs,List.mem_filterMap]
  exact ⟨_,List.mem_of_getElem? stored,rfl⟩

theorem handler_split (bound : index < node.handler.length) :
    node.handler = node.handler.take index ++ node.handler[index] :: node.handler.drop (index+1) := by
  rw [List.getElem_cons_drop,List.take_append_drop]

theorem set_split (slot : Handler) (bound : index < node.handler.length) :
    node.handler.set index slot = node.handler.take index ++ slot :: node.handler.drop (index+1) := by
  rw [List.set_eq_take_append_cons_drop,if_pos bound]

theorem freeSlot_spec (found : freeSlot node.handler = some index) :
    ∃ bound : index < node.handler.length, node.handler[index].usedFlag = false := by
  obtain ⟨bound,free,-⟩ := List.findIdx?_eq_some_iff_getElem.mp found
  exact ⟨bound,by simpa using free⟩

theorem Filled.freeSlot (filled : Filled node) (room : node.deathNum ≠ maxDeathCallbackNum) : ∃ index, freeSlot node.handler = some index := by
  cases found : Kernel.LiteDeathRecipients.freeSlot node.handler with
  | some index => exact ⟨index,rfl⟩
  | none =>
    have taken : ∀ slot ∈ node.handler, slot.usedFlag = true := by
      intro slot member
      simpa using List.findIdx?_eq_none_iff.mp found slot member
    have all : used node = maxDeathCallbackNum := by
      rw [used,List.countP_eq_length.mpr taken,filled.size]
    rw [filled.deathNum,all] at room
    exact absurd rfl room

theorem set_funcs (free : freeSlot node.handler = some index) :
    (funcs (setDeathHandlerPair node index func)).Perm (func :: funcs node) := by
  obtain ⟨bound,unused⟩ := freeSlot_spec free
  have empty : slotFunc node.handler[index] = none := by simp [slotFunc,unused]
  have before : funcs node = (node.handler.take index).filterMap slotFunc ++ (node.handler.drop (index+1)).filterMap slotFunc := by
    rw [funcs]
    nth_rewrite 1 [handler_split bound]
    rw [List.filterMap_append,List.filterMap_cons_none empty]
  have after : funcs (setDeathHandlerPair node index func) =
      (node.handler.take index).filterMap slotFunc ++ func :: (node.handler.drop (index+1)).filterMap slotFunc := by
    rw [funcs,setDeathHandlerPair]
    simp only
    rw [set_split _ bound,List.filterMap_append,List.filterMap_cons_some (show slotFunc ⟨true,some func⟩ = some func from rfl)]
  rw [after,before]
  exact List.perm_middle

theorem Filled.set (filled : Filled node) (free : Kernel.LiteDeathRecipients.freeSlot node.handler = some index) :
    Filled (setDeathHandlerPair node index func) := by
  obtain ⟨bound,unused⟩ := freeSlot_spec free
  refine ⟨?_,?_,?_⟩
  · rw [setDeathHandlerPair,List.length_set]
    exact filled.size
  · rw [setDeathHandlerPair,used,List.countP_set bound,filled.deathNum,used]
    simp [unused]
  · intro slot member flag
    rcases List.mem_or_eq_of_mem_set member with old | rfl
    · exact filled.full slot old flag
    · rfl

theorem clear_funcs (node : DeathCallback) (index : Nat) : (funcs (clearDeathHandler node index)).Sublist (funcs node) := by
  by_cases bound : index < node.handler.length
  · have after : funcs (clearDeathHandler node index) =
        (node.handler.take index).filterMap slotFunc ++ (node.handler.drop (index+1)).filterMap slotFunc := by
      rw [funcs,clearDeathHandler]
      simp only
      rw [set_split _ bound,List.filterMap_append,List.filterMap_cons_none (show slotFunc ⟨false,none⟩ = none from rfl)]
    rw [after,funcs]
    nth_rewrite 3 [handler_split bound]
    rw [List.filterMap_append]
    exact List.Sublist.append_left ((List.sublist_cons_self _ _).filterMap slotFunc) _
  · rw [clearDeathHandler,funcs,funcs]
    simp only
    rw [List.set_eq_of_length_le (Nat.le_of_not_lt bound)]

theorem Filled.clear (filled : Filled node) {found : Option Nat} (stored : node.handler[index]? = some ⟨true,found⟩) :
    Filled (clearDeathHandler node index) := by
  obtain ⟨bound,slot⟩ := List.getElem?_eq_some_iff.mp stored
  have positive : 0 < node.handler.countP Handler.usedFlag :=
    List.countP_pos_iff.mpr ⟨_,List.mem_of_getElem? stored,rfl⟩
  refine ⟨?_,?_,?_⟩
  · rw [clearDeathHandler,List.length_set]
    exact filled.size
  · rw [clearDeathHandler,used,List.countP_set bound,filled.deathNum,used,slot]
    simp only [if_true,if_false,Bool.false_eq_true,Nat.add_zero]
    omega
  · intro slot member flag
    rcases List.mem_or_eq_of_mem_set member with old | rfl
    · exact filled.full slot old flag
    · cases flag

end Node

/-- The callback of the call is in the slot. -/
def Stored (state : State) (node index call : Nat) : Prop := (state.nodes node).handler[index]? = some ⟨true,some call⟩

/-- The functions a `SendObituary` has called or is going to call, with its node. -/
def callsOf : Obituary → Option (Nat × List (Option Nat))
  | .calling node called left => some (node,called ++ left)
  | .returned node called => some (node,called)
  | _ => none

def nodeOf : Obituary → Option Nat
  | .unstarted => none
  | .locking node | .calling node _ _ | .returned node _ => some node

/-- The callback is in a slot of the node, or with a `SendObituary` of it. -/
def Mentions (state : State) (node call : Nat) : Prop :=
  call ∈ funcs (state.nodes node) ∨
    ∃ obituary calls, callsOf (state.obituaries obituary) = some (node,calls) ∧ some call ∈ calls

def lockedAdd : Add → Bool
  | .checking _ | .filling _ _ | .counting _ _ _ | .registering _ _ | .unlocking _ _ => true
  | _ => false

def lockedRemove : Remove → Bool
  | .checking _ _ | .clearing _ _ _ | .unlocking _ _ => true
  | _ => false

/-- The call has stored nothing, and if it is over it has failed. -/
def unfilled : Add → Bool
  | .unstarted | .locking _ | .checking _ | .filling _ _ => true
  | .counting _ _ _ | .registering _ _ => false
  | .unlocking _ ret | .returned _ ret => decide (ret ≠ errNone)

def AddFine (state : State) (call : Nat) : Add → Prop
  | .filling handle node => state.find handle = some node ∧ (state.nodes node).deathNum ≠ maxDeathCallbackNum
  | .counting handle node ret => ret = errNone ∧ state.find handle = some node ∧ Stored state node (state.cbIds call) call
  | .registering handle node => state.find handle = some node ∧ Stored state node (state.cbIds call) call
  | .unlocking handle ret => ret = errNone → ∃ node, state.find handle = some node ∧ Stored state node (state.cbIds call) call
  | _ => True

/-- What is always so while `met` holds at every step. -/
structure Sound (state : State) : Prop where
  filled : ∀ node, Filled (state.nodes node)
  distinct : ∀ node, (funcs (state.nodes node)).Nodup
  told : ∀ obituary node calls, callsOf (state.obituaries obituary) = some (node,calls) →
    (state.nodes node).isRemoteDead = true ∧ ∀ call ∈ funcs (state.nodes node), calls.count (some call) = 1
  home : ∀ call node other, Mentions state node call → Mentions state other call → node = other
  fresh : ∀ call, unfilled (state.adds call) = true → ∀ node, ¬ Mentions state node call
  objects : ∀ node ∈ state.objects, node < state.made
  aims : ∀ obituary node, nodeOf (state.obituaries obituary) = some node → node < state.made
  holdsAdd : ∀ call, lockedAdd (state.adds call) = true → state.lock = some (.add call)
  holdsRemove : ∀ call, lockedRemove (state.removes call) = true → state.lock = some (.remove call)
  adds : ∀ call, AddFine state call (state.adds call)

theorem sound_new : Sound State.new := by
  refine ⟨fun _ => filled_new 0,fun _ => List.nodup_nil,?_,?_,?_,?_,?_,?_,?_,fun _ => trivial⟩
  · intro obituary node calls told
    cases told
  · intro call node other mentioned
    rcases mentioned with stored | ⟨obituary,calls,told,-⟩
    · cases stored
    · cases told
  · intro call early node mentioned
    rcases mentioned with stored | ⟨obituary,calls,told,-⟩
    · cases stored
    · cases told
  · intro node member
    cases member
  · intro obituary node aimed
    cases aimed
  · intro call locked
    cases locked
  · intro call locked
    cases locked

theorem AddFine.unlocked {state : State} {call : Nat} {add : Add} (open_ : lockedAdd add = false) : AddFine state call add := by
  cases add with
  | filling _ _ => cases open_
  | counting _ _ _ => cases open_
  | registering _ _ => cases open_
  | unlocking _ _ => cases open_
  | unstarted => trivial
  | locking _ => trivial
  | checking _ => trivial
  | returned _ _ => trivial

/-- The nodes are looked up as before, and their slots are the same. -/
structure SameSlots (state next : State) : Prop where
  find : ∀ handle, next.find handle = state.find handle
  handler : ∀ node, (next.nodes node).handler = (state.nodes node).handler
  deathNum : ∀ node, (next.nodes node).deathNum = (state.nodes node).deathNum
  cbIds : next.cbIds = state.cbIds

theorem AddFine.same {state next : State} (same : SameSlots state next) {call : Nat} {add : Add} (fine : AddFine state call add) :
    AddFine next call add := by
  obtain ⟨find,handler,deathNum,cbIds⟩ := same
  cases add with
  | unstarted => trivial
  | locking _ => trivial
  | checking _ => trivial
  | returned _ _ => trivial
  | filling _ _ =>
    simp only [AddFine,find,deathNum]
    exact fine
  | counting _ _ _ =>
    simp only [AddFine,Stored,find,handler,cbIds]
    exact fine
  | registering _ _ =>
    simp only [AddFine,Stored,find,handler,cbIds]
    exact fine
  | unlocking _ _ =>
    simp only [AddFine,Stored,find,handler,cbIds]
    exact fine

/-- No callback is new, and no object comes back to life. -/
structure Calmer (state next : State) : Prop where
  funcs : ∀ node, (funcs (next.nodes node)).Sublist (funcs (state.nodes node))
  dead : ∀ node < state.made, (state.nodes node).isRemoteDead = true → (next.nodes node).isRemoteDead = true
  obituaries : next.obituaries = state.obituaries
  made : state.made ≤ next.made

theorem Calmer.mentions {state next : State} (calmer : Calmer state next) {node call : Nat} (mentioned : Mentions next node call) :
    Mentions state node call := by
  rcases mentioned with stored | told
  · exact .inl ((calmer.funcs node).mem stored)
  · rw [calmer.obituaries] at told
    exact .inr told

theorem nodeOf_callsOf {place : Obituary} {node : Nat} {calls : List (Option Nat)} (told : callsOf place = some (node,calls)) :
    nodeOf place = some node := by
  cases place with
  | unstarted => cases told
  | locking _ => cases told
  | calling _ _ _ =>
    cases told
    rfl
  | returned _ _ =>
    cases told
    rfl

theorem Sound.calmer {state next : State} (sound : Sound state) (calmer : Calmer state next)
    (filled : ∀ node, Filled (next.nodes node)) (objects : ∀ node ∈ next.objects, node < next.made)
    (fresh : ∀ call, unfilled (next.adds call) = true → unfilled (state.adds call) = true)
    (holdsAdd : ∀ call, lockedAdd (next.adds call) = true → next.lock = some (.add call))
    (holdsRemove : ∀ call, lockedRemove (next.removes call) = true → next.lock = some (.remove call))
    (adds : ∀ call, AddFine next call (next.adds call)) : Sound next where
  filled := filled
  distinct := fun node => (sound.distinct node).sublist (calmer.funcs node)
  told := by
    intro obituary node calls told
    rw [calmer.obituaries] at told
    obtain ⟨dead,once⟩ := sound.told obituary node calls told
    exact ⟨calmer.dead node (sound.aims obituary node (nodeOf_callsOf told)) dead,
      fun call stored => once call ((calmer.funcs node).mem stored)⟩
  home := fun call node other first second => sound.home call node other (calmer.mentions first) (calmer.mentions second)
  fresh := fun call early node mentioned => sound.fresh call (fresh call early) node (calmer.mentions mentioned)
  objects := objects
  aims := by
    intro obituary node aimed
    rw [calmer.obituaries] at aimed
    exact Nat.lt_of_lt_of_le (sound.aims obituary node aimed) calmer.made
  holdsAdd := holdsAdd
  holdsRemove := holdsRemove
  adds := adds

section Taken
variable {state next : State} {call : Nat} {choice : Bool} {answer : Option Int32}

/-- The steps of an `AddDeathRecipient`, by where it is. -/
inductive AddStep (state : State) (call : Nat) (answer : Option Int32) : Add → State → Prop
  | locks {handle : Int32} (free : state.lock = none) :
      AddStep state call answer (.locking handle) ((state.withLock (some (.add call))).moveAdd call (.checking handle))
  | fails {handle : Int32} : AddStep state call answer (.locking handle) (state.moveAdd call (.returned handle errFailed))
  | absent {handle : Int32} (unknown : state.find handle = none) :
      AddStep state call answer (.checking handle) (state.moveAdd call (.unlocking handle errNone))
  | refuses {handle ret : Int32} (failed : ret ≠ errNone) :
      AddStep state call answer (.checking handle) (state.moveAdd call (.unlocking handle ret))
  | finds {handle : Int32} {node : Nat} (known : state.find handle = some node)
      (room : (state.nodes node).deathNum ≠ maxDeathCallbackNum) :
      AddStep state call answer (.checking handle) (state.moveAdd call (.filling handle node))
  | misses {handle : Int32} {node : Nat} (full : freeSlot (state.nodes node).handler = none) :
      AddStep state call answer (.filling handle node) (state.moveAdd call (.counting handle node errNone))
  | fills {handle : Int32} {node index : Nat} (free : freeSlot (state.nodes node).handler = some index) :
      AddStep state call answer (.filling handle node)
        ({state.put node (setDeathHandlerPair (state.nodes node) index call) with
          cbIds := Function.update state.cbIds call index}.moveAdd call (.counting handle node errNone))
  | first {handle ret : Int32} {node : Nat} : AddStep state call answer (.counting handle node ret)
      ((state.put node {state.nodes node with isNewHandler := false}).moveAdd call (.registering handle node))
  | later {handle ret : Int32} {node : Nat} :
      AddStep state call answer (.counting handle node ret) (state.moveAdd call (.unlocking handle ret))
  | registers {handle : Int32} {node : Nat} :
      AddStep state call answer (.registering handle node) (state.moveAdd call (.unlocking handle (answer.getD errInvalidParam)))
  | unlocks {handle ret : Int32} :
      AddStep state call answer (.unlocking handle ret) ((state.withLock none).moveAdd call (.returned handle ret))

theorem addStep_of_taken (taken : state.stepAdd call choice answer = some next) : AddStep state call answer (state.adds call) next := by
  cases place : state.adds call with
  | unstarted | returned _ _ =>
    simp only [State.stepAdd,place] at taken
    cases taken
  | locking handle =>
    simp only [State.stepAdd,place] at taken
    split at taken
    · split at taken
      · rename_i free
        cases taken
        exact .locks free
      · cases taken
    · cases taken
      exact .fails
  | checking handle =>
    simp only [State.stepAdd,place] at taken
    split at taken
    · rename_i unknown
      cases taken
      exact .absent unknown
    rename_i known
    split at taken
    · cases taken
      exact .refuses (by decide)
    split at taken
    · cases taken
      exact .refuses (by decide)
    · rename_i room
      cases taken
      exact .finds known room
  | filling handle node =>
    simp only [State.stepAdd,place] at taken
    split at taken
    · rename_i full
      cases taken
      exact .misses full
    · rename_i free
      cases taken
      exact .fills free
  | counting handle node ret =>
    simp only [State.stepAdd,place] at taken
    split at taken
    · cases taken
      exact .first
    · cases taken
      exact .later
  | registering handle node =>
    simp only [State.stepAdd,place,Option.some.injEq] at taken
    subst taken
    exact .registers
  | unlocking handle ret =>
    simp only [State.stepAdd,place,Option.some.injEq] at taken
    subst taken
    exact .unlocks

/-- The steps of a `RemoveDeathRecipient`. -/
inductive RemoveStep (state : State) (call : Nat) : Remove → State → Prop
  | locks {handle : Int32} {cbId : Nat} (free : state.lock = none) :
      RemoveStep state call (.locking handle cbId)
        ((state.withLock (some (.remove call))).moveRemove call (.checking handle cbId))
  | fails {handle : Int32} {cbId : Nat} : RemoveStep state call (.locking handle cbId) (state.moveRemove call (.returned handle errFailed))
  | refuses {handle ret : Int32} {cbId : Nat} :
      RemoveStep state call (.checking handle cbId) (state.moveRemove call (.unlocking handle ret))
  | finds {handle : Int32} {cbId node : Nat} :
      RemoveStep state call (.checking handle cbId) (state.moveRemove call (.clearing handle cbId node))
  | clears {handle : Int32} {cbId node : Nat} {func : Option Nat} (stored : (state.nodes node).handler[cbId]? = some ⟨true,func⟩) :
      RemoveStep state call (.clearing handle cbId node)
        ((state.put node (clearDeathHandler (state.nodes node) cbId)).moveRemove call (.unlocking handle errNone))
  | misses {handle : Int32} {cbId node : Nat} :
      RemoveStep state call (.clearing handle cbId node) (state.moveRemove call (.unlocking handle errInvalidParam))
  | unlocks {handle ret : Int32} :
      RemoveStep state call (.unlocking handle ret) ((state.withLock none).moveRemove call (.returned handle ret))

theorem removeStep_of_taken (taken : state.stepRemove call choice = some next) : RemoveStep state call (state.removes call) next := by
  cases place : state.removes call with
  | unstarted | returned _ _ =>
    simp only [State.stepRemove,place] at taken
    cases taken
  | locking handle cbId =>
    simp only [State.stepRemove,place] at taken
    split at taken
    · split at taken
      · rename_i free
        cases taken
        exact .locks free
      · cases taken
    · cases taken
      exact .fails
  | checking handle cbId =>
    simp only [State.stepRemove,place] at taken
    split at taken
    · cases taken
      exact .refuses
    split at taken
    · cases taken
      exact .refuses
    · cases taken
      exact .finds
  | clearing handle cbId node =>
    simp only [State.stepRemove,place] at taken
    split at taken
    · rename_i stored
      cases taken
      exact .clears stored
    · cases taken
      exact .misses
  | unlocking handle ret =>
    simp only [State.stepRemove,place,Option.some.injEq] at taken
    subst taken
    exact .unlocks

/-- The steps of the system. -/
inductive Taken (state : State) : Event → State → Prop
  | makes {handle : Int32} {choice : Bool} (free : state.lock = none) :
      Taken state (.firstAddObject handle choice) (state.addObject handle choice)
  | beginsAdd {call : Nat} {handle : Int32} {deathFunc cbId : Bool} {add : Add} (unstarted : state.adds call = .unstarted)
      (start : add = .returned handle errInvalidParam ∨ add = .locking handle) :
      Taken state (.processAddDeathRecipient call handle deathFunc cbId) (state.moveAdd call add)
  | adds {call : Nat} {choice : Bool} {answer : Option Int32} {next : State} (step : AddStep state call answer (state.adds call) next) :
      Taken state (.add call choice answer) next
  | beginsRemove {call cbId : Nat} {handle : Int32} {remove : Remove} (unstarted : state.removes call = .unstarted)
      (start : remove = .returned handle errInvalidParam ∨ remove = .locking handle cbId) :
      Taken state (.processRemoveDeathRecipient call handle cbId) (state.moveRemove call remove)
  | removes {call : Nat} {choice : Bool} {next : State} (step : RemoveStep state call (state.removes call) next) :
      Taken state (.remove call choice) next
  | tells {obituary node : Nat} (able : node ∈ state.objects) :
      Taken state (.sendObituary obituary node) (state.moveObituary obituary (.locking node))
  | told {obituary : Nat} {next : State} (step : state.stepObituary obituary = some next) : Taken state (.obituary obituary) next

theorem taken_of_step {event : Event} (taken : fires State.step state event next) : Taken state event next := by
  cases event with
  | firstAddObject handle choice =>
    simp only [fires,State.step] at taken
    split at taken
    · rename_i free
      cases taken
      exact .makes free
    · cases taken
  | processAddDeathRecipient call handle deathFunc cbId =>
    simp only [fires,State.step] at taken
    split at taken
    · rename_i unstarted
      split at taken
      · cases taken
        exact .beginsAdd unstarted (.inl rfl)
      · cases taken
        exact .beginsAdd unstarted (.inr rfl)
    · cases taken
  | add call choice answer => exact .adds (addStep_of_taken taken)
  | processRemoveDeathRecipient call handle cbId =>
    simp only [fires,State.step] at taken
    split at taken
    · rename_i unstarted
      split at taken
      · cases taken
        exact .beginsRemove unstarted (.inl rfl)
      · cases taken
        exact .beginsRemove unstarted (.inr rfl)
    · cases taken
  | remove call choice => exact .removes (removeStep_of_taken taken)
  | sendObituary obituary node =>
    simp only [fires,State.step] at taken
    split at taken
    · rename_i able
      cases taken
      exact .tells able.2
    · cases taken
  | obituary obituary => exact .told taken

end Taken

section Calls
variable {state : State} {call : Nat}

theorem calmer_of_nodes {next : State} (nodes : next.nodes = state.nodes) (obituaries : next.obituaries = state.obituaries)
    (made : next.made = state.made) : Calmer state next := by
  refine ⟨?_,?_,obituaries,Nat.le_of_eq made.symm⟩
  · rw [nodes]
    exact fun _ => List.Sublist.refl _
  · rw [nodes]
    exact fun _ _ => id

theorem Sound.moveAdd (sound : Sound state) (add : Add) (holds : lockedAdd add = true → state.lock = some (.add call))
    (fine : AddFine state call add) (fresh : unfilled add = true → unfilled (state.adds call) = true) : Sound (state.moveAdd call add) := by
  have same : SameSlots state (state.moveAdd call add) := ⟨fun _ => rfl,fun _ => rfl,fun _ => rfl,rfl⟩
  refine sound.calmer (calmer_of_nodes rfl rfl rfl) sound.filled sound.objects ?_ ?_ sound.holdsRemove ?_
  · intro other
    by_cases own : other = call
    · subst own
      simp only [State.moveAdd,Function.update_self]
      exact fresh
    · simp only [State.moveAdd,Function.update_of_ne own]
      exact id
  · intro other
    by_cases own : other = call
    · subst own
      simp only [State.moveAdd,Function.update_self]
      exact holds
    · simp only [State.moveAdd,Function.update_of_ne own]
      exact sound.holdsAdd other
  · intro other
    by_cases own : other = call
    · subst own
      have place : (state.moveAdd other add).adds other = add := Function.update_self ..
      rw [place]
      exact fine.same same
    · have place : (state.moveAdd call add).adds other = state.adds other := Function.update_of_ne own ..
      rw [place]
      exact (sound.adds other).same same

theorem Sound.moveRemove (sound : Sound state) (remove : Remove) (holds : lockedRemove remove = true → state.lock = some (.remove call)) :
    Sound (state.moveRemove call remove) := by
  have same : SameSlots state (state.moveRemove call remove) := ⟨fun _ => rfl,fun _ => rfl,fun _ => rfl,rfl⟩
  refine sound.calmer (calmer_of_nodes rfl rfl rfl) sound.filled sound.objects (fun _ => id) sound.holdsAdd ?_
    (fun other => (sound.adds other).same same)
  intro other
  by_cases own : other = call
  · subst own
    simp only [State.moveRemove,Function.update_self]
    exact holds
  · simp only [State.moveRemove,Function.update_of_ne own]
    exact sound.holdsRemove other

theorem Sound.withLock (sound : Sound state) {lock : Option Holder} (adds : ∀ call, lockedAdd (state.adds call) = true → lock = some (.add call))
    (removes : ∀ call, lockedRemove (state.removes call) = true → lock = some (.remove call)) : Sound (state.withLock lock) :=
  sound.calmer (calmer_of_nodes rfl rfl rfl) sound.filled sound.objects (fun _ => id) adds removes
    fun other => (sound.adds other).same ⟨fun _ => rfl,fun _ => rfl,fun _ => rfl,rfl⟩

theorem Sound.acquire (sound : Sound state) (free : state.lock = none) (holder : Holder) : Sound (state.withLock (some holder)) := by
  refine sound.withLock ?_ ?_
  · intro other locked
    have held := sound.holdsAdd other locked
    rw [free] at held
    cases held
  · intro other locked
    have held := sound.holdsRemove other locked
    rw [free] at held
    cases held

end Calls

section Nodes
variable {state : State} {node call : Nat}

theorem put_self (value : DeathCallback) : (state.put node value).nodes node = value := Function.update_self ..

theorem put_other {other : Nat} (value : DeathCallback) (apart : other ≠ node) : (state.put node value).nodes other = state.nodes other :=
  Function.update_of_ne apart ..

theorem find_put {value : DeathCallback} (same : value.handle = (state.nodes node).handle) (handle : Int32) :
    (state.put node value).find handle = state.find handle := by
  have handles : ∀ other, ((state.put node value).nodes other).handle = (state.nodes other).handle := by
    intro other
    by_cases own : other = node
    · rw [own,put_self,same]
    · rw [put_other value own]
  simp only [State.find,handles]
  rfl

theorem Filled.same {value : DeathCallback} (filled : Filled (state.nodes node)) (handler : value.handler = (state.nodes node).handler)
    (deathNum : value.deathNum = (state.nodes node).deathNum) : Filled value := by
  obtain ⟨size,number,full⟩ := filled
  refine ⟨?_,?_,?_⟩
  · rw [handler]
    exact size
  · rw [deathNum,used,handler]
    exact number
  · rw [handler]
    exact full

theorem Sound.put (sound : Sound state) {value : DeathCallback} (handler : value.handler = (state.nodes node).handler)
    (deathNum : value.deathNum = (state.nodes node).deathNum) (handle : value.handle = (state.nodes node).handle)
    (dead : (state.nodes node).isRemoteDead = true → value.isRemoteDead = true) : Sound (state.put node value) := by
  have handlers : ∀ other, ((state.put node value).nodes other).handler = (state.nodes other).handler := by
    intro other
    by_cases own : other = node
    · rw [own,put_self,handler]
    · rw [put_other value own]
  have deathNums : ∀ other, ((state.put node value).nodes other).deathNum = (state.nodes other).deathNum := by
    intro other
    by_cases own : other = node
    · rw [own,put_self,deathNum]
    · rw [put_other value own]
  have calmer : Calmer state (state.put node value) := by
    refine ⟨?_,?_,rfl,Nat.le_refl _⟩
    · intro other
      rw [funcs,funcs,handlers]
    · intro other _
      by_cases own : other = node
      · rw [own,put_self]
        exact dead
      · rw [put_other value own]
        exact id
  exact sound.calmer calmer (fun other => (sound.filled other).same (handlers other) (deathNums other)) sound.objects (fun _ => id)
    sound.holdsAdd sound.holdsRemove fun other => (sound.adds other).same ⟨find_put handle,handlers,deathNums,rfl⟩

theorem Sound.alone (sound : Sound state) {holder : Holder} (held : state.lock = some holder) {other : Nat}
    (apart : holder ≠ .add other) : lockedAdd (state.adds other) = false := by
  cases locked : lockedAdd (state.adds other) with
  | false => rfl
  | true =>
    have also := sound.holdsAdd other locked
    rw [held] at also
    exact absurd (Option.some.inj also) apart

theorem Sound.clear (sound : Sound state) {index remove : Nat} {found : Option Nat} (held : state.lock = some (.remove remove))
    (stored : (state.nodes node).handler[index]? = some ⟨true,found⟩) :
    Sound (state.put node (clearDeathHandler (state.nodes node) index)) := by
  have calmer : Calmer state (state.put node (clearDeathHandler (state.nodes node) index)) := by
    refine ⟨?_,?_,rfl,Nat.le_refl _⟩
    · intro other
      by_cases own : other = node
      · rw [own,put_self]
        exact clear_funcs ..
      · rw [put_other _ own]
    · intro other _
      by_cases own : other = node
      · rw [own,put_self]
        exact id
      · rw [put_other _ own]
        exact id
  refine sound.calmer calmer ?_ sound.objects (fun _ => id) sound.holdsAdd sound.holdsRemove ?_
  · intro other
    by_cases own : other = node
    · rw [own,put_self]
      exact (sound.filled node).clear stored
    · rw [put_other _ own]
      exact sound.filled other
  · intro other
    refine .unlocked (sound.alone held ?_)
    intro same
    cases same

theorem addObject_sound (sound : Sound state) (free : state.lock = none) (handle : Int32) (choice : Bool) :
    Sound (state.addObject handle choice) := by
  rw [State.addObject]
  split
  · exact sound
  split
  · have calmer : Calmer state { state.put state.made (DeathCallback.new handle) with
        objects := state.made :: state.objects, made := state.made+1 } := by
      refine ⟨?_,?_,rfl,Nat.le_succ _⟩
      · intro node
        change (funcs ((state.put state.made (DeathCallback.new handle)).nodes node)).Sublist _
        by_cases own : node = state.made
        · rw [own,put_self,funcs_new]
          exact List.nil_sublist _
        · rw [put_other _ own]
      · intro node below
        change _ → ((state.put state.made (DeathCallback.new handle)).nodes node).isRemoteDead = true
        rw [put_other _ (Nat.ne_of_lt below)]
        exact id
    refine sound.calmer calmer ?_ ?_ (fun _ => id) sound.holdsAdd sound.holdsRemove ?_
    · intro node
      change Filled ((state.put state.made (DeathCallback.new handle)).nodes node)
      by_cases own : node = state.made
      · rw [own,put_self]
        exact filled_new handle
      · rw [put_other _ own]
        exact sound.filled node
    · intro node member
      rcases List.mem_cons.mp member with rfl | member
      · exact Nat.lt_succ_self _
      · exact Nat.lt_succ_of_lt (sound.objects node member)
    · intro call
      apply AddFine.unlocked
      cases locked : lockedAdd (state.adds call) with
      | false => exact locked
      | true =>
        have held := sound.holdsAdd call locked
        rw [free] at held
        cases held
  · exact sound

/-- The callback is put into its slot: nobody has seen it before, and no `SendObituary` has passed the node. -/
theorem Sound.fill (sound : Sound state) {handle : Int32} {index : Nat} (place : state.adds call = .filling handle node)
    (alive : (state.nodes node).isRemoteDead = false) (free : freeSlot (state.nodes node).handler = some index) :
    Sound ({ state.put node (setDeathHandlerPair (state.nodes node) index call) with
      cbIds := Function.update state.cbIds call index }.moveAdd call (.counting handle node errNone)) := by
  have held : state.lock = some (.add call) := sound.holdsAdd call (by rw [place]; rfl)
  have fresh : ∀ node, ¬ Mentions state node call := sound.fresh call (by rw [place]; rfl)
  have added : (funcs (setDeathHandlerPair (state.nodes node) index call)).Perm (call :: funcs (state.nodes node)) := set_funcs free
  obtain ⟨known,-⟩ : state.find handle = some node ∧ (state.nodes node).deathNum ≠ maxDeathCallbackNum := by
    have fine := sound.adds call
    rw [place] at fine
    exact fine
  have mentions : ∀ {next : State} {other found : Nat},
      (∀ at_, funcs (next.nodes at_) = funcs ((state.put node (setDeathHandlerPair (state.nodes node) index call)).nodes at_)) →
      next.obituaries = state.obituaries → Mentions next other found →
        Mentions state other found ∨ (other = node ∧ found = call) := by
    intro next other found slots obituaries mentioned
    rcases mentioned with stored | told
    · rw [slots] at stored
      by_cases own : other = node
      · subst own
        rw [put_self] at stored
        rcases List.mem_cons.mp (added.mem_iff.mp stored) with rfl | old
        · exact .inr ⟨rfl,rfl⟩
        · exact .inl (.inl old)
      · rw [put_other _ own] at stored
        exact .inl (.inl stored)
    · rw [obituaries] at told
      exact .inl (.inr told)
  refine ⟨?_,?_,?_,?_,?_,sound.objects,sound.aims,?_,sound.holdsRemove,?_⟩
  · intro other
    change Filled ((state.put node _).nodes other)
    by_cases own : other = node
    · rw [own,put_self]
      exact (sound.filled node).set free
    · rw [put_other _ own]
      exact sound.filled other
  · intro other
    change (funcs ((state.put node _).nodes other)).Nodup
    by_cases own : other = node
    · rw [own,put_self,added.nodup_iff]
      exact List.nodup_cons.mpr ⟨fun stored => fresh node (.inl stored),sound.distinct node⟩
    · rw [put_other _ own]
      exact sound.distinct other
  · intro obituary other calls told
    obtain ⟨dead,once⟩ := sound.told obituary other calls told
    have apart : other ≠ node := by
      rintro rfl
      rw [alive] at dead
      cases dead
    change ((state.put node _).nodes other).isRemoteDead = true ∧ ∀ call ∈ funcs ((state.put node _).nodes other), _
    rw [put_other _ apart]
    exact ⟨dead,once⟩
  · intro found first second mentioned also
    rcases mentions (fun _ => rfl) rfl mentioned with old | ⟨rfl,rfl⟩
    · rcases mentions (fun _ => rfl) rfl also with known | ⟨rfl,rfl⟩
      · exact sound.home found first second old known
      · exact absurd old (fresh first)
    · rcases mentions (fun _ => rfl) rfl also with known | ⟨rfl,-⟩
      · exact absurd known (fresh second)
      · rfl
  · intro other early at_ mentioned
    by_cases own : other = call
    · subst own
      simp only [State.moveAdd,Function.update_self] at early
      cases early
    · simp only [State.moveAdd,Function.update_of_ne own] at early
      rcases mentions (fun _ => rfl) rfl mentioned with old | ⟨-,same⟩
      · exact sound.fresh other early at_ old
      · exact own same
  · intro other
    by_cases own : other = call
    · subst own
      exact fun _ => held
    · simp only [State.moveAdd,Function.update_of_ne own]
      exact sound.holdsAdd other
  · intro other
    by_cases own : other = call
    · subst own
      have stored : Stored ({ state.put node (setDeathHandlerPair (state.nodes node) index other) with
          cbIds := Function.update state.cbIds other index }.moveAdd other (.counting handle node errNone)) node index other := by
        change ((state.put node (setDeathHandlerPair (state.nodes node) index other)).nodes node).handler[index]? = _
        rw [put_self]
        exact List.getElem?_set_self (freeSlot_spec free).1
      have own : (Function.update state.cbIds other index) other = index := Function.update_self ..
      have sameHandle : (setDeathHandlerPair (state.nodes node) index other).handle = (state.nodes node).handle := rfl
      have placed : ({ state.put node (setDeathHandlerPair (state.nodes node) index other) with
          cbIds := Function.update state.cbIds other index }.moveAdd other (.counting handle node errNone)).adds other =
            .counting handle node errNone := Function.update_self ..
      rw [placed]
      refine ⟨rfl,(find_put sameHandle handle).trans known,?_⟩
      change Stored _ node ((Function.update state.cbIds other index) other) other
      rw [own]
      exact stored
    · apply AddFine.unlocked
      simp only [State.moveAdd,Function.update_of_ne own]
      refine sound.alone held ?_
      intro same
      exact own (Holder.add.inj same).symm

end Nodes

section Obituaries
variable {state next : State} {node obituary : Nat}

theorem mentions_moveObituary {place : Obituary} {other call : Nat}
    (mentioned : Mentions (state.moveObituary obituary place) other call) :
    Mentions state other call ∨ ∃ calls, callsOf place = some (other,calls) ∧ some call ∈ calls := by
  rcases mentioned with stored | ⟨teller,calls,told,mem⟩
  · exact .inl (.inl stored)
  · by_cases own : teller = obituary
    · subst own
      simp only [State.moveObituary,Function.update_self] at told
      exact .inr ⟨calls,told,mem⟩
    · simp only [State.moveObituary,Function.update_of_ne own] at told
      exact .inl (.inr ⟨teller,calls,told,mem⟩)

/-- A `SendObituary` goes on: it speaks of callbacks that were known. -/
theorem Sound.moveObituary (sound : Sound state) {place : Obituary} (aims : ∀ node, nodeOf place = some node → node < state.made)
    (told : ∀ node calls, callsOf place = some (node,calls) →
      (state.nodes node).isRemoteDead = true ∧ ∀ call ∈ funcs (state.nodes node), calls.count (some call) = 1)
    (known : ∀ node calls call, callsOf place = some (node,calls) → some call ∈ calls → Mentions state node call) :
    Sound (state.moveObituary obituary place) := by
  have mentions : ∀ {other call : Nat}, Mentions (state.moveObituary obituary place) other call → Mentions state other call := by
    intro other call mentioned
    rcases mentions_moveObituary mentioned with old | ⟨calls,told,mem⟩
    · exact old
    · exact known other calls call told mem
  refine ⟨sound.filled,sound.distinct,?_,?_,?_,sound.objects,?_,sound.holdsAdd,sound.holdsRemove,?_⟩
  · intro teller other calls heard
    by_cases own : teller = obituary
    · subst own
      simp only [State.moveObituary,Function.update_self] at heard
      exact told other calls heard
    · simp only [State.moveObituary,Function.update_of_ne own] at heard
      exact sound.told teller other calls heard
  · exact fun call first second mentioned also => sound.home call first second (mentions mentioned) (mentions also)
  · exact fun call early other mentioned => sound.fresh call early other (mentions mentioned)
  · intro teller other aimed
    by_cases own : teller = obituary
    · subst own
      simp only [State.moveObituary,Function.update_self] at aimed
      exact aims other aimed
    · simp only [State.moveObituary,Function.update_of_ne own] at aimed
      exact sound.aims teller other aimed
  · exact fun call => (sound.adds call).same ⟨fun _ => rfl,fun _ => rfl,fun _ => rfl,rfl⟩

theorem Sound.onward (sound : Sound state) {before after : Obituary} (stage : state.obituaries obituary = before)
    (calls : callsOf after = callsOf before) (aim : nodeOf after = nodeOf before) : Sound (state.moveObituary obituary after) := by
  subst stage
  refine sound.moveObituary ?_ ?_ ?_
  · rw [aim]
    exact sound.aims obituary
  · rw [calls]
    exact sound.told obituary
  · rw [calls]
    exact fun node calls call told mem => .inr ⟨obituary,calls,told,mem⟩

theorem stepObituary_sound (sound : Sound state) (taken : state.stepObituary obituary = some next) : Sound next := by
  cases stage : state.obituaries obituary with
  | unstarted | returned _ _ =>
    simp only [State.stepObituary,stage] at taken
    cases taken
  | locking node =>
    simp only [State.stepObituary,stage,Option.some.injEq] at taken
    subst taken
    have filled := sound.filled node
    have marked : Sound (state.put node { state.nodes node with isRemoteDead := true }) := sound.put rfl rfl rfl fun _ => rfl
    have slots : funcs ((state.put node { state.nodes node with isRemoteDead := true }).nodes node) = funcs (state.nodes node) := by
      rw [put_self]
      rfl
    refine marked.moveObituary ?_ ?_ ?_
    · intro other aimed
      cases aimed
      exact sound.aims obituary node (by rw [stage]; rfl)
    · intro other calls told
      cases told
      refine ⟨by rw [put_self],?_⟩
      rw [slots,filled.copyHandlers,List.nil_append]
      intro call stored
      rw [List.count_map_of_injective _ _ (fun _ _ => Option.some.inj)]
      exact List.count_eq_one_of_mem (sound.distinct node) stored
    · intro other calls call told mem
      cases told
      rw [filled.copyHandlers,List.nil_append,List.mem_map] at mem
      obtain ⟨found,stored,same⟩ := mem
      cases same
      left
      rw [slots]
      exact stored
  | calling node called left =>
    cases left with
    | nil =>
      simp only [State.stepObituary,stage,Option.some.injEq] at taken
      subst taken
      exact sound.onward stage (by simp only [callsOf,List.append_nil]) rfl
    | cons func left =>
      simp only [State.stepObituary,stage,Option.some.injEq] at taken
      subst taken
      exact sound.onward stage (by simp only [callsOf,List.append_assoc,List.singleton_append]) rfl

end Obituaries

section Steps
variable {state next : State} {call : Nat} {choice : Bool} {answer : Option Int32}

theorem Sound.release (sound : Sound state) {handle ret : Int32} (place : state.adds call = .unlocking handle ret) :
    Sound ((state.withLock none).moveAdd call (.returned handle ret)) := by
  have held : state.lock = some (.add call) := sound.holdsAdd call (by rw [place]; rfl)
  have moved : Sound (state.moveAdd call (.returned handle ret)) := by
    refine sound.moveAdd _ ?_ trivial ?_
    · intro locked
      cases locked
    · rw [place]
      exact id
  refine moved.withLock ?_ ?_
  · intro other locked
    have also := moved.holdsAdd other locked
    have lock : (state.moveAdd call (.returned handle ret)).lock = state.lock := rfl
    rw [lock,held] at also
    obtain rfl : call = other := Holder.add.inj (Option.some.inj also)
    simp only [State.moveAdd,Function.update_self] at locked
    cases locked
  · intro other locked
    have also := sound.holdsRemove other locked
    rw [held] at also
    cases also

theorem Sound.releaseRemove (sound : Sound state) {handle ret : Int32} (place : state.removes call = .unlocking handle ret) :
    Sound ((state.withLock none).moveRemove call (.returned handle ret)) := by
  have held : state.lock = some (.remove call) := sound.holdsRemove call (by rw [place]; rfl)
  have moved : Sound (state.moveRemove call (.returned handle ret)) := by
    refine sound.moveRemove _ ?_
    intro locked
    cases locked
  refine moved.withLock ?_ ?_
  · intro other locked
    have also := sound.holdsAdd other locked
    rw [held] at also
    cases also
  · intro other locked
    have also := moved.holdsRemove other locked
    have lock : (state.moveRemove call (.returned handle ret)).lock = state.lock := rfl
    rw [lock,held] at also
    obtain rfl : call = other := Holder.remove.inj (Option.some.inj also)
    simp only [State.moveRemove,Function.update_self] at locked
    cases locked

theorem addStep_sound (sound : Sound state) (listened : met state (.add call choice answer) = true)
    (step : AddStep state call answer (state.adds call) next) : Sound next := by
  have fine := sound.adds call
  have held := sound.holdsAdd call
  generalize place : state.adds call = add at step fine held
  cases step with
  | locks free =>
    refine (sound.acquire free (.add call)).moveAdd _ (fun _ => rfl) trivial fun _ => ?_
    change unfilled (state.adds call) = true
    rw [place]
    rfl
  | fails =>
    refine sound.moveAdd _ ?_ trivial fun _ => by rw [place]; rfl
    intro locked
    cases locked
  | absent unknown =>
    simp only [met,place,unknown] at listened
    cases listened
  | refuses failed => exact sound.moveAdd _ (fun _ => held rfl) (fun same => absurd same failed) fun _ => by rw [place]; rfl
  | finds known room => exact sound.moveAdd _ (fun _ => held rfl) ⟨known,room⟩ fun _ => by rw [place]; rfl
  | misses full =>
    obtain ⟨index,free⟩ := (sound.filled _).freeSlot fine.2
    rw [full] at free
    cases free
  | fills free =>
    simp only [met,place,Bool.not_eq_true'] at listened
    exact sound.fill place listened free
  | first =>
    obtain ⟨-,known,stored⟩ := fine
    have moved := sound.moveAdd (.registering _ _) (fun _ => held rfl) ⟨known,stored⟩ (by intro early; cases early)
    exact moved.put rfl rfl rfl id
  | @later _ _ node =>
    obtain ⟨rfl,known,stored⟩ := fine
    refine sound.moveAdd _ (fun _ => held rfl) (fun _ => ⟨node,known,stored⟩) ?_
    intro early
    cases early
  | @registers _ node =>
    simp only [met,place,decide_eq_true_eq] at listened
    rw [listened]
    refine sound.moveAdd _ (fun _ => held rfl) (fun _ => ⟨node,fine⟩) ?_
    intro early
    cases early
  | unlocks => exact sound.release place

theorem removeStep_sound (sound : Sound state) (step : RemoveStep state call (state.removes call) next) : Sound next := by
  have held := sound.holdsRemove call
  generalize place : state.removes call = remove at step held
  cases step with
  | locks free => exact (sound.acquire free (.remove call)).moveRemove _ fun _ => rfl
  | fails =>
    refine sound.moveRemove _ ?_
    intro locked
    cases locked
  | refuses | finds | misses => exact sound.moveRemove _ fun _ => held rfl
  | clears stored => exact (sound.clear (held rfl) stored).moveRemove _ fun _ => held rfl
  | unlocks => exact sound.releaseRemove place

theorem step_sound {event : Event} (sound : Sound state) (taken : guarded (fires State.step) (fun state event => met state event = true) state event next) :
    Sound next := by
  obtain ⟨listened,fired⟩ := taken
  cases taken_of_step fired with
  | @makes handle choice free => exact addObject_sound sound free handle choice
  | beginsAdd unstarted start =>
    refine sound.moveAdd _ ?_ ?_ fun _ => by rw [unstarted]; rfl
    · rcases start with rfl | rfl <;> exact fun locked => by cases locked
    · rcases start with rfl | rfl <;> trivial
  | adds step => exact addStep_sound sound listened step
  | beginsRemove unstarted start =>
    refine sound.moveRemove _ ?_
    rcases start with rfl | rfl <;> exact fun locked => by cases locked
  | removes step => exact removeStep_sound sound step
  | @tells obituary node able =>
    refine sound.moveObituary ?_ ?_ ?_
    · intro other aimed
      cases aimed
      exact sound.objects node able
    · intro other calls told
      cases told
    · intro other calls call told
      cases told
  | told step => exact stepObituary_sound sound step

end Steps

/-- Every `AddDeathRecipient` that returns has `ERR_NONE` exactly if its callback is in slot `*cbId` of the node of its
handle. -/
def StoredOnSuccess (state next : State) : Prop :=
  ∀ call handle ret, next.adds call = .returned handle ret → state.adds call = .returned handle ret ∨
    (ret = errNone ↔ ∃ node, next.find handle = some node ∧ Stored next node (next.cbIds call) call)

/-- What is in a slot after a `SendObituary` of its node has been called once by it, and by no other node's. -/
def CalledOnce (state : State) : Prop :=
  ∀ obituary node called, state.obituaries obituary = .returned node called →
    (∀ index call, Stored state node index call → called.count (some call) = 1) ∧
      ∀ other index call, other ≠ node → Stored state other index call → some call ∉ called

def SameSlot (state next : State) (node : Nat) : Prop :=
  (next.nodes node).handler = (state.nodes node).handler ∧ (next.nodes node).deathNum = (state.nodes node).deathNum

/-- A step that changes a slot belongs to a call that does not fail. -/
def ChangedOnSuccess (state : State) (event : Event) (next : State) : Prop :=
  (∀ node ∈ state.objects, SameSlot state next node) ∨
    (∃ call choice answer, event = .add call choice answer ∧
      ∀ events final, Reaches (guarded (fires State.step) (fun state event => met state event = true)) next events final →
        ∀ handle ret, final.adds call = .returned handle ret → ret = errNone) ∨
    ∃ call choice, event = .remove call choice ∧
      ∀ events final, Reaches (guarded (fires State.step) (fun state event => met state event = true)) next events final →
        ∀ handle ret, final.removes call = .returned handle ret → ret = errNone

theorem Sound.calledOnce {state : State} (sound : Sound state) : CalledOnce state := by
  intro obituary node called returned
  have told : callsOf (state.obituaries obituary) = some (node,called) := by
    rw [returned]
    rfl
  refine ⟨?_,?_⟩
  · intro index call stored
    exact (sound.told obituary node called told).2 call (mem_funcs stored)
  · intro other index call apart stored mem
    exact apart (sound.home call other node (.inl (mem_funcs stored)) (.inr ⟨obituary,called,told,mem⟩))

section Others
variable {state next : State} {call other : Nat} {choice : Bool} {answer : Option Int32}

theorem moveAdd_other (add : Add) (apart : other ≠ call) : (state.moveAdd call add).adds other = state.adds other :=
  Function.update_of_ne apart ..

theorem moveAdd_self (add : Add) : (state.moveAdd call add).adds call = add := Function.update_self ..

theorem moveRemove_self (remove : Remove) : (state.moveRemove call remove).removes call = remove := Function.update_self ..

theorem addStep_others {add : Add} (step : AddStep state call answer add next) :
    (∀ other, other ≠ call → next.adds other = state.adds other) ∧ next.removes = state.removes := by
  cases step <;> exact ⟨fun _ => moveAdd_other _,rfl⟩

theorem removeStep_others {remove : Remove} (step : RemoveStep state call remove next) :
    next.adds = state.adds ∧ ∀ other, other ≠ call → next.removes other = state.removes other := by
  cases step <;> exact ⟨rfl,fun _ apart => Function.update_of_ne apart ..⟩

theorem sameSlot_put {node : Nat} {changed : DeathCallback} (handler : changed.handler = (state.nodes node).handler)
    (deathNum : changed.deathNum = (state.nodes node).deathNum) (other : Nat) : SameSlot state (state.put node changed) other := by
  unfold SameSlot
  by_cases own : other = node
  · rw [own,put_self]
    exact ⟨handler,deathNum⟩
  · rw [put_other _ own]
    exact ⟨rfl,rfl⟩

theorem stepObituary_calls {obituary : Nat} (taken : state.stepObituary obituary = some next) :
    next.adds = state.adds ∧ next.removes = state.removes ∧ ∀ node, SameSlot state next node := by
  cases stage : state.obituaries obituary with
  | unstarted | returned _ _ =>
    simp only [State.stepObituary,stage] at taken
    cases taken
  | locking node =>
    simp only [State.stepObituary,stage,Option.some.injEq] at taken
    subst taken
    exact ⟨rfl,rfl,sameSlot_put rfl rfl⟩
  | calling node called left =>
    cases left with
    | nil =>
      simp only [State.stepObituary,stage,Option.some.injEq] at taken
      subst taken
      exact ⟨rfl,rfl,fun _ => ⟨rfl,rfl⟩⟩
    | cons func left =>
      simp only [State.stepObituary,stage,Option.some.injEq] at taken
      subst taken
      exact ⟨rfl,rfl,fun _ => ⟨rfl,rfl⟩⟩

theorem addObject_calls (state : State) (handle : Int32) (choice : Bool) :
    (state.addObject handle choice).adds = state.adds ∧ (state.addObject handle choice).removes = state.removes := by
  rw [State.addObject]
  split
  · exact ⟨rfl,rfl⟩
  split
  · exact ⟨rfl,rfl⟩
  · exact ⟨rfl,rfl⟩

theorem step_adds {event : Event} (started : state.adds call ≠ .unstarted) (apart : ∀ choice answer, event ≠ .add call choice answer)
    (taken : fires State.step state event next) : next.adds call = state.adds call := by
  cases taken_of_step taken with
  | makes => rw [(addObject_calls state _ _).1]
  | beginsAdd unstarted =>
    refine moveAdd_other _ ?_
    rintro rfl
    exact started unstarted
  | adds step =>
    refine (addStep_others step).1 call ?_
    rintro rfl
    exact apart _ _ rfl
  | beginsRemove => rfl
  | removes step => rw [(removeStep_others step).1]
  | tells => rfl
  | told step => rw [(stepObituary_calls step).1]

theorem step_removes {event : Event} (started : state.removes call ≠ .unstarted) (apart : ∀ choice, event ≠ .remove call choice)
    (taken : fires State.step state event next) : next.removes call = state.removes call := by
  cases taken_of_step taken with
  | makes => rw [(addObject_calls state _ _).2]
  | beginsAdd => rfl
  | adds step => rw [(addStep_others step).2]
  | beginsRemove unstarted =>
    refine Function.update_of_ne ?_ ..
    rintro rfl
    exact started unstarted
  | removes step =>
    refine (removeStep_others step).2 call ?_
    rintro rfl
    exact apart _ rfl
  | tells => rfl
  | told step => rw [(stepObituary_calls step).2.1]

end Others

/-- The clearing of a slot is done: the call can only succeed. -/
def cleared : Remove → Bool
  | .unlocking _ ret | .returned _ ret => decide (ret = errNone)
  | _ => false

section Success
variable {state next : State} {call : Nat} {choice : Bool} {answer : Option Int32}

theorem addStep_filled (sound : Sound state) (listened : met state (.add call choice answer) = true)
    (filled : unfilled (state.adds call) = false) (step : AddStep state call answer (state.adds call) next) :
    unfilled (next.adds call) = false := by
  have fine := sound.adds call
  generalize place : state.adds call = add at step fine filled
  cases step with
  | locks | fails | absent | refuses | finds | misses | fills => cases filled
  | first => rw [moveAdd_self]; rfl
  | later =>
    rw [moveAdd_self,fine.1]
    rfl
  | registers =>
    simp only [met,place,decide_eq_true_eq] at listened
    rw [moveAdd_self,listened]
    rfl
  | unlocks =>
    rw [moveAdd_self]
    exact filled

theorem step_filled {event : Event} (sound : Sound state) (filled : unfilled (state.adds call) = false)
    (taken : guarded (fires State.step) (fun state event => met state event = true) state event next) :
    unfilled (next.adds call) = false := by
  obtain ⟨listened,fired⟩ := taken
  by_cases own : ∃ choice answer, event = .add call choice answer
  · obtain ⟨choice,answer,rfl⟩ := own
    exact addStep_filled sound listened filled (addStep_of_taken fired)
  · have started : state.adds call ≠ .unstarted := by
      intro unstarted
      rw [unstarted] at filled
      cases filled
    rw [step_adds started (fun choice answer same => own ⟨choice,answer,same⟩) fired]
    exact filled

theorem removeStep_cleared (done : cleared (state.removes call) = true) (step : RemoveStep state call (state.removes call) next) :
    cleared (next.removes call) = true := by
  generalize state.removes call = remove at step done
  cases step with
  | locks | fails | refuses | finds | clears | misses => cases done
  | unlocks =>
    rw [moveRemove_self]
    exact done

theorem step_cleared {event : Event} (done : cleared (state.removes call) = true) (taken : fires State.step state event next) :
    cleared (next.removes call) = true := by
  by_cases own : ∃ choice, event = .remove call choice
  · obtain ⟨choice,rfl⟩ := own
    exact removeStep_cleared done (removeStep_of_taken taken)
  · have started : state.removes call ≠ .unstarted := by
      intro unstarted
      rw [unstarted] at done
      cases done
    rw [step_removes started (fun choice same => own ⟨choice,same⟩) taken]
    exact done

theorem run_filled {final : State} {events : List Event} (sound : Sound state) (filled : unfilled (state.adds call) = false)
    (run : Reaches (guarded (fires State.step) (fun state event => met state event = true)) state events final) {handle ret : Int32}
    (returned : final.adds call = .returned handle ret) : ret = errNone := by
  have kept := run.invariant (fun state => Sound state ∧ unfilled (state.adds call) = false) ⟨sound,filled⟩
    (fun _ _ _ before taken => ⟨step_sound before.1 taken,step_filled before.1 before.2 taken⟩)
  have done := kept.2
  rw [returned] at done
  simpa [unfilled] using done

theorem run_cleared {final : State} {events : List Event} (done : cleared (state.removes call) = true)
    (run : Reaches (guarded (fires State.step) (fun state event => met state event = true)) state events final) {handle ret : Int32}
    (returned : final.removes call = .returned handle ret) : ret = errNone := by
  have kept := run.invariant (fun state => cleared (state.removes call) = true) done
    (fun _ _ _ before taken => step_cleared before taken.2)
  rw [returned] at kept
  exact of_decide_eq_true kept

theorem addStep_slots {add : Add} (step : AddStep state call answer add next) :
    (∀ node, SameSlot state next node) ∨ unfilled (next.adds call) = false := by
  cases step with
  | locks | fails | absent | refuses | finds | later | registers | unlocks => exact .inl fun _ => ⟨rfl,rfl⟩
  | misses | fills =>
    right
    rw [moveAdd_self]
    rfl
  | @first _ _ node =>
    exact .inl (sameSlot_put rfl rfl)

theorem removeStep_slots {remove : Remove} (step : RemoveStep state call remove next) :
    (∀ node, SameSlot state next node) ∨ cleared (next.removes call) = true := by
  cases step with
  | locks | fails | refuses | finds | misses | unlocks => exact .inl fun _ => ⟨rfl,rfl⟩
  | clears =>
    right
    rw [moveRemove_self]
    rfl

theorem step_changes {event : Event} (sound : Sound state)
    (taken : guarded (fires State.step) (fun state event => met state event = true) state event next) : ChangedOnSuccess state event next := by
  have after := step_sound sound taken
  cases taken_of_step taken.2 with
  | makes =>
    left
    intro node member
    rw [SameSlot,State.addObject]
    split
    · exact ⟨rfl,rfl⟩
    split
    · have apart : node ≠ state.made := Nat.ne_of_lt (sound.objects node member)
      change ((state.put state.made _).nodes node).handler = _ ∧ ((state.put state.made _).nodes node).deathNum = _
      rw [put_other _ apart]
      exact ⟨rfl,rfl⟩
    · exact ⟨rfl,rfl⟩
  | beginsAdd | beginsRemove | tells => exact .inl fun _ _ => ⟨rfl,rfl⟩
  | @adds call choice answer _ step =>
    rcases addStep_slots step with same | filled
    · exact .inl fun node _ => same node
    · exact .inr (.inl ⟨call,choice,answer,rfl,fun events final run handle ret returned => run_filled after filled run returned⟩)
  | @removes call choice _ step =>
    rcases removeStep_slots step with same | done
    · exact .inl fun node _ => same node
    · exact .inr (.inr ⟨call,choice,rfl,fun events final run handle ret returned => run_cleared done run returned⟩)
  | told step => exact .inl fun node _ => (stepObituary_calls step).2.2 node

theorem addStep_returns (sound : Sound state) {handle : Int32} (step : AddStep state call answer (state.adds call) next)
    (returned : next.adds call = .returned handle errNone) :
    ∃ node, next.find handle = some node ∧ Stored next node (next.cbIds call) call := by
  have fine := sound.adds call
  generalize state.adds call = add at step fine
  cases step with
  | locks | fails | absent | refuses | finds | misses | fills | first | later | registers =>
    rw [moveAdd_self] at returned
    cases returned
  | unlocks =>
    rw [moveAdd_self] at returned
    obtain ⟨rfl,rfl⟩ := Add.returned.inj returned
    exact fine rfl

theorem step_begins {event : Event} (unstarted : state.adds call = .unstarted) (taken : fires State.step state event next) :
    next.adds call = .unstarted ∨ (∃ handle, next.adds call = .locking handle) ∨ ∃ handle, next.adds call = .returned handle errInvalidParam := by
  cases taken_of_step taken with
  | makes =>
    rw [(addObject_calls state _ _).1]
    exact .inl unstarted
  | @beginsAdd other handle _ _ _ _ start =>
    by_cases same : call = other
    · subst same
      rcases start with rfl | rfl
      · exact .inr (.inr ⟨handle,moveAdd_self _⟩)
      · exact .inr (.inl ⟨handle,moveAdd_self _⟩)
    · left
      rw [moveAdd_other _ same,unstarted]
  | @adds other _ answer _ step =>
    left
    by_cases same : call = other
    · subst same
      rw [unstarted] at step
      cases step
    · rw [(addStep_others step).1 call same,unstarted]
  | beginsRemove | tells => exact .inl unstarted
  | removes step =>
    rw [(removeStep_others step).1]
    exact .inl unstarted
  | told step =>
    rw [(stepObituary_calls step).1]
    exact .inl unstarted

theorem step_stores {event : Event} (sound : Sound state)
    (taken : guarded (fires State.step) (fun state event => met state event = true) state event next) : StoredOnSuccess state next := by
  intro call handle ret returned
  have after := step_sound sound taken
  by_cases success : ret = errNone
  · subst success
    by_cases own : ∃ choice answer, event = .add call choice answer
    · obtain ⟨choice,answer,rfl⟩ := own
      exact .inr ⟨fun _ => addStep_returns sound (addStep_of_taken taken.2) returned,fun _ => rfl⟩
    · left
      by_cases unstarted : state.adds call = .unstarted
      · rcases step_begins unstarted taken.2 with still | ⟨given,locking⟩ | ⟨given,failed⟩
        · rw [still] at returned
          cases returned
        · rw [locking] at returned
          cases returned
        · rw [failed] at returned
          cases returned
      · rw [← step_adds unstarted (fun choice answer same => own ⟨choice,answer,same⟩) taken.2]
        exact returned
  · right
    refine ⟨fun same => absurd same success,?_⟩
    rintro ⟨node,-,stored⟩
    have failed : unfilled (next.adds call) = true := by
      rw [returned]
      simpa [unfilled] using success
    exact absurd (.inl (mem_funcs stored)) (after.fresh call failed node)

end Success

theorem met_registrations_kept {events : List Event} {state : State}
    (run : Reaches (guarded (fires State.step) (fun state event => met state event = true)) State.new events state) :
    (∀ node, (state.nodes node).deathNum = used (state.nodes node)) ∧ CalledOnce state ∧
      ∀ event next, guarded (fires State.step) (fun state event => met state event = true) state event next →
        StoredOnSuccess state next ∧ ChangedOnSuccess state event next := by
  have sound := run.invariant Sound sound_new (fun _ _ _ sound taken => step_sound sound taken)
  exact ⟨fun node => (sound.filled node).deathNum,sound.calledOnce,
    fun event next taken => ⟨step_stores sound taken,step_changes sound taken⟩⟩

/-- Two callbacks of one object, of which one is removed before the object dies. -/
def metObituary : List Event :=
  List.flatten [[.firstAddObject 7 true,.processAddDeathRecipient 0 7 true true],List.replicate 6 (.add 0 true (some errNone)),
    [.processAddDeathRecipient 1 7 true true],List.replicate 5 (.add 1 true none),
    [.processRemoveDeathRecipient 0 7 0],List.replicate 4 (.remove 0 true),[.sendObituary 0 0],List.replicate 3 (.obituary 0)]

theorem met_registrations_kept_two :
    ∃ state, Reaches (guarded (fires State.step) (fun state event => met state event = true)) State.new metObituary state ∧
      (state.adds 1 = .returned 7 errNone ∧ state.removes 0 = .returned 7 errNone ∧ state.obituaries 0 = .returned 0 [some 1]) ∧
      (∀ node, (state.nodes node).deathNum = used (state.nodes node)) ∧ CalledOnce state ∧
      ∀ event next, guarded (fires State.step) (fun state event => met state event = true) state event next →
        StoredOnSuccess state next ∧ ChangedOnSuccess state event next := by
  obtain ⟨state,run,reached⟩ := Reaches.exists_of_foldlM_guarded State.step (fun state event => met state event = true) State.new
    metObituary (fun state => decide (state.adds 1 = .returned 7 errNone ∧ state.removes 0 = .returned 7 errNone ∧
      state.obituaries 0 = .returned 0 [some 1])) (by decide)
  exact ⟨state,run,of_decide_eq_true reached,met_registrations_kept run⟩

/-- A handle that has no node. -/
def unknownHandle : List Event :=
  .processAddDeathRecipient 0 7 true true :: List.replicate 2 (.add 0 true none)

theorem unknown_handle_succeeds :
    ∃ state next, Reaches (fires State.step) State.new unknownHandle state ∧ fires State.step state (.add 0 true none) next ∧
      (next.adds 0 = .returned 7 errNone ∧ next.find 7 = none) ∧ ¬ StoredOnSuccess state next := by
  obtain ⟨state,run,reached⟩ := Reaches.exists_of_foldlM State.step State.new unknownHandle
    (fun state => decide (state.adds 0 = .unlocking 7 errNone ∧ state.find 7 = none)) (by decide)
  obtain ⟨place,absent⟩ := of_decide_eq_true reached
  have returned : ((state.withLock none).moveAdd 0 (.returned 7 errNone)).adds 0 = .returned 7 errNone := moveAdd_self _
  refine ⟨state,(state.withLock none).moveAdd 0 (.returned 7 errNone),run,?_,⟨returned,absent⟩,?_⟩
  · simp only [fires,State.step,State.stepAdd,place]
  · intro stores
    rcases stores 0 7 errNone returned with before | stored
    · rw [place] at before
      cases before
    · obtain ⟨node,found,-⟩ := stored.mp rfl
      have none_ : ((state.withLock none).moveAdd 0 (.returned 7 errNone)).find 7 = none := absent
      rw [none_] at found
      cases found

end CommunicationIpc.LiteDeathRecipients
