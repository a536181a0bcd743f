import CommunicationIpc.Kernel.ProxySessions
import Mathlib.Algebra.Order.Ring.Nat
import Mathlib.Logic.Function.Iterate

/-! Which handles `GetDBinderIdleHandle` comes to: from the last one on it makes one turn fewer than there are handles, so the last
one itself is not tried. -/
namespace CommunicationIpc.IdleHandle
open CommunicationIpc.Kernel.ProxySessions CommunicationIpc.Kernel.ProxySessions.Skeleton

section Range
variable {handle start : UInt32}

theorem byUser_iff : isHandleMadeByUser handle = true ↔ 687200000 ≤ handle.toNat ∧ handle.toNat ≤ 687300000 := by
  unfold isHandleMadeByUser
  rw [decide_eq_true_iff,ge_iff_le,UInt32.le_iff_toNat_le,UInt32.le_iff_toNat_le]
  exact Iff.rfl

theorem nextHandle_toNat (own : isHandleMadeByUser handle = true) :
    (nextHandle handle).toNat = if handle.toNat = 687300000 then 687200000 else handle.toNat+1 := by
  obtain ⟨low,high⟩ := byUser_iff.mp own
  have next : (handle+1).toNat = handle.toNat+1 := by
    rw [UInt32.toNat_add]
    exact Nat.mod_eq_of_lt (Nat.lt_of_le_of_lt (Nat.add_le_add_right high 1) (by decide))
  have beyond : handle+1 > dbinderHandleBase+UInt32.ofNat dbinderHandleCount ↔ handle.toNat = 687300000 := by
    rw [gt_iff_lt,UInt32.lt_iff_toNat_lt,next]
    change 687300000 < handle.toNat+1 ↔ _
    omega
  rw [nextHandle]
  by_cases last : handle.toNat = 687300000
  · rw [if_pos (beyond.mpr last),if_pos last]
    rfl
  · rw [if_neg (mt beyond.mp last),if_neg last,next]

theorem iterate_toNat (own : isHandleMadeByUser start = true) (turns : Nat) :
    (nextHandle^[turns] start).toNat = 687200000+(start.toNat-687200000+turns) % 100001 := by
  have bounds := byUser_iff.mp own
  induction turns with
  | zero =>
    rw [Function.iterate_zero,id,Nat.mod_eq_of_lt (by omega)]
    omega
  | succ turns ih =>
    have inside : isHandleMadeByUser (nextHandle^[turns] start) = true := by
      rw [byUser_iff,ih]
      omega
    rw [Function.iterate_succ_apply',nextHandle_toNat inside,ih]
    split
    · omega
    · omega

theorem iterate_byUser (own : isHandleMadeByUser start = true) (turns : Nat) : isHandleMadeByUser (nextHandle^[turns] start) = true := by
  rw [byUser_iff,iterate_toNat own]
  omega

/-- Every other handle is come to within the turns of the loop. -/
theorem exists_turn (own : isHandleMadeByUser start = true) (user : isHandleMadeByUser handle = true) (other : handle ≠ start) :
    ∃ turn < dbinderHandleCount, nextHandle^[turn+1] start = handle := by
  have begins := byUser_iff.mp own
  have ends := byUser_iff.mp user
  have apart : handle.toNat ≠ start.toNat := fun same => other (UInt32.toNat_inj.mp same)
  have reached (turn : Nat) (lands : (start.toNat-687200000+(turn+1)) % 100001 = handle.toNat-687200000) :
      nextHandle^[turn+1] start = handle := by
    rw [← UInt32.toNat_inj,iterate_toNat own,lands]
    omega
  unfold dbinderHandleCount
  by_cases ahead : start.toNat < handle.toNat
  · exact ⟨handle.toNat-start.toNat-1,by omega,reached _ (by omega)⟩
  · exact ⟨handle.toNat+100001-start.toNat-1,by omega,reached _ (by omega)⟩

theorem turn_other (own : isHandleMadeByUser start = true) {turn : Nat} (few : turn < dbinderHandleCount) :
    nextHandle^[turn+1] start ≠ start := by
  intro back
  have begins := byUser_iff.mp own
  have same := congrArg UInt32.toNat back
  rw [iterate_toNat own] at same
  unfold dbinderHandleCount at few
  omega

end Range

section Insert
variable {skeleton : Skeleton} {handle other : UInt32} {session : Nat}

theorem insert_taken (taken : skeleton.find handle ≠ none) : skeleton.insert handle session = (skeleton,false) := by
  rw [Skeleton.insert]
  split
  · rfl
  · exact absurd ‹_› taken

theorem find_insert (session : Nat) (free : skeleton.find handle = none) :
    ∃ after, skeleton.insert handle session = (after,true) ∧ after.find handle = some session ∧
      ∀ other, other ≠ handle → after.find other = skeleton.find other := by
  have absent : skeleton.proxyToSession.find? (fun entry => entry.1 = handle) = none := Option.map_eq_none_iff.mp free
  obtain ⟨front,back,parts,inserted⟩ : ∃ front back, skeleton.proxyToSession = front ++ back ∧
      skeleton.proxyToSession.orderedInsert (fun left right => left.1 ≤ right.1) (handle,session) = front ++ (handle,session) :: back :=
    ⟨_,_,(List.takeWhile_append_dropWhile).symm,List.orderedInsert_eq_take_drop _ _ _⟩
  refine ⟨_,by rw [Skeleton.insert,free],?_,?_⟩
  · rw [Skeleton.find]
    dsimp only
    rw [inserted,List.find?_append]
    rw [parts,List.find?_append,Option.or_eq_none_iff] at absent
    rw [absent.1,Option.none_or,List.find?_cons_of_pos (by simp)]
    rfl
  · intro other apart
    rw [Skeleton.find,Skeleton.find]
    dsimp only
    rw [inserted,parts,List.find?_append,List.find?_append,List.find?_cons_of_neg (by simpa using apart.symm)]

end Insert

section Loop
variable {skeleton : Skeleton} {session : Nat} {start : UInt32}

theorem tryHandles_cases (skeleton : Skeleton) (session count : Nat) (start : UInt32) :
    (∃ turn < count, skeleton.find (nextHandle^[turn+1] start) = none ∧
      skeleton.tryHandles session count start = ({ (skeleton.insert (nextHandle^[turn+1] start) session).1 with
        dBinderHandle := nextHandle^[turn+1] start },nextHandle^[turn+1] start)) ∨
    (∀ turn < count, skeleton.find (nextHandle^[turn+1] start) ≠ none) ∧ skeleton.tryHandles session count start = (skeleton,0) := by
  induction count generalizing start with
  | zero => exact .inr ⟨fun turn few => absurd few (Nat.not_lt_zero _),rfl⟩
  | succ count ih =>
    by_cases free : skeleton.find (nextHandle start) = none
    · obtain ⟨after,inserted,-⟩ := find_insert session free
      refine .inl ⟨0,Nat.succ_pos _,free,?_⟩
      rw [tryHandles,Function.iterate_one,inserted]
    · have onward : skeleton.tryHandles session (count+1) start = skeleton.tryHandles session count (nextHandle start) := by
        rw [tryHandles,insert_taken free]
      rw [onward]
      rcases ih (nextHandle start) with ⟨turn,few,idle,result⟩ | ⟨taken,result⟩
      · exact .inl ⟨turn+1,Nat.succ_lt_succ few,idle,result⟩
      · refine .inr ⟨?_,result⟩
        intro turn few
        cases turn with
        | zero => exact free
        | succ turn => exact taken turn (Nat.lt_of_succ_lt_succ few)

end Loop

section Allocation
variable {skeleton : Skeleton} {session : Nat}

/-- The map has an entry for every handle. -/
def Full (skeleton : Skeleton) : Prop := ∀ handle, isHandleMadeByUser handle = true → skeleton.find handle ≠ none

/-- A free handle is found whenever there is one, and is mapped to the session. -/
structure Allocates (skeleton : Skeleton) (session : Nat) (after : Skeleton) (handle : UInt32) : Prop where
  none_iff : handle = 0 ↔ Full skeleton
  byUser : handle ≠ 0 → isHandleMadeByUser handle = true
  free : handle ≠ 0 → skeleton.find handle = none
  mapped : handle ≠ 0 → after.find handle = some session
  kept : ∀ other, other ≠ handle → after.find other = skeleton.find other

theorem zero_not_byUser : isHandleMadeByUser 0 = false := by decide

theorem getDBinderIdleHandle_found (own : isHandleMadeByUser skeleton.dBinderHandle = true) {handle : UInt32}
    (user : isHandleMadeByUser handle = true) (other : handle ≠ skeleton.dBinderHandle) (free : skeleton.find handle = none) :
    Allocates skeleton session (skeleton.getDBinderIdleHandle session).1 (skeleton.getDBinderIdleHandle session).2 := by
  obtain ⟨turn,few,here⟩ := exists_turn own user other
  rcases tryHandles_cases skeleton session dbinderHandleCount skeleton.dBinderHandle with ⟨found,-,idle,result⟩ | ⟨taken,-⟩
  · rw [getDBinderIdleHandle,result]
    obtain ⟨after,inserted,mapped,kept⟩ := find_insert session idle
    have inside := iterate_byUser own (found+1)
    have some_ : nextHandle^[found+1] skeleton.dBinderHandle ≠ 0 := by
      intro zero
      rw [zero,zero_not_byUser] at inside
      cases inside
    rw [inserted]
    refine ⟨iff_of_false some_ fun full => full handle user free,fun _ => inside,fun _ => idle,fun _ => mapped,kept⟩
  · exact absurd (here ▸ free) (taken turn few)

theorem getDBinderIdleHandle_none (own : isHandleMadeByUser skeleton.dBinderHandle = true)
    (taken : ∀ handle, isHandleMadeByUser handle = true → handle ≠ skeleton.dBinderHandle → skeleton.find handle ≠ none) :
    skeleton.getDBinderIdleHandle session = (skeleton,0) := by
  rcases tryHandles_cases skeleton session dbinderHandleCount skeleton.dBinderHandle with ⟨turn,few,idle,-⟩ | ⟨-,result⟩
  · exact absurd idle (taken _ (iterate_byUser own _) (turn_other own few))
  · exact result

theorem idle_handle_iff (own : isHandleMadeByUser skeleton.dBinderHandle = true) (session : Nat) :
    Allocates skeleton session (skeleton.getDBinderIdleHandle session).1 (skeleton.getDBinderIdleHandle session).2 ↔
      skeleton.find skeleton.dBinderHandle ≠ none ∨
        ∃ handle, isHandleMadeByUser handle = true ∧ handle ≠ skeleton.dBinderHandle ∧ skeleton.find handle = none := by
  by_cases room : ∃ handle, isHandleMadeByUser handle = true ∧ handle ≠ skeleton.dBinderHandle ∧ skeleton.find handle = none
  · obtain ⟨handle,user,other,free⟩ := room
    exact iff_of_true (getDBinderIdleHandle_found own user other free) (.inr ⟨handle,user,other,free⟩)
  · have taken : ∀ handle, isHandleMadeByUser handle = true → handle ≠ skeleton.dBinderHandle → skeleton.find handle ≠ none :=
      fun handle user other free => room ⟨handle,user,other,free⟩
    rw [getDBinderIdleHandle_none own taken,or_iff_left room]
    constructor
    · intro allocates
      exact allocates.none_iff.mp rfl _ own
    · intro last
      refine ⟨iff_of_true rfl ?_,fun some_ => absurd rfl some_,fun some_ => absurd rfl some_,fun some_ => absurd rfl some_,fun _ _ => rfl⟩
      intro handle user
      by_cases same : handle = skeleton.dBinderHandle
      · rwa [same]
      · exact taken handle user same

/-- The last handle was given away, and is in use as the first one is. -/
def wrapped : Skeleton :=
  { Skeleton.new with
    dBinderHandle := 687300000
    proxyToSession := [(687200000,1),(687300000,2)] }

theorem idle_handle_wrapped : (wrapped.getDBinderIdleHandle 3).2 = 687200001 ∧
    Allocates wrapped 3 (wrapped.getDBinderIdleHandle 3).1 (wrapped.getDBinderIdleHandle 3).2 :=
  ⟨by decide +kernel,(idle_handle_iff (by decide) 3).mpr (.inr ⟨687200001,by decide,by decide,rfl⟩)⟩

/-- A process with one free handle, behind which the search starts. -/
def crowded : Skeleton :=
  { Skeleton.new with proxyToSession := (List.range dbinderHandleCount).map fun turn => (nextHandle^[turn+1] dbinderHandleBase,0) }

theorem mem_crowded (entry : UInt32 × Nat) : entry ∈ crowded.proxyToSession ↔
    ∃ turn < dbinderHandleCount, (nextHandle^[turn+1] dbinderHandleBase,0) = entry := by
  simp only [crowded,List.mem_map,List.mem_range]

theorem crowded_taken {handle : UInt32} (user : isHandleMadeByUser handle = true) (other : handle ≠ dbinderHandleBase) :
    crowded.find handle ≠ none := by
  obtain ⟨turn,few,here⟩ := exists_turn (by decide) user other
  intro free
  refine List.find?_eq_none.mp (Option.map_eq_none_iff.mp free) (handle,0) ?_ (by simp)
  exact (mem_crowded _).mpr ⟨turn,few,by rw [here]⟩

theorem crowded_free : crowded.find dbinderHandleBase = none := by
  refine Option.map_eq_none_iff.mpr (List.find?_eq_none.mpr ?_)
  intro entry member
  obtain ⟨turn,few,rfl⟩ := (mem_crowded _).mp member
  simpa only [decide_eq_true_iff] using turn_other (by decide) few

/-- The one free handle is not found. -/
theorem last_handle_not_tried : isHandleMadeByUser crowded.dBinderHandle = true ∧ crowded.find crowded.dBinderHandle = none ∧
    crowded.getDBinderIdleHandle 3 = (crowded,0) ∧
      ¬ Allocates crowded 3 (crowded.getDBinderIdleHandle 3).1 (crowded.getDBinderIdleHandle 3).2 := by
  have result : crowded.getDBinderIdleHandle 3 = (crowded,0) := getDBinderIdleHandle_none (by decide) fun _ => crowded_taken
  refine ⟨by decide,crowded_free,result,?_⟩
  intro allocates
  rw [result] at allocates
  exact allocates.none_iff.mp rfl dbinderHandleBase (by decide) crowded_free

end Allocation

end CommunicationIpc.IdleHandle
