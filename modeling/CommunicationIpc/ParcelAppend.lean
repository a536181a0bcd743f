import CommunicationIpc.Kernel.ParcelAppend
import CommunicationIpc.Library.Run

/-! What `Append` makes of two parcels, and the strong counts at the end of their lives. -/
namespace CommunicationIpc.ParcelAppend
open CommunicationIpc.Library CommunicationIpc.Kernel.ParcelAppend
open CommunicationIpc.Kernel.CommandStream (Parcel.writeBuffer padSize)
open CommunicationIpc.Kernel.Translate (binderTypeBinder binderTypeHandle binderTypeFd)

section Patch
variable {bytes written : List UInt8} {offset : Nat}

theorem patch_length (bytes : List UInt8) (offset : Nat) (written : List UInt8) : (patch bytes offset written).length = bytes.length :=
  Memory.readBytes_length _ _ _

theorem patch_take {count : Nat} (before : count ≤ offset) : (patch bytes offset written).take count = bytes.take count := by
  apply List.ext_getElem?
  intro i
  simp only [List.getElem?_take]
  split
  · rename_i low
    by_cases inside : i < bytes.length
    · rw [patch,Memory.getElem?_readBytes inside,Memory.writeBytes_outside (by omega),Memory.ofBytes,Nat.zero_add,
        List.getD_eq_getElem?_getD,List.getElem?_eq_getElem inside,Option.getD_some]
    · rw [List.getElem?_eq_none (Nat.le_of_not_lt inside),List.getElem?_eq_none]
      rw [patch_length]
      exact Nat.le_of_not_lt inside
  · rfl

theorem duplicate_length (bytes : List UInt8) (offset : Nat) (dup : UInt32) : (duplicate bytes offset dup).length = bytes.length := by
  rw [duplicate,patch_length,patch_length]

theorem duplicate_take {count : Nat} (before : count ≤ offset) (dup : UInt32) :
    (duplicate bytes offset dup).take count = bytes.take count := by
  rw [duplicate,patch_take (by omega),patch_take (by omega)]

end Patch

def typeAt (bytes : List UInt8) (offset : Nat) : Nat := (Memory.ofBytes bytes).read offset 4

/-- The data when the listed file descriptors from `index` on have been duplicated. -/
def duplicates (results : Results) : Nat → List Nat → List UInt8 → List UInt8
  | _,[],bytes => bytes
  | index,offset :: offsets,bytes =>
    duplicates results (index+1) offsets
      (if typeAt bytes offset = binderTypeFd then duplicate bytes offset (results.entry index).dup else bytes)

theorem acquireObject_bytes (queryObject : UInt32 → Option UInt64) (dup : UInt32) (bytes : List UInt8) (offset : Nat) :
    (acquireObject queryObject dup bytes offset).1 =
      if typeAt bytes offset = binderTypeFd then duplicate bytes offset dup else bytes := by
  unfold acquireObject
  change (if typeAt bytes offset = binderTypeBinder then _ else if typeAt bytes offset = binderTypeHandle then _ else
    if typeAt bytes offset = binderTypeFd then _ else _ : List UInt8 × Option UInt64).1 = _
  by_cases binder : typeAt bytes offset = binderTypeBinder
  · rw [if_pos binder,binder]
    rfl
  · rw [if_neg binder]
    by_cases handle : typeAt bytes offset = binderTypeHandle
    · rw [if_pos handle,handle]
      rfl
    · rw [if_neg handle]
      split <;> rfl

section Duplicates
variable {results : Results} {bytes : List UInt8}

theorem duplicates_take {count : Nat} (offsets : List Nat) (index : Nat) (before : ∀ offset ∈ offsets, count ≤ offset) :
    (duplicates results index offsets bytes).take count = bytes.take count := by
  induction offsets generalizing index bytes with
  | nil => rfl
  | cons offset offsets ih =>
    rw [duplicates,ih _ fun other member => before other (List.mem_cons_of_mem _ member)]
    split
    · exact duplicate_take (before offset List.mem_cons_self) _
    · rfl

theorem duplicates_none (offsets : List Nat) (index : Nat) (none : ∀ offset ∈ offsets, typeAt bytes offset ≠ binderTypeFd) :
    duplicates results index offsets bytes = bytes := by
  induction offsets generalizing index with
  | nil => rfl
  | cons offset offsets ih =>
    rw [duplicates,if_neg (none offset List.mem_cons_self)]
    exact ih _ fun other member => none other (List.mem_cons_of_mem _ member)

end Duplicates

section Loop
variable {results : Results} {writeCursorOld : Nat}

theorem appendObjects_length (offsets : List Nat) (index : Nat) (s : Appending) :
    (appendObjects results writeCursorOld index offsets s).1.bytes.length = s.bytes.length := by
  induction offsets generalizing index s with
  | nil => rfl
  | cons offset offsets ih =>
    simp only [appendObjects]
    split
    · rfl
    · split
      · rfl
      · split
        · rfl
        · rw [ih]
          simp only [acquireObject_bytes]
          split
          · exact duplicate_length _ _ _
          · rfl

theorem appendObjects_done (offsets : List Nat) (index : Nat) (s : Appending)
    (done : (appendObjects results writeCursorOld index offsets s).2 = true) :
    (appendObjects results writeCursorOld index offsets s).1.bytes =
        duplicates results index (offsets.map (writeCursorOld+·)) s.bytes ∧
      (appendObjects results writeCursorOld index offsets s).1.offsets = s.offsets ++ offsets.map (writeCursorOld+·) := by
  induction offsets generalizing index s with
  | nil => exact ⟨rfl,(List.append_nil _).symm⟩
  | cons offset offsets ih =>
    simp only [appendObjects] at done ⊢
    split at done
    · cases done
    · rename_i capacity
      rw [if_neg capacity]
      split at done
      · cases done
      · rename_i written
        rw [if_neg written]
        split at done
        · cases done
        · rename_i flat
          rw [if_neg flat]
          obtain ⟨bytes,table⟩ := ih _ _ done
          rw [bytes,table]
          simp only [List.map_cons,duplicates,acquireObject_bytes,List.append_assoc,List.singleton_append,and_self]

end Loop

section Append
variable {results : Results} {parcel data : MessageParcel}

theorem typeAt_appended (old bytes : List UInt8) (count offset : Nat) :
    typeAt (old ++ (bytes ++ List.replicate count 0)) (old.length+offset) = typeAt bytes offset := by
  refine Memory.read_moved ?_
  intro i _
  simp only [Memory.ofBytes,List.getD_eq_getElem?_getD,Nat.add_assoc,List.getElem?_append_right (Nat.le_add_right _ _),
    Nat.add_sub_cancel_left]
  by_cases inside : offset+i < bytes.length
  · rw [List.getElem?_append_left inside]
  · rw [List.getElem?_append_right (Nat.le_of_not_lt inside),List.getElem?_eq_none (Nat.le_of_not_lt inside),
      List.getElem?_replicate]
    split <;> rfl

/-- The destination has the source behind what it had: its padded data, but for the listed file descriptors, of which it has
duplicates, and its table, shifted. -/
structure Extended (results : Results) (parcel data after : MessageParcel) : Prop where
  bytes : after.bytes =
    duplicates results 0 (data.offsets.map (parcel.bytes.length+·)) (Parcel.writeBuffer parcel.bytes data.bytes)
  kept : parcel.bytes <+: after.bytes
  plain : (∀ offset ∈ data.offsets, typeAt data.bytes offset ≠ binderTypeFd) →
    after.bytes = Parcel.writeBuffer parcel.bytes data.bytes
  offsets : after.offsets = parcel.offsets ++ data.offsets.map (parcel.bytes.length+·)
  holders : after.holders = parcel.holders

theorem extended_of_bytes {after : MessageParcel}
    (bytes : after.bytes = duplicates results 0 (data.offsets.map (parcel.bytes.length+·)) (Parcel.writeBuffer parcel.bytes data.bytes))
    (offsets : after.offsets = parcel.offsets ++ data.offsets.map (parcel.bytes.length+·)) (holders : after.holders = parcel.holders) :
    Extended results parcel data after where
  bytes := bytes
  kept := by
    have low : ∀ offset ∈ data.offsets.map (parcel.bytes.length+·), parcel.bytes.length ≤ offset := by
      intro offset member
      obtain ⟨entry,-,rfl⟩ := List.mem_map.mp member
      exact Nat.le_add_right _ _
    have start : after.bytes.take parcel.bytes.length = (Parcel.writeBuffer parcel.bytes data.bytes).take parcel.bytes.length := by
      rw [bytes]
      exact duplicates_take _ 0 low
    rw [Parcel.writeBuffer,List.take_left] at start
    exact List.prefix_iff_eq_take.mpr start.symm
  plain := by
    intro none
    rw [bytes]
    apply duplicates_none
    intro offset member
    obtain ⟨entry,listed,rfl⟩ := List.mem_map.mp member
    rw [Parcel.writeBuffer,typeAt_appended]
    exact none entry listed
  offsets := offsets
  holders := holders

theorem append_empty (empty : data.bytes = []) : append results parcel data = ⟨parcel,[],true⟩ := if_pos empty

theorem append_unwritten (filled : data.bytes ≠ []) (failed : results.writeBuffer = false) :
    append results parcel data = ⟨parcel,[],false⟩ := by
  rw [append,if_neg filled,failed]
  rfl

theorem append_done (filled : data.bytes ≠ []) (done : (append results parcel data).result = true) :
    Extended results parcel data (append results parcel data).parcel := by
  unfold append at done ⊢
  rw [if_neg filled] at done ⊢
  split at done
  · cases done
  · rename_i written
    rw [if_neg written]
    dsimp only at done ⊢
    split at done
    · rename_i none
      rw [if_pos none]
      exact extended_of_bytes (by rw [none]; rfl) (by rw [none]; exact (List.append_nil _).symm) rfl
    · rename_i some
      rw [if_neg some]
      split at done
      · cases done
      · rename_i table
        rw [if_neg table]
        obtain ⟨bytes,offsets⟩ := appendObjects_done _ _ _ done
        exact extended_of_bytes bytes offsets rfl

/-- Behind the write of the data nothing is taken back. -/
theorem append_failed_iff (failed : (append results parcel data).result = false) :
    (append results parcel data).parcel = parcel ↔ results.writeBuffer = false := by
  have filled : data.bytes ≠ [] := by
    intro empty
    rw [append_empty empty] at failed
    cases failed
  constructor
  · intro same
    by_contra written
    have length := congrArg (fun parcel => parcel.bytes.length) same
    have longer : (append results parcel data).parcel.bytes.length = (Parcel.writeBuffer parcel.bytes data.bytes).length := by
      unfold append
      rw [if_neg filled,if_neg (by simpa using written)]
      dsimp only
      split
      · rfl
      · split
        · rfl
        · exact appendObjects_length _ _ _
    have some := List.length_pos_of_ne_nil filled
    simp only [longer,Parcel.writeBuffer,List.length_append] at length
    omega
  · intro unwritten
    rw [append_unwritten filled unwritten]

end Append

section Counts
variable {strong : UInt64 → Int} {system : System}

def held (system : System) (object : UInt64) : Nat :=
  (system.parcel true).holders.count object+(system.parcel false).holders.count object

/-- Every count is what it was, and one for each reference that a parcel holds or an appended entry acquired. -/
def Counted (strong : UInt64 → Int) (system : System) : Prop :=
  ∀ object, system.strong object = strong object+held system object+system.acquired.count object

theorem addStrong_eq (system : System) (written object : UInt64) :
    (system.addStrong written 1).strong object = system.strong object+[written].count object := by
  rw [List.count_singleton]
  by_cases this : object = written
  · simp only [System.addStrong,this,if_true,beq_self_eq_true]
    rfl
  · have other : (written == object) = false := by simpa using Ne.symm this
    simp only [System.addStrong,this,if_false,other,Bool.false_eq_true,Nat.cast_zero,Int.add_zero]

theorem addStrong_foldl (objects : List UInt64) (system : System) :
    (objects.foldl (fun system object => system.addStrong object 1) system).parcel = system.parcel ∧
      ∀ object, (objects.foldl (fun system object => system.addStrong object 1) system).strong object =
        system.strong object+objects.count object := by
  induction objects generalizing system with
  | nil => exact ⟨rfl,fun object => (Int.add_zero _).symm⟩
  | cons first objects ih =>
    obtain ⟨parcel,counts⟩ := ih (system.addStrong first 1)
    refine ⟨parcel,?_⟩
    intro object
    rw [List.foldl_cons,counts,addStrong_eq]
    simp only [List.count_cons,List.count_nil]
    push_cast
    omega

theorem releases_foldl (objects : List UInt64) (strong : UInt64 → Int) (object : UInt64) :
    objects.foldl (fun strong object other => if other = object then strong other-1 else strong other) strong object =
      strong object-objects.count object := by
  induction objects generalizing strong with
  | nil => simp
  | cons first objects ih =>
    rw [List.foldl_cons,ih,List.count_cons]
    by_cases same : object = first
    · simp only [same,if_true,beq_self_eq_true]
      push_cast
      omega
    · have other : (first == object) = false := by simpa using Ne.symm same
      simp only [same,if_false,other,Bool.false_eq_true,Nat.add_zero]

theorem held_put (system : System) (which : Bool) (parcel : MessageParcel) (object : UInt64) :
    held (system.put which parcel) object+(system.parcel which).holders.count object = held system object+parcel.holders.count object := by
  cases which
  · simp only [held,System.put,Bool.true_eq_false,if_false,if_true]
    omega
  · simp only [held,System.put,Bool.false_eq_true,if_false,if_true]
    omega

theorem held_same {which : Bool} {parcel : MessageParcel} (same : parcel.holders = (system.parcel which).holders) (object : UInt64) :
    held (system.put which parcel) object = held system object := by
  have change := held_put system which parcel object
  rw [same] at change
  omega

theorem append_holders (results : Results) (parcel data : MessageParcel) :
    (append results parcel data).parcel.holders = parcel.holders := by
  simp only [append,apply_ite Appended.parcel,apply_ite MessageParcel.holders,ite_self]

theorem counted_put (counted : Counted strong system) {which : Bool} {parcel : MessageParcel}
    (same : parcel.holders = (system.parcel which).holders) : Counted strong (system.put which parcel) := by
  intro object
  rw [held_same same]
  exact counted object

theorem counted_hold (counted : Counted strong system) (which : Bool) (written : UInt64) :
    Counted strong ((system.addStrong written 1).put which
      { system.parcel which with holders := (system.parcel which).holders ++ [written] }) := by
  intro object
  have before := counted object
  have grown := held_put (system.addStrong written 1) which
    { system.parcel which with holders := (system.parcel which).holders ++ [written] } object
  have same : held (system.addStrong written 1) object = held system object := rfl
  have own : ((system.addStrong written 1).parcel which).holders.count object = (system.parcel which).holders.count object := rfl
  rw [same,own,List.count_append] at grown
  have more := addStrong_eq system written object
  have listed : ((system.addStrong written 1).put which
    { system.parcel which with holders := (system.parcel which).holders ++ [written] }).acquired = system.acquired := rfl
  rw [listed]
  change (system.addStrong written 1).strong object = _
  omega

theorem counted_append (counted : Counted strong system) (which : Bool) (results : Results) :
    Counted strong (system.step (.append which results)) := by
  intro object
  have before := counted object
  obtain ⟨parcel,counts⟩ := addStrong_foldl (append results (system.parcel which) (system.parcel !which)).acquired system
  have same : held (system.step (.append which results)) object = held system object := by
    have taken : held ((append results (system.parcel which) (system.parcel !which)).acquired.foldl
        (fun system object => system.addStrong object 1) system) object = held system object := by
      rw [held,parcel,held]
    rw [← taken]
    refine held_same ?_ object
    rw [append_holders,parcel]
  have listed : (system.step (.append which results)).acquired =
    system.acquired ++ (append results (system.parcel which) (system.parcel !which)).acquired := rfl
  rw [same,listed,List.count_append]
  refine (counts object).trans ?_
  push_cast
  omega

theorem step_counted (counted : Counted strong system) (event : Event) : Counted strong (system.step event) := by
  cases event with
  | receive which bytes offsets => exact counted_put counted rfl
  | write which bytes => exact counted_put counted rfl
  | writeRemoteObject which written attempt bytes offsets =>
    simp only [System.step]
    split
    · exact counted
    · exact counted_put (counted_hold counted which written) rfl
  | append which results => exact counted_append counted which results

theorem run_counted (strong : UInt64 → Int) (events : List Event) : Counted strong (System.run strong events) := by
  refine (Reaches.of_foldl System.step events (.new strong)).invariant (Counted strong) ?_ ?_
  · intro object
    exact (Int.add_zero _).trans (Int.add_zero _) |>.symm
  · rintro system event _ counted rfl
    exact step_counted counted event

/-- A reference that an appended entry acquired is let go of by neither parcel. -/
theorem destroyed_eq (strong : UInt64 → Int) (events : List Event) (object : UInt64) :
    (System.run strong events).destroyed object = strong object+(System.run strong events).acquired.count object := by
  have counted := run_counted strong events object
  rw [System.destroyed,releases_foldl,List.count_append,counted,held]
  push_cast
  omega

end Counts

theorem append_extends (results : Results) (parcel data : MessageParcel) (strong : UInt64 → Int) (events : List Event) (object : UInt64) :
    (data.bytes = [] → append results parcel data = ⟨parcel,[],true⟩) ∧
      (data.bytes ≠ [] → (append results parcel data).result = true → Extended results parcel data (append results parcel data).parcel) ∧
      (data.bytes ≠ [] → results.writeBuffer = false → append results parcel data = ⟨parcel,[],false⟩) ∧
      (object ∉ (System.run strong events).acquired → (System.run strong events).destroyed object = strong object) := by
  refine ⟨append_empty,append_done,append_unwritten,?_⟩
  intro free
  rw [destroyed_eq,List.count_eq_zero.mpr free]
  exact Int.add_zero _

section Sample

def sampleObject (type handle : Nat) : List UInt8 := toLE 4 type ++ toLE 4 0 ++ toLE 8 handle ++ toLE 8 0

def sampleDestination : MessageParcel := ⟨[1,2,3,4],[],[]⟩

def sampleSource (type : Nat) : MessageParcel := ⟨sampleObject type 5,[0],[]⟩

/-- The object with the address 9 for every handle, and 7 from `dup`. -/
def sampleResults (writeObjectOffset : Bool) : Results := ⟨true,true,fun _ => ⟨true,writeObjectOffset,true,7⟩,fun _ => some 9⟩

/-- The first parcel holds the object 8, and the second is appended to it. -/
def sampleEvents : List Event :=
  [.writeRemoteObject true 8 true [] [],.write true [1,2,3,4],.receive false (sampleObject binderTypeHandle 5) [0],
    .append true (sampleResults true)]

theorem append_extends_sample :
    (append (sampleResults true) sampleDestination (sampleSource binderTypeHandle)).result = true ∧
      Extended (sampleResults true) sampleDestination (sampleSource binderTypeHandle)
        (append (sampleResults true) sampleDestination (sampleSource binderTypeHandle)).parcel ∧
      (System.run (fun _ => 1) sampleEvents).destroyed 8 = 1 := by
  obtain ⟨-,done,-,counts⟩ := append_extends (sampleResults true) sampleDestination (sampleSource binderTypeHandle) (fun _ => 1)
    sampleEvents 8
  exact ⟨by decide +kernel,done (by decide +kernel) (by decide +kernel),counts (by decide +kernel)⟩

/-- A file descriptor arrives as its duplicate, a failed write of an entry leaves the data behind, and the object of a handle keeps
the reference of its entry. -/
theorem descriptor_duplicated :
    (append (sampleResults true) sampleDestination (sampleSource binderTypeFd)).result = true ∧
      (append (sampleResults true) sampleDestination (sampleSource binderTypeFd)).parcel.bytes ≠
        Parcel.writeBuffer sampleDestination.bytes (sampleSource binderTypeFd).bytes ∧
      (append (sampleResults false) sampleDestination (sampleSource binderTypeFd)).result = false ∧
      (append (sampleResults false) sampleDestination (sampleSource binderTypeFd)).parcel ≠ sampleDestination ∧
      (System.run (fun _ => 1) sampleEvents).destroyed 9 = 2 := by
  decide +kernel

end Sample

end CommunicationIpc.ParcelAppend
