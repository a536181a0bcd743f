import CommunicationIpc.Kernel.ObjectTable
import CommunicationIpc.Library.Run
import Mathlib.Algebra.Order.Ring.Int
import Mathlib.Data.List.Nodup
import Mathlib.Data.List.Perm.Subperm

/-! The count of proxies: what an attach and a detach do to it, and the runs in which it is the number of those attached. -/
namespace CommunicationIpc.ObjectTable
open CommunicationIpc.Library CommunicationIpc.Kernel.ObjectTable

/-- What an attach must have to take effect. -/
def Named (object : RemoteObject) : Prop := object.address ≠ 0 ∧ object.descriptor ≠ []

instance (object : RemoteObject) : Decidable (Named object) := inferInstanceAs (Decidable (_ ∧ _))

/-- A detach finds an entry under the descriptor of the object, of whatever object it is. -/
def Found (skeleton : ProcessSkeleton) (object : RemoteObject) : Prop :=
  Named object ∧ skeleton.objects object.descriptor ≠ none

instance (skeleton : ProcessSkeleton) (object : RemoteObject) : Decidable (Found skeleton object) := inferInstanceAs (Decidable (_ ∧ _))

section Spec
variable (skeleton : ProcessSkeleton) (object : RemoteObject)

theorem attachObject_succeeds : (attachObject skeleton object).2 = true ↔ Named object := by
  by_cases null : object.address = 0
  · simp [attachObject,Named,null]
  · by_cases unnamed : object.descriptor = []
    · simp [attachObject,ProcessSkeleton.attachObject,Named,unnamed,null]
    · simp [attachObject,ProcessSkeleton.attachObject,Named,unnamed,null]

theorem attachObject_count : (attachObject skeleton object).1.proxyObjectCountNum =
    if Named object ∧ object.isProxyObject = true then skeleton.proxyObjectCountNum+1 else skeleton.proxyObjectCountNum := by
  by_cases null : object.address = 0
  · simp [attachObject,Named,null]
  · by_cases unnamed : object.descriptor = []
    · simp [attachObject,ProcessSkeleton.attachObject,Named,unnamed,null]
    · by_cases proxy : object.isProxyObject = true
      · simp [attachObject,ProcessSkeleton.attachObject,Named,unnamed,null,proxy]
      · simp [attachObject,ProcessSkeleton.attachObject,Named,unnamed,null,proxy]

theorem detachObject_count : (detachObject skeleton object).1.proxyObjectCountNum =
    if Found skeleton object ∧ object.isProxyObject = true then skeleton.proxyObjectCountNum-1 else skeleton.proxyObjectCountNum := by
  by_cases named : Named object
  · have passed : ¬ (object.address = 0 ∨ object.descriptor = []) := not_or.mpr named
    rw [detachObject,if_neg passed,ProcessSkeleton.detachObject]
    cases entry : skeleton.objects object.descriptor with
    | none => simp [Found,entry]
    | some recorded =>
      by_cases proxy : object.isProxyObject = true
      · by_cases other : recorded = object.address
        · simp [Found,named,entry,proxy,other]
        · simp [Found,named,entry,proxy,other]
      · simp [proxy]
  · have refused : object.address = 0 ∨ object.descriptor = [] := by
      by_contra passed
      exact named (not_or.mp passed)
    rw [detachObject,if_pos refused,if_neg fun found => named found.1.1]

end Spec

/-- The addresses are distinct pointers. -/
structure Sound (system : System) : Prop where
  distinct : system.attached.Nodup
  pointers : ∀ address ∈ system.attached, address ≠ 0

/-- The count is the number of the proxies attached, and was never taken below zero. -/
def Counted (system : System) : Prop :=
  system.skeleton.proxyObjectCountNum.toNat = system.attached.length ∧ system.wrapped = false

/-- A proxy is attached once at a time. At its detach there is an entry under its descriptor exactly if it is attached: its own,
or one that took its place. -/
def met (system : System) : Event → Prop
  | .attach object => Named object → object.isProxyObject = true → object.address ∉ system.attached
  | .detach object => object.isProxyObject = true → (object.address ∈ system.attached ↔ Found system.skeleton object)

instance (system : System) (event : Event) : Decidable (met system event) := by
  cases event with
  | attach => exact inferInstanceAs (Decidable (_ → _))
  | detach => exact inferInstanceAs (Decidable (_ → _))

section Steps
variable {system : System} {object : RemoteObject}

/-- There are fewer pointers than counts. -/
theorem Sound.length_lt (sound : Sound system) : system.attached.length < 2^64 := by
  have distinct : (system.attached.map UInt64.toNat).Nodup := sound.distinct.map fun _ _ => UInt64.toNat_inj.mp
  have within : system.attached.map UInt64.toNat ⊆ List.range' 1 (2^64-1) := by
    intro number member
    obtain ⟨address,attached,rfl⟩ := List.mem_map.mp member
    have nonzero : address.toNat ≠ 0 := fun zero => sound.pointers address attached (UInt64.toNat_inj.mp zero)
    have small := address.toNat_lt
    rw [List.mem_range'_1]
    omega
  have few := (List.subperm_of_subset distinct within).length_le
  rw [List.length_map,List.length_range'] at few
  omega

theorem step_sound (sound : Sound system) (event : Event) : Sound (system.step event) := by
  cases event with
  | attach object =>
    simp only [System.step]
    split
    · rename_i added
      refine ⟨sound.distinct.insert,?_⟩
      intro address member
      rcases List.mem_insert_iff.mp member with rfl | old
      · exact ((attachObject_succeeds _ _).mp added.1).1
      · exact sound.pointers address old
    · exact ⟨sound.distinct,sound.pointers⟩
  | detach object =>
    simp only [System.step]
    split
    · refine ⟨sound.distinct.erase _,?_⟩
      intro address member
      exact sound.pointers address (List.mem_of_mem_erase member)
    · exact ⟨sound.distinct,sound.pointers⟩

theorem attach_counted (sound : Sound system) (counted : Counted system) :
    Counted (system.step (.attach object)) ↔ met system (.attach object) := by
  obtain ⟨number,unwrapped⟩ := counted
  have count := attachObject_count system.skeleton object
  have succeeds := attachObject_succeeds system.skeleton object
  by_cases adds : Named object ∧ object.isProxyObject = true
  · have few := (step_sound sound (.attach object)).length_lt
    have bound := sound.length_lt
    have one : (1 : UInt64).toNat = 1 := rfl
    rw [if_pos adds] at count
    simp only [Counted,System.step,succeeds,adds,and_self,if_true,count,unwrapped,and_true,met,forall_const,UInt64.toNat_add,number,
      one] at few ⊢
    by_cases present : object.address ∈ system.attached
    · rw [List.insert_of_mem present]
      refine iff_of_false ?_ (not_not_intro present)
      omega
    · rw [List.insert_of_not_mem present,List.length_cons] at few ⊢
      refine iff_of_true ?_ present
      omega
  · rw [if_neg adds] at count
    simp only [Counted,System.step,succeeds,adds,if_false,count,unwrapped,and_true,met,number,true_iff]
    exact fun named proxy => absurd ⟨named,proxy⟩ adds

theorem detach_counted (sound : Sound system) (counted : Counted system) :
    Counted (system.step (.detach object)) ↔ met system (.detach object) := by
  obtain ⟨number,unwrapped⟩ := counted
  have count := detachObject_count system.skeleton object
  have bound := sound.length_lt
  by_cases proxy : object.isProxyObject = true
  · have removed := List.length_erase (a := object.address) (l := system.attached)
    have one : (1 : UInt64).toNat = 1 := rfl
    simp only [Counted,System.step,proxy,if_true,unwrapped,Bool.false_or,decide_eq_false_iff_not,UInt64.lt_iff_toNat_lt,met,forall_const,
      removed]
    by_cases found : Found system.skeleton object
    · rw [if_pos ⟨found,proxy⟩] at count
      rw [count,UInt64.toNat_sub,number,one]
      by_cases present : object.address ∈ system.attached
      · have some_ := List.length_pos_of_mem present
        rw [if_pos present]
        refine iff_of_true ?_ (iff_of_true present found)
        omega
      · rw [if_neg present]
        refine iff_of_false ?_ fun same => present (same.mpr found)
        omega
    · rw [if_neg fun both => found both.1] at count
      rw [count,number]
      by_cases present : object.address ∈ system.attached
      · have some_ := List.length_pos_of_mem present
        rw [if_pos present]
        refine iff_of_false ?_ fun same => found (same.mp present)
        omega
      · rw [if_neg present]
        refine iff_of_true ?_ (iff_of_false present found)
        omega
  · have plain : ¬ (Found system.skeleton object ∧ object.isProxyObject = true) := fun both => proxy both.2
    rw [if_neg plain] at count
    simp only [Counted,System.step,count,number,unwrapped,met,proxy]
    simp

theorem step_counted (sound : Sound system) (counted : Counted system) (event : Event) :
    Counted (system.step event) ↔ met system event := by
  cases event with
  | attach => exact attach_counted sound counted
  | detach => exact detach_counted sound counted

end Steps

/-- The count is right in every state of a run exactly if every step meets the condition. -/
theorem proxies_counted_iff_met (limit : UInt64) (callback : Bool) (events : List Event) :
    (∀ front, front <+: events → Counted (front.foldl System.step (System.new limit callback))) ↔
      Reaches (guarded (does System.step) met) (System.new limit callback) events (events.foldl System.step (System.new limit callback)) := by
  have start : Sound (System.new limit callback) := ⟨List.nodup_nil,fun _ member => absurd member List.not_mem_nil⟩
  exact Reaches.guarded_iff start ⟨rfl,rfl⟩ (fun _ event sound => step_sound sound event)
    (fun _ event sound counted => step_counted sound counted event) events

/-- The proxy of handle 5 is found unusable and detached, and while its last reference is held a new one takes the descriptor. -/
def detachedTwice : List Event :=
  let descriptor : List UInt16 := [73,80,67,79,98,106,101,99,116,80,114,111,120,121,53]
  let old : RemoteObject := ⟨4096,true,descriptor⟩
  let young : RemoteObject := ⟨8192,true,descriptor⟩
  [.attach old,.detach old,.attach young,.detach old,.detach young]

theorem count_wraps :
    (detachedTwice.foldl System.step (System.new 0 false)).attached = [] ∧
      (detachedTwice.foldl System.step (System.new 0 false)).skeleton.proxyObjectCountNum = 18446744073709551615 := by
  decide

end CommunicationIpc.ObjectTable
