import CommunicationIpc.Kernel.RecipientReferences
import CommunicationIpc.Library.Run
import Mathlib.Data.List.Count
import Mathlib.Data.List.Perm.Basic

/-! The references of invokers on proxies and the registrations of the driver: how a step changes either, and the runs in which
they agree. -/
namespace CommunicationIpc.RecipientReferences
open CommunicationIpc.Library CommunicationIpc.Kernel.RecipientReferences

/-- The registrations of a proxy that the driver holds or has not confirmed as cleared. -/
def owned (driver : Driver) (cookie : UInt64) : Nat := ((driver.held ++ driver.cleared).map Registration.cookie).count cookie

/-- The proxies of the registrations that are taken on. -/
def taken (consumed : List (Command × Bool)) : List UInt64 :=
  consumed.filterMap fun
    | (.request registration,true) => some registration.cookie
    | _ => none

section Driver
variable (driver : Driver) (cookie : UInt64)

theorem take_owned (command : Command) (accepted : Bool) :
    owned (driver.take (command,accepted)) cookie = owned driver cookie+(taken [(command,accepted)]).count cookie := by
  cases command with
  | request registration =>
    cases accepted with
    | true =>
      simp only [Driver.take,if_true,owned,taken,List.filterMap_cons,List.filterMap_nil,List.map_append,List.map_cons,List.map_nil,
        List.count_append]
      omega
    | false => rfl
  | clear registration =>
    simp only [Driver.take]
    split
    · rename_i holds
      -- it moves from the ones held to the ones to confirm
      have moved := ((List.perm_cons_erase holds).map Registration.cookie).count_eq cookie
      simp only [owned,taken,List.filterMap_cons,List.filterMap_nil,List.count_nil,List.map_append,List.map_cons,List.map_nil,
        List.count_append,List.count_cons] at moved ⊢
      omega
    · rfl
  | other => rfl

theorem foldl_take_owned (consumed : List (Command × Bool)) :
    owned (consumed.foldl Driver.take driver) cookie = owned driver cookie+(taken consumed).count cookie := by
  induction consumed generalizing driver with
  | nil => rfl
  | cons pair consumed ih =>
    obtain ⟨command,accepted⟩ := pair
    have split : taken ((command,accepted) :: consumed) = taken [(command,accepted)] ++ taken consumed := by
      rw [taken,← List.singleton_append,List.filterMap_append]
      rfl
    rw [List.foldl_cons,ih,take_owned,split,List.count_append]
    omega

end Driver

/-- As many references as registrations, and none was released that was not taken. -/
def Counted (system : System) : Prop := (∀ cookie, system.references cookie = owned system.driver cookie) ∧ system.overReleased = false

/-- A proxy that an invoker refers to lives, and is no null pointer. -/
structure Sound (system : System) : Prop where
  lives : ∀ cookie, 0 < system.references cookie → system.valid cookie = true
  null : system.valid 0 = false

/-- What the flush of an `AddRecipient` must make the driver take on: its own registration if it returns `ERR_NONE`, and else none. -/
def due (registration : Registration) (error : Int) : List UInt64 :=
  if error = 0 ∧ registration.cookie ≠ 0 then [registration.cookie] else []

/-- The driver takes on registrations only in the flush of the `AddRecipient` that asks for them, and that one returns `ERR_NONE`
exactly if it does. -/
def met (system : System) : Event → Prop
  | .addRecipient thread registration written flush =>
    system.valid registration.cookie ∧ written →
      let (consumed,_,error) := flushCommands (system.output thread ++ [.request registration]) flush
      taken consumed = due registration error
  | .removeRecipient thread registration written flush =>
    written → taken (flushCommands (system.output thread ++ [.clear registration]) flush).1 = []
  | .transactWithDriver thread ioctl => taken (transactWithDriver (system.output thread) ioctl).1 = []
  | _ => True

section Step
variable {system : System}

theorem eq_due_iff {registration : Registration} {error : Int} (consumed : List (Command × Bool)) :
    (∀ cookie, (taken consumed).count cookie = (due registration error).count cookie) ↔ taken consumed = due registration error := by
  rw [← List.perm_iff_count,due]
  split
  · exact List.perm_singleton
  · exact List.perm_nil

theorem addRecipient_references (thread : Nat) (registration : Registration) (flush : Flush) (cookie : UInt64) :
    (system.addRecipient thread registration flush).references cookie = system.references cookie+
      (due registration (flushCommands (system.output thread ++ [.request registration]) flush).2.2).count cookie := by
  simp only [System.addRecipient,System.consume,due]
  split
  · by_cases same : cookie = registration.cookie
    · subst same
      simp only [Function.update_self,List.count_singleton_self]
    · simp only [Function.update_of_ne same,List.count_cons_of_ne (Ne.symm same),List.count_nil,Nat.add_zero]
  · rfl

theorem addRecipient_driver (thread : Nat) (registration : Registration) (flush : Flush) :
    (system.addRecipient thread registration flush).driver =
      (flushCommands (system.output thread ++ [.request registration]) flush).1.foldl Driver.take system.driver := by
  simp only [System.addRecipient]
  split <;> rfl

theorem addRecipient_overReleased (thread : Nat) (registration : Registration) (flush : Flush) :
    (system.addRecipient thread registration flush).overReleased = system.overReleased := by
  simp only [System.addRecipient]
  split <;> rfl

theorem addRecipient_valid (thread : Nat) (registration : Registration) (flush : Flush) :
    (system.addRecipient thread registration flush).valid = system.valid := by
  simp only [System.addRecipient]
  split <;> rfl

theorem addRecipient_counted (counted : Counted system) (thread : Nat) (registration : Registration) (flush : Flush) :
    Counted (system.addRecipient thread registration flush) ↔
      taken (flushCommands (system.output thread ++ [.request registration]) flush).1 =
        due registration (flushCommands (system.output thread ++ [.request registration]) flush).2.2 := by
  rw [← eq_due_iff,Counted,addRecipient_overReleased,and_iff_left counted.2]
  refine forall_congr' fun cookie => ?_
  rw [addRecipient_references,addRecipient_driver,foldl_take_owned,counted.1 cookie]
  omega

theorem consume_counted (counted : Counted system) (thread : Nat) (consumed : List (Command × Bool)) (left : List Command) :
    Counted (system.consume thread consumed left) ↔ taken consumed = [] := by
  rw [← List.perm_nil,List.perm_iff_count,Counted,and_iff_left (show (system.consume thread consumed left).overReleased = false from counted.2)]
  refine forall_congr' fun cookie => ?_
  have same : (system.consume thread consumed left).references cookie = owned system.driver cookie := counted.1 cookie
  have driver : (system.consume thread consumed left).driver = consumed.foldl Driver.take system.driver := rfl
  rw [same,driver,foldl_take_owned,List.count_nil]
  omega

/-- An answer that confirms a registration releases its reference: the proxy lives, since it is referred to. -/
theorem done_counted (sound : Sound system) (counted : Counted system) {answer : Nat} {registration : Registration}
    (at_ : system.driver.cleared[answer]? = some registration) :
    Counted ({system with driver := {system.driver with cleared := system.driver.cleared.eraseIdx answer}}.onRemoveRecipientDone
      registration.cookie) := by
  obtain ⟨bound,there⟩ := List.getElem?_eq_some_iff.mp at_
  have confirmed : ∀ cookie, owned system.driver cookie =
      owned {system.driver with cleared := system.driver.cleared.eraseIdx answer} cookie+[registration.cookie].count cookie := by
    intro cookie
    have perm := ((List.getElem_cons_eraseIdx_perm bound).map Registration.cookie).count_eq cookie
    rw [there] at perm
    simp only [owned,List.map_append,List.map_cons,List.count_append,List.count_cons,List.count_nil] at perm ⊢
    omega
  have own := confirmed registration.cookie
  rw [List.count_singleton_self,← counted.1] at own
  have positive : 0 < system.references registration.cookie := by omega
  have lives := sound.lives registration.cookie positive
  have pointer : registration.cookie ≠ 0 := by
    intro null
    rw [null,sound.null] at lives
    cases lives
  rw [System.onRemoveRecipientDone,if_neg pointer,if_neg (not_not_intro lives)]
  refine ⟨?_,?_⟩
  · intro cookie
    have here := confirmed cookie
    rw [← counted.1] at here
    by_cases same : cookie = registration.cookie
    · subst same
      refine (Function.update_self ..).trans ?_
      rw [own,Nat.add_sub_cancel]
    · rw [List.count_cons_of_ne (Ne.symm same),List.count_nil] at here
      exact (Function.update_of_ne same ..).trans here
  · simp only [counted.2,Nat.ne_of_gt positive,decide_false,Bool.or_false]

theorem onRemoveRecipientDone_sound (sound : Sound system) (cookie : UInt64) : Sound (system.onRemoveRecipientDone cookie) := by
  rw [System.onRemoveRecipientDone]
  split
  · exact sound
  · split
    · exact sound
    · refine ⟨?_,sound.null⟩
      intro other positive
      refine sound.lives other ?_
      by_cases same : other = cookie
      · subst same
        simp only [Function.update_self] at positive
        omega
      · simp only [Function.update_of_ne same] at positive
        exact positive

theorem step_sound (sound : Sound system) (event : Event) : Sound (system.step event) := by
  cases event with
  | addRecipient thread registration written flush =>
    simp only [System.step]
    split
    · rename_i called
      refine ⟨?_,(congrFun (addRecipient_valid ..) 0).trans sound.null⟩
      intro cookie positive
      rw [addRecipient_valid]
      rw [addRecipient_references] at positive
      by_cases same : cookie = registration.cookie
      · exact same ▸ called.1
      · refine sound.lives cookie ?_
        have none_ : (due registration (flushCommands (system.output thread ++ [.request registration]) flush).2.2).count cookie = 0 := by
          rw [due]
          split
          · rw [List.count_cons_of_ne (Ne.symm same),List.count_nil]
          · exact List.count_nil
        omega
    · exact sound
  | removeRecipient thread registration written flush =>
    simp only [System.step]
    split
    · exact ⟨sound.lives,sound.null⟩
    · exact sound
  | write thread => exact ⟨sound.lives,sound.null⟩
  | transactWithDriver thread ioctl => exact ⟨sound.lives,sound.null⟩
  | onRemoveRecipientDone answer =>
    simp only [System.step]
    split
    · refine onRemoveRecipientDone_sound ?_ _
      exact ⟨sound.lives,sound.null⟩
    · exact sound
  | create made =>
    simp only [System.step]
    split
    · exact sound
    · rename_i pointer
      refine ⟨?_,?_⟩
      · intro cookie positive
        by_cases same : cookie = made
        · subst same
          exact Function.update_self ..
        · simp only [Function.update_of_ne same]
          exact sound.lives cookie positive
      · simp only [Function.update_of_ne (Ne.symm pointer)]
        exact sound.null
  | destroy gone =>
    simp only [System.step]
    split
    · rename_i unreferenced
      refine ⟨?_,?_⟩
      · intro cookie positive
        have apart : cookie ≠ gone := by
          rintro rfl
          exact absurd unreferenced (Nat.ne_of_gt positive)
        simp only [Function.update_of_ne apart]
        exact sound.lives cookie positive
      · by_cases null : 0 = gone
        · subst null
          simp only [Function.update_self]
        · simp only [Function.update_of_ne null]
          exact sound.null
    · exact sound

theorem step_counted (sound : Sound system) (counted : Counted system) (event : Event) :
    Counted (system.step event) ↔ met system event := by
  cases event with
  | addRecipient thread registration written flush =>
    simp only [System.step,met]
    split
    · rename_i called
      rw [addRecipient_counted counted]
      exact ⟨fun same _ => same,fun same => same called⟩
    · rename_i refused
      exact iff_of_true counted fun called => absurd called refused
  | removeRecipient thread registration written flush =>
    simp only [System.step,met]
    split
    · rename_i called
      rw [System.removeRecipient,consume_counted counted]
      exact ⟨fun same _ => same,fun same => same called⟩
    · rename_i refused
      exact iff_of_true counted fun called => absurd called refused
  | write thread => exact iff_of_true counted trivial
  | transactWithDriver thread ioctl => exact consume_counted counted thread _ _
  | onRemoveRecipientDone answer =>
    refine iff_of_true ?_ trivial
    simp only [System.step]
    split
    · rename_i at_
      exact done_counted sound counted at_
    · exact counted
  | create made =>
    refine iff_of_true ?_ trivial
    simp only [System.step]
    split
    · exact counted
    · exact counted
  | destroy gone =>
    refine iff_of_true ?_ trivial
    simp only [System.step]
    split
    · exact counted
    · exact counted

end Step

/-- References and registrations agree in every state of a run exactly if every step meets the condition. -/
theorem references_counted_iff_met (events : List Event) :
    (∀ front, front <+: events → Counted (front.foldl System.step System.new)) ↔
      Reaches (guarded (does System.step) met) System.new events (events.foldl System.step System.new) := by
  have start : Sound System.new := ⟨fun _ positive => absurd positive (Nat.lt_irrefl 0),rfl⟩
  have initial : Counted System.new := ⟨fun _ => rfl,rfl⟩
  exact Reaches.guarded_iff start initial (fun _ event sound => step_sound sound event)
    (fun _ event sound counted => step_counted sound counted event) events

/-- The driver fails in the flush of the first `AddRecipient` and takes its command in the flush of the second one. -/
def lateRequest : List Event :=
  let failed : Flush := ⟨true,⟨[],-11⟩,⟨[],-11⟩⟩
  let passed : Flush := ⟨true,⟨[true,true],0⟩,⟨[],0⟩⟩
  [.create 4096,.create 8192,.addRecipient 0 ⟨.death,5,4096⟩ true failed,.addRecipient 0 ⟨.death,6,8192⟩ true passed]

def cleared : List Event := [.removeRecipient 0 ⟨.death,5,4096⟩ true ⟨true,⟨[true],0⟩,⟨[],0⟩⟩,.onRemoveRecipientDone 0]

/-- The driver holds a registration without a reference, and once it is cleared a reference is released that was not taken. -/
theorem late_request_uncounted :
    (lateRequest.foldl System.step System.new).driver.held = [⟨.death,5,4096⟩,⟨.death,6,8192⟩] ∧
      (lateRequest.foldl System.step System.new).references 4096 = 0 ∧
      ((lateRequest ++ cleared).foldl System.step System.new).overReleased = true := by
  decide

end CommunicationIpc.RecipientReferences
