import CommunicationIpc.Kernel.ThreadCount
import CommunicationIpc.Library.Entries
import CommunicationIpc.Library.Run

/-! The count of child threads and the threads there are: what the count is too high by is the number of exits that did not lower it. -/
namespace CommunicationIpc.ThreadCount
open CommunicationIpc.Library CommunicationIpc.Kernel.ThreadCount

/-- Whether the call has raised the count. -/
def raised : Call → Nat
  | .increased _ => 1
  | .returned _ => 1
  | _ => 0

def gone (call : Call) : Nat :=
  match call.thread with
  | some .exited => 1
  | _ => 0

def alive (call : Call) : Nat :=
  match call.thread with
  | none => 0
  | some .exited => 0
  | some _ => 1

def total (weight : Call → Nat) (system : System) : Nat := (system.calls.map weight).sum

/-- What the count is too high by, against the calls that raised it and the threads that are gone. -/
def excess (system : System) : Int := system.runningChildThreadNum+total gone system-total raised system

/-- The destructor of a thread finds its skeleton, of the type `IPC_THREAD`, and the count above zero. -/
def met (system : System) : Event → Bool
  | .destroy index =>
    match system.calls[index]?.bind Call.thread with
    | some (.ending typed) => typed && decide (0 < system.runningChildThreadNum)
    | _ => true
  | _ => true

/-- No `Start` call is in progress, and no thread is in its exit code. -/
def quietOf : Call → Bool
  | .failed => true
  | .returned thread =>
    match thread with
    | .ending _ => false
    | _ => true
  | _ => false

def Quiet (system : System) : Prop := ∀ call ∈ system.calls, quietOf call = true

section Step
variable {system next : System} {event : Event} {index : Nat} {call : Call}

theorem raised_setThread (thread : Thread) : raised (call.setThread thread) = raised call := by
  cases call <;> rfl

theorem total_set (weight : Call → Nat) (at_ : system.calls[index]? = some call) (later : Call) :
    ((system.calls.set index later).map weight).sum+weight call = total weight system+weight later :=
  Entries.sum_set weight at_

theorem advance_cases {choose : Thread → Option Thread} (taken : system.advance index choose = some next) :
    ∃ call thread after, system.calls[index]? = some call ∧ call.thread = some thread ∧ choose thread = some after ∧
      next = {system with calls := system.calls.set index (call.setThread after)} := by
  simp only [System.advance,Option.bind_eq_bind,Option.bind_eq_some_iff,Option.pure_def,Option.some.injEq] at taken
  obtain ⟨call,at_,thread,known,after,chosen,rfl⟩ := taken
  exact ⟨call,thread,after,at_,known,chosen,rfl⟩

theorem gone_eq_zero {thread : Thread} (known : call.thread = some thread) (running : thread ≠ .exited) : gone call = 0 := by
  rw [gone,known]
  cases thread with
  | exited => exact absurd rfl running
  | _ => rfl

theorem gone_setThread {thread : Thread} (known : call.thread = some thread) (after : Thread) :
    gone (call.setThread after) = if after = .exited then 1 else 0 := by
  cases call with
  | checked => cases known
  | failed => cases known
  | _ => cases after <;> rfl

/-- A step of a thread that neither is at its end nor comes to it. -/
theorem advance_balance {choose : Thread → Option Thread} (taken : system.advance index choose = some next)
    (running : ∀ thread after, choose thread = some after → thread ≠ .exited ∧ after ≠ .exited) :
    next.runningChildThreadNum = system.runningChildThreadNum ∧ total gone next = total gone system ∧ total raised next = total raised system := by
  obtain ⟨call,thread,after,at_,known,chosen,rfl⟩ := advance_cases taken
  obtain ⟨before,later⟩ := running thread after chosen
  have exits := total_set gone at_ (call.setThread after)
  have raises := total_set raised at_ (call.setThread after)
  rw [gone_eq_zero known before,gone_setThread known,if_neg later] at exits
  rw [raised_setThread] at raises
  exact ⟨rfl,exits,Nat.add_right_cancel raises⟩

theorem exit_balance {typed : Bool} (known : system.calls[index]?.bind Call.thread = some (.ending typed))
    (taken : (if typed then system.decreaseThreadCount else system).advance index (fun _ => some .exited) = some next) :
    next.runningChildThreadNum+(if typed && decide (0 < system.runningChildThreadNum) then 1 else 0) = system.runningChildThreadNum ∧
      total gone next = total gone system+1 ∧ total raised next = total raised system := by
  obtain ⟨call,at_,thread⟩ := Option.bind_eq_some_iff.mp known
  have unchanged : (if typed then system.decreaseThreadCount else system).calls = system.calls := by
    unfold System.decreaseThreadCount
    split
    · split <;> rfl
    · rfl
  obtain ⟨found,_,after,at_',-,chosen,rfl⟩ := advance_cases taken
  rw [unchanged,at_,Option.some.injEq] at at_'
  subst at_'
  cases chosen
  have exits := total_set gone at_ (call.setThread .exited)
  have raises := total_set raised at_ (call.setThread .exited)
  rw [gone_eq_zero thread (by simp),gone_setThread thread,if_pos rfl] at exits
  rw [raised_setThread] at raises
  simp only [total,unchanged]
  refine ⟨?_,exits,Nat.add_right_cancel raises⟩
  cases typed with
  | false => rfl
  | true =>
    by_cases positive : 0 < system.runningChildThreadNum
    · simp only [System.decreaseThreadCount,positive,if_true,decide_true,Bool.and_self]
      omega
    · simp only [System.decreaseThreadCount,positive,if_true,if_false,decide_false,Bool.and_false,Bool.false_eq_true,Nat.add_zero]

theorem step_excess (taken : fires System.step system event next) :
    excess next = excess system+if met system event then 0 else 1 := by
  rw [excess,excess]
  cases event with
  | start allocated =>
    simp only [fires,System.step] at taken
    simp only [met,if_true]
    split at taken
    · cases taken
      omega
    · split at taken
      · cases taken
        simp only [total,List.map_append,List.sum_append,List.map_cons,List.map_nil,List.sum_cons,List.sum_nil,gone,raised,Call.thread]
        omega
      · cases taken
        omega
  | pthreadCreate index created =>
    simp only [fires,System.step] at taken
    simp only [met,if_true]
    split at taken
    · rename_i at_
      cases taken
      have exits := total_set gone at_ (if created then .created .begun else .failed)
      have raises := total_set raised at_ (if created then .created .begun else .failed)
      cases created with
      | true =>
        simp only [total,if_true,gone,raised,Call.thread] at exits raises ⊢
        omega
      | false =>
        simp only [total,Bool.false_eq_true,if_false,gone,raised,Call.thread] at exits raises ⊢
        omega
    · cases taken
  | increaseThreadCount index =>
    simp only [fires,System.step] at taken
    simp only [met,if_true]
    split at taken
    · rename_i thread at_
      cases taken
      have exits := total_set gone at_ (.increased thread)
      have raises := total_set raised at_ (.increased thread)
      simp only [total,gone,raised,Call.thread] at exits raises ⊢
      omega
    · cases taken
  | pthreadDetach index =>
    simp only [fires,System.step] at taken
    simp only [met,if_true]
    split at taken
    · rename_i thread at_
      cases taken
      have exits := total_set gone at_ (.returned thread)
      have raises := total_set raised at_ (.returned thread)
      simp only [total,gone,raised,Call.thread] at exits raises ⊢
      omega
    · cases taken
  | setThreadType index typed =>
    have kept := advance_balance taken (by
      intro thread after chosen
      cases thread <;> cases chosen
      simp)
    simp only [met,if_true,kept]
    omega
  | getThreadStopFlag index =>
    have kept := advance_balance taken (by
      intro thread after chosen
      cases thread <;> cases chosen
      split <;> simp)
    simp only [met,if_true,kept]
    omega
  | leaveJoinThread index =>
    have kept := advance_balance taken (by
      intro thread after chosen
      cases thread <;> cases chosen
      simp)
    simp only [met,if_true,kept]
    omega
  | destroy index =>
    simp only [fires,System.step] at taken
    split at taken
    · rename_i typed ending
      obtain ⟨number,exits,raises⟩ := exit_balance ending taken
      have lowers : met system (.destroy index) = (typed && decide (0 < system.runningChildThreadNum)) := by rw [met,ending]
      rw [lowers,exits,raises]
      cases lowered : typed && decide (0 < system.runningChildThreadNum) with
      | true =>
        rw [lowered] at number
        simp only [if_true] at number ⊢
        omega
      | false =>
        rw [lowered] at number
        simp only [Bool.false_eq_true,if_false] at number ⊢
        omega
    · cases taken
  | notifyChildThreadStop =>
    cases taken
    simp only [met,if_true,total]
    omega

theorem Quiet.raised_eq (quiet : Quiet system) : total raised system = total alive system+total gone system := by
  obtain ⟨flag,number,calls⟩ := system
  simp only [Quiet,total] at quiet ⊢
  induction calls with
  | nil => rfl
  | cons call calls ih =>
    have rest := ih fun other member => quiet other (List.mem_cons_of_mem _ member)
    have own : raised call = alive call+gone call := by
      have still := quiet call List.mem_cons_self
      cases call with
      | failed => rfl
      | returned thread =>
        cases thread with
        | ending => cases still
        | _ => rfl
      | _ => cases still
    simp only [List.map_cons,List.sum_cons]
    omega

end Step

/-- In a quiet state at the end of a run, the count is the number of the threads that have not exited, and so what
`NotifyChildThreadStop` waits for is that there is none, exactly if each exit of a thread met the condition. -/
theorem threads_counted_iff_met {events : List Event} {system : System} (run : Reaches (fires System.step) System.new events system)
    (quiet : Quiet system) : system.runningChildThreadNum = total alive system ↔
      Reaches (guarded (fires System.step) fun system event => met system event = true) System.new events system := by
  have known := quiet.raised_eq
  have balanced : excess system = 0 ↔ Reaches (guarded (fires System.step) fun system event => met system event = true) System.new events system :=
    run.guarded_iff_of_deficit (fun _ => True) excess trivial rfl (by
      intro before event after _ taken
      exact ⟨trivial,step_excess taken⟩)
  rw [← balanced,excess]
  omega

/-- Two threads that exit on the two ways there are, one of them before its `Start` has returned. -/
def exits : List Event :=
  [.start true,.start true,.pthreadCreate 0 true,.increaseThreadCount 0,.setThreadType 0 true,.getThreadStopFlag 0,.pthreadCreate 1 true,
    .increaseThreadCount 1,.notifyChildThreadStop,.setThreadType 1 true,.getThreadStopFlag 1,.destroy 1,.pthreadDetach 0,.pthreadDetach 1]

theorem threads_counted_iff_met_exits :
    ∃ system, Reaches (fires System.step) System.new exits system ∧
      system.calls = [.returned (.joined true),.returned .exited] ∧ system.runningChildThreadNum = total alive system := by
  obtain ⟨system,run,calls⟩ := Reaches.exists_of_foldlM_guarded System.step (fun system event => met system event = true) System.new exits
    (fun system => decide (system.calls = [.returned (.joined true),.returned .exited])) (by decide)
  have ended := of_decide_eq_true calls
  have quiet : Quiet system := by
    intro call member
    rw [ended] at member
    revert call
    decide
  have plain : Reaches (fires System.step) System.new exits system := run.mono fun _ _ _ => And.right
  exact ⟨system,plain,ended,(threads_counted_iff_met plain quiet).mpr run⟩

/-- The thread is gone before its `Start` goes on. -/
def goneFirst : List Event :=
  [.start true,.pthreadCreate 0 true,.setThreadType 0 true,.notifyChildThreadStop,.getThreadStopFlag 0,.destroy 0,.increaseThreadCount 0,
    .pthreadDetach 0]

/-- `NotifyChildThreadStop` waits for a thread that does not exist. -/
theorem gone_thread_counted :
    ∃ system, Reaches (fires System.step) System.new goneFirst system ∧ Quiet system ∧ system.calls = [.returned .exited] ∧
      system.runningChildThreadNum = 1 ∧ system.stopped = false ∧ total alive system = 0 := by
  obtain ⟨system,run,reached⟩ := Reaches.exists_of_foldlM System.step System.new goneFirst
    (fun system => decide (system.calls = [.returned .exited] ∧ system.runningChildThreadNum = 1)) (by decide)
  obtain ⟨calls,number⟩ := of_decide_eq_true reached
  refine ⟨system,run,?_,calls,number,?_,?_⟩
  · intro call member
    rw [calls] at member
    revert call
    decide
  · rw [System.stopped,number]
    decide
  · rw [total,calls]
    rfl

end CommunicationIpc.ThreadCount
