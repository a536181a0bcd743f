import CommunicationIpc.BinderSteps
import CommunicationIpc.Library.Run

/-! When `output_` of a `BinderInvoker` holds complete commands only, and none of a request that
has returned. -/
namespace CommunicationIpc.BinderOutput
open CommunicationIpc.Library CommunicationIpc.Kernel.BinderOutput CommunicationIpc.Kernel.BinderInvoker CommunicationIpc.BinderSteps

def owns (id : Nat) (segment : Segment) : Prop := segment.owner.map Owner.request = some id

theorem owns.some {id : Nat} {segment : Segment} (own : owns id segment) : segment.owner ≠ none := by
  intro none
  rw [owns,none] at own
  cases own

/-- The driver is handed `output_` and takes the command of the request. -/
def Taking (invoker : Invoker) (ioctl : Ioctl) (id : Nat) : Prop :=
  ioctl.alive = true ∧ invoker.input = [] ∧
    ∀ segment ∈ (consume (writeConsumed invoker.output.bytes ioctl.taken) invoker.output).2, ¬ owns id segment

/-- Neither the driver nor a command that is read ends the wait. -/
def Remaining (invoker : Invoker) (ioctl : Ioctl) (sync : Bool) : Prop :=
  (ioctl.alive = true → invoker.input = [] → errNone ≤ ioctl.error) ∧ ∀ cmd ∈ next invoker ioctl, ends sync cmd = false

/-- The driver is alive when a request starts to wait, and takes its command before the wait ends. -/
def Handing (invoker : Invoker) : Event → Prop
  | .sendRequest _ writes alive => writes.code = true → alive = true
  | .turn turn => ∀ frame ∈ invoker.frames.head?, ∀ id ∈ frame.request, (∃ segment ∈ invoker.output, owns id segment) →
      Taking invoker turn.ioctl id ∨ Remaining invoker turn.ioctl frame.sync
  | _ => True

section Complete
variable {invoker : Invoker}

theorem turn_framed (framed : Framed invoker.output) (sync : Bool) (turn : Turn) : Framed (invoker.turn sync turn).output := by
  have asked := transactWithDriver_works framed true turn.ioctl
  unfold Invoker.turn
  dsimp only
  split
  · rw [leave_output]
    exact asked.framed
  · split
    · rw [goOn_output]
      exact asked.framed
    · rename_i cmd unread reads
      have read : Framed ({ (invoker.transactWithDriver true turn.ioctl).1 with input := unread } : Invoker).output := asked.framed
      rcases dealWithCmd_cases read sync cmd turn with ⟨-,input,middle,result,works,same⟩ | ⟨-,middle,handling,works,same⟩
      · rw [same,leave_output]
        exact works.framed
      · rw [same,goOn_output]
        exact works.framed

theorem step_framed {event : Event} {after : Invoker} (framed : Framed invoker.output) (whole : Whole event)
    (taken : invoker.step event = some after) : Framed after.output := by
  rcases step_cases framed taken with works | ⟨request,writes,alive,rfl,rfl⟩ | ⟨reply,writes,alive,rfl,rfl⟩ |
    ⟨turn,frame,frames,rfl,waits,rfl⟩ | ⟨ioctl,garbled,rfl,idle,rfl⟩ | ⟨request,answer,rfl,rfl⟩ | ⟨cmd,rfl,other,rfl⟩
  · exact works.framed
  · rcases @sendRequest_cases invoker request writes alive whole with same | ⟨bytes,frame,-,same⟩
    · rw [same]
      exact framed
    · rw [same]
      exact framed.append frame
  · obtain ⟨output,same | ⟨bytes,frame,same⟩,sent⟩ := @sendReply_cases invoker reply writes alive whole
    · rw [sent,same]
      exact framed
    · rw [sent,same]
      exact framed.append frame
  · exact turn_framed framed frame.sync turn
  · rw [workLoop_output]
    exact (transactWithDriver_works framed true ioctl).framed
  · exact framed
  · exact framed

end Complete

section Waits
variable {invoker : Invoker}

def waiting (invoker : Invoker) : List Nat := invoker.frames.filterMap Frame.request

/-- Commands of requests lie in `output_` only while their requests wait. -/
structure Waited (invoker : Invoker) : Prop where
  owned : ∀ segment ∈ invoker.output, ∀ id, owns id segment → id ∈ waiting invoker
  fresh : ∀ id ∈ waiting invoker, id < invoker.requests
  distinct : (waiting invoker).Nodup
  returned : ∀ result ∈ invoker.results, result.1 < invoker.requests ∧ result.1 ∉ waiting invoker

theorem waited_new : Waited Invoker.new where
  owned := nofun
  fresh := nofun
  distinct := List.nodup_nil
  returned := nofun

theorem Waited.works {lossless : Prop} {after : Invoker} (waited : Waited invoker) (works : Works lossless invoker after) :
    Waited after where
  owned := by
    intro segment member id own
    rw [waiting,works.frames]
    exact waited.owned segment (works.owned segment member own.some) id own
  fresh := by
    rw [waiting,works.frames,works.requests]
    exact waited.fresh
  distinct := by
    rw [waiting,works.frames]
    exact waited.distinct
  returned := by
    rw [waiting,works.frames,works.results,works.requests]
    exact waited.returned

theorem Waited.input (waited : Waited invoker) (input : List Return) : Waited { invoker with input := input } :=
  ⟨waited.owned,waited.fresh,waited.distinct,waited.returned⟩

theorem waiting_goOn (handling : Bool) : waiting (invoker.goOn handling) = waiting invoker := by
  unfold Invoker.goOn waiting
  split
  · rfl
  · rename_i frame frames waits
    rw [waits]
    rfl

theorem Waited.goOn (waited : Waited invoker) (handling : Bool) : Waited (invoker.goOn handling) := by
  have results : (invoker.goOn handling).results = invoker.results := by
    unfold Invoker.goOn
    split <;> rfl
  have requests : (invoker.goOn handling).requests = invoker.requests := by
    unfold Invoker.goOn
    split <;> rfl
  constructor
  · rw [goOn_output,waiting_goOn]
    exact waited.owned
  · rw [waiting_goOn,requests]
    exact waited.fresh
  · rw [waiting_goOn]
    exact waited.distinct
  · rw [waiting_goOn,results,requests]
    exact waited.returned

theorem Waited.leave {frame : Frame} {frames : List Frame} (waited : Waited invoker) (waits : invoker.frames = frame :: frames)
    (gone : ∀ id ∈ frame.request, ∀ segment ∈ invoker.output, ¬ owns id segment) (result : Result) : Waited (invoker.leave result) := by
  cases own : frame.request with
  | none =>
    have same : waiting invoker = frames.filterMap Frame.request := by
      rw [waiting,waits,List.filterMap_cons_none own]
    obtain ⟨owned,fresh,distinct,returned⟩ := waited
    rw [same] at owned fresh distinct returned
    unfold Invoker.leave
    simp only [waits,own]
    exact ⟨owned,fresh,distinct,returned⟩
  | some id =>
    have same : waiting invoker = id :: frames.filterMap Frame.request := by
      rw [waiting,waits,List.filterMap_cons_some own]
    obtain ⟨owned,fresh,distinct,returned⟩ := waited
    rw [same] at owned fresh distinct returned
    obtain ⟨other,rest⟩ := List.nodup_cons.mp distinct
    unfold Invoker.leave
    simp only [waits,own]
    refine ⟨?_,?_,rest,?_⟩
    · intro segment member owner owning
      rcases List.mem_cons.mp (owned segment member owner owning) with same | inside
      · rw [same] at owning
        exact absurd owning (gone id own segment member)
      · exact inside
    · intro owner member
      exact fresh owner (List.mem_cons_of_mem id member)
    · intro entry member
      rcases List.mem_append.mp member with before | last
      · obtain ⟨below,outside⟩ := returned entry before
        exact ⟨below,fun inside => outside (List.mem_cons_of_mem id inside)⟩
      · rw [List.mem_singleton.mp last]
        exact ⟨fresh id List.mem_cons_self,other⟩

theorem Taking.gone {ioctl : Ioctl} {id : Nat} (framed : Framed invoker.output) (taking : Taking invoker ioctl id) :
    ∀ segment ∈ (invoker.transactWithDriver true ioctl).1.output, ¬ owns id segment := by
  obtain ⟨alive,empty,takes⟩ := taking
  intro segment member
  apply takes
  rw [transactWithDriver_asks alive empty] at member
  have dropped : segment ∈ (invoker.dropConsumed (writeConsumed invoker.output.bytes ioctl.taken) ioctl.moved).output := by
    unfold Invoker.updateConsumedData Invoker.fillInput at member
    dsimp only at member
    split at member <;> exact member
  unfold Invoker.dropConsumed at dropped
  dsimp only at dropped
  split at dropped
  · rename_i nothing
    rw [nothing,consume_zero framed]
    exact dropped
  · dsimp only at dropped
    split at dropped
    · split at dropped
      · exact dropped
      · cases dropped
    · cases dropped

theorem turn_waited {frame : Frame} {frames : List Frame} {turn : Turn} (framed : Framed invoker.output) (waited : Waited invoker)
    (waits : invoker.frames = frame :: frames) (handing : Handing invoker (.turn turn)) : Waited (invoker.turn frame.sync turn) := by
  have asked := transactWithDriver_works framed true turn.ioctl
  have still : Waited (invoker.transactWithDriver true turn.ioctl).1 := waited.works asked
  have top := asked.frames.trans waits
  -- The command of the request is gone, or the wait goes on.
  have safe : (∀ id ∈ frame.request, ∀ segment ∈ (invoker.transactWithDriver true turn.ioctl).1.output, ¬ owns id segment) ∨
      Remaining invoker turn.ioctl frame.sync := by
    by_cases remaining : Remaining invoker turn.ioctl frame.sync
    · exact .inr remaining
    · left
      intro id own segment member owning
      by_cases held : ∃ segment ∈ invoker.output, owns id segment
      · have head : frame ∈ invoker.frames.head? := by
          rw [waits]
          rfl
        rcases handing frame head id own held with taking | stays
        · exact taking.gone framed segment member owning
        · exact remaining stays
      · exact held ⟨segment,asked.owned segment member owning.some,owning⟩
  unfold Invoker.turn
  dsimp only
  split
  · rename_i failed
    obtain ⟨alive,empty,negative⟩ := error_of_turn failed
    rcases safe with gone | stays
    · exact still.leave top gone _
    · exact absurd (stays.1 alive empty) (Int.not_le.mpr negative)
  · split
    · exact still.goOn false
    · rename_i cmd unread reads
      have read : Framed ({ (invoker.transactWithDriver true turn.ioctl).1 with input := unread } : Invoker).output := asked.framed
      rcases dealWithCmd_cases read frame.sync cmd turn with ⟨leaves,input,middle,result,works,same⟩ | ⟨-,middle,handling,works,same⟩
      · rw [same]
        rcases safe with gone | stays
        · apply ((still.input input).works works).leave (works.frames.trans top)
          intro id own segment member owning
          exact gone id own segment (works.owned segment member owning.some) owning
        · rw [stays.2 cmd (next_of_turn reads)] at leaves
          cases leaves
      · rw [same]
        exact ((still.input unread).works works).goOn handling

theorem sendRequest_waited {request : Request} {writes : Writes} {alive : Bool} (waited : Waited invoker)
    (whole : Whole (.sendRequest request writes alive)) (handing : Handing invoker (.sendRequest request writes alive)) :
    Waited (invoker.sendRequest request writes alive) := by
  obtain ⟨owned,fresh,distinct,returned⟩ := waited
  have unused : invoker.requests ∉ waiting invoker := fun inside => Nat.lt_irrefl _ (fresh _ inside)
  rcases @sendRequest_cases invoker request writes alive whole with same | ⟨bytes,frame,first,same⟩
  · rw [same]
    refine ⟨owned,fun id member => Nat.lt_succ_of_lt (fresh id member),distinct,?_⟩
    intro result member
    rcases List.mem_append.mp member with before | last
    · exact ⟨Nat.lt_succ_of_lt (returned result before).1,(returned result before).2⟩
    · rw [List.mem_singleton.mp last]
      exact ⟨Nat.lt_succ_self _,unused⟩
  · rw [same,handing first]
    refine ⟨?_,?_,List.nodup_cons.mpr ⟨unused,distinct⟩,?_⟩
    · intro segment member id own
      rcases List.mem_append.mp member with before | last
      · exact List.mem_cons_of_mem _ (owned segment before id own)
      · rw [List.mem_singleton.mp last] at own
        cases own
        exact List.mem_cons_self
    · intro id member
      rcases List.mem_cons.mp member with new | before
      · exact Nat.lt_succ_of_le new.le
      · exact Nat.lt_succ_of_lt (fresh id before)
    · intro result member
      obtain ⟨below,outside⟩ := returned result member
      refine ⟨Nat.lt_succ_of_lt below,?_⟩
      intro inside
      rcases List.mem_cons.mp inside with new | before
      · exact Nat.ne_of_lt below new
      · exact outside before

theorem sendReply_waited {reply : Reply} {writes : Writes} {alive : Bool} (waited : Waited invoker)
    (whole : Whole (.sendReply reply writes alive)) : Waited (invoker.sendReply reply writes alive) := by
  obtain ⟨output,written,same⟩ := @sendReply_cases invoker reply writes alive whole
  have still : waiting (invoker.sendReply reply writes alive) = waiting invoker := by
    rw [same]
    cases alive <;> rfl
  obtain ⟨owned,fresh,distinct,returned⟩ := waited
  rw [← still] at owned fresh distinct returned
  rw [same] at owned fresh distinct returned ⊢
  refine ⟨?_,fresh,distinct,returned⟩
  intro segment member id own
  rcases written with nothing | ⟨bytes,-,queued⟩
  · exact owned segment (nothing ▸ member) id own
  · rcases List.mem_append.mp (queued ▸ member : segment ∈ invoker.output ++ [⟨none,bytes⟩]) with before | last
    · exact owned segment before id own
    · rw [List.mem_singleton.mp last] at own
      cases own

theorem step_waited {event : Event} {after : Invoker} (framed : Framed invoker.output) (waited : Waited invoker)
    (whole : Whole event) (handing : Handing invoker event) (taken : invoker.step event = some after) : Waited after := by
  rcases step_cases framed taken with works | ⟨request,writes,alive,rfl,rfl⟩ | ⟨reply,writes,alive,rfl,rfl⟩ |
    ⟨turn,frame,frames,rfl,waits,rfl⟩ | ⟨ioctl,garbled,rfl,idle,rfl⟩ | ⟨request,answer,rfl,rfl⟩ | ⟨cmd,rfl,other,rfl⟩
  · exact waited.works works
  · exact sendRequest_waited waited whole handing
  · exact sendReply_waited waited whole
  · exact turn_waited framed waited waits handing
  · have asked := waited.works (transactWithDriver_works framed true ioctl)
    unfold Invoker.workLoop
    dsimp only
    split
    · exact asked
    · split <;> exact asked.input _
  · exact ⟨waited.owned,waited.fresh,waited.distinct,waited.returned⟩
  · exact ⟨waited.owned,waited.fresh,waited.distinct,waited.returned⟩

end Waits

/-- Without half-written transactions `output_` is a sequence of complete commands; when also the driver takes the command of each
request before its wait ends, nothing of a request that has returned is left there. -/
theorem output_without_residue {events : List Event} {invoker : Invoker}
    (run : Reaches (guarded (fires Invoker.step) fun _ => Whole) Invoker.new events invoker) :
    Complete invoker.output.bytes ∧
      (Reaches (guarded (fires Invoker.step) fun before event => Whole event ∧ Handing before event) Invoker.new events invoker →
        ∀ result ∈ invoker.results, ∀ segment ∈ invoker.output, ¬ owns result.1 segment) := by
  constructor
  · have framed : Framed invoker.output := by
      apply run.invariant (fun invoker => Framed invoker.output) framed_nil
      intro before event after framed taken
      exact step_framed framed taken.1 taken.2
    exact framed.complete
  · intro handed
    have both : Framed invoker.output ∧ Waited invoker := by
      apply handed.invariant (fun invoker => Framed invoker.output ∧ Waited invoker) ⟨framed_nil,waited_new⟩
      intro before event after held taken
      obtain ⟨⟨whole,handing⟩,taken⟩ := taken
      exact ⟨step_framed held.1 whole taken,step_waited held.1 held.2 whole handing taken⟩
    intro result member segment inside own
    exact (both.2.returned result member).2 (both.2.owned segment inside result.1 own)

section Runs

instance (id : Nat) (segment : Segment) : Decidable (owns id segment) := inferInstanceAs (Decidable (_ = _))

instance (invoker : Invoker) (ioctl : Ioctl) (id : Nat) : Decidable (Taking invoker ioctl id) :=
  inferInstanceAs (Decidable (_ ∧ _ ∧ _))

instance (invoker : Invoker) (ioctl : Ioctl) (sync : Bool) : Decidable (Remaining invoker ioctl sync) :=
  inferInstanceAs (Decidable (_ ∧ _))

instance (invoker : Invoker) : (event : Event) → Decidable (Handing invoker event)
  | .sendRequest _ writes alive => inferInstanceAs (Decidable (writes.code = true → alive = true))
  | .turn turn => inferInstanceAs (Decidable (∀ frame ∈ invoker.frames.head?, ∀ id ∈ frame.request,
      (∃ segment ∈ invoker.output, owns id segment) → Taking invoker turn.ioctl id ∨ Remaining invoker turn.ioctl frame.sync))
  | .acquireHandle .. | .releaseHandle .. | .addRecipient .. | .removeRecipient .. | .freeBuffer .. | .onBinderDied ..
  | .onBinderRefreshed .. | .onAcquireObject .. | .onAttemptAcquire .. | .enterLooper _ | .registerLooper _ | .exitLooper _
  | .sendReply .. | .workLoop .. | .answer .. | .returns _ => isTrue trivial

theorem output_without_residue_nested : ∃ invoker,
    Reaches (guarded (fires Invoker.step) fun before event => Whole event ∧ Handing before event) Invoker.new nestedRequests invoker ∧
    invoker.results = [(1,.contents [5]),(0,.status 29)] ∧ Complete invoker.output.bytes ∧
    ∀ result ∈ invoker.results, ∀ segment ∈ invoker.output, ¬ owns result.1 segment := by
  obtain ⟨invoker,run,test⟩ := Reaches.exists_of_foldlM_guarded Invoker.step (fun before event => Whole event ∧ Handing before event)
    Invoker.new nestedRequests (fun invoker => decide (invoker.results = [(1,.contents [5]),(0,.status 29)])) (by decide +kernel)
  have whole := run.mono fun before event after taken => (⟨taken.1.1,taken.2⟩ : guarded _ (fun _ => Whole) before event after)
  exact ⟨invoker,run,of_decide_eq_true test,(output_without_residue whole).1,(output_without_residue whole).2 run⟩

theorem commandSize_pos {bytes : List UInt8} (complete : Complete bytes) (some : bytes ≠ []) : 0 < commandSize bytes := by
  obtain ⟨parts,frames,rfl⟩ := complete
  cases parts with
  | nil => exact absurd rfl some
  | cons part rest =>
    have frame := frames part List.mem_cons_self
    have size : commandSize (part ++ rest.flatten) = part.length := Framer.size_of_prefix frame (List.prefix_append part rest.flatten)
    rw [List.flatten_cons,size]
    exact isFrame_pos frame

/-- A second write that fails leaves the code of the command; a driver call that fails leaves the command. -/
theorem residue_in_output :
    (∃ invoker, Reaches (fires Invoker.step) Invoker.new [.sendRequest ⟨0,1,7,⟨0,0,0,0⟩,0⟩ ⟨true,[false],true⟩ true] invoker ∧
      ¬ Complete invoker.output.bytes) ∧
    ∃ invoker, Reaches (fires Invoker.step) Invoker.new [.sendRequest ⟨0,1,7,⟨0,0,0,0⟩,0⟩ .succeed true,
        .turn { Turn.succeed 0 with ioctl := ⟨true,.first 0,0,-12,true⟩ }] invoker ∧
      ∃ result ∈ invoker.results, ∃ segment ∈ invoker.output, owns result.1 segment := by
  constructor
  · obtain ⟨invoker,run,test⟩ := Reaches.exists_of_foldlM Invoker.step Invoker.new
      [.sendRequest ⟨0,1,7,⟨0,0,0,0⟩,0⟩ ⟨true,[false],true⟩ true]
      (fun invoker => decide (invoker.output.bytes ≠ [] ∧ commandSize invoker.output.bytes = 0)) (by decide +kernel)
    obtain ⟨some,incomplete⟩ := of_decide_eq_true test
    refine ⟨invoker,run,?_⟩
    intro complete
    exact Nat.ne_of_gt (commandSize_pos complete some) incomplete
  · obtain ⟨invoker,run,test⟩ := Reaches.exists_of_foldlM Invoker.step Invoker.new [.sendRequest ⟨0,1,7,⟨0,0,0,0⟩,0⟩ .succeed true,
        .turn { Turn.succeed 0 with ioctl := ⟨true,.first 0,0,-12,true⟩ }]
      (fun invoker => decide (∃ result ∈ invoker.results, ∃ segment ∈ invoker.output, owns result.1 segment)) (by decide +kernel)
    exact ⟨invoker,run,of_decide_eq_true test⟩

end Runs

end CommunicationIpc.BinderOutput
