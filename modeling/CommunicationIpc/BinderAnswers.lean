import CommunicationIpc.BinderSteps
import CommunicationIpc.Library.Run

/-! When the requests of one thread get their own answers. The waits that are in progress and the
answers that are still to come stand in the same order. -/
namespace CommunicationIpc.BinderAnswers
open CommunicationIpc.Library CommunicationIpc.Kernel.BinderOutput CommunicationIpc.Kernel.BinderInvoker CommunicationIpc.BinderSteps

def answered (commands : List Return) : List Nat :=
  commands.filterMap fun cmd => match cmd with
    | .answer request _ => some request
    | _ => none

def unread (invoker : Invoker) : List Return := invoker.input ++ invoker.driver.todo

/-- The driver answers the latest outstanding transaction, and returns commands that the code knows, with their data. -/
def Conforms (invoker : Invoker) : Event → Prop
  | .answer request _ => invoker.driver.outstanding.head? = some request
  | .returns cmd => cmd ≠ .unknown ∧ cmd ≠ .broken
  | _ => True

/-- A wait that asks for an answer ends with one, and no other wait reads one. -/
def Fits (sync : Bool) : Return → Prop
  | .answer _ _ => sync = true
  | cmd => sync = true → ends true cmd = false

/-- The driver is alive when a synchronous request starts to wait and no answer is unread then, or comes before the driver
has taken the request; neither the driver nor a command that is read ends its wait without an answer. -/
def Steady (invoker : Invoker) : Event → Prop
  | .sendRequest request writes alive =>
    request.sync = true → writes.code = true → alive = true ∧ answered (unread invoker) = []
  | .turn turn => ∀ frame ∈ invoker.frames.head?,
      (frame.sync = true → turn.ioctl.alive = true → invoker.input = [] → errNone ≤ turn.ioctl.error) ∧
      ∀ cmd ∈ next invoker turn.ioctl, Fits frame.sync cmd
  | .answer _ _ => synchronous invoker.output = []
  | _ => True

/-- The result is the driver's answer to that very request. -/
def Backed (answers : List (Nat × Answer)) (result : Nat × Result) : Prop :=
  match result.2 with
  | .contents bytes => (result.1,.contents bytes) ∈ answers
  | .status code => (result.1,.status code) ∈ answers
  | .error _ => True

theorem Backed.more {answers : List (Nat × Answer)} {result : Nat × Result} (backed : Backed answers result) (entry : Nat × Answer) :
    Backed (answers ++ [entry]) result := by
  unfold Backed at backed ⊢
  split at backed
  · exact List.mem_append_left _ backed
  · exact List.mem_append_left _ backed
  · trivial

/-- The synchronous requests that the driver has not answered, the latest first. -/
def owed (invoker : Invoker) : List Nat := (synchronous invoker.output).reverse ++ invoker.driver.outstanding

def asking (invoker : Invoker) : List (Option Nat) := (invoker.frames.filter Frame.sync).map Frame.request

/-- The waits that ask for an answer stand in the order in which the answers come: first those that were read, then those to
be read, then those that the driver owes. -/
structure Answered (read : List Nat) (invoker : Invoker) : Prop where
  framed : Framed invoker.output
  stack : asking invoker = (read ++ answered (unread invoker) ++ owed invoker).map some
  turn : read ++ answered (unread invoker) = [] ∨ synchronous invoker.output = []
  given : ∀ request answer, .answer request answer ∈ unread invoker → (request,answer) ∈ invoker.driver.answers
  known : ∀ cmd ∈ unread invoker, cmd ≠ .unknown ∧ cmd ≠ .broken
  fresh : ∀ request ∈ owed invoker, request < invoker.requests
  distinct : (owed invoker).Nodup
  open_ : ∀ entry ∈ invoker.driver.answers, entry.1 < invoker.requests ∧ entry.1 ∉ owed invoker
  once : (invoker.driver.answers.map Prod.fst).Nodup
  backed : ∀ result ∈ invoker.results, Backed invoker.driver.answers result

theorem answered_new : Answered [] Invoker.new where
  framed := framed_nil
  stack := rfl
  turn := .inl rfl
  given := nofun
  known := nofun
  fresh := nofun
  distinct := List.nodup_nil
  open_ := nofun
  once := List.nodup_nil
  backed := nofun

section Steps
variable {invoker : Invoker} {read : List Nat}

theorem owed_works {lossless : Prop} {after : Invoker} (works : Works lossless invoker after) (kept : lossless) :
    owed after = owed invoker := by
  obtain ⟨front,output,outstanding⟩ := works.handed kept
  unfold owed
  rw [output,outstanding,List.reverse_append,List.append_assoc]

theorem Answered.works {lossless : Prop} {after : Invoker} (held : Answered read invoker) (works : Works lossless invoker after)
    (kept : lossless) : Answered read after := by
  have same := owed_works works kept
  have returns : unread after = unread invoker := works.unread
  have frames : asking after = asking invoker := by
    unfold asking
    rw [works.frames]
  refine ⟨works.framed,?_,?_,?_,?_,?_,?_,?_,?_,?_⟩
  · rw [frames,returns,same]
    exact held.stack
  · rw [returns]
    apply held.turn.imp_right
    intro nothing
    obtain ⟨front,output,-⟩ := works.handed kept
    rw [nothing] at output
    exact (List.append_eq_nil_iff.mp output.symm).2
  · rw [returns,works.answers]
    exact held.given
  · rw [returns]
    exact held.known
  · rw [same,works.requests]
    exact held.fresh
  · rw [same]
    exact held.distinct
  · rw [same,works.requests,works.answers]
    exact held.open_
  · rw [works.answers]
    exact held.once
  · rw [works.results,works.answers]
    exact held.backed

theorem answered_cons (cmd : Return) (rest : List Return) : answered (cmd :: rest) = answered [cmd] ++ answered rest :=
  @List.filterMap_append Return Nat [cmd] rest _

/-- A command that is read counts as read when it is an answer. -/
theorem Answered.reads {cmd : Return} {rest : List Return} (held : Answered [] invoker) (head : invoker.input = cmd :: rest) :
    Answered (answered [cmd]) { invoker with input := rest } := by
  have split : unread invoker = cmd :: unread { invoker with input := rest } := by
    unfold unread
    rw [head]
    rfl
  obtain ⟨framed,stack,turn,given,known,fresh,distinct,open_,once,backed⟩ := held
  rw [split] at stack turn given known
  rw [answered_cons] at stack turn
  refine ⟨framed,stack,turn,?_,?_,fresh,distinct,open_,once,backed⟩
  · intro request answer member
    exact given request answer (List.mem_cons_of_mem cmd member)
  · intro other member
    exact known other (List.mem_cons_of_mem cmd member)

theorem Answered.goOn (held : Answered read invoker) (handling : Bool) : Answered read (invoker.goOn handling) := by
  unfold Invoker.goOn
  split
  · exact held
  · rename_i frame frames waits
    refine ⟨held.framed,?_,held.turn,held.given,held.known,held.fresh,held.distinct,held.open_,held.once,held.backed⟩
    refine Eq.trans ?_ held.stack
    unfold asking
    rw [waits]
    cases sync : frame.sync <;> simp [sync]

theorem Answered.leaves {frame : Frame} {frames : List Frame} (held : Answered [] invoker) (waits : invoker.frames = frame :: frames)
    (oneWay : frame.sync = false) (code : Int) : Answered [] (invoker.leave (.error code)) := by
  unfold Invoker.leave
  simp only [waits]
  refine ⟨held.framed,?_,held.turn,held.given,held.known,held.fresh,held.distinct,held.open_,held.once,?_⟩
  · refine Eq.trans ?_ held.stack
    unfold asking
    rw [waits,List.filter_cons_of_neg (by simp [oneWay])]
  · intro result member
    cases own : frame.request with
    | none =>
      simp only [own] at member
      exact held.backed result member
    | some request =>
      simp only [own] at member
      rcases List.mem_append.mp member with before | last
      · exact held.backed result before
      · rw [List.mem_singleton.mp last]
        trivial

/-- The innermost wait that asks is the one whose answer was read. -/
theorem Answered.returns {frame : Frame} {frames : List Frame} {request : Nat} (held : Answered [request] invoker)
    (waits : invoker.frames = frame :: frames) (sync : frame.sync = true) {result : Result}
    (backed : Backed invoker.driver.answers (request,result)) : Answered [] (invoker.leave result) := by
  have stack := held.stack
  have top : asking invoker = frame.request :: (frames.filter Frame.sync).map Frame.request := by
    unfold asking
    rw [waits,List.filter_cons_of_pos sync]
    rfl
  rw [top] at stack
  obtain ⟨own,rest⟩ := List.cons.inj stack
  unfold Invoker.leave
  simp only [waits,own]
  refine ⟨held.framed,rest,?_,held.given,held.known,held.fresh,held.distinct,held.open_,held.once,?_⟩
  · exact .inr (held.turn.resolve_left nofun)
  · intro entry member
    rcases List.mem_append.mp member with before | last
    · exact held.backed entry before
    · rw [List.mem_singleton.mp last]
      exact backed

theorem answered_append (front back : List Return) : answered (front ++ back) = answered front ++ answered back :=
  List.filterMap_append

theorem synchronous_queued (output : Output) (owner : Option Owner) (bytes : List UInt8) :
    synchronous (output ++ [⟨owner,bytes⟩]) = synchronous output ++ synchronous [⟨owner,[]⟩] := by
  rw [synchronous_append]
  rfl

theorem sendRequest_answered {request : Request} {writes : Writes} {alive : Bool} (held : Answered [] invoker)
    (whole : Whole (.sendRequest request writes alive)) (steady : Steady invoker (.sendRequest request writes alive)) :
    Answered [] (invoker.sendRequest request writes alive) := by
  obtain ⟨framed,stack,turn,given,known,fresh,distinct,open_,once,backed⟩ := held
  have later : ∀ entry ∈ invoker.driver.answers, entry.1 < invoker.requests+1 ∧ entry.1 ∉ owed invoker := by
    intro entry member
    exact ⟨Nat.lt_succ_of_lt (open_ entry member).1,(open_ entry member).2⟩
  have failed : ∀ code : Int, ∀ result ∈ invoker.results ++ [(invoker.requests,.error code)],
      Backed invoker.driver.answers result := by
    intro code result member
    rcases List.mem_append.mp member with before | last
    · exact backed result before
    · rw [List.mem_singleton.mp last]
      trivial
  rcases @sendRequest_cases invoker request writes alive whole with same | ⟨bytes,frame,first,same⟩
  · rw [same]
    exact ⟨framed,stack,turn,given,known,fun id member => Nat.lt_succ_of_lt (fresh id member),distinct,later,once,failed _⟩
  · rw [same]
    cases sync : request.sync with
    | false =>
      have still : synchronous (invoker.output ++ [⟨some ⟨invoker.requests,false⟩,bytes⟩]) = synchronous invoker.output := by
        rw [synchronous_queued]
        exact List.append_nil _
      have owes : owed { invoker with output := invoker.output ++ [⟨some ⟨invoker.requests,false⟩,bytes⟩] } = owed invoker := by
        unfold owed
        rw [still]
      refine ⟨framed.append frame,?_,?_,given,known,?_,?_,?_,once,?_⟩
      · refine Eq.trans ?_ (stack.trans (congrArg _ (congrArg _ owes.symm)))
        cases alive <;> rfl
      · exact turn.imp_right still.trans
      · intro id member
        exact Nat.lt_succ_of_lt (fresh id (owes ▸ member))
      · exact (owes ▸ distinct :)
      · intro entry member
        exact ⟨(later entry member).1,fun inside => (later entry member).2 (owes ▸ inside)⟩
      · cases alive with
        | true => exact backed
        | false => exact failed _
    | true =>
      obtain ⟨rfl,nothing⟩ := steady sync first
      have owes : owed { invoker with output := invoker.output ++ [⟨some ⟨invoker.requests,true⟩,bytes⟩] } =
          invoker.requests :: owed invoker := by
        unfold owed
        rw [synchronous_queued,List.reverse_append]
        rfl
      have unused : invoker.requests ∉ owed invoker := fun inside => Nat.lt_irrefl _ (fresh _ inside)
      refine ⟨framed.append frame,?_,.inl nothing,given,known,?_,?_,?_,once,backed⟩
      · rw [nothing] at stack
        change some invoker.requests :: asking invoker = ([] ++ answered (unread invoker) ++ owed { invoker with output := _ }).map some
        rw [owes,nothing,stack]
        rfl
      · intro id member
        rcases List.mem_cons.mp (owes ▸ member : id ∈ invoker.requests :: owed invoker) with new | before
        · exact Nat.lt_succ_of_le new.le
        · exact Nat.lt_succ_of_lt (fresh id before)
      · exact (owes ▸ List.nodup_cons.mpr ⟨unused,distinct⟩ :)
      · intro entry member
        refine ⟨(later entry member).1,?_⟩
        intro inside
        rcases List.mem_cons.mp (owes ▸ inside : entry.1 ∈ invoker.requests :: owed invoker) with new | before
        · exact Nat.ne_of_lt (open_ entry member).1 new
        · exact (open_ entry member).2 before

theorem sendReply_answered {reply : Reply} {writes : Writes} {alive : Bool} (held : Answered [] invoker)
    (whole : Whole (.sendReply reply writes alive)) : Answered [] (invoker.sendReply reply writes alive) := by
  obtain ⟨output,written,same⟩ := @sendReply_cases invoker reply writes alive whole
  have still : synchronous output = synchronous invoker.output := by
    rcases written with nothing | ⟨bytes,-,queued⟩
    · rw [nothing]
    · rw [queued,synchronous_queued]
      exact List.append_nil _
  have framed : Framed output := by
    rcases written with nothing | ⟨bytes,frame,queued⟩
    · exact nothing ▸ held.framed
    · exact queued ▸ held.framed.append frame
  have owes : owed { invoker with output := output } = owed invoker := by
    unfold owed
    rw [still]
  rw [same]
  refine ⟨framed,?_,held.turn.imp_right still.trans,held.given,held.known,?_,?_,?_,held.once,held.backed⟩
  · refine Eq.trans ?_ (held.stack.trans (congrArg _ (congrArg _ owes.symm)))
    cases alive <;> rfl
  · exact (owes ▸ held.fresh :)
  · exact (owes ▸ held.distinct :)
  · exact (owes ▸ held.open_ :)

theorem answer_answered {request : Nat} {answer : Answer} (held : Answered [] invoker)
    (conforms : Conforms invoker (.answer request answer)) (steady : Steady invoker (.answer request answer)) :
    Answered [] { invoker with driver := {
      outstanding := invoker.driver.outstanding.erase request,
      todo := invoker.driver.todo ++ [.answer request answer],
      answers := invoker.driver.answers ++ [(request,answer)] } } := by
  obtain ⟨framed,stack,turn,given,known,fresh,distinct,open_,once,backed⟩ := held
  obtain ⟨others,latest⟩ := List.head?_eq_some_iff.mp conforms
  have nothing : synchronous invoker.output = [] := steady
  have owes : owed invoker = request :: others := by
    unfold owed
    rw [nothing,latest]
    rfl
  rw [owes] at stack fresh distinct open_
  obtain ⟨other,rest⟩ := List.nodup_cons.mp distinct
  have after : ∀ todo answers, owed { invoker with driver := ⟨invoker.driver.outstanding.erase request,todo,answers⟩ } = others := by
    intro todo answers
    unfold owed
    rw [nothing]
    dsimp only
    rw [latest,List.erase_cons_head]
    rfl
  have more : ∀ outstanding answers, unread { invoker with driver := ⟨outstanding,invoker.driver.todo ++ [.answer request answer],answers⟩ } =
      unread invoker ++ [.answer request answer] := by
    intro outstanding answers
    exact (List.append_assoc _ _ _).symm
  refine ⟨framed,?_,.inr nothing,?_,?_,?_,?_,?_,?_,?_⟩
  · rw [after,more,answered_append,List.nil_append,List.append_assoc]
    exact stack
  · intro id reply member
    rw [more] at member
    rcases List.mem_append.mp member with before | last
    · exact List.mem_append_left _ (given id reply before)
    · cases List.mem_singleton.mp last
      exact List.mem_append_right _ List.mem_cons_self
  · intro cmd member
    rw [more] at member
    rcases List.mem_append.mp member with before | last
    · exact known cmd before
    · rw [List.mem_singleton.mp last]
      exact ⟨nofun,nofun⟩
  · intro id member
    rw [after] at member
    exact fresh id (List.mem_cons_of_mem request member)
  · rw [after]
    exact rest
  · intro entry member
    rw [after]
    rcases List.mem_append.mp member with before | last
    · obtain ⟨below,outside⟩ := open_ entry before
      exact ⟨below,fun inside => outside (List.mem_cons_of_mem request inside)⟩
    · rw [List.mem_singleton.mp last]
      exact ⟨fresh request List.mem_cons_self,other⟩
  · change ((invoker.driver.answers ++ [(request,answer)]).map Prod.fst).Nodup
    rw [List.map_append,List.nodup_append]
    refine ⟨once,List.pairwise_singleton _ _,?_⟩
    intro first before second last same
    obtain ⟨entry,inside,rfl⟩ := List.mem_map.mp before
    cases List.mem_singleton.mp last
    exact (open_ entry inside).2 (same ▸ List.mem_cons_self)
  · intro result member
    exact (backed result member).more (request,answer)

theorem returns_answered {cmd : Return} (held : Answered [] invoker) (conforms : Conforms invoker (.returns cmd))
    (other : ∀ request answer, cmd ≠ .answer request answer) :
    Answered [] { invoker with driver := { invoker.driver with todo := invoker.driver.todo ++ [cmd] } } := by
  have more : unread { invoker with driver := { invoker.driver with todo := invoker.driver.todo ++ [cmd] } } = unread invoker ++ [cmd] :=
    (List.append_assoc _ _ _).symm
  have none : answered [cmd] = [] := by
    cases cmd with
    | answer request answer => exact absurd rfl (other request answer)
    | _ => rfl
  have same : answered (unread invoker ++ [cmd]) = answered (unread invoker) := by
    rw [answered_append,none,List.append_nil]
  refine ⟨held.framed,?_,?_,?_,?_,held.fresh,held.distinct,held.open_,held.once,held.backed⟩
  · rw [more,same]
    exact held.stack
  · rw [more,same]
    exact held.turn
  · intro request answer member
    rw [more] at member
    rcases List.mem_append.mp member with before | last
    · exact held.given request answer before
    · exact absurd (List.mem_singleton.mp last).symm (other request answer)
  · intro entry member
    rw [more] at member
    rcases List.mem_append.mp member with before | last
    · exact held.known entry before
    · rw [List.mem_singleton.mp last]
      exact conforms

theorem workLoop_answered {ioctl : Ioctl} {garbled : List Return} (held : Answered [] invoker)
    (lossless : Lossless (.workLoop ioctl garbled)) (idle : invoker.frames = []) : Answered [] (invoker.workLoop ioctl garbled) := by
  have works := transactWithDriver_works held.framed true ioctl
  have asked := held.works works lossless
  unfold Invoker.workLoop
  dsimp only
  split
  · exact asked
  · rename_i cmd rest head
    have reads := asked.reads head
    have member : cmd ∈ unread (invoker.transactWithDriver true ioctl).1 := by
      unfold unread
      rw [head]
      exact List.mem_cons_self
    split
    · exact absurd rfl (asked.known .unknown member).1
    · rename_i request answer
      have stack := reads.stack
      have none : asking (invoker.transactWithDriver true ioctl).1 = [] := by
        unfold asking
        rw [works.frames,idle]
        rfl
      rw [show asking { (invoker.transactWithDriver true ioctl).1 with input := rest } = [] from none] at stack
      cases stack
    · rename_i notUnknown notAnswer
      have same : answered [cmd] = [] := by
        cases cmd with
        | answer request answer => exact absurd rfl (notAnswer request answer)
        | _ => rfl
      exact same ▸ reads

theorem dealWithCmd_stays {frame : Frame} {frames : List Frame} {cmd : Return} {turn : Turn} (held : Answered [] invoker)
    (waits : invoker.frames = frame :: frames) (other : ∀ request answer, cmd ≠ .answer request answer)
    (known : cmd ≠ .unknown ∧ cmd ≠ .broken) (stays : frame.sync = true → ends true cmd = false) :
    Answered [] (invoker.dealWithCmd frame.sync cmd turn) := by
  cases sync : frame.sync with
  | true =>
    cases cmd with
    | complete => exact held.goOn false
    | answer request answer => exact absurd rfl (other request answer)
    | failed code => cases stays sync
    | transaction | handled => exact held.goOn true
    | error code =>
      have none : code = errNone := by simpa [ends] using stays sync
      rw [Invoker.dealWithCmd,if_pos none]
      exact held.goOn false
    | broken => exact absurd rfl known.2
    | unknown => exact absurd rfl known.1
  | false =>
    cases cmd with
    | complete => exact held.leaves waits sync errNone
    | answer request answer => exact absurd rfl (other request answer)
    | failed code => exact held.leaves waits sync code
    | transaction | handled => exact held.goOn true
    | error code =>
      simp only [Invoker.dealWithCmd]
      split
      · exact held.goOn false
      · exact held.leaves waits sync code
    | broken => exact absurd rfl known.2
    | unknown => exact absurd rfl known.1

theorem handleReply_answered {frame : Frame} {frames : List Frame} {request : Nat} {answer : Answer} {turn : Turn}
    (held : Answered [request] invoker) (waits : invoker.frames = frame :: frames) (sync : frame.sync = true)
    (given : (request,answer) ∈ invoker.driver.answers) (kept : Kept turn.free ∧ Moved turn.flush) :
    Answered [] (invoker.handleReply true answer turn) := by
  have works := freeBuffer_works held.framed turn.buffer turn.free turn.flush
  have freed := held.works works kept
  have still := works.frames.trans waits
  cases answer with
  | failed code => exact held.returns waits sync trivial
  | status code =>
    apply freed.returns still sync
    rw [works.answers]
    exact given
  | contents bytes =>
    simp only [Invoker.handleReply]
    split
    · exact held.returns waits sync given
    · exact freed.returns still sync trivial

theorem turn_answered {frame : Frame} {frames : List Frame} {turn : Turn} (held : Answered [] invoker)
    (waits : invoker.frames = frame :: frames) (lossless : Lossless (.turn turn)) (steady : Steady invoker (.turn turn)) :
    Answered [] (invoker.turn frame.sync turn) := by
  obtain ⟨moved,kept⟩ := lossless
  obtain ⟨noError,fits⟩ := steady frame (by rw [waits]; rfl)
  have works := transactWithDriver_works held.framed true turn.ioctl
  have asked := held.works works moved
  have top := works.frames.trans waits
  unfold Invoker.turn
  dsimp only
  split
  · rename_i failed
    obtain ⟨alive,empty,negative⟩ := error_of_turn failed
    cases sync : frame.sync with
    | true => exact absurd (noError sync alive empty) (Int.not_le.mpr negative)
    | false => exact asked.leaves top sync _
  · split
    · exact asked.goOn false
    · rename_i cmd rest head
      have reads := asked.reads head
      have member : cmd ∈ unread (invoker.transactWithDriver true turn.ioctl).1 := by
        unfold unread
        rw [head]
        exact List.mem_cons_self
      have fit := fits cmd (next_of_turn head)
      cases cmd with
      | answer request answer =>
        have sync : frame.sync = true := fit
        rw [sync]
        exact handleReply_answered reads top sync (asked.given request answer member) kept
      | _ => exact dealWithCmd_stays reads top nofun (asked.known _ member) fit

theorem step_answered {event : Event} {after : Invoker} (held : Answered [] invoker) (conforms : Conforms invoker event)
    (whole : Whole event) (lossless : Lossless event) (steady : Steady invoker event) (taken : invoker.step event = some after) :
    Answered [] after := by
  rcases step_cases held.framed taken with works | ⟨request,writes,alive,rfl,rfl⟩ | ⟨reply,writes,alive,rfl,rfl⟩ |
    ⟨turn,frame,frames,rfl,waits,rfl⟩ | ⟨ioctl,garbled,rfl,idle,rfl⟩ | ⟨request,answer,rfl,rfl⟩ | ⟨cmd,rfl,other,rfl⟩
  · exact held.works works lossless
  · exact sendRequest_answered held whole steady
  · exact sendReply_answered held whole
  · exact turn_answered held waits lossless steady
  · exact workLoop_answered held lossless idle
  · exact answer_answered held conforms steady
  · exact returns_answered held conforms other

end Steps

/-- The driver follows the protocol, nothing is lost from `output_`, and waits end as they should. -/
def Orderly (invoker : Invoker) (event : Event) : Prop :=
  Conforms invoker event ∧ Whole event ∧ Lossless event ∧ Steady invoker event

/-- Contents and status codes that requests return are those of the one answer of the driver to that very request. -/
theorem requests_get_own_answers {events : List Event} {invoker : Invoker}
    (run : Reaches (guarded (fires Invoker.step) Orderly) Invoker.new events invoker) :
    (invoker.driver.answers.map Prod.fst).Nodup ∧ ∀ result ∈ invoker.results, Backed invoker.driver.answers result := by
  have held : Answered [] invoker := by
    apply run.invariant (Answered []) answered_new
    intro before event after held taken
    obtain ⟨⟨conforms,whole,lossless,steady⟩,taken⟩ := taken
    exact step_answered held conforms whole lossless steady taken
  exact ⟨held.once,held.backed⟩

section Runs

instance (writes : Writes) : Decidable (Sound writes) := inferInstanceAs (Decidable (_ ∧ _))

instance (writes : Writes) : Decidable (Kept writes) := inferInstanceAs (Decidable (_ ∨ _))

instance (flush : Flush) : Decidable (Moved flush) := inferInstanceAs (Decidable (_ ∧ _))

instance : (event : Event) → Decidable (Lossless event)
  | .acquireHandle _ writes flush | .releaseHandle _ writes flush | .addRecipient _ _ _ writes flush
  | .removeRecipient _ _ _ writes flush | .freeBuffer _ writes flush => inferInstanceAs (Decidable (Kept writes ∧ Moved flush))
  | .onBinderDied _ writes | .onBinderRefreshed _ writes | .onAcquireObject _ _ _ writes | .onAttemptAcquire _ writes
  | .enterLooper writes | .registerLooper writes | .exitLooper writes => inferInstanceAs (Decidable (Kept writes))
  | .turn turn => inferInstanceAs (Decidable (turn.ioctl.moved = true ∧ Kept turn.free ∧ Moved turn.flush))
  | .workLoop ioctl _ => inferInstanceAs (Decidable (ioctl.moved = true))
  | .sendRequest .. | .sendReply .. | .answer .. | .returns _ => isTrue trivial

instance (invoker : Invoker) : (event : Event) → Decidable (Conforms invoker event)
  | .answer request _ => inferInstanceAs (Decidable (invoker.driver.outstanding.head? = some request))
  | .returns cmd => inferInstanceAs (Decidable (cmd ≠ .unknown ∧ cmd ≠ .broken))
  | .acquireHandle .. | .releaseHandle .. | .addRecipient .. | .removeRecipient .. | .freeBuffer .. | .onBinderDied ..
  | .onBinderRefreshed .. | .onAcquireObject .. | .onAttemptAcquire .. | .enterLooper _ | .registerLooper _ | .exitLooper _
  | .sendRequest .. | .sendReply .. | .turn _ | .workLoop .. => isTrue trivial

instance (sync : Bool) : (cmd : Return) → Decidable (Fits sync cmd)
  | .answer .. => inferInstanceAs (Decidable (sync = true))
  | .complete | .failed _ | .transaction | .handled | .error _ | .broken | .unknown =>
    inferInstanceAs (Decidable (sync = true → ends true _ = false))

instance (invoker : Invoker) : (event : Event) → Decidable (Steady invoker event)
  | .sendRequest request writes alive =>
    inferInstanceAs (Decidable (request.sync = true → writes.code = true → alive = true ∧ answered (unread invoker) = []))
  | .turn turn => inferInstanceAs (Decidable (∀ frame ∈ invoker.frames.head?,
      (frame.sync = true → turn.ioctl.alive = true → invoker.input = [] → errNone ≤ turn.ioctl.error) ∧
      ∀ cmd ∈ next invoker turn.ioctl, Fits frame.sync cmd))
  | .answer .. => inferInstanceAs (Decidable (synchronous invoker.output = []))
  | .acquireHandle .. | .releaseHandle .. | .addRecipient .. | .removeRecipient .. | .freeBuffer .. | .onBinderDied ..
  | .onBinderRefreshed .. | .onAcquireObject .. | .onAttemptAcquire .. | .enterLooper _ | .registerLooper _ | .exitLooper _
  | .sendReply .. | .workLoop .. | .returns _ => isTrue trivial

instance (invoker : Invoker) (event : Event) : Decidable (Orderly invoker event) := inferInstanceAs (Decidable (_ ∧ _ ∧ _ ∧ _))

theorem requests_get_own_answers_nested : ∃ invoker,
    Reaches (guarded (fires Invoker.step) Orderly) Invoker.new nestedRequests invoker ∧
    invoker.results = [(1,.contents [5]),(0,.status 29)] ∧
    (invoker.driver.answers.map Prod.fst).Nodup ∧ ∀ result ∈ invoker.results, Backed invoker.driver.answers result := by
  obtain ⟨invoker,run,test⟩ := Reaches.exists_of_foldlM_guarded Invoker.step Orderly Invoker.new nestedRequests
    (fun invoker => decide (invoker.results = [(1,.contents [5]),(0,.status 29)])) (by decide +kernel)
  exact ⟨invoker,run,of_decide_eq_true test,requests_get_own_answers run⟩

/-- The driver takes a request and reports an error, which ends the wait; it answers later, and the next request takes that answer. -/
theorem late_answer_taken : ∃ invoker,
    Reaches (guarded (fires Invoker.step) Conforms) Invoker.new [.sendRequest ⟨0,1,7,⟨0,0,0,0⟩,0⟩ .succeed true,
      .turn { Turn.succeed 0 with ioctl := ⟨true,.all,0,-14,true⟩ },
      .answer 0 (.contents [5]),
      .sendRequest ⟨0,2,8,⟨0,0,0,0⟩,0⟩ .succeed true,.turn (.succeed 1)] invoker ∧
    (1,.contents [5]) ∈ invoker.results ∧ invoker.driver.answers = [(0,.contents [5])] ∧
    ¬ ∀ result ∈ invoker.results, Backed invoker.driver.answers result := by
  obtain ⟨invoker,run,test⟩ := Reaches.exists_of_foldlM_guarded Invoker.step Conforms Invoker.new
    [.sendRequest ⟨0,1,7,⟨0,0,0,0⟩,0⟩ .succeed true,.turn { Turn.succeed 0 with ioctl := ⟨true,.all,0,-14,true⟩ },
      .answer 0 (.contents [5]),.sendRequest ⟨0,2,8,⟨0,0,0,0⟩,0⟩ .succeed true,.turn (.succeed 1)]
    (fun invoker => decide ((1,.contents [5]) ∈ invoker.results ∧ invoker.driver.answers = [(0,.contents [5])])) (by decide +kernel)
  obtain ⟨taken,answers⟩ := of_decide_eq_true test
  refine ⟨invoker,run,taken,answers,?_⟩
  intro backed
  have own : (1,.contents [5]) ∈ invoker.driver.answers := backed _ taken
  rw [answers] at own
  cases List.mem_singleton.mp own

end Runs

end CommunicationIpc.BinderAnswers
