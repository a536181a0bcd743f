import CommunicationIpc.Kernel.BinderParse
import Mathlib.Data.List.Induction

/-! What `BinderParse` reads of a buffer and beyond it, and what it makes of a buffer of whole commands. -/
namespace CommunicationIpc.BinderParse
open CommunicationIpc.Library CommunicationIpc.Kernel.IpcInvoker CommunicationIpc.Kernel.BinderParse

/-! The switch as a table. -/

def payloadSize : Br → Nat
  | .increfs | .acquire | .release | .decrefs => ptrCookieSize
  | .transaction | .reply => transactionDataSize
  | .deadBinder | .clearDeathNotificationDone => uintptrSize
  | _ => 0

def checked : Br → Bool
  | .increfs | .acquire | .transaction | .reply => true
  | _ => false

def read (br : Br) : Bool := checked br || decide (br = .deadBinder)

def outcome : Br → Option Int32
  | .reply => some 0
  | .failedReply => some ipcInvokerFailedReply
  | .deadReply => some errDeadObject
  | _ => none

theorem find_code (br : Br) : Br.find br.code = some br := by
  cases br <;> decide

section Turn
variable {memory : Memory} {size : Nat} {s : State} {br : Br}

def after (memory : Memory) (s : State) (br : Br) : State where
  pos := s.pos+4+payloadSize br
  ret := (outcome br).getD s.ret
  handled := s.handled ++ [(br,if read br then memory.readBytes (s.pos+4) (payloadSize br) else [])]
  reads := s.reads ++ ((s.pos,4) :: if read br then [(s.pos+4,payloadSize br)] else [])


def begun (s : State) : State := { s with pos := s.pos+4, reads := s.reads ++ [(s.pos,4)] }

def refused (s : State) : State := { begun s with ret := ipcInvokerInvalidData }

theorem turn_unknown (unknown : Br.find (memory.read s.pos 4) = none) :
    s.turn memory size = ({ begun s with ret := ipcInvokerUnknownCode },true) := by
  simp only [State.turn,unknown,begun]

theorem turn_refused (known : Br.find (memory.read s.pos 4) = some br) (check : checked br = true)
    (lacks : s.pos+4 ≤ size ∧ size < s.pos+4+payloadSize br) : s.turn memory size = (refused s,false) := by
  have short : (begun s).lacks size (payloadSize br) = true := by
    apply decide_eq_true
    simp only [begun]
    omega
  have stops : (begun s).handleChecked memory size br (payloadSize br) = (refused s,false) := if_pos short
  simp only [State.turn,known]
  cases br with
  | increfs | acquire | transaction => exact stops
  | reply =>
    change State.handleChecked memory size ⟨s.pos+4,s.ret,s.handled,s.reads ++ [(s.pos,4)]⟩ .reply transactionDataSize = _ at stops
    rw [stops]
    rfl
  | _ => cases check

theorem turn_handled (known : Br.find (memory.read s.pos 4) = some br)
    (room : checked br = true → ¬ (s.pos+4 ≤ size ∧ size < s.pos+4+payloadSize br)) : s.turn memory size = (after memory s br,true) := by
  have goesOn (check : checked br = true) :
      (begun s).handleChecked memory size br (payloadSize br) = ((begun s).handle memory br (payloadSize br),true) := by
    have fits := room check
    apply if_neg
    intro lacks
    have given := of_decide_eq_true lacks
    simp only [begun] at given
    omega
  have reads (more : List (Nat × Nat)) : s.reads ++ [(s.pos,4)] ++ more = s.reads ++ (s.pos,4) :: more :=
    List.append_assoc s.reads [(s.pos,4)] more
  simp only [State.turn,known]
  cases br with
  | increfs | acquire | transaction =>
    refine (goesOn rfl).trans ?_
    simp only [State.handle,begun,reads]
    rfl
  | reply =>
    have step := goesOn rfl
    change State.handleChecked memory size ⟨s.pos+4,s.ret,s.handled,s.reads ++ [(s.pos,4)]⟩ .reply transactionDataSize = _ at step
    rw [step]
    simp only [State.handle,begun,reads,if_true]
    rfl
  | deadBinder =>
    simp only [State.handle,reads]
    rfl
  | _ => rfl

theorem turn_cases (memory : Memory) (size : Nat) (s : State) :
    (Br.find (memory.read s.pos 4) = none ∧ s.turn memory size = ({ begun s with ret := ipcInvokerUnknownCode },true)) ∨
    (∃ br, Br.find (memory.read s.pos 4) = some br ∧ checked br = true ∧ (s.pos+4 ≤ size ∧ size < s.pos+4+payloadSize br) ∧
      s.turn memory size = (refused s,false)) ∨
    (∃ br, Br.find (memory.read s.pos 4) = some br ∧
      (checked br = true → ¬ (s.pos+4 ≤ size ∧ size < s.pos+4+payloadSize br)) ∧ s.turn memory size = (after memory s br,true)) := by
  cases known : Br.find (memory.read s.pos 4) with
  | none => exact .inl ⟨rfl,turn_unknown known⟩
  | some br =>
    by_cases short : checked br = true ∧ s.pos+4 ≤ size ∧ size < s.pos+4+payloadSize br
    · exact .inr (.inl ⟨br,rfl,short.1,short.2,turn_refused known short.1 short.2⟩)
    · have room (check : checked br = true) : ¬ (s.pos+4 ≤ size ∧ size < s.pos+4+payloadSize br) :=
        fun lacks => short ⟨check,lacks⟩
      exact .inr (.inr ⟨br,rfl,room,turn_handled known room⟩)

end Turn

section Loop
variable {memory : Memory} {size : Nat} {s : State}

/-- Every turn moves on by at least the code of its command, so that a turn for each byte left and one more suffice. -/
theorem loop_terminates (turns : Nat) (s : State) (enough : size ≤ s.pos+turns) :
    ∃ ended, s.loop memory size (turns+1) = some ended := by
  induction turns generalizing s with
  | zero => exact ⟨s,if_neg (by omega)⟩
  | succ turns ih =>
    rw [State.loop]
    by_cases more : s.pos < size
    · rw [if_pos more]
      rcases turn_cases memory size s with ⟨-,turned⟩ | ⟨br,-,-,-,turned⟩ | ⟨br,-,-,turned⟩
      · rw [turned]
        exact ih _ (by simp only [begun]; omega)
      · rw [turned]
        exact ⟨_,rfl⟩
      · rw [turned]
        exact ih _ (by simp only [after]; omega)
    · rw [if_neg more]
      exact ⟨s,rfl⟩

def Inside (size : Nat) (s : State) : Prop := ∀ read ∈ s.reads, read.1+read.2 ≤ size

/-- From a position on, the parsing comes to a part of a code, or to the code of `BR_DEAD_BINDER` without the pointer behind it. -/
inductive Spills (memory : Memory) (size : Nat) : Nat → Prop
  | code {pos : Nat} (more : pos < size) (short : size < pos+4) : Spills memory size pos
  | deadBinder {pos : Nat} (whole : pos+4 ≤ size) (dead : Br.find (memory.read pos 4) = some .deadBinder)
      (short : size < pos+4+uintptrSize) : Spills memory size pos
  | unknown {pos : Nat} (whole : pos+4 ≤ size) (unknown : Br.find (memory.read pos 4) = none)
      (later : Spills memory size (pos+4)) : Spills memory size pos
  | known {pos : Nat} {br : Br} (known : Br.find (memory.read pos 4) = some br) (whole : pos+4+payloadSize br ≤ size)
      (later : Spills memory size (pos+4+payloadSize br)) : Spills memory size pos

theorem Spills.before {pos : Nat} (spills : Spills memory size pos) : pos < size := by
  induction spills with
  | code more short => exact more
  | deadBinder whole dead short => omega
  | unknown whole unknown later before => omega
  | known known whole later before => omega

theorem loop_reads (turns : Nat) (s : State) {ended : State} (parsed : s.loop memory size turns = some ended) :
    ∀ read ∈ s.reads, read ∈ ended.reads := by
  induction turns generalizing s with
  | zero => cases parsed
  | succ turns ih =>
    rw [State.loop] at parsed
    by_cases more : s.pos < size
    · rw [if_pos more] at parsed
      rcases turn_cases memory size s with ⟨-,turned⟩ | ⟨br,-,-,-,turned⟩ | ⟨br,-,-,turned⟩
      · rw [turned] at parsed
        exact fun read member => ih _ parsed read (List.mem_append_left _ member)
      · rw [turned] at parsed
        cases parsed
        exact fun read member => List.mem_append_left _ member
      · rw [turned] at parsed
        exact fun read member => ih _ parsed read (List.mem_append_left _ member)
    · rw [if_neg more] at parsed
      cases parsed
      exact fun _ member => member

theorem inside_begun (whole : s.pos+4 ≤ size) : Inside size (begun s) ↔ Inside size s := by
  constructor
  · exact fun inside read member => inside read (List.mem_append_left _ member)
  · intro inside read member
    rcases List.mem_append.mp member with before | last
    · exact inside read before
    · rw [List.mem_singleton.mp last]
      exact whole

/-- A handler reads behind the buffer only where it is the one of `BR_DEAD_BINDER`. -/
theorem inside_after {br : Br} (whole : s.pos+4 ≤ size) (room : checked br = true → ¬ (s.pos+4 ≤ size ∧ size < s.pos+4+payloadSize br)) :
    Inside size (after memory s br) ↔ Inside size s ∧ ¬ (br = .deadBinder ∧ size < s.pos+4+uintptrSize) := by
  have reads : (after memory s br).reads = (begun s).reads ++ if read br then [(s.pos+4,payloadSize br)] else [] := by
    simp only [after,begun,List.append_assoc,List.singleton_append]
  rw [← inside_begun whole]
  unfold Inside
  rw [reads]
  constructor
  · intro inside
    refine ⟨fun read member => inside read (List.mem_append_left _ member),?_⟩
    rintro ⟨rfl,short⟩
    have bound := inside (s.pos+4,uintptrSize) (List.mem_append_right _ (List.mem_singleton_self _))
    exact absurd bound (Nat.not_le.mpr short)
  · rintro ⟨inside,pointer⟩ range member
    rcases List.mem_append.mp member with before | last
    · exact inside range before
    · by_cases looks : read br = true
      · rw [if_pos looks,List.mem_singleton] at last
        rw [last]
        simp only [read,Bool.or_eq_true,decide_eq_true_eq] at looks
        rcases looks with check | dead
        · have fits := room check
          simp only
          omega
        · have fits : ¬ size < s.pos+4+uintptrSize := fun short => pointer ⟨dead,short⟩
          rw [dead]
          exact Nat.le_of_not_lt fits
      · rw [if_neg looks] at last
        cases last

theorem spills_unknown {pos : Nat} (whole : pos+4 ≤ size) (unknown : Br.find (memory.read pos 4) = none) :
    Spills memory size pos ↔ Spills memory size (pos+4) := by
  constructor
  · intro spills
    cases spills with
    | code more short => omega
    | deadBinder _ dead short => cases unknown.symm.trans dead
    | unknown _ _ later => exact later
    | known known _ later => cases unknown.symm.trans known
  · exact .unknown whole unknown

theorem spills_known {pos : Nat} {br : Br} (whole : pos+4 ≤ size) (known : Br.find (memory.read pos 4) = some br) :
    Spills memory size pos ↔ (br = .deadBinder ∧ size < pos+4+uintptrSize) ∨ Spills memory size (pos+4+payloadSize br) := by
  constructor
  · intro spills
    cases spills with
    | code more short => omega
    | deadBinder _ dead short =>
      cases known.symm.trans dead
      exact .inl ⟨rfl,short⟩
    | unknown _ unknown later => cases known.symm.trans unknown
    | known other _ later =>
      cases known.symm.trans other
      exact .inr later
  · rintro (⟨rfl,short⟩ | later)
    · exact .deadBinder whole known short
    · exact .known known (Nat.le_of_lt later.before) later

theorem loop_inside (turns : Nat) (s : State) {ended : State} (parsed : s.loop memory size turns = some ended) :
    Inside size ended ↔ Inside size s ∧ ¬ Spills memory size s.pos := by
  induction turns generalizing s with
  | zero => cases parsed
  | succ turns ih =>
    rw [State.loop] at parsed
    by_cases more : s.pos < size
    · rw [if_pos more] at parsed
      by_cases whole : s.pos+4 ≤ size
      · rcases turn_cases memory size s with ⟨unknown,turned⟩ | ⟨br,known,check,short,turned⟩ | ⟨br,known,room,turned⟩
        · rw [turned] at parsed
          rw [ih _ parsed,spills_unknown whole unknown]
          exact and_congr_left' (inside_begun whole)
        · rw [turned] at parsed
          cases parsed
          have stays : ¬ Spills memory size s.pos := by
            rw [spills_known whole known]
            rintro (⟨rfl,-⟩ | later)
            · cases check
            · exact absurd later.before (by omega)
          rw [and_iff_left stays]
          exact inside_begun whole
        · rw [turned] at parsed
          rw [ih _ parsed,inside_after whole room,spills_known whole known,not_or,and_assoc]
          rfl
      · have read : (s.pos,4) ∈ ended.reads := by
          rcases turn_cases memory size s with ⟨-,turned⟩ | ⟨br,-,-,-,turned⟩ | ⟨br,-,-,turned⟩
          · rw [turned] at parsed
            exact loop_reads _ _ parsed _ (List.mem_append_right _ (List.mem_singleton_self _))
          · rw [turned] at parsed
            cases parsed
            exact List.mem_append_right _ (List.mem_singleton_self _)
          · rw [turned] at parsed
            exact loop_reads _ _ parsed _ (List.mem_append_right _ List.mem_cons_self)
        refine iff_of_false (fun inside => whole (inside _ read)) ?_
        exact fun given => given.2 (.code more (Nat.lt_of_not_le whole))
    · rw [if_neg more] at parsed
      cases parsed
      exact (and_iff_left fun spills => more spills.before).symm

end Loop

section Commands

structure Command where
  br : Br
  payload : List UInt8
  whole : payload.length = payloadSize br

def Command.encode (command : Command) : List UInt8 := toLE 4 command.br.code ++ command.payload

def encode (commands : List Command) : List UInt8 := commands.flatMap Command.encode

/-- A command with what its handler reads. -/
def Command.handled (command : Command) : Br × List UInt8 := (command.br,if read command.br then command.payload else [])

/-- The result variable at the end: each command that sets it leaves its own value. -/
def result (ret : Int32) (brs : List Br) : Int32 := brs.foldl (fun ret br => (outcome br).getD ret) ret

variable {memory : Memory} {size : Nat}

theorem encode_length (command : Command) : command.encode.length = 4+payloadSize command.br := by
  rw [Command.encode,List.length_append,toLE_length,command.whole]

theorem code_lt (br : Br) : br.code < 256^4 := by
  cases br <;> decide

/-- Each command of the buffer is handled once, in order, and the parsing ends behind the last one. -/
theorem loop_commands (commands : List Command) (turns : Nat) (s : State)
    (there : memory.readBytes s.pos (encode commands).length = encode commands) (ends : s.pos+(encode commands).length = size)
    (enough : (encode commands).length < turns) :
    ∃ reads, s.loop memory size turns =
      some ⟨size,result s.ret (commands.map Command.br),s.handled ++ commands.map Command.handled,reads⟩ := by
  induction commands generalizing s turns with
  | nil =>
    obtain ⟨turns,rfl⟩ : ∃ more, turns = more+1 := ⟨turns-1,by simp only [encode,List.flatMap_nil,List.length_nil] at enough; omega⟩
    simp only [encode,List.flatMap_nil,List.length_nil,Nat.add_zero] at ends
    refine ⟨s.reads,?_⟩
    rw [State.loop,if_neg (by omega)]
    simp only [List.map_nil,List.append_nil,result,List.foldl_nil,← ends]
  | cons command commands ih =>
    obtain ⟨turns,rfl⟩ : ∃ more, turns = more+1 := ⟨turns-1,by omega⟩
    have parts : encode (command :: commands) = command.encode ++ encode commands := List.flatMap_cons
    rw [parts] at there ends enough
    obtain ⟨first,rest⟩ := Memory.readBytes_parts there
    have length := encode_length command
    obtain ⟨code,payload⟩ := Memory.readBytes_parts first
    rw [toLE_length] at code payload
    rw [command.whole] at payload
    rw [length] at rest
    rw [List.length_append,length] at ends enough
    have known : Br.find (memory.read s.pos 4) = some command.br := by
      rw [Memory.read,code,ofLE_toLE,Nat.mod_eq_of_lt (code_lt command.br),find_code]
    have room (_ : checked command.br = true) : ¬ (s.pos+4 ≤ size ∧ size < s.pos+4+payloadSize command.br) := by omega
    have more : s.pos < size := by omega
    have handled : (after memory s command.br).handled = s.handled ++ [command.handled] := by
      simp only [after,payload,Command.handled]
    have pos : (after memory s command.br).pos = s.pos+(4+payloadSize command.br) := Nat.add_assoc s.pos 4 _
    obtain ⟨reads,parsed⟩ := ih turns (after memory s command.br) (by rw [pos]; exact rest) (by rw [pos]; omega) (by omega)
    refine ⟨reads,?_⟩
    rw [State.loop,if_pos more,turn_handled known room]
    simp only [parsed,handled,List.map_cons,List.append_assoc,List.singleton_append]
    rfl

end Commands

section Result

def Failed (brs : List Br) : Prop := .failedReply ∈ brs ∨ .deadReply ∈ brs

instance (brs : List Br) : Decidable (Failed brs) := inferInstanceAs (Decidable (_ ∨ _))

/-- The error of a failure that is there; else 0 for a reply, and 1. -/
def Returned (brs : List Br) (ret : Int32) : Prop :=
  if Failed brs then ret = ipcInvokerFailedReply ∧ .failedReply ∈ brs ∨ ret = errDeadObject ∧ .deadReply ∈ brs
  else if .reply ∈ brs then ret = 0
  else ret = 1

/-- Behind the last failure there is a reply. -/
def LateReply (brs : List Br) : Prop := ∃ before later, brs = before ++ .reply :: later ∧ Failed before ∧ ¬ Failed later

theorem failed_append (brs : List Br) (br : Br) : Failed (brs ++ [br]) ↔ Failed brs ∨ Failed [br] := by
  simp only [Failed,List.mem_append]
  tauto

theorem result_append (ret : Int32) (brs : List Br) (br : Br) : result ret (brs ++ [br]) = (outcome br).getD (result ret brs) := by
  rw [result,List.foldl_append]
  rfl

theorem lateReply_append (brs : List Br) (br : Br) :
    LateReply (brs ++ [br]) ↔ br = .reply ∧ Failed brs ∨ ¬ Failed [br] ∧ LateReply brs := by
  constructor
  · rintro ⟨before,later,parts,failed,calm⟩
    rcases List.eq_nil_or_concat later with rfl | ⟨front,last,rfl⟩
    · obtain ⟨same,last⟩ := List.append_inj' parts rfl
      cases last
      exact .inl ⟨rfl,same ▸ failed⟩
    · rw [List.concat_eq_append,← List.cons_append,← List.append_assoc] at parts
      obtain ⟨same,last⟩ := List.append_inj' parts rfl
      cases last
      rw [List.concat_eq_append,failed_append,not_or] at calm
      exact .inr ⟨calm.2,before,front,same,failed,calm.1⟩
  · rintro (⟨rfl,failed⟩ | ⟨calm,before,later,rfl,failed,quiet⟩)
    · exact ⟨brs,[],rfl,failed,by simp [Failed]⟩
    · refine ⟨before,later ++ [br],by simp,failed,?_⟩
      rw [failed_append,not_or]
      exact ⟨quiet,calm⟩

theorem returned_append {brs : List Br} {br : Br} {ret : Int32} (plain : outcome br = none) (calm : ¬ Failed [br]) :
    Returned (brs ++ [br]) ((outcome br).getD ret) ↔ Returned brs ret := by
  have still (other : Br) (has : outcome other ≠ none) : other ∈ brs ++ [br] ↔ other ∈ brs := by
    rw [List.mem_append,List.mem_singleton,or_iff_left]
    rintro rfl
    exact has plain
  have failed : Failed (brs ++ [br]) ↔ Failed brs := by rw [failed_append,or_iff_left calm]
  rw [plain,Option.getD_none]
  unfold Returned
  rw [still .failedReply (by decide),still .deadReply (by decide)]
  by_cases given : Failed brs
  · rw [if_pos given,if_pos (failed.mpr given)]
  · rw [if_neg given,if_neg fun more => given (failed.mp more)]
    by_cases replied : .reply ∈ brs
    · rw [if_pos replied,if_pos ((still .reply (by decide)).mpr replied)]
    · rw [if_neg replied,if_neg fun more => replied ((still .reply (by decide)).mp more)]

/-- One variable holds the outcome of all commands, so a reply overwrites the failure before it. -/
theorem returned_iff (brs : List Br) : Returned brs (result 1 brs) ↔ ¬ LateReply brs := by
  induction brs using List.reverseRecOn with
  | nil =>
    refine iff_of_true rfl ?_
    rintro ⟨before,later,parts,-⟩
    cases before <;> cases parts
  | append_singleton brs br ih =>
    rw [lateReply_append,result_append]
    cases br with
    | reply =>
      have calm : ¬ Failed [Br.reply] := by decide
      by_cases failed : Failed brs
      · refine iff_of_false ?_ fun late => late (.inl ⟨rfl,failed⟩)
        rw [Returned,if_pos ((failed_append _ _).mpr (.inl failed))]
        rintro (⟨same,-⟩ | ⟨same,-⟩)
        · exact absurd (show (0 : Int32) = ipcInvokerFailedReply from same) (by decide)
        · exact absurd (show (0 : Int32) = errDeadObject from same) (by decide)
      · have quiet : ¬ LateReply brs := by
          rintro ⟨before,later,rfl,given,-⟩
          exact failed (given.imp (List.mem_append_left _) (List.mem_append_left _))
        refine iff_of_true ?_ (by rintro (⟨-,given⟩ | ⟨-,late⟩); exacts [failed given,quiet late])
        rw [Returned,if_neg (by rw [failed_append,not_or]; exact ⟨failed,calm⟩),if_pos (by simp)]
        rfl
    | failedReply =>
      have failed : Failed (brs ++ [.failedReply]) := .inl (by simp)
      refine iff_of_true ?_ (by rintro (⟨same,-⟩ | ⟨calm,-⟩); exacts [Br.noConfusion same,calm (by decide)])
      rw [Returned,if_pos failed]
      exact .inl ⟨rfl,by simp⟩
    | deadReply =>
      have failed : Failed (brs ++ [.deadReply]) := .inr (by simp)
      refine iff_of_true ?_ (by rintro (⟨same,-⟩ | ⟨calm,-⟩); exacts [Br.noConfusion same,calm (by decide)])
      rw [Returned,if_pos failed]
      exact .inr ⟨rfl,by simp⟩
    | _ =>
      rw [returned_append rfl (by decide)]
      refine ih.trans (not_congr ?_)
      constructor
      · exact fun late => .inr ⟨by decide,late⟩
      · rintro (⟨same,-⟩ | ⟨-,late⟩)
        · cases same
        · exact late

end Result

section Whole
variable {memory outside : Memory} {size : Nat} {commands : List Command}

theorem binderParse_commands (outside : Memory) (commands : List Command) :
    ∃ parsed, binderParse (outside.writeBytes 0 (encode commands)) (encode commands).length = some parsed ∧
      parsed.handled = commands.map Command.handled ∧ parsed.ret = result 1 (commands.map Command.br) := by
  obtain ⟨reads,parsed⟩ := loop_commands commands ((encode commands).length+1) .new
    (Memory.readBytes_writeBytes outside 0 (encode commands)) (Nat.zero_add _) (Nat.lt_succ_self _)
  exact ⟨_,parsed,List.nil_append _,rfl⟩

def Command.returned (command : Command) : Return :=
  match command.br with
  | .reply => .reply (decodeTransaction command.payload)
  | .failedReply => .failedReply
  | .deadReply => .deadReply
  | _ => .noop

/-- On whole commands, the loop over bytes does what the loop over commands does. -/
theorem binderParse_refines (buffer : Bool) (reply : Option Kernel.Serializer.IpcIo) (commands : List Command) (ret : Int32) :
    Kernel.IpcInvoker.binderParse buffer (ret,reply) (commands.map Command.returned) =
      (result ret (commands.map Command.br),repliesOf buffer reply (commands.map Command.handled)) := by
  induction commands generalizing ret reply with
  | nil => rfl
  | cons command commands ih =>
    obtain ⟨br,payload,whole⟩ := command
    cases br <;> exact ih _ _

theorem binderParse_terminates (memory : Memory) (size : Nat) : ∃ parsed, binderParse memory size = some parsed :=
  loop_terminates size .new (Nat.le_add_left size 0)

/-- Every command is handled once and in order, and the result tells of a failure or else of a reply. -/
def HandledAll (outside : Memory) (commands : List Command) : Prop :=
  ∃ parsed, binderParse (outside.writeBytes 0 (encode commands)) (encode commands).length = some parsed ∧
    parsed.handled = commands.map Command.handled ∧ Returned (commands.map Command.br) parsed.ret

/-- The parsing ends, and every read it made lies in the buffer. -/
def Bounded (memory : Memory) (size : Nat) : Prop := ∃ parsed, binderParse memory size = some parsed ∧ Inside size parsed

theorem bounded_iff : Bounded memory size ↔ ¬ Spills memory size 0 := by
  obtain ⟨ended,parsed⟩ := binderParse_terminates memory size
  have start : Inside size .new := by intro read member; cases member
  have bounds := loop_inside (size+1) .new parsed
  rw [and_iff_right start] at bounds
  rw [← show Inside size ended ↔ ¬ Spills memory size 0 from bounds]
  constructor
  · rintro ⟨other,same,inside⟩
    cases parsed.symm.trans same
    exact inside
  · exact fun inside => ⟨ended,parsed,inside⟩

theorem handledAll_iff : HandledAll outside commands ↔ ¬ LateReply (commands.map Command.br) := by
  obtain ⟨ended,parsed,handled,ret⟩ := binderParse_commands outside commands
  rw [← returned_iff,← ret]
  constructor
  · rintro ⟨other,same,-,returned⟩
    cases parsed.symm.trans same
    exact returned
  · exact fun returned => ⟨ended,parsed,handled,returned⟩

/-- The parsing always ends. It reads outside exactly where it comes to a part of a code, or to a dead binder without its pointer, and a
buffer of whole commands is answered rightly exactly where no reply comes behind the last failure. -/
theorem binderParse_iff (memory outside : Memory) (size : Nat) (commands : List Command) :
    (∃ parsed, binderParse memory size = some parsed) ∧ (Bounded memory size ↔ ¬ Spills memory size 0) ∧
      (HandledAll outside commands ↔ ¬ LateReply (commands.map Command.br)) :=
  ⟨binderParse_terminates memory size,bounded_iff,handledAll_iff⟩

/-- The code of a dead binder at the end of the buffer; and a reply behind a failure, for which the request returns 0. -/
theorem dead_binder_unchecked : ¬ Bounded (Memory.ofBytes (toLE 4 Br.deadBinder.code)) 4 ∧
    ¬ HandledAll (fun _ => 0) [⟨.failedReply,[],rfl⟩,⟨.reply,List.replicate 64 0,rfl⟩] := by
  refine ⟨fun bounded => bounded_iff.mp bounded (.deadBinder (Nat.le_refl 4) (by decide) (by decide)),fun handled => ?_⟩
  exact handledAll_iff.mp handled ⟨[.failedReply],[],rfl,by decide,by decide⟩

end Whole

end CommunicationIpc.BinderParse
