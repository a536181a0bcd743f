import CommunicationIpc.Kernel.CallingIdentity
import CommunicationIpc.Library.Run

/-! When the getters of both libraries report the caller of the innermost transaction. -/
namespace CommunicationIpc.CallingIdentity
open CommunicationIpc.Library CommunicationIpc.Kernel.CallingIdentity

section Text

/-- The identity that `ResetCallingIdentity` returns. -/
def written (info : InvokerProcInfo) : List UInt8 :=
  info.sid ++ 60 :: (decimal accessTokenMaxLen info.tokenId.toNat ++ signedDecimal info.realPid ++
    toString64 (UInt64.ofInt info.uid <<< pidLen ||| UInt64.ofInt info.pid))

/-- Numbers that are not negative, and a sid without the separator. -/
structure Representable (info : InvokerProcInfo) : Prop where
  pid : 0 ≤ info.pid ∧ info.pid < 2^31
  realPid : 0 ≤ info.realPid ∧ info.realPid < 2^31
  uid : 0 ≤ info.uid ∧ info.uid < 2^31
  sid : 60 ∉ info.sid

theorem isDigit_bounds {char : UInt8} (digit : isDigit char = true) : 48 ≤ char.toNat ∧ char.toNat ≤ 57 := by
  simpa [isDigit] using digit

theorem strToInteger_digits {chars : List UInt8} (some_ : chars ≠ []) (digits : ∀ char ∈ chars, isDigit char = true) :
    strToInteger chars = some (false,ofDecimal chars) := by
  have whole : cString chars = chars := by
    rw [cString_eq_self_iff]
    intro zero
    exact absurd (digits 0 zero) (by decide)
  cases chars with
  | nil => exact absurd rfl some_
  | cons char chars =>
    obtain ⟨low,high⟩ := isDigit_bounds (digits char List.mem_cons_self)
    have notSpace : isSpace char = false := by
      have other : char ≠ 32 := by
        intro same
        rw [same] at low
        exact absurd low (by decide)
      simp only [isSpace,decide_eq_false_iff_not,not_or]
      exact ⟨other,by omega⟩
    have all : (char :: chars).all isDigit = true := List.all_eq_true.mpr digits
    unfold strToInteger
    dsimp only
    rw [whole,List.dropWhile_cons_of_neg (by simp [notSpace])]
    split
    · rename_i rest same
      cases same
      exact absurd low (by decide)
    · rename_i rest same
      cases same
      exact absurd low (by decide)
    · rw [if_pos ⟨nofun,all⟩]
      rfl

theorem strToUint64_digits {chars : List UInt8} {value : UInt64} (some_ : chars ≠ []) (digits : ∀ char ∈ chars, isDigit char = true)
    (read : ofDecimal chars = value.toNat) : strToUint64 chars = some value := by
  have small : value.toNat < 2^64 := value.toNat_lt
  unfold strToUint64
  rw [strToInteger_digits some_ digits,read]
  dsimp only
  rw [if_neg (Nat.not_le.mpr small),if_neg nofun,UInt64.ofNat_toNat]

theorem ofDecimal_uint64 (value : UInt64) : ofDecimal (decimal accessTokenMaxLen value.toNat) = value.toNat := by
  have small : value.toNat < 2^64 := value.toNat_lt
  rw [ofDecimal_decimal,Nat.mod_eq_of_lt]
  exact small.trans (by decide)

theorem strToUint64_decimal (value : UInt64) : strToUint64 (decimal accessTokenMaxLen value.toNat) = some value :=
  strToUint64_digits (decimal_ne_nil (by decide) _) (decimal_digits _ _) (ofDecimal_uint64 value)

theorem strToUint64_toString64 (value : UInt64) : strToUint64 (toString64 value) = some value := by
  apply strToUint64_digits (trimZeros_ne_nil _) (trimZeros_digits (decimal_digits _ _))
  rw [ofDecimal_trimZeros]
  exact ofDecimal_uint64 value

theorem strToInt32_signedDecimal {value : Int} (bounds : 0 ≤ value ∧ value < 2^31) : strToInt32 (signedDecimal value) = some value := by
  have read : ofDecimal (decimal accessTokenMaxLen value.natAbs) = value.natAbs := by
    rw [ofDecimal_decimal,Nat.mod_eq_of_lt]
    have small : value.natAbs < 2^31 := by omega
    exact small.trans (by decide)
  have parsed : strToInteger (signedDecimal value) = some (false,value.natAbs) := by
    unfold signedDecimal
    rw [if_neg (Int.not_lt.mpr bounds.1),strToInteger_digits (decimal_ne_nil (by decide) _) (decimal_digits _ _),read]
  unfold strToInt32
  rw [parsed]
  simp only [Bool.false_eq_true,if_false,Int.natAbs_of_nonneg bounds.1]
  exact if_pos ⟨by omega,bounds.2⟩

theorem signedDecimal_length {value : Int} (positive : 0 ≤ value) : (signedDecimal value).length = accessTokenMaxLen := by
  unfold signedDecimal
  rw [if_neg (by omega),decimal_length]

theorem ofInt_toNat {value : Int} (bounds : 0 ≤ value ∧ value < 2^31) : (UInt64.ofInt value).toNat = value.toNat := by
  unfold UInt64.ofInt
  rw [Int.emod_eq_of_lt bounds.1 (by omega)]
  exact UInt64.toNat_ofNat_of_lt (by change value.toNat < 2^64; omega)

theorem pidUid_toNat {uid pid : Int} (smallUid : 0 ≤ uid ∧ uid < 2^31) (smallPid : 0 ≤ pid ∧ pid < 2^31) :
    (UInt64.ofInt uid <<< pidLen ||| UInt64.ofInt pid).toNat = uid.toNat*2^32+pid.toNat := by
  have shift : pidLen.toNat % 64 = 32 := by decide
  rw [UInt64.toNat_or,UInt64.toNat_shiftLeft,ofInt_toNat smallUid,ofInt_toNat smallPid,shift,
    Nat.mod_eq_of_lt (by rw [Nat.shiftLeft_eq]; omega),← Nat.shiftLeft_add_eq_or_of_lt (by omega),Nat.shiftLeft_eq]

theorem pidOf_toNat {value : Int} {uid : UInt32} (bounds : 0 ≤ value ∧ value < 2^31) (same : uid.toNat = value.toNat) : pidOf uid = value := by
  unfold pidOf
  rw [same,if_pos (by omega),Int.toNat_of_nonneg bounds.1]

theorem getSubStr_middle (front middle back : List UInt8) (some_ : middle ≠ []) :
    getSubStr (front ++ middle ++ back) front.length middle.length = some middle := by
  unfold getSubStr
  rw [if_neg]
  · rw [List.append_assoc,List.drop_left,List.take_left]
  · intro outside
    rcases outside with none | short
    · exact some_ (List.append_eq_nil_iff.mp (List.append_eq_nil_iff.mp none).1).2
    · rw [List.length_append,List.length_append] at short
      omega

theorem getCallerPidAndUidByStr_end {front : List UInt8} {uid pid : Int} (smallUid : 0 ≤ uid ∧ uid < 2^31) (smallPid : 0 ≤ pid ∧ pid < 2^31) :
    getCallerPidAndUidByStr (front ++ toString64 (UInt64.ofInt uid <<< pidLen ||| UInt64.ofInt pid)) front.length = some (pid,uid) := by
  have number := pidUid_toNat smallUid smallPid
  generalize UInt64.ofInt uid <<< pidLen ||| UInt64.ofInt pid = pidUid at number ⊢
  have some_ : toString64 pidUid ≠ [] := trimZeros_ne_nil _
  have positive := List.length_pos_iff.mpr some_
  have slice : getSubStr (front ++ toString64 pidUid) front.length (toString64 pidUid).length = some (toString64 pidUid) := by
    have middle := getSubStr_middle front (toString64 pidUid) [] some_
    rwa [List.append_nil] at middle
  have low : pidOf pidUid.toUInt32 = pid := by
    apply pidOf_toNat smallPid
    rw [UInt64.toNat_toUInt32,number]
    omega
  have high : pidOf (pidUid >>> pidLen).toUInt32 = uid := by
    apply pidOf_toNat smallUid
    have shift : pidLen.toNat % 64 = 32 := by decide
    rw [UInt64.toNat_toUInt32,UInt64.toNat_shiftRight,shift,number,Nat.shiftRight_eq_div_pow]
    omega
  unfold getCallerPidAndUidByStr getUint64ValueByStrSlice
  rw [List.length_append,if_neg (by omega),Nat.add_sub_cancel_left,slice,Option.bind_some,strToUint64_toString64]
  dsimp only
  rw [low,high,if_neg (by omega)]

/-- What `SetCallingIdentity` reads in an identity. -/
structure Reads (identity : List UInt8) (info : InvokerProcInfo) : Prop where
  long : ¬ identity.length ≤ accessTokenMaxLen
  position : identity.findIdx? (fun char => char = 60) = some info.sid.length
  sid : getSubStr identity 0 info.sid.length = some info.sid
  tokenId : getUint64ValueByStrSlice identity (info.sid.length+1) accessTokenMaxLen = some info.tokenId
  realPid : getCallerRealPidByStr identity (info.sid.length+1+accessTokenMaxLen) accessTokenMaxLen = some info.realPid
  pidUid : getCallerPidAndUidByStr identity (info.sid.length+1+accessTokenMaxLen*2) = some (info.pid,info.uid)

theorem reads_written {info : InvokerProcInfo} (fits : Representable info) : Reads (written info) info := by
  generalize token : decimal accessTokenMaxLen info.tokenId.toNat = tokenChars
  generalize realPid : signedDecimal info.realPid = realPidChars
  generalize pidUid : toString64 (UInt64.ofInt info.uid <<< pidLen ||| UInt64.ofInt info.pid) = pidUidChars
  have tokenLength : tokenChars.length = accessTokenMaxLen := token ▸ decimal_length _ _
  have realPidLength : realPidChars.length = accessTokenMaxLen := realPid ▸ signedDecimal_length fits.realPid.1
  have identity : written info = info.sid ++ 60 :: (tokenChars ++ realPidChars ++ pidUidChars) := by
    rw [written,token,realPid,pidUid]
  have long : ¬ (written info).length ≤ accessTokenMaxLen := by
    rw [identity,List.length_append,List.length_cons,List.length_append,List.length_append]
    omega
  have position : (written info).findIdx? (fun char => char = 60) = some info.sid.length := by
    have absent : info.sid.findIdx? (fun char => decide (char = 60)) = none := by
      rw [List.findIdx?_eq_none_iff]
      intro char member
      rw [decide_eq_false_iff_not]
      intro same
      exact fits.sid (same ▸ member)
    rw [identity,List.findIdx?_append,absent,List.findIdx?_cons]
    simp
  have sid : getSubStr (written info) 0 info.sid.length = some info.sid := by
    rw [identity,getSubStr,if_neg (by simp),List.drop_zero,List.take_left]
  have tokenRead : getUint64ValueByStrSlice (written info) (info.sid.length+1) accessTokenMaxLen = some info.tokenId := by
    have split : written info = (info.sid ++ [60]) ++ tokenChars ++ (realPidChars ++ pidUidChars) := by
      rw [identity]
      simp
    have slice := getSubStr_middle (info.sid ++ [60]) tokenChars (realPidChars ++ pidUidChars)
      (token ▸ decimal_ne_nil (by decide) _)
    rw [List.length_append,List.length_singleton,tokenLength,← split] at slice
    rw [getUint64ValueByStrSlice,slice,Option.bind_some,← token,strToUint64_decimal]
  have realPidRead : getCallerRealPidByStr (written info) (info.sid.length+1+accessTokenMaxLen) accessTokenMaxLen = some info.realPid := by
    have split : written info = (info.sid ++ [60] ++ tokenChars) ++ realPidChars ++ pidUidChars := by
      rw [identity]
      simp
    have filled : realPidChars ≠ [] := by
      intro none
      rw [none] at realPidLength
      cases realPidLength
    have slice := getSubStr_middle (info.sid ++ [60] ++ tokenChars) realPidChars pidUidChars filled
    rw [List.length_append,List.length_append,List.length_singleton,tokenLength,realPidLength,← split] at slice
    rw [getCallerRealPidByStr,slice,Option.bind_some,← realPid,strToInt32_signedDecimal fits.realPid]
    simp [fits.realPid.1]
  have pidUidRead : getCallerPidAndUidByStr (written info) (info.sid.length+1+accessTokenMaxLen*2) = some (info.pid,info.uid) := by
    have split : written info = (info.sid ++ [60] ++ tokenChars ++ realPidChars) ++ pidUidChars := by
      rw [identity]
      simp
    have offset : (info.sid ++ [60] ++ tokenChars ++ realPidChars).length = info.sid.length+1+accessTokenMaxLen*2 := by
      rw [List.length_append,List.length_append,List.length_append,List.length_singleton,tokenLength,realPidLength]
      rfl
    rw [split,← offset,← pidUid]
    exact getCallerPidAndUidByStr_end fits.uid fits.pid
  exact ⟨long,position,sid,tokenRead,realPidRead,pidUidRead⟩

theorem setCallingIdentity_written {invoker : BinderInvoker} {info : InvokerProcInfo} (fits : Representable info)
    (first : invoker.caller.firstTokenId = info.firstTokenId) :
    invoker.setCallingIdentity (written info) = { invoker with caller := info } := by
  have reads := reads_written fits
  unfold BinderInvoker.setCallingIdentity
  simp only [reads.long,if_false,reads.position,reads.sid,reads.tokenId,reads.realPid,reads.pidUid,first,bind,Option.bind]

end Text

section Result
variable {self : Self} {invoker : BinderInvoker} {identity : List UInt8}

theorem setCallingIdentityResult_fst (invoker : BinderInvoker) (identity : List UInt8) :
    (invoker.setCallingIdentityResult identity).1 = invoker.setCallingIdentity identity := by
  unfold BinderInvoker.setCallingIdentityResult BinderInvoker.setCallingIdentity
  by_cases short : identity.length ≤ accessTokenMaxLen
  · rw [if_pos short,if_pos short]
    rfl
  rw [if_neg short,if_neg short]
  cases position : identity.findIdx? fun char => decide (char = 60) with
  | none => rfl
  | some pos =>
    cases sidRead : getSubStr identity 0 pos with
    | none => simp only [bind,Option.bind,sidRead]
    | some sid =>
      cases tokenRead : getUint64ValueByStrSlice identity (pos+1) accessTokenMaxLen with
      | none => simp only [bind,Option.bind,sidRead,tokenRead]
      | some tokenId =>
        cases realPidRead : getCallerRealPidByStr identity (pos+1+accessTokenMaxLen) accessTokenMaxLen with
        | none => simp only [bind,Option.bind,sidRead,tokenRead,realPidRead]
        | some realPid =>
          cases pidUidRead : getCallerPidAndUidByStr identity (pos+1+accessTokenMaxLen*2) with
          | none => simp only [bind,Option.bind,sidRead,tokenRead,realPidRead,pidUidRead]
          | some pidUid => simp only [bind,Option.bind,sidRead,tokenRead,realPidRead,pidUidRead]

theorem setCallingIdentityResult_written {info : InvokerProcInfo} (fits : Representable info) :
    (invoker.setCallingIdentityResult (written info)).2 = true := by
  have reads := reads_written fits
  unfold BinderInvoker.setCallingIdentityResult
  simp only [reads.long,if_false,reads.position,reads.sid,reads.tokenId,reads.realPid,reads.pidUid]

theorem setCallingIdentityResult_refused (refused : (invoker.setCallingIdentityResult identity).2 = false) :
    (invoker.setCallingIdentityResult identity).1 = invoker := by
  revert refused
  unfold BinderInvoker.setCallingIdentityResult
  repeat' split
  all_goals intro refused
  all_goals first | rfl | cases refused

end Result

variable {self : Self} {features : Features}

/-- The library of the innermost transaction. -/
def serving : List Frame → Option Lib
  | [] => none
  | .transaction lib _ _ _ :: _ => some lib
  | .reset _ _ :: rest => serving rest

/-- The identity of a caller as far as the driver tells it. -/
def known (features : Features) (caller : Caller) : Identity :=
  ⟨caller.pid,if features.realPid then caller.realPid else caller.pid,pidOf caller.uid,
    if (features.realPid ∨ features.accessToken) ∧ caller.tokenId ≠ 0 then caller.tokenId else caller.uid.toUInt64,caller.sid⟩

/-- Whom the getters should report: the caller of the innermost transaction, and the process itself between a reset and its set,
and outside of transactions. -/
def expected (self : Self) (features : Features) : List Frame → Identity
  | .transaction _ caller _ _ :: _ => known features caller
  | _ => self.identity

/-- Callers are other processes with a uid below 2^31, and the driver tells their tokens, or there is none from before. An identity
is reset through the library of the innermost transaction, when it can be written down, or outside of transactions. -/
def Proper (self : Self) (features : Features) (thread : Thread) : Event → Prop
  | .transaction lib caller failed => caller.pid ≠ self.pid ∧ caller.uid.toNat < 2^31 ∧
      if features.realPid ∨ features.accessToken then failed = false else (thread.invoker lib).caller.tokenId = 0
  | .resetCallingIdentity lib => ∀ server ∈ serving thread.stack, lib = server ∧ Representable (thread.invoker lib).caller
  | _ => True

/-- The calls in progress, innermost first, with `none` for a reset, and of the `Transaction` that began or returned last its library
and whether an identity was reset then. -/
structure Calls where
  open_ : List (Option Lib)
  last : Option (Lib × Bool)

/-- The innermost call is a reset. -/
def inReset (open_ : List (Option Lib)) : Bool := open_.head? = some none

def Calls.step (calls : Calls) : Event → Calls
  | .transaction lib _ _ => ⟨some lib :: calls.open_,some (lib,false)⟩
  | .finish =>
    match calls.open_ with
    | some lib :: rest => ⟨rest,some (lib,inReset rest)⟩
    | _ => calls
  | .resetCallingIdentity _ => ⟨none :: calls.open_,calls.last⟩
  | .setCallingIdentity => ⟨calls.open_.tail,calls.last⟩
  | .query _ => calls

def Calls.of (events : List Event) : Calls := events.foldl Calls.step ⟨[],none⟩

/-- The library serves the innermost transaction, or it serves none, and the transaction that began or returned last was served by
the library that serves now, with an identity reset then if and only if one is now. -/
def Answerable (events : List Event) (lib : Lib) : Prop :=
  ∀ server, (Calls.of events).open_.findSome? id = some server → lib = server ∨
    some lib ∉ (Calls.of events).open_ ∧ (Calls.of events).last = some (server,inReset (Calls.of events).open_)

/-- The fields after a reset. -/
def cleared (self : Self) (before : InvokerProcInfo) : InvokerProcInfo :=
  ⟨self.pid,self.realPid,pidOf self.uid,getSelfTokenID self,before.firstTokenId,[]⟩

/-- What a library holds follows from the calls in progress. -/
def Settled (self : Self) (features : Features) (lib : Lib) : List Frame → InvokerProcInfo → Bool → Prop
  | [],info,active => info = .new self ∧ active = false
  | .transaction server caller saved status :: rest,info,active =>
    if server = lib then info.identity = known features caller ∧ caller.pid ≠ self.pid ∧ active = true ∧ Settled self features lib rest saved status
    else Settled self features lib rest info active
  | .reset library identity :: rest,info,active =>
    if serving rest = some lib then library = lib ∧ ∃ before, Representable before ∧ identity = written before ∧
      info = cleared self before ∧ Settled self features lib rest before active
    else Settled self features lib rest info active

section Settled
variable {lib : Lib} {stack : List Frame} {info : InvokerProcInfo} {active : Bool}

theorem Settled.idle (settled : Settled self features lib stack info active) (none : serving stack = none) :
    info = .new self ∧ active = false := by
  induction stack with
  | nil => exact settled
  | cons frame rest ih =>
    cases frame with
    | transaction server caller saved status => cases none
    | reset library identity =>
      have outside : serving rest = .none := none
      simp only [Settled,outside] at settled
      exact ih settled outside

theorem Settled.serves (settled : Settled self features lib stack info active) (serves : serving stack = some lib) : active = true := by
  induction stack generalizing info with
  | nil => cases serves
  | cons frame rest ih =>
    cases frame with
    | transaction server caller saved status =>
      cases serves
      simp only [Settled,if_true] at settled
      exact settled.2.2.1
    | reset library identity =>
      have inside : serving rest = some lib := serves
      simp only [Settled,inside,if_true] at settled
      obtain ⟨-,before,-,-,-,earlier⟩ := settled
      exact ih earlier inside

end Settled

theorem uint64_ofInt_pidOf {uid : UInt32} (small : uid.toNat < 2^31) : UInt64.ofInt (pidOf uid) = uid.toUInt64 := by
  apply UInt64.toNat_inj.mp
  have bounds : 0 ≤ pidOf uid ∧ pidOf uid < 2^31 := by
    unfold pidOf
    rw [if_pos small]
    omega
  rw [ofInt_toNat bounds,UInt32.toNat_toUInt64]
  unfold pidOf
  rw [if_pos small,Int.toNat_natCast]

/-- What `Transaction` sets is what the driver tells of the caller. -/
theorem identity_received {caller : Caller} {old : InvokerProcInfo} {failed : Bool} (small : caller.uid.toNat < 2^31)
    (told : if features.realPid ∨ features.accessToken then failed = false else old.tokenId = 0) :
    (BinderInvoker.received features failed caller old).identity = known features caller := by
  have plain := uint64_ofInt_pidOf small
  unfold BinderInvoker.received known InvokerProcInfo.identity
  cases real : features.realPid with
  | true =>
    simp only [real,true_or,if_true] at told
    rw [told]
    by_cases zero : caller.tokenId = 0 <;> simp [zero,plain]
  | false =>
    cases access : features.accessToken with
    | true =>
      simp only [real,access,or_true,if_true] at told
      rw [told]
      by_cases zero : caller.tokenId = 0 <;> simp [zero,plain]
    | false =>
      simp only [real,access,Bool.false_eq_true,or_self,if_false] at told
      simp [told,plain]

theorem identity_cleared (before : InvokerProcInfo) : (cleared self before).identity = { self.identity with sid := [] } := by
  unfold cleared InvokerProcInfo.identity Self.identity
  by_cases zero : getSelfTokenID self = 0
  · have nobody : self.uid = 0 := by
      unfold getSelfTokenID at zero
      split at zero
      · apply UInt32.toNat_inj.mp
        have value := congrArg UInt64.toNat zero
        rwa [UInt32.toNat_toUInt64] at value
      · rename_i some
        exact absurd zero some
    simp only [zero,if_true,nobody]
    rfl
  · simp only [zero,if_false]

section Thread
variable {thread : Thread} {lib : Lib}

@[simp] theorem invoker_update (invoker : BinderInvoker) (other : Lib) :
    (thread.update lib invoker).invoker other = if other = lib then invoker else thread.invoker other := by
  cases lib <;> cases other <;> rfl

@[simp] theorem update_stack (invoker : BinderInvoker) : (thread.update lib invoker).stack = thread.stack := by
  cases lib <;> rfl

@[simp] theorem update_record (invoker : BinderInvoker) : (thread.update lib invoker).record = thread.record := by
  cases lib <;> rfl

theorem update_self : thread.update lib (thread.invoker lib) = thread := by
  cases lib <;> rfl

theorem invoker_changed (invoker : BinderInvoker) (record : Option InvokerProcInfo) (stack : List Frame) (other : Lib) :
    ({ thread.update lib invoker with record := record, stack := stack } : Thread).invoker other =
      if other = lib then invoker else thread.invoker other := by
  cases lib <;> cases other <;> rfl

theorem invoker_stack (stack : List Frame) : ({ thread with stack := stack } : Thread).invoker lib = thread.invoker lib := by
  cases lib <;> rfl

theorem getActiveInvoker_serving (active : (thread.invoker lib).active = true) :
    thread.getActiveInvoker self lib = (thread,some (thread.invoker lib)) := by
  unfold Thread.getActiveInvoker BinderInvoker.getStatus
  simp only [active,if_true,update_self]

theorem getActiveInvoker_quiet (idle : (thread.invoker lib).active = false) (quiet : ∀ info ∈ thread.record, info.pid = self.pid) :
    (thread.getActiveInvoker self lib).2 = none := by
  unfold Thread.getActiveInvoker BinderInvoker.getStatus
  cases record : thread.record with
  | none => simp [idle]
  | some info =>
    have same := quiet info record
    simp [idle,same]

theorem getActiveInvoker_caller (other : Lib) : ((thread.getActiveInvoker self lib).1.invoker other).caller = (thread.invoker other).caller ∧
    ((thread.getActiveInvoker self lib).1.invoker other).active = (thread.invoker other).active := by
  unfold Thread.getActiveInvoker
  simp only [invoker_update]
  split
  · rename_i same
    rw [same]
    unfold BinderInvoker.getStatus
    split
    · exact ⟨rfl,rfl⟩
    · split <;> exact ⟨rfl,rfl⟩
  · exact ⟨rfl,rfl⟩

theorem getActiveInvoker_stack : (thread.getActiveInvoker self lib).1.stack = thread.stack := by
  unfold Thread.getActiveInvoker
  simp

theorem getActiveInvoker_record : (thread.getActiveInvoker self lib).1.record = thread.record := by
  unfold Thread.getActiveInvoker
  simp

end Thread

/-- The state is what the calls in progress make of it. -/
structure Held (own : Self) (features : Features) (thread : Thread) : Prop where
  settled : ∀ lib, Settled own features lib thread.stack (thread.invoker lib).caller (thread.invoker lib).active
  quiet : serving thread.stack = none → ∀ info ∈ thread.record, info.pid = own.pid

theorem held_new : Held self features (.new self) where
  settled := by
    intro lib
    cases lib <;> exact ⟨rfl,rfl⟩
  quiet := nofun

section Steps
variable {thread : Thread} {lib : Lib}

/-- What a library holds, and the record, decide whether the state is as it should be. -/
theorem Held.same {after : Thread} (held : Held self features thread) (stack : after.stack = thread.stack)
    (record : after.record = thread.record) (invokers : ∀ lib, (after.invoker lib).caller = (thread.invoker lib).caller ∧
      (after.invoker lib).active = (thread.invoker lib).active) : Held self features after where
  settled := by
    intro lib
    rw [stack,(invokers lib).1,(invokers lib).2]
    exact held.settled lib
  quiet := by
    rw [stack,record]
    exact held.quiet

theorem query_held (held : Held self features thread) (lib : Lib) : Held self features (thread.getActiveInvoker self lib).1 :=
  held.same getActiveInvoker_stack getActiveInvoker_record getActiveInvoker_caller

theorem transaction_held {caller : Caller} {failed : Bool} (held : Held self features thread)
    (proper : Proper self features thread (.transaction lib caller failed)) :
    Held self features (thread.transaction features lib caller failed) := by
  obtain ⟨stranger,small,told⟩ := proper
  refine ⟨?_,nofun⟩
  intro other
  have changed : (thread.transaction features lib caller failed).invoker other = if other = lib then
      ⟨BinderInvoker.received features failed caller (thread.invoker lib).caller,true,(thread.invoker lib).invokerInfo⟩
      else thread.invoker other := invoker_changed _ _ _ other
  rw [changed]
  change Settled self features other (.transaction lib caller (thread.invoker lib).caller (thread.invoker lib).active :: thread.stack) _ _
  by_cases same : other = lib
  · subst same
    simp only [if_true,Settled]
    exact ⟨identity_received small told,stranger,trivial,held.settled other⟩
  · simp only [same,if_false,Settled,Ne.symm same]
    exact held.settled other

theorem finish_held {caller : Caller} {saved : InvokerProcInfo} {status : Bool} {rest : List Frame} (held : Held self features thread)
    (top : thread.stack = .transaction lib caller saved status :: rest) : Held self features (thread.finish lib saved status rest) := by
  have earlier : Settled self features lib rest saved status := by
    have settled := held.settled lib
    simp only [top,Settled,if_true] at settled
    exact settled.2.2.2
  constructor
  · intro other
    have changed : (thread.finish lib saved status rest).invoker other = if other = lib then
        ⟨saved,status,(thread.invoker lib).invokerInfo⟩ else thread.invoker other := invoker_changed _ _ _ other
    rw [changed]
    change Settled self features other rest _ _
    by_cases same : other = lib
    · subst same
      simp only [if_true]
      exact earlier
    · have settled := held.settled other
      simp only [top,Settled,Ne.symm same,if_false] at settled
      simp only [same,if_false]
      exact settled
  · intro none info member
    cases member
    rw [(earlier.idle none).1]
    rfl

theorem resetCallingIdentity_serving (active : (thread.invoker lib).active = true) :
    thread.resetCallingIdentity self lib = { thread.update lib { thread.invoker lib with
      caller := cleared self (thread.invoker lib).caller } with
      record := thread.record, stack := .reset lib (written (thread.invoker lib).caller) :: thread.stack } := by
  have shown : (thread.invoker lib).shown self = (thread.invoker lib).caller := by
    unfold BinderInvoker.shown
    simp [active]
  unfold Thread.resetCallingIdentity
  rw [getActiveInvoker_serving active]
  unfold BinderInvoker.resetCallingIdentity
  dsimp only
  rw [shown,update_record]
  rfl

theorem reset_held (held : Held self features thread) (proper : Proper self features thread (.resetCallingIdentity lib)) :
    Held self features (thread.resetCallingIdentity self lib) := by
  cases serves : serving thread.stack with
  | none =>
    have inactive := getActiveInvoker_quiet ((held.settled lib).idle serves).2 (held.quiet serves)
    have asked := query_held held lib
    unfold Thread.resetCallingIdentity
    rw [show thread.getActiveInvoker self lib = ((thread.getActiveInvoker self lib).1,none) from Prod.ext rfl inactive]
    dsimp only
    have still : serving (thread.getActiveInvoker self lib).1.stack = none := by
      rw [getActiveInvoker_stack]
      exact serves
    constructor
    · intro other
      rw [invoker_stack]
      simp only [Settled,still,reduceCtorEq,if_false]
      exact asked.settled other
    · intro none
      exact asked.quiet still
  | some server =>
    obtain ⟨same,fits⟩ := proper server serves
    subst same
    rw [resetCallingIdentity_serving ((held.settled lib).serves serves)]
    constructor
    · intro other
      rw [invoker_changed]
      simp only [Settled,serves,Option.some.injEq]
      by_cases same : lib = other
      · subst same
        simp only [if_true]
        exact ⟨trivial,_,fits,rfl,rfl,held.settled lib⟩
      · simp only [same,Ne.symm same,if_false]
        exact held.settled other
    · intro none
      have outside : serving thread.stack = .none := none
      rw [serves] at outside
      cases outside

theorem setCallingIdentity_serving {identity : List UInt8} {rest : List Frame} {before : InvokerProcInfo}
    (active : (thread.invoker lib).active = true) (fits : Representable before) (writes : identity = written before)
    (first : (thread.invoker lib).caller.firstTokenId = before.firstTokenId) :
    thread.setCallingIdentity self lib identity rest = { thread.update lib { thread.invoker lib with caller := before } with
      record := thread.record, stack := rest } := by
  unfold Thread.setCallingIdentity
  rw [getActiveInvoker_serving active]
  dsimp only
  rw [writes,setCallingIdentity_written fits first,update_record]

theorem setCallingIdentity_stack {identity : List UInt8} {rest : List Frame} :
    (thread.setCallingIdentity self lib identity rest).stack = rest := by
  unfold Thread.setCallingIdentity
  split <;> rfl

theorem set_held {identity : List UInt8} {rest : List Frame} (held : Held self features thread)
    (top : thread.stack = .reset lib identity :: rest) : Held self features (thread.setCallingIdentity self lib identity rest) := by
  have above : serving thread.stack = serving rest := by rw [top]; rfl
  cases serves : serving rest with
  | none =>
    have outside : serving thread.stack = none := above.trans serves
    have inactive := getActiveInvoker_quiet ((held.settled lib).idle outside).2 (held.quiet outside)
    have asked := query_held held lib
    unfold Thread.setCallingIdentity
    rw [show thread.getActiveInvoker self lib = ((thread.getActiveInvoker self lib).1,none) from Prod.ext rfl inactive]
    dsimp only
    have still : (thread.getActiveInvoker self lib).1.stack = .reset lib identity :: rest := getActiveInvoker_stack.trans top
    constructor
    · intro other
      have settled := asked.settled other
      simp only [still,Settled,serves,reduceCtorEq,if_false] at settled
      rw [invoker_stack]
      exact settled
    · intro none
      exact asked.quiet (by rw [getActiveInvoker_stack]; exact outside)
  | some server =>
    have settled := held.settled server
    simp only [top,Settled,serves,if_true] at settled
    obtain ⟨same,before,fits,writes,clears,earlier⟩ := settled
    subst same
    rw [setCallingIdentity_serving (earlier.serves serves) fits writes (by rw [clears]; rfl)]
    constructor
    · intro other
      rw [invoker_changed]
      by_cases same : other = lib
      · subst same
        simp only [if_true]
        exact earlier
      · have settled := held.settled other
        simp only [top,Settled,serves,Option.some.injEq,Ne.symm same,if_false] at settled
        simp only [same,if_false]
        exact settled
    · intro none
      have outside : serving rest = .none := none
      rw [serves] at outside
      cases outside

theorem step_held {event : Event} {after : Thread} (held : Held self features thread) (proper : Proper self features thread event)
    (taken : thread.step self features event = some after) : Held self features after := by
  cases event with
  | transaction lib caller failed =>
    cases taken
    exact transaction_held held proper
  | finish =>
    simp only [Thread.step] at taken
    split at taken
    · rename_i lib caller saved status rest top
      cases taken
      exact finish_held held top
    · cases taken
  | resetCallingIdentity lib =>
    cases taken
    exact reset_held held proper
  | setCallingIdentity =>
    simp only [Thread.step] at taken
    split at taken
    · rename_i lib identity rest top
      cases taken
      exact set_held held top
    · cases taken
  | query lib =>
    cases taken
    exact query_held held lib

end Steps

section Reports
variable {thread : Thread} {lib : Lib}

/-- What the serving library holds: the caller that should be reported, or the process itself without its sid. -/
theorem Settled.expected {stack : List Frame} {info : InvokerProcInfo} {active : Bool} (settled : Settled self features lib stack info active)
    (serves : serving stack = some lib) :
    (info.identity = expected self features stack ∧ info.pid ≠ self.pid) ∨
      (∃ library identity rest, stack = .reset library identity :: rest ∧ serving rest = some lib ∧
        info.identity = { self.identity with sid := [] } ∧ info.pid = self.pid) := by
  cases stack with
  | nil => cases serves
  | cons frame rest =>
    cases frame with
    | transaction server caller saved status =>
      cases serves
      simp only [Settled,if_true] at settled
      obtain ⟨same,stranger,-⟩ := settled
      refine .inl ⟨same,?_⟩
      have pid : info.pid = caller.pid := congrArg Identity.pid same
      rw [pid]
      exact stranger
    | reset library identity =>
      have inside : serving rest = some lib := serves
      simp only [Settled,inside,if_true] at settled
      obtain ⟨-,before,-,-,rfl,-⟩ := settled
      exact .inr ⟨library,identity,rest,rfl,inside,identity_cleared before,rfl⟩

theorem report_serving (active : (thread.invoker lib).active = true) : thread.report self lib = (thread.invoker lib).caller.identity := by
  unfold Thread.report
  rw [getActiveInvoker_serving active]
  dsimp only
  unfold BinderInvoker.shown
  simp [active]

theorem report_quiet (idle : (thread.invoker lib).active = false) (quiet : ∀ info ∈ thread.record, info.pid = self.pid) :
    thread.report self lib = self.identity := by
  unfold Thread.report
  rw [getActiveInvoker_quiet idle quiet]

theorem report_record {info : InvokerProcInfo} (idle : (thread.invoker lib).active = false) (record : thread.record = some info)
    (other : info.pid ≠ self.pid) : thread.report self lib = info.identity := by
  unfold Thread.report Thread.getActiveInvoker BinderInvoker.getStatus
  simp [idle,record,Ne.symm other,BinderInvoker.shown]

theorem expected_outside {stack : List Frame} (none : serving stack = none) : expected self features stack = self.identity := by
  cases stack with
  | nil => rfl
  | cons frame rest =>
    cases frame with
    | transaction server caller saved status => cases none
    | reset library identity => rfl

theorem Held.report (held : Held self features thread) (asked : ∀ server, serving thread.stack = some server → lib = server ∨
      (thread.invoker lib).active = false ∧ thread.record = some (thread.invoker server).caller) :
    thread.report self lib = expected self features thread.stack ∨
      (∃ library identity rest, thread.stack = .reset library identity :: rest ∧ serving rest = some lib ∧
        thread.report self lib = { self.identity with sid := [] }) := by
  cases serves : serving thread.stack with
  | none =>
    left
    rw [report_quiet ((held.settled lib).idle serves).2 (held.quiet serves),expected_outside serves]
  | some server =>
    have settled := held.settled server
    rcases asked server serves with same | ⟨idle,record⟩
    · subst same
      rw [report_serving (settled.serves serves)]
      rcases settled.expected serves with ⟨same,-⟩ | ⟨library,identity,rest,top,inside,same,-⟩
      · exact .inl same
      · exact .inr ⟨library,identity,rest,top,inside,same⟩
    · left
      rcases settled.expected serves with ⟨same,other⟩ | ⟨library,identity,rest,top,-,-,own⟩
      · rw [report_record idle record other,same]
      · have quiet : ∀ info ∈ thread.record, info.pid = self.pid := by
          intro info member
          rw [record] at member
          cases member
          exact own
        rw [report_quiet idle quiet,top]
        rfl

end Reports

section Record
variable {thread : Thread} {lib : Lib}

def opened : Frame → Option Lib
  | .transaction lib _ _ _ => some lib
  | .reset _ _ => none

/-- What the fields of a caller become under the resets that are open in its transaction. -/
def Rests (self : Self) : List Frame → InvokerProcInfo → InvokerProcInfo → Prop
  | .reset _ identity :: rest,info,base => ∃ before, Representable before ∧ identity = written before ∧
      info = cleared self before ∧ Rests self rest before base
  | _,info,base => info = base

def shownAs (self : Self) (reset : Bool) (base : InvokerProcInfo) : InvokerProcInfo := if reset then cleared self base else base

theorem serving_opened (stack : List Frame) : (stack.map opened).findSome? id = serving stack := by
  induction stack with
  | nil => rfl
  | cons frame rest ih =>
    cases frame with
    | transaction server caller saved status => rfl
    | reset library identity => exact ih

theorem Rests.value {stack : List Frame} {info base : InvokerProcInfo} (rests : Rests self stack info base) :
    info = shownAs self (inReset (stack.map opened)) base := by
  induction stack generalizing info with
  | nil => exact rests
  | cons frame rest ih =>
    cases frame with
    | transaction server caller saved status => exact rests
    | reset library identity =>
      obtain ⟨before,-,-,clears,earlier⟩ := rests
      change info = cleared self base
      rw [clears,ih earlier,shownAs]
      -- a second reset changes nothing more
      split <;> rfl

theorem Settled.rests {stack : List Frame} {info : InvokerProcInfo} {active : Bool} (settled : Settled self features lib stack info active)
    (serves : serving stack = some lib) : ∃ base, Rests self stack info base := by
  induction stack generalizing info with
  | nil => exact ⟨info,rfl⟩
  | cons frame rest ih =>
    cases frame with
    | transaction server caller saved status => exact ⟨info,rfl⟩
    | reset library identity =>
      have inside : serving rest = some lib := serves
      simp only [Settled,inside,if_true] at settled
      obtain ⟨-,before,fits,writes,clears,earlier⟩ := settled
      obtain ⟨base,rests⟩ := ih earlier inside
      exact ⟨base,before,fits,writes,clears,rests⟩

theorem Settled.unserving {stack : List Frame} {info : InvokerProcInfo} {active : Bool} (settled : Settled self features lib stack info active)
    (none_ : some lib ∉ stack.map opened) : active = false := by
  induction stack with
  | nil => exact settled.2
  | cons frame rest ih =>
    rw [List.map_cons,List.mem_cons,not_or] at none_
    cases frame with
    | transaction server caller saved status =>
      have other : server ≠ lib := fun same => none_.1 (congrArg some same.symm)
      simp only [Settled,if_neg other] at settled
      exact ih settled none_.2
    | reset library identity =>
      have other : serving rest ≠ some lib := by
        intro serves
        rw [← serving_opened] at serves
        obtain ⟨found,member,same⟩ := List.exists_of_findSome?_eq_some serves
        exact none_.2 (same ▸ member)
      simp only [Settled,if_neg other] at settled
      exact ih settled none_.2

/-- What the record tells follows from the calls. -/
structure Noted (own : Self) (calls : Calls) (thread : Thread) : Prop where
  shape : calls.open_ = thread.stack.map opened
  written : ∀ server reset, calls.last = some (server,reset) → serving thread.stack = some server →
    ∃ base, thread.record = some (shownAs own reset base) ∧ Rests own thread.stack (thread.invoker server).caller base

theorem transaction_noted {calls : Calls} {caller : Caller} {failed : Bool} (noted : Noted self calls thread) :
    Noted self (calls.step (.transaction lib caller failed)) (thread.transaction features lib caller failed) := by
  refine ⟨congrArg (some lib :: ·) noted.shape,?_⟩
  intro server reset last _
  cases last
  have changed := @invoker_changed thread lib
    ⟨BinderInvoker.received features failed caller (thread.invoker lib).caller,true,(thread.invoker lib).invokerInfo⟩
    (some (BinderInvoker.received features failed caller (thread.invoker lib).caller))
    (.transaction lib caller (thread.invoker lib).caller (thread.invoker lib).active :: thread.stack) lib
  rw [if_pos rfl] at changed
  exact ⟨BinderInvoker.received features failed caller (thread.invoker lib).caller,rfl,congrArg BinderInvoker.caller changed⟩

theorem finish_noted {calls : Calls} {caller : Caller} {saved : InvokerProcInfo} {status : Bool} {rest : List Frame}
    (held : Held self features thread) (noted : Noted self calls thread) (top : thread.stack = .transaction lib caller saved status :: rest) :
    Noted self (calls.step .finish) (thread.finish lib saved status rest) := by
  have shape : calls.open_ = some lib :: rest.map opened := by
    rw [noted.shape,top]
    rfl
  have stepped : calls.step .finish = ⟨rest.map opened,some (lib,inReset (rest.map opened))⟩ := by
    simp only [Calls.step,shape]
  rw [stepped]
  refine ⟨rfl,?_⟩
  intro server reset last serves
  cases last
  have earlier : Settled self features lib rest saved status := by
    have settled := held.settled lib
    simp only [top,Settled,if_true] at settled
    exact settled.2.2.2
  have changed := @invoker_changed thread lib ⟨saved,status,(thread.invoker lib).invokerInfo⟩ (some saved) rest lib
  rw [if_pos rfl] at changed
  obtain ⟨base,rests⟩ := earlier.rests serves
  refine ⟨base,congrArg some rests.value,?_⟩
  rw [show ((thread.finish lib saved status rest).invoker lib).caller = saved from congrArg BinderInvoker.caller changed]
  exact rests

theorem reset_noted {calls : Calls} (held : Held self features thread) (noted : Noted self calls thread)
    (proper : Proper self features thread (.resetCallingIdentity lib)) :
    Noted self (calls.step (.resetCallingIdentity lib)) (thread.resetCallingIdentity self lib) := by
  cases serves : serving thread.stack with
  | none =>
    have inactive := getActiveInvoker_quiet ((held.settled lib).idle serves).2 (held.quiet serves)
    have reset : (thread.resetCallingIdentity self lib).stack = .reset lib [] :: thread.stack := by
      unfold Thread.resetCallingIdentity
      rw [show thread.getActiveInvoker self lib = ((thread.getActiveInvoker self lib).1,none) from Prod.ext rfl inactive]
      dsimp only
      rw [getActiveInvoker_stack]
    refine ⟨?_,?_⟩
    · rw [reset]
      exact congrArg (none :: ·) noted.shape
    · intro server _ _ inside
      rw [reset] at inside
      cases serves.symm.trans inside
  | some server =>
    obtain ⟨same,fits⟩ := proper server serves
    subst same
    rw [resetCallingIdentity_serving ((held.settled lib).serves serves)]
    refine ⟨congrArg (none :: ·) noted.shape,?_⟩
    intro server reset last inside
    cases serves.symm.trans inside
    obtain ⟨base,record,rests⟩ := noted.written lib reset last serves
    refine ⟨base,record,?_⟩
    rw [invoker_changed,if_pos rfl]
    exact ⟨(thread.invoker lib).caller,fits,rfl,rfl,rests⟩

theorem set_noted {calls : Calls} {identity : List UInt8} {rest : List Frame} (held : Held self features thread)
    (noted : Noted self calls thread) (top : thread.stack = .reset lib identity :: rest) :
    Noted self (calls.step .setCallingIdentity) (thread.setCallingIdentity self lib identity rest) := by
  have shape : (calls.step .setCallingIdentity).open_ = rest.map opened := by
    rw [Calls.step,noted.shape,top]
    rfl
  have above : serving thread.stack = serving rest := by
    rw [top]
    rfl
  refine ⟨?_,?_⟩
  · rw [shape,setCallingIdentity_stack]
  · intro server reset last inside
    rw [setCallingIdentity_stack] at inside
    have serves := above.trans inside
    obtain ⟨base,record,rests⟩ := noted.written server reset last serves
    have settled := held.settled server
    simp only [top,Settled,inside,if_true] at settled
    obtain ⟨same,_,-,-,-,earlier⟩ := settled
    subst same
    rw [top] at rests
    obtain ⟨before,fits,writes,clears,rests⟩ := rests
    rw [setCallingIdentity_serving (earlier.serves inside) fits writes (by rw [clears]; rfl)]
    refine ⟨base,record,?_⟩
    rw [invoker_changed,if_pos rfl]
    exact rests

theorem step_noted {calls : Calls} {event : Event} {after : Thread} (held : Held self features thread) (noted : Noted self calls thread)
    (proper : Proper self features thread event) (taken : thread.step self features event = some after) :
    Noted self (calls.step event) after := by
  cases event with
  | transaction lib caller failed =>
    cases taken
    exact transaction_noted noted
  | finish =>
    simp only [Thread.step] at taken
    split at taken
    · rename_i lib caller saved status rest top
      cases taken
      exact finish_noted held noted top
    · cases taken
  | resetCallingIdentity lib =>
    cases taken
    exact reset_noted held noted proper
  | setCallingIdentity =>
    simp only [Thread.step] at taken
    split at taken
    · rename_i lib identity rest top
      cases taken
      exact set_noted held noted top
    · cases taken
  | query lib =>
    cases taken
    refine ⟨by rw [getActiveInvoker_stack]; exact noted.shape,?_⟩
    intro server reset last serves
    rw [getActiveInvoker_stack] at serves ⊢
    rw [getActiveInvoker_record,(getActiveInvoker_caller server).1]
    exact noted.written server reset last serves

/-- A library that serves nothing finds the caller of the serving one in the record. -/
theorem Noted.asked {events : List Event} (held : Held self features thread) (noted : Noted self (.of events) thread)
    (answerable : Answerable events lib) (server : Lib) (serves : serving thread.stack = some server) :
    lib = server ∨ (thread.invoker lib).active = false ∧ thread.record = some (thread.invoker server).caller := by
  have inside : (Calls.of events).open_.findSome? id = some server := by
    rw [noted.shape,serving_opened]
    exact serves
  refine (answerable server inside).imp_right ?_
  rintro ⟨none_,last⟩
  obtain ⟨base,record,rests⟩ := noted.written server _ last serves
  rw [noted.shape] at none_ record
  exact ⟨(held.settled lib).unserving none_,record.trans (congrArg some rests.value.symm)⟩

end Record

/-- What the getters report depends on the calls in progress alone, and is whom they should report; a sid that is asked for between a
reset and its set through the library that was reset is empty. -/
theorem callers_reported {events : List Event} {thread : Thread}
    (run : Reaches (guarded (fires (Thread.step self features)) (Proper self features)) (.new self) events thread)
    {lib : Lib} (answerable : Answerable events lib) :
    { thread.report self lib with sid := (expected self features thread.stack).sid } = expected self features thread.stack ∧
      ((∀ library identity rest, thread.stack = .reset library identity :: rest → serving rest = some lib → self.sid = []) →
        (thread.report self lib).sid = (expected self features thread.stack).sid) := by
  obtain ⟨held,noted⟩ := run.trace_invariant (fun events thread => Held self features thread ∧ Noted self (.of events) thread)
    ⟨held_new,rfl,fun _ _ impossible => by cases impossible⟩ fun events before event after kept taken => by
      refine ⟨step_held kept.1 taken.1 taken.2,?_⟩
      rw [Calls.of,List.foldl_append]
      exact step_noted kept.1 kept.2 taken.1 taken.2
  rcases held.report (noted.asked held answerable) with same | ⟨library,identity,rest,top,inside,same⟩
  · rw [same]
    exact ⟨rfl,fun _ => rfl⟩
  · have own : expected self features thread.stack = self.identity := by
      rw [top]
      rfl
    rw [same,own]
    refine ⟨rfl,?_⟩
    intro nameless
    exact (nameless library identity rest top inside).symm

section Runs

instance (info : InvokerProcInfo) : Decidable (Representable info) :=
  decidable_of_iff ((0 ≤ info.pid ∧ info.pid < 2^31) ∧ (0 ≤ info.realPid ∧ info.realPid < 2^31) ∧
    (0 ≤ info.uid ∧ info.uid < 2^31) ∧ 60 ∉ info.sid)
    ⟨fun all => ⟨all.1,all.2.1,all.2.2.1,all.2.2.2⟩,fun fits => ⟨fits.pid,fits.realPid,fits.uid,fits.sid⟩⟩

instance (thread : Thread) : (event : Event) → Decidable (Proper self features thread event)
  | .transaction lib caller failed => inferInstanceAs (Decidable (caller.pid ≠ self.pid ∧ caller.uid.toNat < 2^31 ∧
      if features.realPid ∨ features.accessToken then failed = false else (thread.invoker lib).caller.tokenId = 0))
  | .resetCallingIdentity lib =>
    inferInstanceAs (Decidable (∀ server ∈ serving thread.stack, lib = server ∧ Representable (thread.invoker lib).caller))
  | .finish | .setCallingIdentity | .query _ => isTrue trivial

instance (events : List Event) (lib : Lib) : Decidable (Answerable events lib) :=
  inferInstanceAs (Decidable (∀ server ∈ (Calls.of events).open_.findSome? id,_))

def process : Self := ⟨100,100,1000,7,[]⟩
def allFeatures : Features := ⟨true,true⟩
def firstCaller : Caller := ⟨200,201,2000,8,0,[97]⟩
def secondCaller : Caller := ⟨300,301,3000,9,0,[98]⟩

/-- A caller is served again after one that was served between a reset and its set, and one that was served behind that. -/
def nestedCalls : List Event :=
  [.transaction .core firstCaller false,.query .single,.resetCallingIdentity .core,.transaction .core secondCaller false,.query .core,
    .finish,.query .single,.setCallingIdentity,.transaction .core secondCaller false,.query .single,.finish]

/-- Both the library that serves and the one that does not report the first caller. -/
theorem callers_reported_nested : ∃ thread, Reaches (guarded (fires (Thread.step process allFeatures)) (Proper process allFeatures))
      (.new process) nestedCalls thread ∧
    { thread.report process .core with sid := [97] } = known allFeatures firstCaller ∧
    { thread.report process .single with sid := [97] } = known allFeatures firstCaller := by
  obtain ⟨thread,run,test⟩ := Reaches.exists_of_foldlM_guarded (Thread.step process allFeatures) (Proper process allFeatures)
    (.new process) nestedCalls (fun thread => decide (expected process allFeatures thread.stack = known allFeatures firstCaller))
    (by decide +kernel)
  have fromCore : Answerable nestedCalls .core := by decide
  have fromSingle : Answerable nestedCalls .single := by decide
  have core := (callers_reported run fromCore).1
  have single := (callers_reported run fromSingle).1
  rw [of_decide_eq_true test] at core single
  exact ⟨thread,run,core,single⟩

/-- A library that serves an outer transaction reports its caller inside an inner one of the other library; when the inner one has
returned, its library reports the process itself; and a reset does not reach the library that serves nothing. -/
theorem callers_mistaken :
    (∃ thread, Reaches (fires (Thread.step process allFeatures)) (.new process)
      [.transaction .core firstCaller false,.transaction .single secondCaller false] thread ∧
      thread.report process .core = known allFeatures firstCaller ∧
      thread.report process .core ≠ expected process allFeatures thread.stack) ∧
    (∃ thread, Reaches (fires (Thread.step process allFeatures)) (.new process)
      [.transaction .core firstCaller false,.transaction .single secondCaller false,.finish] thread ∧
      thread.report process .single = process.identity ∧
      thread.report process .single ≠ expected process allFeatures thread.stack) ∧
    ∃ thread, Reaches (fires (Thread.step process allFeatures)) (.new process)
      [.transaction .core firstCaller false,.resetCallingIdentity .core] thread ∧
      thread.report process .single = known allFeatures firstCaller ∧
      thread.report process .single ≠ expected process allFeatures thread.stack := by
  refine ⟨?_,?_,?_⟩
  · obtain ⟨thread,run,test⟩ := Reaches.exists_of_foldlM (Thread.step process allFeatures) (.new process)
      [.transaction .core firstCaller false,.transaction .single secondCaller false]
      (fun thread => decide (thread.report process .core = known allFeatures firstCaller ∧
        thread.report process .core ≠ expected process allFeatures thread.stack)) (by decide +kernel)
    exact ⟨thread,run,of_decide_eq_true test⟩
  · obtain ⟨thread,run,test⟩ := Reaches.exists_of_foldlM (Thread.step process allFeatures) (.new process)
      [.transaction .core firstCaller false,.transaction .single secondCaller false,.finish]
      (fun thread => decide (thread.report process .single = process.identity ∧
        thread.report process .single ≠ expected process allFeatures thread.stack)) (by decide +kernel)
    exact ⟨thread,run,of_decide_eq_true test⟩
  · obtain ⟨thread,run,test⟩ := Reaches.exists_of_foldlM (Thread.step process allFeatures) (.new process)
      [.transaction .core firstCaller false,.resetCallingIdentity .core]
      (fun thread => decide (thread.report process .single = known allFeatures firstCaller ∧
        thread.report process .single ≠ expected process allFeatures thread.stack)) (by decide +kernel)
    exact ⟨thread,run,of_decide_eq_true test⟩

end Runs

section Pair

/-- A caller whose numbers are not negative is set back as it was, and an identity that is refused changes nothing. -/
theorem calling_identity_restored (self : Self) (invoker : BinderInvoker) :
    (invoker.active = true → Representable invoker.caller →
      let reset := invoker.resetCallingIdentity self
      (reset.1.setCallingIdentityResult reset.2).2 = true ∧ (reset.1.setCallingIdentityResult reset.2).1 = invoker) ∧
    ∀ identity, (invoker.setCallingIdentityResult identity).2 = false → (invoker.setCallingIdentityResult identity).1 = invoker := by
  refine ⟨?_,fun identity => setCallingIdentityResult_refused⟩
  intro active fits
  have text : (invoker.resetCallingIdentity self).2 = written invoker.caller := by
    simp only [BinderInvoker.resetCallingIdentity,BinderInvoker.shown,active,not_true_eq_false,false_and,if_false,written]
  dsimp only
  rw [text,setCallingIdentityResult_fst]
  refine ⟨setCallingIdentityResult_written fits,?_⟩
  exact setCallingIdentity_written fits rfl

def servingInvoker : BinderInvoker := ⟨⟨200,201,2000,8,5,[97]⟩,true,.new process⟩

theorem calling_identity_restored_sample :
    let reset := servingInvoker.resetCallingIdentity process
    (reset.1.setCallingIdentityResult reset.2).2 = true ∧ (reset.1.setCallingIdentityResult reset.2).1 = servingInvoker :=
  (calling_identity_restored process servingInvoker).1 rfl (by decide)

end Pair

end CommunicationIpc.CallingIdentity
