import CommunicationIpc.CallingIdentity
import CommunicationIpc.Kernel.DatabusIdentity

/-! The databus identity: its fields have fixed widths except the device id, which is written as it is and read back at its largest
length, and the pid, whose sign reaches the uid. -/
namespace CommunicationIpc.DatabusIdentity
open CommunicationIpc.Library CommunicationIpc.CallingIdentity CommunicationIpc.Kernel.Auth CommunicationIpc.Kernel.CallingIdentity
open CommunicationIpc.Kernel.DatabusIdentity

/-- The caller that is saved comes back: who called, from where and with which token. -/
def Restored (self : Process) (invoker : DBinderDatabusInvoker) : Prop :=
  let reset := invoker.resetCallingIdentity self
  let set := reset.1.setCallingIdentity reset.2
  set.2 = true ∧ set.1.caller.callerPid = invoker.caller.callerPid ∧ set.1.caller.callerUid = invoker.caller.callerUid ∧
    set.1.caller.callerDeviceID = invoker.caller.callerDeviceID ∧ set.1.caller.callerTokenID = invoker.caller.callerTokenID

theorem pidOf_bounds (value : UInt32) : -2^31 ≤ pidOf value ∧ pidOf value < 2^31 := by
  have small : value.toNat < 2^32 := value.toNat_lt
  unfold pidOf
  split <;> omega

theorem established_bounds {before after : DBinderDatabusInvoker} {skeleton : Skeleton} {socketId : Int32} {stubIndex : UInt64}
    (established : before.checkAndSetCallerInfo skeleton socketId stubIndex = (after,errNone)) :
    (0 ≤ after.caller.callerUid ∧ after.caller.callerUid < 2^31) ∧
      (-2^31 ≤ after.caller.callerPid ∧ after.caller.callerPid < 2^31) ∧ after.caller.callerDeviceID.length ≤ deviceIdLength := by
  unfold DBinderDatabusInvoker.checkAndSetCallerInfo at established
  split at established
  · cases congrArg Prod.snd established
  · rename_i session found
    split_ifs at established with refused foreign
    · cases congrArg Prod.snd established
    · cases congrArg Prod.snd established
    · cases established
      rw [not_or,not_lt,not_lt] at refused
      exact ⟨⟨refused.1,(pidOf_bounds session.uid).2⟩,pidOf_bounds session.pid,refused.2⟩

/-- The text is read back in three slices; the second takes as many characters as a device id can have. -/
theorem setCallingIdentity_eq (invoker : DBinderDatabusInvoker) (tokenId : UInt64) {deviceId : List UInt8} (token : UInt64)
    (whole : deviceId.length = deviceIdLength) :
    invoker.setCallingIdentity (decimal accessTokenMaxLen tokenId.toNat ++ (deviceId ++ toString64 token)) =
      ({ invoker with caller :=
          { invoker.caller with
            callerUid := pidOf (token >>> pidLen).toUInt32, callerPid := pidOf token.toUInt32,
            callerDeviceID := deviceId, callerTokenID := tokenId } },true) := by
  have some_ : toString64 token ≠ [] := trimZeros_ne_nil _
  have positive := List.length_pos_iff.mpr some_
  have width : (decimal accessTokenMaxLen tokenId.toNat).length = accessTokenMaxLen := decimal_length _ _
  have least : 0 < deviceIdLength := by decide
  have first : getUint64ValueByStrSlice (decimal accessTokenMaxLen tokenId.toNat ++ (deviceId ++ toString64 token)) 0 accessTokenMaxLen =
      some tokenId := by
    have slice := getSubStr_middle [] (decimal accessTokenMaxLen tokenId.toNat) (deviceId ++ toString64 token)
      (decimal_ne_nil (by decide) _)
    rw [List.nil_append,List.length_nil,width] at slice
    rw [getUint64ValueByStrSlice,slice,Option.bind_some,strToUint64_decimal]
  have second : getSubStr (decimal accessTokenMaxLen tokenId.toNat ++ (deviceId ++ toString64 token)) accessTokenMaxLen deviceIdLength =
      some deviceId := by
    have slice := getSubStr_middle (decimal accessTokenMaxLen tokenId.toNat) deviceId (toString64 token)
      (List.length_pos_iff.mp (by omega))
    rwa [width,whole,List.append_assoc] at slice
  have length : (decimal accessTokenMaxLen tokenId.toNat ++ (deviceId ++ toString64 token)).length =
      accessTokenMaxLen+deviceIdLength+(toString64 token).length := by
    rw [List.length_append,List.length_append,width,whole,Nat.add_assoc]
  have third : getUint64ValueByStrSlice (decimal accessTokenMaxLen tokenId.toNat ++ (deviceId ++ toString64 token))
      (accessTokenMaxLen+deviceIdLength) (toString64 token).length = some token := by
    have slice := getSubStr_middle (decimal accessTokenMaxLen tokenId.toNat ++ deviceId) (toString64 token) [] some_
    rw [List.append_nil,List.length_append,width,whole,List.append_assoc] at slice
    rw [getUint64ValueByStrSlice,slice,Option.bind_some,strToUint64_toString64]
  have long : ¬ (decimal accessTokenMaxLen tokenId.toNat ++ (deviceId ++ toString64 token) = [] ∨
      (decimal accessTokenMaxLen tokenId.toNat ++ (deviceId ++ toString64 token)).length ≤ deviceIdLength) := by
    rw [not_or,← List.length_eq_zero_iff,length]
    omega
  have behind : ¬ accessTokenMaxLen+deviceIdLength+(toString64 token).length ≤ accessTokenMaxLen+deviceIdLength := by omega
  have rest : accessTokenMaxLen+deviceIdLength+(toString64 token).length-(accessTokenMaxLen+deviceIdLength) = (toString64 token).length :=
    Nat.add_sub_cancel_left _ _
  unfold DBinderDatabusInvoker.setCallingIdentity
  rw [if_neg long,first,second]
  simp only [length,behind,if_false,rest,third]

/-- Whatever it accepts, `SetCallingIdentity` sets a device id of the largest length. -/
theorem setCallingIdentity_device {invoker : DBinderDatabusInvoker} {identity : List UInt8}
    (accepted : (invoker.setCallingIdentity identity).2 = true) :
    (invoker.setCallingIdentity identity).1.caller.callerDeviceID.length = deviceIdLength := by
  revert accepted
  unfold DBinderDatabusInvoker.setCallingIdentity
  split
  · intro accepted
    cases accepted
  · split
    · intro accepted
      cases accepted
    · split
      · intro accepted
        cases accepted
      · rename_i deviceId sliced
        simp only
        split
        · intro accepted
          cases accepted
        · split
          · intro accepted
            cases accepted
          · intro _
            unfold getSubStr at sliced
            split at sliced
            · cases sliced
            · rename_i inside
              cases sliced
              rw [not_or,not_lt] at inside
              rw [List.length_take,List.length_drop,min_eq_left]
              omega

theorem setCallingIdentity_refused {invoker : DBinderDatabusInvoker} {identity : List UInt8}
    (refused : (invoker.setCallingIdentity identity).2 = false) : (invoker.setCallingIdentity identity).1 = invoker := by
  revert refused
  unfold DBinderDatabusInvoker.setCallingIdentity
  split
  · exact fun _ => rfl
  · split
    · exact fun _ => rfl
    · split
      · exact fun _ => rfl
      · simp only
        split
        · exact fun _ => rfl
        · split
          · exact fun _ => rfl
          · intro accepted
            cases accepted

/-- A negative pid fills the half of the number that holds the uid. -/
theorem uid_of_negative_pid (uid : UInt64) {pid : Int} (negative : -2^31 ≤ pid ∧ pid < 0) :
    pidOf ((uid <<< pidLen ||| UInt64.ofInt pid) >>> pidLen).toUInt32 = -1 := by
  have extended : 2^64-2^31 ≤ (UInt64.ofInt pid).toNat := by
    unfold UInt64.ofInt
    have wrapped : pid % 2^64 = pid+2^64 := by omega
    rw [wrapped,UInt64.toNat_ofNat_of_lt' (by change (pid+2^64).toNat < 2^64; omega)]
    omega
  have shift : pidLen.toNat % 64 = 32 := by decide
  have kept : (UInt64.ofInt pid).toNat ≤ (uid <<< pidLen ||| UInt64.ofInt pid).toNat := by
    rw [UInt64.toNat_or]
    exact Nat.right_le_or
  have small : (uid <<< pidLen ||| UInt64.ofInt pid).toNat < 2^64 := UInt64.toNat_lt _
  generalize uid <<< pidLen ||| UInt64.ofInt pid = token at kept small ⊢
  have half : (token >>> pidLen).toUInt32.toNat = 2^32-1 := by
    rw [UInt64.toNat_toUInt32,UInt64.toNat_shiftRight,shift,Nat.shiftRight_eq_div_pow]
    omega
  unfold pidOf
  rw [half]
  decide

theorem restored_of_whole {self : Process} {invoker : DBinderDatabusInvoker} (whole : invoker.caller.callerDeviceID.length = deviceIdLength)
    (uid : 0 ≤ invoker.caller.callerUid ∧ invoker.caller.callerUid < 2^31)
    (pid : 0 ≤ invoker.caller.callerPid ∧ invoker.caller.callerPid < 2^31) : Restored self invoker := by
  have number := pidUid_toNat uid pid
  simp only [Restored,DBinderDatabusInvoker.resetCallingIdentity,setCallingIdentity_eq _ _ _ whole,true_and]
  generalize UInt64.ofInt invoker.caller.callerUid <<< pidLen ||| UInt64.ofInt invoker.caller.callerPid = token at number
  refine ⟨?_,?_,trivial⟩
  · apply pidOf_toNat pid
    rw [UInt64.toNat_toUInt32,number]
    omega
  · apply pidOf_toNat uid
    have shift : pidLen.toNat % 64 = 32 := by decide
    rw [UInt64.toNat_toUInt32,UInt64.toNat_shiftRight,shift,number,Nat.shiftRight_eq_div_pow]
    omega

theorem whole_of_restored {self : Process} {invoker : DBinderDatabusInvoker} (restored : Restored self invoker) :
    invoker.caller.callerDeviceID.length = deviceIdLength := by
  obtain ⟨accepted,-,-,device,-⟩ := restored
  rw [← device]
  exact setCallingIdentity_device accepted

theorem pid_of_restored {self : Process} {invoker : DBinderDatabusInvoker} (restored : Restored self invoker)
    (uid : 0 ≤ invoker.caller.callerUid) (least : -2^31 ≤ invoker.caller.callerPid) : 0 ≤ invoker.caller.callerPid := by
  by_contra negative
  have whole := whole_of_restored restored
  simp only [Restored,DBinderDatabusInvoker.resetCallingIdentity,setCallingIdentity_eq _ _ _ whole] at restored
  have same := restored.2.2.1
  rw [uid_of_negative_pid _ ⟨least,by omega⟩] at same
  omega

/-- A caller that `CheckAndSetCallerInfo` set is restored exactly when its device id has the largest length and its pid is not
negative; an identity that is refused changes nothing. -/
theorem identity_restored_iff (self : Process) {before after : DBinderDatabusInvoker} {skeleton : Skeleton} {socketId : Int32}
    {stubIndex : UInt64} (established : before.checkAndSetCallerInfo skeleton socketId stubIndex = (after,errNone)) :
    (Restored self after ↔ after.caller.callerDeviceID.length = deviceIdLength ∧ 0 ≤ after.caller.callerPid) ∧
      ∀ (invoker : DBinderDatabusInvoker) (identity : List UInt8), (invoker.setCallingIdentity identity).2 = false →
        (invoker.setCallingIdentity identity).1 = invoker := by
  obtain ⟨uid,pid,-⟩ := established_bounds established
  refine ⟨⟨?_,?_⟩,fun _ _ => setCallingIdentity_refused⟩
  · exact fun restored => ⟨whole_of_restored restored,pid_of_restored restored uid.1 pid.1⟩
  · exact fun both => restored_of_whole both.1 uid ⟨both.2,pid.2⟩

def peer (deviceId : List UInt8) (pid : UInt32) : App := ⟨deviceId,pid,1000,7⟩

/-- Socket 5 belongs to the peer, which may use stub index 9. -/
def peerSkeleton (app : App) : Skeleton :=
  { appInfoToStubIndex := (∅ : Table (List UInt8) (Table UInt64 Int32)).insert app.appInfo
      ((∅ : Table UInt64 Int32).insert 9 5),
    commAuth := [],
    stubObjects := ∅,
    randNum := 0,
    dbinderSessionObjects := (∅ : Table Int32 App).insert 5 app }

def server : Process := ⟨50,2000,[108],3⟩

def idle : DBinderDatabusInvoker := ⟨⟨0,0,0,0,0,[]⟩⟩

theorem identity_restored_long :
    Restored server (idle.checkAndSetCallerInfo (peerSkeleton (peer (List.replicate 64 97) 100)) 5 9).1 := by
  have established : idle.checkAndSetCallerInfo (peerSkeleton (peer (List.replicate 64 97) 100)) 5 9 =
      ((idle.checkAndSetCallerInfo (peerSkeleton (peer (List.replicate 64 97) 100)) 5 9).1,errNone) := by decide +kernel
  exact (identity_restored_iff server established).1.mpr (by decide +kernel)

/-- A peer on device `abc`: its identity is too short to be accepted, and the caller is lost. -/
theorem short_device_lost :
    let before := (idle.checkAndSetCallerInfo (peerSkeleton (peer [97,98,99] 100)) 5 9).1
    let reset := before.resetCallingIdentity server
    idle.checkAndSetCallerInfo (peerSkeleton (peer [97,98,99] 100)) 5 9 = (before,errNone) ∧
      reset.1.setCallingIdentity reset.2 = (reset.1,false) ∧ reset.1.caller ≠ before.caller ∧ ¬ Restored server before := by
  refine ⟨by decide +kernel,by decide +kernel,by decide +kernel,?_⟩
  intro restored
  exact absurd restored.1 (by decide +kernel)

end CommunicationIpc.DatabusIdentity
