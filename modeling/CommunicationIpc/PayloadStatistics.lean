import CommunicationIpc.Kernel.PayloadStatistics
import CommunicationIpc.Library.Run
import CommunicationIpc.Numerals
import Mathlib.Algebra.Order.BigOperators.Group.List
import Mathlib.Algebra.Order.Group.Nat

/-! What the payload statistics report is what can be computed from the updates that were accepted since the data were last cleared. -/
namespace CommunicationIpc.PayloadStatistics
open CommunicationIpc.Library CommunicationIpc.Kernel.PayloadStatistics CommunicationIpc.Kernel.PayloadStatistics.IPCPayloadStatisticsImpl
open CommunicationIpc.Kernel.RawData (toString32)
open CommunicationIpc.Numerals

section Record

/-- What a run of calls has left: whether statistics are enabled, and the updates accepted since the data were last cleared. -/
structure Record where
  enabled : Bool
  accepted : List Update

def Record.after (record : Record) : Event → Record
  | .updatePayloadInfo update =>
    if record.enabled = true ∧ update.currentCost ≠ 0 then { record with accepted := record.accepted ++ [update] } else record
  | .startStatistics => if record.enabled then record else ⟨true,[]⟩
  | .stopStatistics => { record with enabled := false }
  | .clearStatisticsData => { record with accepted := [] }

def recorded (events : List Event) : Record := events.foldl Record.after ⟨false,[]⟩

def cost (update : Update) : Nat := update.currentCost.toNat

def totalCost (updates : List Update) : Nat := (updates.map cost).sum

def ofPid (updates : List Update) (pid : Int32) : List Update := part Update.pid updates pid

def ofInterface (updates : List Update) (pid : Int32) (interface : IPCInterfaceInfo) : List Update :=
  part Update.interface (ofPid updates pid) interface

/-- The costs of some updates, all zero where there are none. -/
structure Costs (reported : IPCPayloadCost) (updates : List Update) : Prop where
  totalCost : reported.totalCost.toNat = totalCost updates
  maxCost : reported.maxCost.toNat = ((updates.map cost).max?).getD 0
  minCost : reported.minCost.toNat = ((updates.map cost).min?).getD 0
  averCost : reported.averCost.toNat = PayloadStatistics.totalCost updates/updates.length
  ordered : updates ≠ [] → reported.minCost ≤ reported.averCost ∧ reported.averCost ≤ reported.maxCost

/-- The queries answer for the accepted updates. -/
structure Reports (statistics : IPCPayloadStatisticsImpl) (accepted : List Update) : Prop where
  descriptorCodeCount : ∀ pid desc code,
    (statistics.getDescriptorCodeCount pid desc code).toNat = (ofInterface accepted pid ⟨desc,code⟩).length
  descriptorCodeCost : ∀ pid desc code, Costs (statistics.getDescriptorCodeCost pid desc code) (ofInterface accepted pid ⟨desc,code⟩)
  descriptorCodes : ∀ pid, (statistics.getDescriptorCodes pid).Nodup ∧
    ∀ interface, interface ∈ statistics.getDescriptorCodes pid ↔ ofInterface accepted pid interface ≠ []
  pids : statistics.getPids.Nodup ∧ ∀ pid, pid ∈ statistics.getPids ↔ ofPid accepted pid ≠ []
  count : ∀ pid, (statistics.getCount pid).toNat = (ofPid accepted pid).length
  cost : ∀ pid, (statistics.getCost pid).toNat = totalCost (ofPid accepted pid)
  totalCount : statistics.getTotalCount.toNat = accepted.length
  totalCost : statistics.getTotalCost.toNat = PayloadStatistics.totalCost accepted

/-- What is reported for a pid is the sum over its interfaces, and what is reported for all the sum over the pids. -/
structure AddsUp (statistics : IPCPayloadStatisticsImpl) : Prop where
  count : ∀ pid, (statistics.getCount pid).toNat =
    ((statistics.getDescriptorCodes pid).map fun info => (statistics.getDescriptorCodeCount pid info.desc info.code).toNat).sum
  cost : ∀ pid, (statistics.getCost pid).toNat =
    ((statistics.getDescriptorCodes pid).map fun info => (statistics.getDescriptorCodeCost pid info.desc info.code).totalCost.toNat).sum
  totalCount : statistics.getTotalCount.toNat = (statistics.getPids.map fun pid => (statistics.getCount pid).toNat).sum
  totalCost : statistics.getTotalCost.toNat = (statistics.getPids.map fun pid => (statistics.getCost pid).toNat).sum

end Record

section Key
variable {str8ToStr16 : List UInt8 → List UInt16}

/-- A text of ASCII characters has the same units. -/
def Ascii (str8ToStr16 : List UInt8 → List UInt16) : Prop :=
  ∀ chars : List UInt8, (∀ char ∈ chars, char < 128) → str8ToStr16 chars = chars.map UInt8.toUInt16

theorem toString32_ascii (value : Int32) : ∀ char ∈ toString32 value, char < 128 := by
  have digits : ∀ char ∈ trimZeros (decimal 10 value.toInt.natAbs), char < 128 := by
    intro char member
    have digit := trimZeros_digits (decimal_digits _ _) char member
    simp only [isDigit,decide_eq_true_eq] at digit
    exact UInt8.lt_iff_toNat_lt.mpr (Nat.lt_of_le_of_lt digit.2 (by decide))
  intro char member
  rw [toString32] at member
  split at member
  · rcases List.mem_cons.mp member with rfl | rest
    · decide
    · exact digits char rest
  · exact digits char member

theorem toUInt16_injective : Function.Injective UInt8.toUInt16 := by
  intro left right same
  have value := congrArg UInt16.toNat same
  rwa [UInt8.toNat_toUInt16,UInt8.toNat_toUInt16,UInt8.toNat_inj] at value

/-- The code is behind the last underscore, as a number has none. -/
theorem descKey_injective (ascii : Ascii str8ToStr16) {left right : IPCInterfaceInfo}
    (same : descKey str8ToStr16 left = descKey str8ToStr16 right) : left = right := by
  have number : ∀ interface : IPCInterfaceInfo, descKey str8ToStr16 interface =
      interface.desc ++ 95 :: (toString32 interface.code).map UInt8.toUInt16 := by
    intro interface
    rw [descKey,ascii _ (toString32_ascii interface.code),List.append_assoc]
    rfl
  have plain : ∀ value : Int32, (95 : UInt16) ∉ (toString32 value).map UInt8.toUInt16 := by
    intro value member
    obtain ⟨char,inside,underscore⟩ := List.mem_map.mp member
    have is_ : char = 95 := toUInt16_injective underscore
    exact toString32_not_mem value (is_ ▸ inside)
  rw [number,number] at same
  have tails := congrArg (fromLast 95) same
  rw [fromLast_append (plain left.code),fromLast_append (plain right.code),Option.some_inj,List.cons.injEq] at tails
  have code : left.code = right.code := toString32_injective (toUInt16_injective.list_map tails.2)
  rw [code] at same
  have desc := List.append_cancel_right same
  cases left
  cases right
  exact IPCInterfaceInfo.mk.injEq .. ▸ ⟨desc,code⟩

end Key

section Entry

/-- An entry stands for updates of one interface; counts are kept modulo 2^64. -/
structure Stands (info : IPCPayloadInfo) (updates : List Update) : Prop where
  interface : ∀ update ∈ updates, update.interface = info.interface
  count : info.count = UInt64.ofNat updates.length
  totalCost : info.cost.totalCost = UInt64.ofNat (totalCost updates)
  maxCost : (updates.map cost).max? = some info.cost.maxCost.toNat
  minCost : (updates.map cost).min? = some info.cost.minCost.toNat

theorem stands_first (update : Update) : Stands (payloadInfo update) [update] := by
  refine ⟨?_,rfl,?_,rfl,rfl⟩
  · intro other member
    rw [List.mem_singleton.mp member]
    rfl
  · rw [totalCost,List.map_singleton,List.sum_singleton,cost,UInt64.ofNat_uInt32ToNat]
    rfl

theorem Stands.snoc {info : IPCPayloadInfo} {updates : List Update} (stands : Stands info updates) (update : Update)
    (same : update.interface = info.interface) : Stands (IPCPayloadStatisticsImpl.count update info) (updates ++ [update]) := by
  obtain ⟨greatest,most⟩ := List.max?_eq_some_iff.mp stands.maxCost
  obtain ⟨least,fewest⟩ := List.min?_eq_some_iff.mp stands.minCost
  have costs : (updates ++ [update]).map cost = updates.map cost ++ [update.currentCost.toNat] := by rw [List.map_append]; rfl
  refine ⟨?_,?_,?_,?_,?_⟩
  · intro other member
    rcases List.mem_append.mp member with old | last
    · exact stands.interface other old
    · rw [List.mem_singleton.mp last]
      exact same
  · change info.count+1 = _
    rw [stands.count,List.length_append,List.length_singleton,UInt64.ofNat_add]
    rfl
  · change info.cost.totalCost+update.currentCost.toUInt64 = _
    rw [stands.totalCost,PayloadStatistics.totalCost,PayloadStatistics.totalCost,costs,List.sum_append,List.sum_singleton,
      UInt64.ofNat_add,UInt64.ofNat_uInt32ToNat]
  · change _ = some (if info.cost.maxCost < update.currentCost then update.currentCost else info.cost.maxCost).toNat
    rw [costs,List.max?_eq_some_iff]
    split
    · rename_i above
      have above := UInt32.lt_iff_toNat_lt.mp above
      refine ⟨List.mem_append_right _ List.mem_cons_self,fun other member => ?_⟩
      rcases List.mem_append.mp member with old | last
      · exact (most other old).trans (Nat.le_of_lt above)
      · exact Nat.le_of_eq (List.mem_singleton.mp last)
    · rename_i below
      have below := Nat.le_of_not_lt (mt UInt32.lt_iff_toNat_lt.mpr below)
      refine ⟨List.mem_append_left _ greatest,fun other member => ?_⟩
      rcases List.mem_append.mp member with old | last
      · exact most other old
      · rw [List.mem_singleton.mp last]
        exact below
  · change _ = some (if update.currentCost < info.cost.minCost then update.currentCost else info.cost.minCost).toNat
    rw [costs,List.min?_eq_some_iff]
    split
    · rename_i below
      have below := UInt32.lt_iff_toNat_lt.mp below
      refine ⟨List.mem_append_right _ List.mem_cons_self,fun other member => ?_⟩
      rcases List.mem_append.mp member with old | last
      · exact (Nat.le_of_lt below).trans (fewest other old)
      · exact Nat.le_of_eq (List.mem_singleton.mp last).symm
    · rename_i above
      have above := Nat.le_of_not_lt (mt UInt32.lt_iff_toNat_lt.mpr above)
      refine ⟨List.mem_append_left _ least,fun other member => ?_⟩
      rcases List.mem_append.mp member with old | last
      · exact fewest other old
      · rw [List.mem_singleton.mp last]
        exact above

end Entry

section Run
variable {str8ToStr16 : List UInt8 → List UInt16}

/-- The map of a pid stands for the updates of the pid. -/
def MapStands (str8ToStr16 : List UInt8 → List UInt16) (map : PayloadMap) (updates : List Update) : Prop :=
  Grouped (fun update => descKey str8ToStr16 update.interface) Stands map updates

structure Sound (str8ToStr16 : List UInt8 → List UInt16) (statistics : IPCPayloadStatisticsImpl) (record : Record) : Prop where
  enabled : statistics.isStatisticsFlag = record.enabled
  grouped : Grouped Update.pid (MapStands str8ToStr16) statistics.payloadStat record.accepted
  nonzero : ∀ update ∈ record.accepted, update.currentCost ≠ 0

theorem updateMap_stands (ascii : Ascii str8ToStr16) {map : PayloadMap} {updates : List Update} (stands : MapStands str8ToStr16 map updates)
    (update : Update) : MapStands str8ToStr16 (updateMap str8ToStr16 map update) (updates ++ [update]) := by
  refine stands.upsert (fun left right => left ≤ right) update (stands_first update) ?_
  intro info others some_ same held
  obtain ⟨other,member⟩ := List.exists_mem_of_ne_nil _ some_
  exact held.snoc update ((descKey_injective ascii (same other member)).symm.trans (held.interface other member))

theorem sound_step (ascii : Ascii str8ToStr16) {statistics : IPCPayloadStatisticsImpl} {record : Record}
    (sound : Sound str8ToStr16 statistics record) (event : Event) :
    Sound str8ToStr16 (statistics.step str8ToStr16 event) (record.after event) := by
  obtain ⟨enabled,grouped,nonzero⟩ := sound
  cases event with
  | updatePayloadInfo update =>
    by_cases accepted : record.enabled = true ∧ update.currentCost ≠ 0
    · have taken : statistics.step str8ToStr16 (.updatePayloadInfo update) =
          { statistics with
            payloadStat := upsert (fun left right => left ≤ right) statistics.payloadStat update.pid (updateMap str8ToStr16 [] update)
              fun map => updateMap str8ToStr16 map update } := by
        rw [step,updatePayloadInfo,enabled,accepted.1,decide_eq_false accepted.2]
        rfl
      rw [taken,Record.after,if_pos accepted]
      refine ⟨enabled,?_,?_⟩
      · exact grouped.upsert (fun left right => left ≤ right) update (updateMap_stands ascii Grouped.nil update)
          fun _ _ held => updateMap_stands ascii held update
      · intro other member
        rcases List.mem_append.mp member with old | last
        · exact nonzero other old
        · rw [List.mem_singleton.mp last]
          exact accepted.2
    · have refused : statistics.step str8ToStr16 (.updatePayloadInfo update) = statistics := by
        have condition : (decide (update.currentCost = 0) || !statistics.isStatisticsFlag) = true := by
          rw [enabled]
          cases on : record.enabled with
          | false => exact Bool.or_true _
          | true =>
            have zero : update.currentCost = 0 := by_contra fun other => accepted ⟨on,other⟩
            rw [decide_eq_true zero]
            rfl
        rw [step,updatePayloadInfo,if_pos condition]
      rw [refused,Record.after,if_neg accepted]
      exact ⟨enabled,grouped,nonzero⟩
  | startStatistics =>
    rw [step,startStatistics,Record.after,enabled]
    cases on : record.enabled with
    | false => exact ⟨rfl,Grouped.nil,fun _ member => absurd member List.not_mem_nil⟩
    | true => exact ⟨enabled,grouped,nonzero⟩
  | stopStatistics =>
    rw [step,stopStatistics,Record.after,enabled]
    cases on : record.enabled with
    | false => exact ⟨enabled.trans on,grouped,nonzero⟩
    | true => exact ⟨rfl,grouped,nonzero⟩
  | clearStatisticsData => exact ⟨enabled,Grouped.nil,fun _ member => absurd member List.not_mem_nil⟩

theorem sound_run (ascii : Ascii str8ToStr16) (events : List Event) :
    Sound str8ToStr16 (events.foldl (step str8ToStr16) .new) (recorded events) := by
  induction events using List.reverseRecOn with
  | nil => exact ⟨rfl,Grouped.nil,fun _ member => absurd member List.not_mem_nil⟩
  | append_singleton events event ih =>
    rw [recorded,List.foldl_append,List.foldl_append]
    exact sound_step ascii ih event

end Run

section Totals

/-- The costs are not zero, and their total is a number of 64 bits. -/
structure Fits (updates : List Update) : Prop where
  nonzero : ∀ update ∈ updates, update.currentCost ≠ 0
  total : totalCost updates < 2^64

theorem Fits.sublist {some_ updates : List Update} (fits : Fits updates) (inside : some_.Sublist updates) : Fits some_ := by
  refine ⟨fun update member => fits.nonzero update (inside.mem member),?_⟩
  refine Nat.lt_of_le_of_lt ?_ fits.total
  exact (inside.map cost).sum_le_sum fun _ _ => Nat.zero_le _

theorem length_le_totalCost {updates : List Update} (nonzero : ∀ update ∈ updates, update.currentCost ≠ 0) :
    updates.length ≤ totalCost updates := by
  induction updates with
  | nil => exact Nat.le_refl 0
  | cons update updates ih =>
    have positive : 0 < cost update := by
      refine Nat.pos_of_ne_zero fun zero => nonzero update List.mem_cons_self ?_
      exact UInt32.toNat_inj.mp zero
    have rest := ih fun other member => nonzero other (List.mem_cons_of_mem _ member)
    rw [totalCost,List.map_cons,List.sum_cons,List.length_cons]
    change updates.length ≤ (updates.map cost).sum at rest
    omega

theorem Fits.length {updates : List Update} (fits : Fits updates) : updates.length < 2^64 :=
  Nat.lt_of_le_of_lt (length_le_totalCost fits.nonzero) fits.total

theorem Stands.count_toNat {info : IPCPayloadInfo} {updates : List Update} (stands : Stands info updates) (fits : Fits updates) :
    info.count.toNat = updates.length := by
  rw [stands.count,UInt64.toNat_ofNat',Nat.mod_eq_of_lt fits.length]

theorem Stands.totalCost_toNat {info : IPCPayloadInfo} {updates : List Update} (stands : Stands info updates) (fits : Fits updates) :
    info.cost.totalCost.toNat = PayloadStatistics.totalCost updates := by
  rw [stands.totalCost,UInt64.toNat_ofNat',Nat.mod_eq_of_lt fits.total]

theorem foldl_add_toNat {β : Type} (entries : List β) (value : β → UInt64) (total : UInt64) :
    (entries.foldl (fun total entry => total+value entry) total).toNat =
      (total.toNat+(entries.map fun entry => (value entry).toNat).sum) % 2^64 := by
  induction entries generalizing total with
  | nil =>
    have bound := total.toNat_lt
    exact (Nat.mod_eq_of_lt bound).symm
  | cons entry entries ih =>
    rw [List.foldl_cons,ih,UInt64.toNat_add,List.map_cons,List.sum_cons]
    omega

theorem foldl_foldl_toNat {β γ : Type} (entries : List (γ × List β)) (value : β → UInt64) (total : UInt64) :
    (entries.foldl (fun total entry => entry.2.foldl (fun total inner => total+value inner) total) total).toNat =
      (total.toNat+(entries.map fun entry => (entry.2.map fun inner => (value inner).toNat).sum).sum) % 2^64 := by
  induction entries generalizing total with
  | nil =>
    have bound := total.toNat_lt
    exact (Nat.mod_eq_of_lt bound).symm
  | cons entry entries ih =>
    rw [List.foldl_cons,ih,foldl_add_toNat,List.map_cons,List.sum_cons]
    omega

end Totals

section Map
variable {str8ToStr16 : List UInt8 → List UInt16} {map : PayloadMap} {updates : List Update}

theorem MapStands.key_eq (stands : MapStands str8ToStr16 map updates) {entry : List UInt16 × IPCPayloadInfo} (member : entry ∈ map) :
    entry.1 = descKey str8ToStr16 entry.2.interface := by
  obtain ⟨some_,held⟩ := stands.holds entry member
  obtain ⟨update,there⟩ := List.exists_mem_of_ne_nil _ some_
  rw [← held.interface update there]
  exact (mem_part.mp there).2.symm

theorem part_key (ascii : Ascii str8ToStr16) (updates : List Update) (interface : IPCInterfaceInfo) :
    part (fun update => descKey str8ToStr16 update.interface) updates (descKey str8ToStr16 interface) =
      part Update.interface updates interface := by
  refine List.filter_congr fun update _ => decide_eq_decide.mpr ?_
  exact ⟨fun same => descKey_injective ascii same,fun same => congrArg _ same⟩

theorem MapStands.find_cases (ascii : Ascii str8ToStr16) (stands : MapStands str8ToStr16 map updates) (desc : List UInt16) (code : Int32) :
    map.find? (fun iterDesc => code = iterDesc.2.interface.code && desc = iterDesc.2.interface.desc) = none ∧
        part Update.interface updates ⟨desc,code⟩ = [] ∨
      ∃ entry, map.find? (fun iterDesc => code = iterDesc.2.interface.code && desc = iterDesc.2.interface.desc) = some entry ∧
        part Update.interface updates ⟨desc,code⟩ ≠ [] ∧ Stands entry.2 (part Update.interface updates ⟨desc,code⟩) := by
  cases found : map.find? fun iterDesc => code = iterDesc.2.interface.code && desc = iterDesc.2.interface.desc with
  | none =>
    refine .inl ⟨rfl,part_eq_nil_iff.mpr fun update member same => ?_⟩
    obtain ⟨entry,inside,named⟩ := List.mem_map.mp (stands.entered update member)
    have own : entry.2.interface = update.interface := descKey_injective ascii ((stands.key_eq inside).symm.trans named)
    have missed := List.find?_eq_none.mp found entry inside
    rw [own,same] at missed
    simp at missed
  | some entry =>
    have inside := List.mem_of_find?_eq_some found
    have matched := List.find?_some found
    simp only [Bool.and_eq_true,decide_eq_true_eq] at matched
    have own : entry.2.interface = ⟨desc,code⟩ := by
      rw [matched.1,matched.2]
    obtain ⟨some_,held⟩ := stands.holds entry inside
    rw [stands.key_eq inside,own,part_key ascii] at some_ held
    exact .inr ⟨entry,rfl,some_,held⟩

theorem MapStands.interfaces (ascii : Ascii str8ToStr16) (stands : MapStands str8ToStr16 map updates) :
    (map.map fun iterDesc => iterDesc.2.interface).Nodup ∧
      ∀ interface, interface ∈ map.map (fun iterDesc => iterDesc.2.interface) ↔ part Update.interface updates interface ≠ [] := by
  have keys : map.map Prod.fst = (map.map fun iterDesc => iterDesc.2.interface).map (descKey str8ToStr16) := by
    rw [List.map_map]
    exact List.map_congr_left fun entry member => stands.key_eq member
  refine ⟨.of_map _ (keys ▸ stands.distinct),fun interface => ?_⟩
  rw [← List.mem_map_of_injective fun _ _ same => descKey_injective ascii same,← keys,stands.mem_keys_iff,ne_eq,part_eq_nil_iff]
  simp only [not_forall,not_not,exists_prop]
  refine exists_congr fun update => and_congr_right fun _ => ?_
  exact ⟨fun same => descKey_injective ascii same,fun same => congrArg _ same⟩

end Map

section Queries
variable {str8ToStr16 : List UInt8 → List UInt16} {statistics : IPCPayloadStatisticsImpl} {accepted : List Update}

theorem getPayloadInfo_cases (ascii : Ascii str8ToStr16)
    (grouped : Grouped Update.pid (MapStands str8ToStr16) statistics.payloadStat accepted) (pid : Int32) (desc : List UInt16) (code : Int32) :
    statistics.getPayloadInfo pid desc code = none ∧ ofInterface accepted pid ⟨desc,code⟩ = [] ∨
      ∃ info, statistics.getPayloadInfo pid desc code = some info ∧ ofInterface accepted pid ⟨desc,code⟩ ≠ [] ∧
        Stands info (ofInterface accepted pid ⟨desc,code⟩) := by
  rw [getPayloadInfo,findPid,ofInterface,ofPid]
  rcases grouped.find_cases pid with ⟨found,nothing⟩ | ⟨map,found,-,stands⟩
  · rw [found,nothing]
    exact .inl ⟨rfl,rfl⟩
  · rw [found]
    rcases stands.find_cases ascii desc code with ⟨missed,nothing⟩ | ⟨entry,inside,some_,held⟩
    · exact .inl ⟨by dsimp only; rw [missed]; rfl,nothing⟩
    · exact .inr ⟨entry.2,by dsimp only; rw [inside]; rfl,some_,held⟩

theorem report_descriptorCodeCount (ascii : Ascii str8ToStr16) (fits : Fits accepted)
    (grouped : Grouped Update.pid (MapStands str8ToStr16) statistics.payloadStat accepted) (pid : Int32) (desc : List UInt16) (code : Int32) :
    (statistics.getDescriptorCodeCount pid desc code).toNat = (ofInterface accepted pid ⟨desc,code⟩).length := by
  rw [getDescriptorCodeCount]
  rcases getPayloadInfo_cases ascii grouped pid desc code with ⟨missed,nothing⟩ | ⟨info,found,-,stands⟩
  · rw [missed,nothing]
    rfl
  · rw [found]
    exact stands.count_toNat (fits.sublist (List.filter_sublist.trans List.filter_sublist))

theorem average_bounds {info : IPCPayloadInfo} {updates : List Update} (stands : Stands info updates) (some_ : updates ≠ []) :
    info.cost.minCost.toNat ≤ totalCost updates/updates.length ∧ totalCost updates/updates.length ≤ info.cost.maxCost.toNat := by
  have positive := List.length_pos_iff.mpr some_
  obtain ⟨-,most⟩ := List.max?_eq_some_iff.mp stands.maxCost
  obtain ⟨-,fewest⟩ := List.min?_eq_some_iff.mp stands.minCost
  have above := List.sum_le_card_nsmul _ _ most
  have below := List.card_nsmul_le_sum _ _ fewest
  rw [List.length_map,Nat.nsmul_eq_mul] at above below
  refine ⟨(Nat.le_div_iff_mul_le positive).mpr ?_,Nat.div_le_of_le_mul above⟩
  rw [Nat.mul_comm]
  exact below

theorem report_descriptorCodeCost (ascii : Ascii str8ToStr16) (fits : Fits accepted)
    (grouped : Grouped Update.pid (MapStands str8ToStr16) statistics.payloadStat accepted) (pid : Int32) (desc : List UInt16) (code : Int32) :
    Costs (statistics.getDescriptorCodeCost pid desc code) (ofInterface accepted pid ⟨desc,code⟩) := by
  rw [getDescriptorCodeCost]
  rcases getPayloadInfo_cases ascii grouped pid desc code with ⟨missed,nothing⟩ | ⟨info,found,some_,stands⟩
  · rw [missed,nothing]
    exact ⟨rfl,rfl,rfl,rfl,fun some_ => absurd rfl some_⟩
  · generalize same : ofInterface accepted pid ⟨desc,code⟩ = updates at some_ stands ⊢
    have inside : Fits updates := same ▸ fits.sublist (List.filter_sublist.trans List.filter_sublist)
    have counted := stands.count_toNat inside
    have total := stands.totalCost_toNat inside
    have positive := List.length_pos_iff.mpr some_
    obtain ⟨below,above⟩ := average_bounds stands some_
    have nonzero : ¬ info.count = 0 := by
      intro zero
      rw [zero] at counted
      exact absurd counted.symm (Nat.ne_of_gt positive)
    have average : (info.cost.totalCost/info.count).toUInt32.toNat = totalCost updates/updates.length := by
      have bound := info.cost.maxCost.toNat_lt
      rw [UInt64.toNat_toUInt32,UInt64.toNat_div,total,counted]
      exact Nat.mod_eq_of_lt (by omega)
    rw [found]
    dsimp only
    rw [if_neg nonzero]
    refine ⟨total,?_,?_,average,fun _ => ⟨?_,?_⟩⟩
    · rw [stands.maxCost]
      rfl
    · rw [stands.minCost]
      rfl
    · exact UInt32.le_iff_toNat_le.mpr (average.symm ▸ below)
    · exact UInt32.le_iff_toNat_le.mpr (average.symm ▸ above)

theorem sum_ones (updates : List Update) : (updates.map fun _ => 1).sum = updates.length := by
  rw [List.map_const',List.sum_replicate,Nat.nsmul_eq_mul,Nat.mul_one]

theorem MapStands.count {map : PayloadMap} {updates : List Update} (stands : MapStands str8ToStr16 map updates) (fits : Fits updates) :
    (map.map fun entry => entry.2.count.toNat).sum = updates.length := by
  rw [← sum_ones]
  exact stands.sum_eq fun inside held => (held.count_toNat (fits.sublist inside)).trans (sum_ones _).symm

theorem MapStands.cost {map : PayloadMap} {updates : List Update} (stands : MapStands str8ToStr16 map updates) (fits : Fits updates) :
    (map.map fun entry => entry.2.cost.totalCost.toNat).sum = totalCost updates :=
  stands.sum_eq fun inside held => held.totalCost_toNat (fits.sublist inside)

theorem report_count (fits : Fits accepted) (grouped : Grouped Update.pid (MapStands str8ToStr16) statistics.payloadStat accepted)
    (pid : Int32) : (statistics.getCount pid).toNat = (ofPid accepted pid).length := by
  rw [getCount,findPid]
  rcases grouped.find_cases pid with ⟨found,nothing⟩ | ⟨map,found,-,stands⟩
  · rw [found,ofPid,nothing]
    rfl
  · have inside : Fits (ofPid accepted pid) := fits.sublist List.filter_sublist
    rw [found]
    dsimp only
    rw [foldl_add_toNat,stands.count inside]
    exact (congrArg (· % 2^64) (Nat.zero_add _)).trans (Nat.mod_eq_of_lt inside.length)

theorem report_cost (fits : Fits accepted) (grouped : Grouped Update.pid (MapStands str8ToStr16) statistics.payloadStat accepted)
    (pid : Int32) : (statistics.getCost pid).toNat = totalCost (ofPid accepted pid) := by
  rw [getCost,findPid]
  rcases grouped.find_cases pid with ⟨found,nothing⟩ | ⟨map,found,-,stands⟩
  · rw [found,ofPid,nothing]
    rfl
  · have inside : Fits (ofPid accepted pid) := fits.sublist List.filter_sublist
    rw [found]
    dsimp only
    rw [foldl_add_toNat,stands.cost inside]
    exact (congrArg (· % 2^64) (Nat.zero_add _)).trans (Nat.mod_eq_of_lt inside.total)

theorem report_totalCount (fits : Fits accepted) (grouped : Grouped Update.pid (MapStands str8ToStr16) statistics.payloadStat accepted) :
    statistics.getTotalCount.toNat = accepted.length := by
  have sum : (statistics.payloadStat.map fun entry => (entry.2.map fun iterDesc => iterDesc.2.count.toNat).sum).sum = accepted.length := by
    rw [← sum_ones]
    exact grouped.sum_eq fun inside stands => (stands.count (fits.sublist inside)).trans (sum_ones _).symm
  rw [getTotalCount,foldl_foldl_toNat statistics.payloadStat (fun iterDesc : List UInt16 × IPCPayloadInfo => iterDesc.2.count),sum]
  exact (congrArg (· % 2^64) (Nat.zero_add _)).trans (Nat.mod_eq_of_lt fits.length)

theorem report_totalCost (fits : Fits accepted) (grouped : Grouped Update.pid (MapStands str8ToStr16) statistics.payloadStat accepted) :
    statistics.getTotalCost.toNat = totalCost accepted := by
  have sum : (statistics.payloadStat.map fun entry => (entry.2.map fun iterDesc => iterDesc.2.cost.totalCost.toNat).sum).sum =
      totalCost accepted := grouped.sum_eq fun inside stands => stands.cost (fits.sublist inside)
  rw [getTotalCost,foldl_foldl_toNat statistics.payloadStat (fun iterDesc : List UInt16 × IPCPayloadInfo => iterDesc.2.cost.totalCost),sum]
  exact (congrArg (· % 2^64) (Nat.zero_add _)).trans (Nat.mod_eq_of_lt fits.total)

theorem report_descriptorCodes (ascii : Ascii str8ToStr16)
    (grouped : Grouped Update.pid (MapStands str8ToStr16) statistics.payloadStat accepted) (pid : Int32) :
    (statistics.getDescriptorCodes pid).Nodup ∧
      ∀ interface, interface ∈ statistics.getDescriptorCodes pid ↔ ofInterface accepted pid interface ≠ [] := by
  rw [getDescriptorCodes,findPid]
  rcases grouped.find_cases pid with ⟨found,nothing⟩ | ⟨map,found,-,stands⟩
  · rw [found]
    refine ⟨List.nodup_nil,fun interface => iff_of_false List.not_mem_nil fun some_ => some_ ?_⟩
    rw [ofInterface,ofPid,nothing]
    rfl
  · rw [found]
    exact stands.interfaces ascii

theorem report_pids (grouped : Grouped Update.pid (MapStands str8ToStr16) statistics.payloadStat accepted) :
    statistics.getPids.Nodup ∧ ∀ pid, pid ∈ statistics.getPids ↔ ofPid accepted pid ≠ [] := by
  refine ⟨grouped.distinct,fun pid => (grouped.mem_keys_iff pid).trans ?_⟩
  rw [ofPid,ne_eq,part_eq_nil_iff]
  simp only [not_forall,not_not,exists_prop]

theorem reports (ascii : Ascii str8ToStr16) (fits : Fits accepted)
    (grouped : Grouped Update.pid (MapStands str8ToStr16) statistics.payloadStat accepted) : Reports statistics accepted where
  descriptorCodeCount := report_descriptorCodeCount ascii fits grouped
  descriptorCodeCost := report_descriptorCodeCost ascii fits grouped
  descriptorCodes := report_descriptorCodes ascii grouped
  pids := report_pids grouped
  count := report_count fits grouped
  cost := report_cost fits grouped
  totalCount := report_totalCount fits grouped
  totalCost := report_totalCost fits grouped

theorem sum_nonempty_parts {κ : Type} [DecidableEq κ] {key : Update → κ} {updates : List Update} {keys : List κ}
    (listed : keys.Nodup ∧ ∀ wanted, wanted ∈ keys ↔ part key updates wanted ≠ []) (weight : Update → Nat) :
    (keys.map fun wanted => ((part key updates wanted).map weight).sum).sum = (updates.map weight).sum := by
  refine sum_parts listed.1 (fun update member => (listed.2 _).mpr ?_) weight
  exact List.ne_nil_of_mem (mem_part.mpr ⟨member,rfl⟩)

theorem Reports.addsUp (reports : Reports statistics accepted) : AddsUp statistics := by
  refine ⟨fun pid => ?_,fun pid => ?_,?_,?_⟩
  · rw [reports.count,← sum_ones,← sum_nonempty_parts (reports.descriptorCodes pid)]
    refine congrArg List.sum (List.map_congr_left fun interface _ => ?_)
    rw [reports.descriptorCodeCount,sum_ones]
    rfl
  · rw [reports.cost,PayloadStatistics.totalCost,← sum_nonempty_parts (reports.descriptorCodes pid)]
    refine congrArg List.sum (List.map_congr_left fun interface _ => ?_)
    rw [(reports.descriptorCodeCost pid interface.desc interface.code).totalCost]
    rfl
  · rw [reports.totalCount,← sum_ones,← sum_nonempty_parts reports.pids]
    refine congrArg List.sum (List.map_congr_left fun pid _ => ?_)
    rw [reports.count,sum_ones]
    rfl
  · rw [reports.totalCost,PayloadStatistics.totalCost,← sum_nonempty_parts reports.pids]
    refine congrArg List.sum (List.map_congr_left fun pid _ => ?_)
    rw [reports.cost]
    rfl

end Queries

section Statistics

/-- After any calls whose costs fit in 64 bits, the queries report what the accepted updates add up to. -/
theorem payload_statistics_reported {str8ToStr16 : List UInt8 → List UInt16} (ascii : Ascii str8ToStr16) (events : List Event)
    (fits : totalCost (recorded events).accepted < 2^64) :
    Reports (events.foldl (step str8ToStr16) .new) (recorded events).accepted ∧ AddsUp (events.foldl (step str8ToStr16) .new) := by
  have sound := sound_run ascii events
  have reported := reports ascii ⟨sound.nonzero,fits⟩ sound.grouped
  exact ⟨reported,reported.addsUp⟩

/-- The descriptor `a` with code 1 and the descriptor `a_1` with code 1, from two processes. -/
def sample : List Event :=
  [.updatePayloadInfo ⟨7,⟨[97],1⟩,3⟩,.startStatistics,.updatePayloadInfo ⟨7,⟨[97],1⟩,3⟩,.updatePayloadInfo ⟨7,⟨[97,95,49],1⟩,5⟩,
    .updatePayloadInfo ⟨7,⟨[97],1⟩,4⟩,.updatePayloadInfo ⟨8,⟨[97],1⟩,0⟩,.updatePayloadInfo ⟨8,⟨[97],-1⟩,6⟩,.stopStatistics]

theorem sample_reported :
    Reports (sample.foldl (step fun chars => chars.map UInt8.toUInt16) .new) (recorded sample).accepted ∧
      AddsUp (sample.foldl (step fun chars => chars.map UInt8.toUInt16) .new) :=
  payload_statistics_reported (fun _ _ => rfl) sample (by decide)

end Statistics

end CommunicationIpc.PayloadStatistics

