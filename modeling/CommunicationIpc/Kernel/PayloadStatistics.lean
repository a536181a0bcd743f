import CommunicationIpc.Kernel.RawData
import CommunicationIpc.Library.Groups

/-! `IPCPayloadStatisticsImpl`: counts and costs of requests by pid, and below it by descriptor and code. The maps are lists in the order
of their keys. `Str8ToStr16` is not in the repository; it is only used for a number. -/
namespace CommunicationIpc.Kernel.PayloadStatistics
open CommunicationIpc.Library
open CommunicationIpc.Kernel.RawData (toString32)

structure IPCInterfaceInfo where
  desc : List UInt16
  code : Int32
  deriving DecidableEq

structure IPCPayloadCost where
  totalCost : UInt64
  maxCost : UInt32
  minCost : UInt32
  averCost : UInt32
  deriving DecidableEq

structure IPCPayloadInfo where
  interface : IPCInterfaceInfo
  cost : IPCPayloadCost
  count : UInt64
  deriving DecidableEq

abbrev PayloadMap := List (List UInt16 × IPCPayloadInfo)

structure IPCPayloadStatisticsImpl where
  payloadStat : List (Int32 × PayloadMap)
  isStatisticsFlag : Bool

/-- The arguments of `UpdatePayloadInfo`. -/
structure Update where
  pid : Int32
  interface : IPCInterfaceInfo
  currentCost : UInt32
  deriving DecidableEq

inductive Event where
  | updatePayloadInfo (update : Update)
  | startStatistics
  | stopStatistics
  | clearStatisticsData

namespace IPCPayloadStatisticsImpl

def new : IPCPayloadStatisticsImpl := ⟨[],false⟩

def findPid (statistics : IPCPayloadStatisticsImpl) (pid : Int32) : Option (Int32 × PayloadMap) :=
  statistics.payloadStat.find? fun entry => entry.1 = pid

def getTotalCount (statistics : IPCPayloadStatisticsImpl) : UInt64 :=
  statistics.payloadStat.foldl (fun totalCount entry =>
    entry.2.foldl (fun totalCount iterDesc => totalCount+iterDesc.2.count) totalCount) 0

def getTotalCost (statistics : IPCPayloadStatisticsImpl) : UInt64 :=
  statistics.payloadStat.foldl (fun totalCost entry =>
    entry.2.foldl (fun totalCost iterDesc => totalCost+iterDesc.2.cost.totalCost) totalCost) 0

def getPids (statistics : IPCPayloadStatisticsImpl) : List Int32 := statistics.payloadStat.map fun entry => entry.1

def getCount (statistics : IPCPayloadStatisticsImpl) (pid : Int32) : UInt64 :=
  match statistics.findPid pid with
  | some entry => entry.2.foldl (fun count iterDesc => count+iterDesc.2.count) 0
  | none => 0

def getCost (statistics : IPCPayloadStatisticsImpl) (pid : Int32) : UInt64 :=
  match statistics.findPid pid with
  | some entry => entry.2.foldl (fun cost iterDesc => cost+iterDesc.2.cost.totalCost) 0
  | none => 0

def getDescriptorCodes (statistics : IPCPayloadStatisticsImpl) (pid : Int32) : List IPCInterfaceInfo :=
  match statistics.findPid pid with
  | some entry => entry.2.map fun iterDesc => iterDesc.2.interface
  | none => []

def getPayloadInfo (statistics : IPCPayloadStatisticsImpl) (pid : Int32) (desc : List UInt16) (code : Int32) : Option IPCPayloadInfo :=
  match statistics.findPid pid with
  | some entry =>
    (entry.2.find? fun iterDesc => code = iterDesc.2.interface.code && desc = iterDesc.2.interface.desc).map fun iterDesc => iterDesc.2
  | none => none

def getDescriptorCodeCount (statistics : IPCPayloadStatisticsImpl) (pid : Int32) (desc : List UInt16) (code : Int32) : UInt64 :=
  match statistics.getPayloadInfo pid desc code with
  | some payloadInfo => payloadInfo.count
  | none => 0

def getDescriptorCodeCost (statistics : IPCPayloadStatisticsImpl) (pid : Int32) (desc : List UInt16) (code : Int32) : IPCPayloadCost :=
  match statistics.getPayloadInfo pid desc code with
  | none => ⟨0,0,0,0⟩
  | some payloadInfo =>
    if payloadInfo.count = 0 then ⟨0,0,0,0⟩
    else { payloadInfo.cost with averCost := (payloadInfo.cost.totalCost/payloadInfo.count).toUInt32 }

def startStatistics (statistics : IPCPayloadStatisticsImpl) : IPCPayloadStatisticsImpl :=
  if !statistics.isStatisticsFlag then ⟨[],true⟩ else statistics

def stopStatistics (statistics : IPCPayloadStatisticsImpl) : IPCPayloadStatisticsImpl :=
  if !statistics.isStatisticsFlag then statistics else { statistics with isStatisticsFlag := false }

def clearStatisticsData (statistics : IPCPayloadStatisticsImpl) : IPCPayloadStatisticsImpl := { statistics with payloadStat := [] }

/-- The entry of a first update. -/
def payloadInfo (update : Update) : IPCPayloadInfo :=
  ⟨update.interface,⟨update.currentCost.toUInt64,update.currentCost,update.currentCost,0⟩,1⟩

/-- What another update makes of an entry. -/
def count (update : Update) (iterDesc : IPCPayloadInfo) : IPCPayloadInfo :=
  { iterDesc with
    count := iterDesc.count+1
    cost :=
      { iterDesc.cost with
        totalCost := iterDesc.cost.totalCost+update.currentCost.toUInt64
        maxCost := if iterDesc.cost.maxCost < update.currentCost then update.currentCost else iterDesc.cost.maxCost
        minCost := if iterDesc.cost.minCost > update.currentCost then update.currentCost else iterDesc.cost.minCost } }

section Keys
variable (str8ToStr16 : List UInt8 → List UInt16)

/-- Descriptor, underscore and code. -/
def descKey (interface : IPCInterfaceInfo) : List UInt16 := interface.desc ++ [95] ++ str8ToStr16 (toString32 interface.code)

def updateMap (map : PayloadMap) (update : Update) : PayloadMap :=
  upsert (fun left right => left ≤ right) map (descKey str8ToStr16 update.interface) (payloadInfo update) (count update)

def updatePayloadInfo (statistics : IPCPayloadStatisticsImpl) (update : Update) : IPCPayloadStatisticsImpl × Bool :=
  if update.currentCost = 0 || !statistics.isStatisticsFlag then (statistics,false)
  else
    ({ statistics with
      payloadStat := upsert (fun left right => left ≤ right) statistics.payloadStat update.pid (updateMap str8ToStr16 [] update)
        fun map => updateMap str8ToStr16 map update },true)

def step (statistics : IPCPayloadStatisticsImpl) : Event → IPCPayloadStatisticsImpl
  | .updatePayloadInfo update => (statistics.updatePayloadInfo str8ToStr16 update).1
  | .startStatistics => statistics.startStatistics
  | .stopStatistics => statistics.stopStatistics
  | .clearStatisticsData => statistics.clearStatisticsData

end Keys

end IPCPayloadStatisticsImpl

end CommunicationIpc.Kernel.PayloadStatistics
