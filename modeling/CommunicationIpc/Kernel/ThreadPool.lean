import CommunicationIpc.Kernel.RawData

/-! `IPCWorkThreadPool`: the table of work threads under their names, and how many of each protocol may still be spawned. A call holds
`mutex_` to its end, so each is one step. `live` is not in the source: whether the thread was created. -/
namespace CommunicationIpc.Kernel.ThreadPool
open CommunicationIpc.Kernel.RawData (toString32)

def ifProtDefault : Int32 := 0
def ifProtDatabus : Int32 := 1
def spawnPassive : Int32 := 0

def idleSpawnActiveNum : Int := 1
def protoNum : Int := 2
/-- `INT_MAX/2`. -/
def intMidmax : Int32 := 1073741823

structure IPCWorkThread where
  proto : Int32
  policy : Int32
  live : Bool
  deriving DecidableEq

def IPCWorkThread.new : IPCWorkThread := ⟨ifProtDefault,spawnPassive,false⟩

/-- `OS_RPC_` or `OS_IPC_` and the index. -/
def makeBasicThreadName (proto threadIndex : Int32) : List UInt8 :=
  if proto = ifProtDatabus then [79,83,95,82,80,67,95] ++ toString32 threadIndex
  else [79,83,95,73,80,67,95] ++ toString32 threadIndex

/-- What `Start` finds: whether there is a `ProcessSkeleton`, its stop flag, and whether the parameter is allocated and the thread
created and detached. -/
structure Starting where
  process : Bool
  threadStopFlag : Bool
  param : Bool
  created : Bool
  detached : Bool
  deriving DecidableEq

def IPCWorkThread.start (thread : IPCWorkThread) (policy proto : Int32) (starting : Starting) : IPCWorkThread × Bool :=
  if !starting.process then (thread,false)
  else if starting.threadStopFlag then (thread,false)
  else if !starting.param then (thread,false)
  else
    let thread := { thread with policy := policy, proto := proto }
    if !starting.created then (thread,false)
    else if !starting.detached then ({ thread with live := true },false)
    else ({ thread with live := true },true)

/-- What `SetMaxWorkThread` makes a pool with. -/
structure MaxThreadNum where
  value : Int32
  positive : 0 < value
  small : value < intMidmax

/-- The counts stay far from the ends of their type. -/
structure IPCWorkThreadPool where
  threads : List (List UInt8 × IPCWorkThread)
  threadSequence : Int32
  maxThreadNum : Int
  idleThreadNum : Int
  idleSocketThreadNum : Int
  deriving DecidableEq

inductive Event where
  /-- `allocated` is whether the `IPCWorkThread` is made. -/
  | spawnThread (policy proto : Int32) (allocated : Bool) (starting : Starting)
  | removeThread (threadName : List UInt8)
  | updateMaxThreadNum (maxThreadNum : Int32)

namespace IPCWorkThreadPool

def new (maxThreadNum : MaxThreadNum) : IPCWorkThreadPool :=
  ⟨[],0,maxThreadNum.value.toInt+maxThreadNum.value.toInt,maxThreadNum.value.toInt+idleSpawnActiveNum,maxThreadNum.value.toInt⟩

def getSocketTotalThreadNum (pool : IPCWorkThreadPool) : Int := pool.maxThreadNum/protoNum

def getMaxThreadNum (pool : IPCWorkThreadPool) : Int := pool.maxThreadNum/protoNum+idleSpawnActiveNum

def exceedsLimit (pool : IPCWorkThreadPool) (proto : Int32) : Bool :=
  (proto = ifProtDefault && pool.idleThreadNum ≤ 0) || (proto = ifProtDatabus && pool.idleSocketThreadNum ≤ 0)

/-- The name of the next thread. -/
def nextName (pool : IPCWorkThreadPool) (proto : Int32) : List UInt8 := makeBasicThreadName proto pool.threadSequence

def isThread (pool : IPCWorkThreadPool) (threadName : List UInt8) : Bool := pool.threads.any fun entry => entry.1 = threadName

def spawnThread (pool : IPCWorkThreadPool) (policy proto : Int32) (allocated : Bool) (starting : Starting) : IPCWorkThreadPool × Bool :=
  if pool.exceedsLimit proto then (pool,false)
  else
    let threadName := pool.nextName proto
    let named := { pool with threadSequence := pool.threadSequence+1 }
    if pool.isThread threadName then (named,false)
    else if !allocated then (named,false)
    else
      let (started,success) := IPCWorkThread.new.start policy proto starting
      if proto = ifProtDefault then
        ({ named with threads := (threadName,started) :: pool.threads, idleThreadNum := pool.idleThreadNum-1 },success)
      else if proto = ifProtDatabus then
        ({ named with threads := (threadName,started) :: pool.threads, idleSocketThreadNum := pool.idleSocketThreadNum-1 },success)
      -- the thread stays in the table and is not started
      else ({ named with threads := (threadName,.new) :: pool.threads },false)

def removeThread (pool : IPCWorkThreadPool) (threadName : List UInt8) : IPCWorkThreadPool × Bool :=
  match pool.threads.find? fun entry => entry.1 = threadName with
  | none => (pool,false)
  | some entry =>
    let erased := { pool with threads := pool.threads.eraseP fun entry => entry.1 = threadName }
    if entry.2.proto = ifProtDefault then ({ erased with idleThreadNum := pool.idleThreadNum+1 },true)
    else if entry.2.proto = ifProtDatabus then ({ erased with idleSocketThreadNum := pool.idleSocketThreadNum+1 },true)
    else (erased,true)

def updateMaxThreadNum (pool : IPCWorkThreadPool) (maxThreadNum : Int32) : IPCWorkThreadPool :=
  let totalNum := (maxThreadNum+maxThreadNum).toInt
  if totalNum ≤ pool.maxThreadNum then pool
  else
    let diff := totalNum-pool.maxThreadNum
    { pool with
      maxThreadNum := totalNum
      idleThreadNum := pool.idleThreadNum+diff/protoNum
      idleSocketThreadNum := pool.idleSocketThreadNum+diff/protoNum }

def step (pool : IPCWorkThreadPool) : Event → IPCWorkThreadPool
  | .spawnThread policy proto allocated starting => (pool.spawnThread policy proto allocated starting).1
  | .removeThread threadName => (pool.removeThread threadName).1
  | .updateMaxThreadNum maxThreadNum => pool.updateMaxThreadNum maxThreadNum

end IPCWorkThreadPool

end CommunicationIpc.Kernel.ThreadPool
