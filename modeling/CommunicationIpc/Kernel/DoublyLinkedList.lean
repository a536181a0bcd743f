import CommunicationIpc.Library.Program
import CommunicationIpc.Library.Ring

/-! The doubly linked lists of the C sources. A list is a cell that its nodes are linked to in a circle;
a pointer to a cell is the cell's name, `none` is `NULL`, and a program that follows `NULL` fails. -/
namespace CommunicationIpc.Kernel.DoublyLinkedList
open CommunicationIpc.Library

variable {α β : Type}

abbrev Heap (α : Type) := Program (Links α)

def getNext (cell : α) : Heap α (Option α) := Program.observe fun links => links.next cell

def getPrev (cell : α) : Heap α (Option α) := Program.observe fun links => links.prev cell

def deref : Option α → Heap α α
  | none => Program.fail
  | some cell => pure cell

variable [DecidableEq α]

def setNext (cell : α) (pointer : Option α) : Heap α Unit :=
  Program.update fun links => { links with next := Function.update links.next cell pointer }

def setPrev (cell : α) (pointer : Option α) : Heap α Unit :=
  Program.update fun links => { links with prev := Function.update links.prev cell pointer }

def dlListInit (list : α) : Heap α Unit := do
  setNext list (some list)
  setPrev list (some list)

def dlListAdd (list node : α) : Heap α Unit := do
  setNext node (← getNext list)
  setPrev node (some list)
  let next ← deref (← getNext list)
  setPrev next (some node)
  setNext list (some node)

def dlListTailInsert (list node : α) : Heap α Unit := do
  let tail ← deref (← getPrev list)
  dlListAdd tail node

def dlListDelete (node : α) : Heap α Unit := do
  let next ← deref (← getNext node)
  setPrev next (← getPrev node)
  let prev ← deref (← getPrev node)
  setNext prev (← getNext node)
  setNext node none
  setPrev node none

/-- The turns of `DL_LIST_FOR_EACH_ENTRY`, at most `fuel` of them. Every entry has its `DL_LIST` in front, so that an entry
and its cell have one address. The body leaves the loop where it gives a result. -/
def entryTurns (list : α) (body : α → Heap α (Option β)) : Nat → Option α → Heap α (Option β)
  | 0,_ => Program.fail
  | _+1,none => pure none
  | fuel+1,some item =>
    if item = list then pure none
    else do
      match ← body item with
      | some result => pure (some result)
      | none =>
        let next ← getNext item
        entryTurns list body fuel next

def forEachEntry (list : α) (body : α → Heap α (Option β)) (fuel : Nat) : Heap α (Option β) := do
  let item ← getNext list
  entryTurns list body fuel item

/-- The turns of `DL_LIST_FOR_EACH_ENTRY_SAFE`. There is no test for `NULL` here; all bodies read their entry. -/
def safeTurns (list : α) (body : α → Heap α (Option β)) : Nat → Option α → Option α → Heap α (Option β)
  | 0,_,_ => Program.fail
  | fuel+1,item,next => do
    if item = some list then pure none
    else do
      let entry ← deref item
      match ← body entry with
      | some result => pure (some result)
      | none =>
        let after ← getNext (← deref next)
        safeTurns list body fuel next after

def forEachEntrySafe (list : α) (body : α → Heap α (Option β)) (fuel : Nat) : Heap α (Option β) := do
  let item ← getNext list
  let next ← getNext (← deref item)
  safeTurns list body fuel item next

/-- What the allocator leaves in the memory of a node. -/
def free (left : α → Links α) (node : α) : Heap α Unit := do
  setNext node ((left node).next node)
  setPrev node ((left node).prev node)

/-- The body of the loops that look for an entry: `QueryStubByIndex`, `QueryThreadLockInfo`, `QueryStubSession`, `QueryProxySession`,
`QueryProxySessionBySessionId`, `QueryHandleToIndex`, `QueryThreadBySeqNumber`, `GetRegisterService`, `QueryDBinderStub`,
`QuerySessionObject`, `QueryProxyObject` and `HasDBinderStub`, each with its own comparison. -/
def queryBody (same : α → Bool) (node : α) : Heap α (Option α) := pure (if same node then some node else none)

def queryEntry (same : α → Bool) (list : α) (fuel : Nat) : Heap α (Option α) := forEachEntry list (queryBody same) fuel

def getIdleDataThread (idleDataThread : α) (fuel : Nat) : Heap α (Option α) :=
  forEachEntry idleDataThread (fun node => pure (some node)) fuel

def popBody (threadIdOf : α → Nat) (threadId : Nat) (node : α) : Heap α (Option α) :=
  if threadIdOf node = threadId then do
    dlListDelete node
    pure (some node)
  else pure none

def popDataInfoFromThread (threadIdOf : α → Nat) (processInfo : α) (threadId fuel : Nat) : Heap α (Option α) :=
  forEachEntry processInfo (popBody threadIdOf threadId) fuel

def handleBody (handleOf : α → Int32) (left : α → Links α) (handle : Int32) (node : α) : Heap α (Option Unit) :=
  if handleOf node = handle then do
    dlListDelete node
    free left node
    pure (some ())
  else pure none

/-- Whether the handle was valid. -/
def deleteHandle (handleOf : α → Int32) (left : α → Links α) (objects : α) (handle : Int32) (fuel : Nat) : Heap α Bool := do
  let found ← forEachEntrySafe objects (handleBody handleOf left handle) fuel
  pure found.isSome

/-- `node` is the memory that `calloc` gives, if it gives any. -/
def firstAddObject (handleOf : α → Int32) (objects : α) (handle : Int32) (node : Option α) (fuel : Nat) : Heap α Bool := do
  match ← forEachEntrySafe objects (queryBody fun entry => handleOf entry = handle) fuel with
  | some _ => pure false
  | none =>
    match node with
    | none => pure false
    | some node =>
      dlListAdd objects node
      pure true

def deleteAllBody (left : α → Links α) (node : α) : Heap α (Option Unit) := do
  dlListDelete node
  free left node
  pure none

def deleteAllNode (left : α → Links α) (objects : α) (fuel : Nat) : Heap α Unit := do
  let _ ← forEachEntrySafe objects (deleteAllBody left) fuel
  pure ()

end CommunicationIpc.Kernel.DoublyLinkedList
