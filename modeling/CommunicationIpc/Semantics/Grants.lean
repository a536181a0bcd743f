import CommunicationIpc.Kernel.Auth

/-! What the authorisation calls mean, read off their history alone. A grant names an
application and a stub index; a connection rebinds what its application was granted to the
new socket; a revocation covers a grant by index, or by the socket the grant is bound to. -/
namespace CommunicationIpc.Semantics.Grants
open CommunicationIpc.Kernel.Auth

def names (app : App) (stubIndex : UInt64) : Call → Prop
  | .attach info => info.toApp = app ∧ info.stubIndex = stubIndex
  | _ => False

instance (app : App) (stubIndex : UInt64) (call : Call) : Decidable (names app stubIndex call) :=
  match call with
  | .attach info => inferInstanceAs (Decidable (info.toApp = app ∧ info.stubIndex = stubIndex))
  | .detach _ => .isFalse id
  | .detachByStub _ _ => .isFalse id
  | .detachBySocketId _ => .isFalse id
  | .sessionClosed _ _ => .isFalse id

def rebound (app : App) (stubIndex : UInt64) (bound : Option Int32) : Call → Option Int32
  | .attach info =>
    if info.toApp = app then
      if info.stubIndex = stubIndex then some info.socketId
      else if info.stubIndex = 0 ∧ info.socketId ≠ 0 then bound.map fun _ => info.socketId
      else bound
    else bound
  | _ => bound

def binding (app : App) (stubIndex : UInt64) (calls : List Call) : Option Int32 :=
  calls.foldl (rebound app stubIndex) none

/-- The call, made after `before`, takes the application's index away. -/
def covers (app : App) (stubIndex : UInt64) (before : List Call) : Call → Prop
  | .attach _ => False
  | .detach info => info.toApp = app ∧ info.stubIndex = stubIndex ∧ binding app stubIndex before = some info.socketId
  | .detachByStub _ index => index = stubIndex
  | .detachBySocketId socketId => binding app stubIndex before = some socketId
  | .sessionClosed _ _ => False

/-- Granted by name and not covered by any later revocation. -/
def Granted (app : App) (stubIndex : UInt64) (calls : List Call) : Prop :=
  ∃ before grant after, calls = before ++ grant :: after ∧ names app stubIndex grant ∧
    ∀ between revocation rest, after = between ++ revocation :: rest →
      ¬ covers app stubIndex (before ++ grant :: between) revocation

theorem granted_of_names {app : App} {stubIndex : UInt64} {call : Call} (calls : List Call)
    (named : names app stubIndex call) : Granted app stubIndex (calls ++ [call]) := by
  refine ⟨calls,call,[],rfl,named,?_⟩
  intro between revocation rest split
  simp at split

theorem Granted.snoc {app : App} {stubIndex : UInt64} {calls : List Call} {call : Call}
    (granted : Granted app stubIndex calls) (spared : ¬ covers app stubIndex calls call) :
    Granted app stubIndex (calls ++ [call]) := by
  obtain ⟨before,grant,after,rfl,named,free⟩ := granted
  refine ⟨before,grant,after ++ [call],by simp,named,?_⟩
  intro between revocation rest split
  rcases List.eq_nil_or_concat rest with rfl | ⟨front,last,rfl⟩
  · obtain ⟨rfl,same⟩ := List.append_inj' split rfl
    rw [List.singleton_inj] at same
    subst same
    exact spared
  · have shorter : after ++ [call] = (between ++ revocation :: front) ++ [last] := by simpa using split
    obtain ⟨rfl,-⟩ := List.append_inj' shorter rfl
    exact free between revocation front rfl

theorem Granted.of_snoc {app : App} {stubIndex : UInt64} {calls : List Call} {call : Call}
    (granted : Granted app stubIndex (calls ++ [call])) :
    names app stubIndex call ∨ (Granted app stubIndex calls ∧ ¬ covers app stubIndex calls call) := by
  obtain ⟨before,grant,after,split,named,free⟩ := granted
  rcases List.eq_nil_or_concat after with rfl | ⟨front,last,rfl⟩
  · obtain ⟨-,same⟩ := List.append_inj' split rfl
    rw [List.singleton_inj] at same
    exact .inl (same ▸ named)
  · have shorter : calls ++ [call] = (before ++ grant :: front) ++ [last] := by simpa using split
    obtain ⟨rfl,same⟩ := List.append_inj' shorter rfl
    rw [List.singleton_inj] at same
    subst same
    refine .inr ⟨⟨before,grant,front,rfl,named,?_⟩,free front call [] (by simp)⟩
    intro between revocation rest earlier
    exact free between revocation (rest ++ [call]) (by simp [earlier])

theorem binding_snoc (app : App) (stubIndex : UInt64) (calls : List Call) (call : Call) :
    binding app stubIndex (calls ++ [call]) = rebound app stubIndex (binding app stubIndex calls) call := by
  simp only [binding,List.foldl_append,List.foldl_cons,List.foldl_nil]

end CommunicationIpc.Semantics.Grants
