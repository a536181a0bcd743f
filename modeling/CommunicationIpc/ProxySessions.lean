import CommunicationIpc.Kernel.ProxySessions
import CommunicationIpc.Library.Run

/-! Who owns the session of a proxy, and on whose behalf it is removed. The owner is read off the claims
that were made; the sessions themselves only store the last one. -/
namespace CommunicationIpc.ProxySessions
open CommunicationIpc.Library CommunicationIpc.Kernel.ProxySessions

def Holds (skeleton : Skeleton) (handle : UInt32) (session : Nat) : Prop := (handle,session) ∈ skeleton.proxyToSession

/-- The proxy that made the last claim on a session, unless it was claimed for a proxy that is still to come. -/
def owner (claims : List (Nat × Option Nat)) (session : Nat) : Option Nat :=
  (claims.filter fun claim => claim.1 = session).getLast?.bind Prod.snd

theorem owner_same (claims : List (Nat × Option Nat)) (session : Nat) (proxy : Option Nat) :
    owner (claims ++ [(session,proxy)]) session = proxy := by
  simp [owner]

theorem owner_other (claims : List (Nat × Option Nat)) {session other : Nat} (proxy : Option Nat) (apart : other ≠ session) :
    owner (claims ++ [(session,proxy)]) other = owner claims other := by
  simp [owner,apart.symm]

/-- Claims of others do not make a proxy the owner. -/
theorem owner_append {session proxy : Nat} {claims more : List (Nat × Option Nat)}
    (other : owner claims session ≠ some proxy) (absent : (session,some proxy) ∉ more) :
    owner (claims ++ more) session ≠ some proxy := by
  induction more using List.reverseRecOn with
  | nil => rwa [List.append_nil]
  | append_singleton more claim ih =>
    obtain ⟨claimed,claimant⟩ := claim
    rw [← List.append_assoc]
    have earlier := ih fun member => absent (List.mem_append_left _ member)
    by_cases same : session = claimed
    · subst same
      rw [owner_same]
      rintro rfl
      exact absent (List.mem_append_right _ List.mem_cons_self)
    · rwa [owner_other _ _ same]

/-- Every session stores its owner. -/
def Owned (skeleton : Skeleton) : Prop := ∀ session, (skeleton.sessions session).proxy = owner skeleton.claims session

theorem owned_new : Owned Skeleton.new := fun _ => rfl

section Step
variable {skeleton : Skeleton} {session other proxy : Nat} {handle : UInt32}

theorem Owned.makeSession (owned : Owned skeleton) (made : Session) : Owned (skeleton.makeSession made) := by
  intro session
  by_cases same : session = skeleton.made
  · subst same
    simp only [Skeleton.makeSession,owner_same,Function.update_self]
  · simp only [Skeleton.makeSession,owner_other _ _ same,Function.update_of_ne same]
    exact owned session

theorem Owned.setProxy (owned : Owned skeleton) (claimed : Nat) (claimant : Option Nat) :
    Owned (skeleton.setProxy claimed claimant) := by
  intro session
  by_cases same : session = claimed
  · subst same
    simp only [Skeleton.setProxy,owner_same,Function.update_self]
  · simp only [Skeleton.setProxy,owner_other _ _ same,Function.update_of_ne same]
    exact owned session

/-- An operation that only adds to the map. -/
structure Adds (before after : Skeleton) : Prop where
  sessions : after.sessions = before.sessions
  claims : after.claims = before.claims
  kept : ∀ handle session, Holds before handle session → Holds after handle session

theorem Adds.owned {after : Skeleton} (adds : Adds skeleton after) (owned : Owned skeleton) : Owned after := by
  intro session
  rw [adds.sessions,adds.claims]
  exact owned session

theorem insert_adds (skeleton : Skeleton) (handle : UInt32) (session : Nat) : Adds skeleton (skeleton.insert handle session).1 := by
  unfold Skeleton.insert
  split
  · exact ⟨rfl,rfl,fun _ _ => id⟩
  · refine ⟨rfl,rfl,?_⟩
    intro other stored held
    exact (List.mem_orderedInsert _).mpr (.inr held)

theorem tryHandles_adds (skeleton : Skeleton) (session count : Nat) (handle : UInt32) :
    Adds skeleton (skeleton.tryHandles session count handle).1 := by
  induction count generalizing handle with
  | zero => exact ⟨rfl,rfl,fun _ _ => id⟩
  | succ count ih =>
    have adds := insert_adds skeleton (Skeleton.nextHandle handle) session
    unfold Skeleton.tryHandles
    split
    · rename_i inserted ran
      rw [ran] at adds
      exact ⟨adds.sessions,adds.claims,adds.kept⟩
    · exact ih (Skeleton.nextHandle handle)

theorem find_of_erased {entries : List (UInt32 × Nat)} (held : (handle,session) ∈ entries)
    {erased : UInt32} (gone : (handle,session) ∉ entries.eraseP fun entry => entry.1 = erased) :
    entries.find? (fun entry => entry.1 = erased) = some (handle,session) := by
  induction entries with
  | nil => cases held
  | cons entry entries ih =>
    by_cases first : entry.1 = erased
    · rw [List.eraseP_cons_of_pos (by simpa using first)] at gone
      rw [List.find?_cons_of_pos (by simpa using first)]
      rcases List.mem_cons.mp held with same | rest
      · rw [same]
      · exact absurd rest gone
    · rw [List.eraseP_cons_of_neg (by simpa using first)] at gone
      rw [List.find?_cons_of_neg (by simpa using first)]
      rcases List.mem_cons.mp held with same | rest
      · exact absurd (List.mem_cons.mpr (.inl same)) gone
      · exact ih rest fun member => gone (List.mem_cons_of_mem _ member)

theorem detach_removes (held : Holds skeleton handle session) {erased : UInt32}
    (gone : ¬ Holds (skeleton.proxyDetachDBinderSession erased proxy).1 handle session) :
    erased = handle ∧ (skeleton.sessions session).proxy = some proxy := by
  unfold Skeleton.proxyDetachDBinderSession at gone
  split at gone
  · exact absurd held gone
  · rename_i found ran
    split at gone
    · rename_i owned
      have first := find_of_erased held gone
      have same : (handle,session).1 = erased := by simpa using List.find?_some first
      rw [Skeleton.find,first] at ran
      cases ran
      exact ⟨same.symm,owned⟩
    · exact absurd held gone

theorem step_removes (held : Holds skeleton handle session) {call : Call} (gone : ¬ Holds (skeleton.step call) handle session) :
    ∃ proxy, call = .proxyDetachDBinderSession handle proxy ∧ (skeleton.sessions session).proxy = some proxy := by
  cases call with
  | queryHandleByDatabusSession name deviceId stubIndex =>
    simp only [Skeleton.step,Skeleton.queryHandleByDatabusSession] at gone
    split at gone
    · exact absurd held gone
    · exact absurd held gone
  | getDBinderIdleHandle made => exact absurd ((tryHandles_adds (skeleton.makeSession made) _ _ _).kept handle session held) gone
  | proxyAttachDBinderSession attached made =>
    exact absurd ((insert_adds (skeleton.makeSession made) attached skeleton.made).kept handle session held) gone
  | proxyMoveDBinderSession moved proxy =>
    simp only [Skeleton.step,Skeleton.proxyMoveDBinderSession] at gone
    split at gone
    · exact absurd held gone
    · exact absurd held gone
  | proxyDetachDBinderSession erased proxy =>
    obtain ⟨rfl,owned⟩ := detach_removes held gone
    exact ⟨proxy,rfl,owned⟩

theorem step_owned (owned : Owned skeleton) (call : Call) : Owned (skeleton.step call) := by
  cases call with
  | queryHandleByDatabusSession name deviceId stubIndex =>
    simp only [Skeleton.step,Skeleton.queryHandleByDatabusSession]
    split
    · exact owned
    · exact owned.setProxy _ _
  | getDBinderIdleHandle made => exact (tryHandles_adds (skeleton.makeSession made) _ _ _).owned (owned.makeSession made)
  | proxyAttachDBinderSession handle made => exact (insert_adds (skeleton.makeSession made) _ _).owned (owned.makeSession made)
  | proxyMoveDBinderSession handle proxy =>
    simp only [Skeleton.step,Skeleton.proxyMoveDBinderSession]
    split
    · exact owned
    · exact owned.setProxy _ _
  | proxyDetachDBinderSession handle proxy =>
    simp only [Skeleton.step,Skeleton.proxyDetachDBinderSession]
    split
    · exact owned
    · split
      · exact owned
      · exact owned

theorem step_claims (skeleton : Skeleton) (call : Call) : skeleton.claims <+: (skeleton.step call).claims := by
  cases call with
  | queryHandleByDatabusSession name deviceId stubIndex =>
    simp only [Skeleton.step,Skeleton.queryHandleByDatabusSession]
    split
    · exact List.prefix_refl _
    · exact List.prefix_append ..
  | getDBinderIdleHandle made =>
    rw [Skeleton.step,Skeleton.getDBinderIdleHandle,(tryHandles_adds ..).claims]
    exact List.prefix_append ..
  | proxyAttachDBinderSession handle made =>
    rw [Skeleton.step,Skeleton.proxyAttachDBinderSession,(insert_adds ..).claims]
    exact List.prefix_append ..
  | proxyMoveDBinderSession handle proxy =>
    simp only [Skeleton.step,Skeleton.proxyMoveDBinderSession]
    split
    · exact List.prefix_refl _
    · exact List.prefix_append ..
  | proxyDetachDBinderSession handle proxy =>
    simp only [Skeleton.step,Skeleton.proxyDetachDBinderSession]
    split
    · exact List.prefix_refl _
    · split
      · exact List.prefix_refl _
      · exact List.prefix_refl _

end Step

theorem run_owned {calls : List Call} {start skeleton : Skeleton} (owned : Owned start)
    (run : Reaches (does Skeleton.step) start calls skeleton) : Owned skeleton := by
  apply run.invariant Owned owned
  rintro before call after owned rfl
  exact step_owned owned call

theorem run_claims {calls : List Call} {start skeleton : Skeleton} (run : Reaches (does Skeleton.step) start calls skeleton) :
    start.claims <+: skeleton.claims := by
  apply run.invariant (fun skeleton => start.claims <+: skeleton.claims) (List.prefix_refl _)
  rintro before call after earlier rfl
  exact earlier.trans (step_claims before call)

/-- A session leaves the map only in the `ProxyDetachDBinderSession` of its owner. So a proxy whose
claim was followed by another one does not remove it, unless it claims the session again. -/
theorem session_removed_for_owner {calls : List Call} {skeleton : Skeleton}
    (run : Reaches (does Skeleton.step) Skeleton.new calls skeleton) :
    (∀ call handle session, Holds skeleton handle session → ¬ Holds (skeleton.step call) handle session →
      ∃ proxy, call = .proxyDetachDBinderSession handle proxy ∧ owner skeleton.claims session = some proxy) ∧
    ∀ session proxy, owner skeleton.claims session ≠ some proxy → ∀ later next, Reaches (does Skeleton.step) skeleton later next →
      (session,some proxy) ∉ next.claims.drop skeleton.claims.length → ∀ handle released, Holds next handle session →
      Holds (next.step (.proxyDetachDBinderSession released proxy)) handle session := by
  have owned := run_owned owned_new run
  constructor
  · intro call handle session held gone
    obtain ⟨proxy,released,stored⟩ := step_removes held gone
    exact ⟨proxy,released,(owned session).symm.trans stored⟩
  · intro session proxy other later next more absent handle released held
    by_contra gone
    obtain ⟨claimant,same,stored⟩ := step_removes held gone
    cases same
    obtain ⟨added,extended⟩ := run_claims more
    rw [← extended,List.drop_left] at absent
    rw [run_owned owned more session,← extended] at stored
    exact owner_append other absent stored

/-- Proxy 1 has claimed a session, a thread that receives the object again claims it for proxy 2, and
the release of proxy 1 comes last. -/
def claimedAgain : List Call :=
  [.getDBinderIdleHandle ⟨[115],[100],5,none,7⟩,.proxyMoveDBinderSession 687200001 1,
    .queryHandleByDatabusSession [115] [100] 5,.proxyMoveDBinderSession 687200001 2]

theorem session_removed_for_owner_second :
    ∃ skeleton, Reaches (does Skeleton.step) Skeleton.new claimedAgain skeleton ∧
      owner skeleton.claims 0 = some 2 ∧ Holds skeleton 687200001 0 ∧
      Holds (skeleton.step (.proxyDetachDBinderSession 687200001 1)) 687200001 0 := by
  have run := Reaches.of_foldl Skeleton.step claimedAgain Skeleton.new
  have held : Holds (claimedAgain.foldl Skeleton.step Skeleton.new) 687200001 0 := by unfold Holds; decide +kernel
  have second : owner (claimedAgain.foldl Skeleton.step Skeleton.new).claims 0 = some 2 := by decide +kernel
  exact ⟨_,run,second,held,(session_removed_for_owner run).2 0 1 (by rw [second]; decide) [] _ .nil (by simp) _ _ held⟩

end CommunicationIpc.ProxySessions
