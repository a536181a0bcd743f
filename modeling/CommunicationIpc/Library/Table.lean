import Mathlib.Algebra.Order.Ring.Int
import Mathlib.Data.List.AList

/-! Association lists with distinct keys: rewriting and dropping their values, and
counting the entries whose value meets a test. -/
namespace CommunicationIpc.Library

abbrev Table (κ ν : Type*) := AList (fun _ : κ => ν)

namespace Table

variable {κ ν : Type*}

def rewritten (change : ν → Option ν) (entries : List (Sigma fun _ : κ => ν)) : List (Sigma fun _ : κ => ν) :=
  entries.filterMap fun entry => (change entry.2).map (Sigma.mk entry.1)

theorem rewritten_cons (change : ν → Option ν) (entry : Sigma fun _ : κ => ν) (entries : List (Sigma fun _ : κ => ν)) :
    rewritten change (entry :: entries) = match change entry.2 with
      | none => rewritten change entries
      | some value => ⟨entry.1,value⟩ :: rewritten change entries := by
  cases changed : change entry.2 <;> simp [rewritten,changed]

theorem rewritten_keys_sublist (change : ν → Option ν) (entries : List (Sigma fun _ : κ => ν)) :
    (rewritten change entries).keys.Sublist entries.keys := by
  induction entries with
  | nil => exact List.Sublist.slnil
  | cons entry entries ih =>
    rw [rewritten_cons]
    cases change entry.2 with
    | none => exact ih.cons entry.1
    | some value => exact ih.cons_cons entry.1

/-- Rewrites every value and drops the entries whose result is `none`. -/
def filterMapValues (change : ν → Option ν) (table : Table κ ν) : Table κ ν :=
  ⟨rewritten change table.entries,List.Nodup.sublist (rewritten_keys_sublist change table.entries) table.nodupKeys⟩

def tally (test : ν → Bool) (table : Table κ ν) : Nat := table.entries.countP fun entry => test entry.2

def weight (test : ν → Bool) (value : Option ν) : Nat := if value.any test then 1 else 0

section Lookup
variable [DecidableEq κ]

theorem lookup_filterMapValues (change : ν → Option ν) (table : Table κ ν) (key : κ) :
    (filterMapValues change table).lookup key = (table.lookup key).bind change := by
  obtain ⟨entries,distinct⟩ := table
  change (rewritten change entries).dlookup key = (entries.dlookup key).bind change
  induction entries with
  | nil => rfl
  | cons entry entries ih =>
    obtain ⟨fresh,rest⟩ := List.nodupKeys_cons.mp distinct
    rw [rewritten_cons]
    by_cases same : key = entry.1
    · subst same
      have absent : (rewritten change entries).dlookup entry.1 = none :=
        List.dlookup_eq_none.mpr fun member => fresh ((rewritten_keys_sublist change entries).subset member)
      rw [List.dlookup_cons_eq]
      cases changed : change entry.2 with
      | none => simpa [changed] using absent
      | some value => simp [changed]
    · rw [List.dlookup_cons_ne _ _ same,← ih rest]
      cases changed : change entry.2 with
      | none => rfl
      | some value => exact List.dlookup_cons_ne _ (⟨entry.1,value⟩ : Sigma fun _ : κ => ν) same

theorem countP_kerase (test : ν → Bool) (key : κ) (entries : List (Sigma fun _ : κ => ν)) :
    (entries.kerase key).countP (fun entry => test entry.2)+weight test (entries.dlookup key) =
      entries.countP (fun entry => test entry.2) := by
  induction entries with
  | nil => rfl
  | cons entry entries ih =>
    by_cases same : key = entry.1
    · subst same
      rw [List.kerase_cons_eq rfl,List.dlookup_cons_eq,List.countP_cons]
      rfl
    · rw [List.kerase_cons_ne same,List.dlookup_cons_ne _ _ same,List.countP_cons,List.countP_cons,← ih]
      omega

theorem tally_erase (test : ν → Bool) (key : κ) (table : Table κ ν) :
    tally test (table.erase key)+weight test (table.lookup key) = tally test table :=
  countP_kerase test key table.entries

theorem tally_insert (test : ν → Bool) (key : κ) (value : ν) (table : Table κ ν) :
    tally test (table.insert key value)+weight test (table.lookup key) = tally test table+weight test (some value) := by
  have erased := countP_kerase test key table.entries
  change ((⟨key,value⟩ : Sigma fun _ : κ => ν) :: table.entries.kerase key).countP _+weight test (table.entries.dlookup key) = _
  rw [List.countP_cons]
  simp only [tally,weight,Option.any_some] at *
  omega

end Lookup

theorem tally_filterMapValues (test : ν → Bool) (change : ν → Option ν) (table : Table κ ν) :
    tally test (filterMapValues change table) = tally (fun value => (change value).any test) table := by
  obtain ⟨entries,distinct⟩ := table
  change (rewritten change entries).countP _ = entries.countP _
  clear distinct
  induction entries with
  | nil => rfl
  | cons entry entries ih =>
    rw [rewritten_cons,List.countP_cons]
    cases changed : change entry.2 with
    | none => simpa [changed] using ih
    | some value => simpa [List.countP_cons,changed] using ih

end Table

end CommunicationIpc.Library
