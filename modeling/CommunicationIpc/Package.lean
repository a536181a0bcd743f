import CommunicationIpc.Kernel.Package

/-! What an accepted package's header says about where its parts lie. -/
namespace CommunicationIpc.Package
open CommunicationIpc.Library CommunicationIpc.Kernel.Package

theorem wrap64_of_lt {value : Nat} (small : value < 2^64) : wrap64 value = value := Nat.mod_eq_of_lt small

/-- The buffer lies in the package, and without a status code the offset table and the
session area, 35 bytes for each byte of the table, fill the rest exactly. -/
theorem checkTransactionData_spec {tr : TransactionData} (accepted : checkTransactionData tr = true) :
    tr.sizeOfSelf ≤ socketMaxBuffSize ∧ 0 < tr.bufferSize ∧ tr.offsets = tr.bufferSize ∧
      headerSize+tr.bufferSize ≤ tr.sizeOfSelf ∧
      (hasFlag tr.flags tfStatusCode = true → tr.bufferSize = binderSize) ∧
      (hasFlag tr.flags tfStatusCode = false →
        tr.sizeOfSelf = headerSize+tr.bufferSize+tr.offsetsSize+35*tr.offsetsSize) := by
  unfold checkTransactionData at accepted
  split at accepted
  · cases accepted
  rename_i sizes
  simp only [not_or,Nat.not_lt,Decidable.not_not,gt_iff_lt] at sizes
  obtain ⟨-,limited,capped,positive,start,covers⟩ := sizes
  simp only [socketMaxBuffSize] at limited capped
  rw [wrap64_of_lt (by simp only [headerSize]; omega)] at covers
  have nonzero : 0 < tr.bufferSize := by omega
  split at accepted
  · cases accepted
  rename_i status
  refine ⟨limited,nonzero,start,covers,?_,?_⟩
  · intro flagged
    have width : tr.offsets = binderSize := by
      by_contra other
      exact status ⟨flagged,other⟩
    omega
  · intro plain
    simp only [plain,Bool.false_eq_true,not_false_eq_true,if_true] at accepted
    split at accepted
    · cases accepted
    rename_i inside
    split at accepted
    · cases accepted
    rename_i filled
    simp only [Decidable.not_not,headerSize,binderSize,flatSessionLen] at filled covers inside ⊢
    rw [wrap64_of_lt (by omega),wrap64_of_lt (by omega)] at filled
    omega

theorem decode_congr {memory other : Memory} (same : ∀ x, x < headerSize → memory x = other x) :
    TransactionData.decode memory = TransactionData.decode other := by
  simp only [headerSize] at same
  have word (address width : Nat) (inside : address+width ≤ 64) : memory.read address width = other.read address width :=
    Memory.read_congr fun x _ high => same x (by omega)
  unfold TransactionData.decode
  rw [word 0 4 (by omega),word 4 4 (by omega),word 8 4 (by omega),word 12 4 (by omega),word 16 4 (by omega),
    word 20 4 (by omega),word 24 8 (by omega),word 32 8 (by omega),word 40 8 (by omega),word 48 8 (by omega),
    word 56 8 (by omega)]

end CommunicationIpc.Package
