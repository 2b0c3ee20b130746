import Mathlib

namespace Chan

def u64Max : Nat := 2 ^ 64 - 1

/-- One more, except at the largest `u64`. -/
def saturatingSucc (n : Nat) : Nat := min (n + 1) u64Max

def textWriteLimit : Nat := 2 * 1024 * 1024

def semanticWriteBudget (existingFileSize : Option Nat) : Nat :=
  max (existingFileSize.getD 0) textWriteLimit

lemma size_le_budget : n ≤ semanticWriteBudget (some n) := Nat.le_max_left _ _

/-- What a session reads of a file's metadata: the size and the nanosecond token. -/
structure FileStat where
  size : Nat
  mtimeNs : Option Int
  deriving DecidableEq

end Chan
