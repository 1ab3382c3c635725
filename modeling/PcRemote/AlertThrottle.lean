import Mathlib.Init

/-! Throttling of the alerts about refused access: one fires once enough failures have come
together, and then none for a while. -/
namespace PcRemote

/-- The threshold and the counter are u32 values; instants are in nanoseconds. -/
structure AlertThrottle where
  threshold : Nat
  interval : Nat
  failures : Nat
  lastFired : Option Nat
  deriving DecidableEq, Repr

namespace AlertThrottle

def new (threshold interval : Nat) : AlertThrottle := ⟨threshold, interval, 0, none⟩

def default : AlertThrottle := new 3 (3600 * 1000000000)

/-- Records a failure; when the alert is due, gives the number of failures it is about. -/
def record (a : AlertThrottle) (now : Nat) : AlertThrottle × Option Nat :=
  let failures := (a.failures + 1) % UInt32.size
  let counted := { a with failures := failures }
  if failures < a.threshold then (counted, none)
  else if a.lastFired.any fun fired => now - fired < a.interval then (counted, none)
  else ({ a with failures := 0, lastFired := some now }, some failures)

/-- A failure is counted, or it fires: with enough failures, and long enough after the last
time. -/
lemma record_cases (a : AlertThrottle) (now : Nat) :
    (∃ failures, a.record now = ({ a with failures := failures }, none)) ∨
      ∃ count, a.record now = ({ a with failures := 0, lastFired := some now }, some count) ∧
        a.threshold ≤ count ∧ ∀ fired, a.lastFired = some fired → a.interval ≤ now - fired := by
  unfold record
  simp only
  split
  · exact .inl ⟨_, rfl⟩
  · rename_i hthreshold
    split
    · exact .inl ⟨_, rfl⟩
    · rename_i hinterval
      refine .inr ⟨_, rfl, Nat.le_of_not_lt hthreshold, fun fired hfired => ?_⟩
      rw [hfired] at hinterval
      simpa using hinterval

end AlertThrottle

end PcRemote
