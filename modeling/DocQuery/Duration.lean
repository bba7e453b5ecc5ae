/-!
# Lengths of time

A length of time is counted in whole seconds, which are bounded, and in nanoseconds that make up
less than another second. A multiple that is too long to be counted is cut off at the longest length
there is.
-/

namespace DocQuery

def nanosPerSecond : Nat := 1000000000

theorem nanosPerSecond_pos : 0 < nanosPerSecond := Nat.zero_lt_succ _

structure Duration where
  seconds : UInt64
  /-- What comes on top of the seconds. -/
  nanos : Fin nanosPerSecond
deriving DecidableEq, Repr

namespace Duration

/-- Whole seconds and the nanoseconds that a number leaves beyond seconds. -/
def ofParts (seconds : UInt64) (nanos : Nat) : Duration :=
  ⟨seconds, ⟨nanos % nanosPerSecond, Nat.mod_lt nanos nanosPerSecond_pos⟩⟩

def zero : Duration := ofParts 0 0

instance : Inhabited Duration := ⟨zero⟩

def longest : Duration := ofParts 0xFFFFFFFFFFFFFFFF 999999999

def ofMillis (ms : UInt64) : Duration := ofParts (ms / 1000) ((ms % 1000).toNat * 1000000)

def millis (d : Duration) : Nat := d.seconds.toNat * 1000 + d.nanos.val / 1000000

def times? (d : Duration) (factor : UInt32) : Option Duration :=
  let nanos := d.nanos.val * factor.toNat
  let seconds := d.seconds.toNat * factor.toNat + nanos / nanosPerSecond
  if seconds < UInt64.size then some (ofParts (.ofNat seconds) nanos) else none

/-- A multiple, or the longest length if it is too long. -/
def timesCapped (d : Duration) (factor : UInt32) : Duration := (d.times? factor).getD longest

/-- Seconds decide first, and then nanoseconds. -/
instance : LE Duration :=
  ⟨fun a b => a.seconds < b.seconds ∨ a.seconds = b.seconds ∧ a.nanos ≤ b.nanos⟩

instance (a b : Duration) : Decidable (a ≤ b) :=
  inferInstanceAs (Decidable (a.seconds < b.seconds ∨ a.seconds = b.seconds ∧ a.nanos ≤ b.nanos))

instance : Min Duration := minOfLe

instance : Max Duration := maxOfLe

end Duration
end DocQuery
