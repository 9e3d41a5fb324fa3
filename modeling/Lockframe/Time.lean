import Mathlib.Data.List.Basic

/-! # Time as the connection state machine sees it

The state machine stores no clock: every method takes `now : Instant` and
compares `Duration`s. Both are counted in nanoseconds. `Instant::duration_since`
saturates at zero, which is exactly truncated subtraction on `Nat`. -/

namespace Lockframe

structure Instant where
  nanos : Nat
  deriving DecidableEq, Repr

structure Duration where
  nanos : Nat
  deriving DecidableEq, Repr

namespace Instant

instance : LT Instant := ⟨fun left right => left.nanos < right.nanos⟩
instance : LE Instant := ⟨fun left right => left.nanos ≤ right.nanos⟩

instance (left right : Instant) : Decidable (left < right) :=
  inferInstanceAs (Decidable (left.nanos < right.nanos))
instance (left right : Instant) : Decidable (left ≤ right) :=
  inferInstanceAs (Decidable (left.nanos ≤ right.nanos))

@[simp] theorem lt_iff (left right : Instant) : left < right ↔ left.nanos < right.nanos :=
  Iff.rfl

@[simp] theorem le_iff (left right : Instant) : left ≤ right ↔ left.nanos ≤ right.nanos :=
  Iff.rfl

/-- `Instant::duration_since`, saturating at zero when `earlier` is later. -/
def durationSince (self earlier : Instant) : Duration :=
  ⟨self.nanos - earlier.nanos⟩

@[simp] theorem durationSince_nanos (self earlier : Instant) :
    (self.durationSince earlier).nanos = self.nanos - earlier.nanos := rfl

end Instant

namespace Duration

instance : LT Duration := ⟨fun left right => left.nanos < right.nanos⟩
instance : LE Duration := ⟨fun left right => left.nanos ≤ right.nanos⟩

instance (left right : Duration) : Decidable (left < right) :=
  inferInstanceAs (Decidable (left.nanos < right.nanos))
instance (left right : Duration) : Decidable (left ≤ right) :=
  inferInstanceAs (Decidable (left.nanos ≤ right.nanos))

@[simp] theorem lt_iff (left right : Duration) : left < right ↔ left.nanos < right.nanos :=
  Iff.rfl

@[simp] theorem le_iff (left right : Duration) : left ≤ right ↔ left.nanos ≤ right.nanos :=
  Iff.rfl

def fromSecs (secs : Nat) : Duration :=
  ⟨secs * 1000000000⟩

@[simp] theorem fromSecs_nanos (secs : Nat) : (fromSecs secs).nanos = secs * 1000000000 := rfl

/-! ## The `{:?}` rendering

`tick` writes the elapsed time into its close reason with `{:?}`. The standard
library prints the largest unit that is at least one (`s`, `ms`, `µs`, `ns`)
and the remainder as decimals without trailing zeros. -/

/-- The digits `fmt_decimal` emits after the point: one per round while the
fractional part is non-zero, for at most `rounds` rounds. -/
def fractionalDigits : (rounds fractional divisor : Nat) → List Char
  | 0, _, _ => []
  | rounds + 1, fractional, divisor =>
      if fractional = 0 then []
      else Char.ofNat (48 + fractional / divisor) ::
        fractionalDigits rounds (fractional % divisor) (divisor / 10)

def fmtDecimal (integerPart fractionalPart divisor : Nat) (suffix : String) : String :=
  let digits := fractionalDigits 9 fractionalPart divisor
  toString integerPart ++ (if digits.isEmpty then "" else "." ++ String.mk digits) ++ suffix

def debug (duration : Duration) : String :=
  let secs := duration.nanos / 1000000000
  let nanos := duration.nanos % 1000000000
  if secs > 0 then fmtDecimal secs nanos 100000000 "s"
  else if nanos ≥ 1000000 then fmtDecimal (nanos / 1000000) (nanos % 1000000) 100000 "ms"
  else if nanos ≥ 1000 then fmtDecimal (nanos / 1000) (nanos % 1000) 100 "µs"
  else fmtDecimal nanos 0 1 "ns"

example : (fromSecs 31).debug = "31s" := by decide
example : (⟨1500000⟩ : Duration).debug = "1.5ms" := by decide

end Duration

end Lockframe
