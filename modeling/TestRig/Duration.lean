/-
  TestRig.Duration

  Spans of time in whole nanoseconds, and their shown form: the largest of the units
  s, ms, µs and ns that the span fills at least once, with the exact decimals and
  without trailing zeros.
-/

namespace TestRig

/-- A span of time: whole seconds, and nanoseconds below one second. -/
structure Duration where
  secs : UInt64
  nanos : UInt32
  nanos_lt : nanos < 1000000000
  deriving DecidableEq

namespace Duration

/-- A whole number of seconds. -/
def ofSecs (secs : UInt64) : Duration := ⟨secs, 0, by decide⟩

/-- The span of no length. -/
def zero : Duration := ofSecs 0

instance : Inhabited Duration := ⟨zero⟩

/-- Seconds and nanoseconds, where nanoseconds beyond a second are carried.  There is none when
the seconds do not fit. -/
def carry? (secs : UInt64) (nanos : UInt32) : Option Duration :=
  let whole := secs.toNat + (nanos / 1000000000).toNat
  if whole < UInt64.size then
    some ⟨UInt64.ofNat whole, nanos % 1000000000, UInt32.mod_lt nanos (by decide)⟩
  else none

/-- The length of the span in nanoseconds. -/
def toNanos (d : Duration) : Nat := d.secs.toNat * 1000000000 + d.nanos.toNat

/-! ## Shown form -/

/-- The digits behind the point of `part / 10 ^ places`, without trailing zeros. -/
def decimals (places part : Nat) : List Char :=
  let digits := Nat.toDigits 10 part
  let padded := List.replicate (places - digits.length) '0' ++ digits
  (padded.reverse.dropWhile (· = '0')).reverse

/-- `whole` and a fraction of `places` digits, with a point only in front of a fraction that is
not zero. -/
def showDecimal (whole part places : Nat) (unit : String) : String :=
  let fraction := if part = 0 then [] else '.' :: decimals places part
  String.ofList (Nat.toDigits 10 whole ++ fraction) ++ unit

/-- The shown form of a span. -/
def render (d : Duration) : String :=
  let nanos := d.nanos.toNat
  if d.secs ≠ 0 then showDecimal d.secs.toNat nanos 9 "s"
  else if 1000000 ≤ nanos then showDecimal (nanos / 1000000) (nanos % 1000000) 6 "ms"
  else if 1000 ≤ nanos then showDecimal (nanos / 1000) (nanos % 1000) 3 "µs"
  else showDecimal nanos 0 0 "ns"

end Duration

end TestRig
