import RawReel.Binary64
import RawReel.Text.Pad

/-!
Durations as clock text, `HH:MM:SS.mmm`, cut to whole milliseconds. Hours take as many digits as
they need. What is not a duration, a negative number or NaN, shows as zero, and a part too large
for a 64-bit count shows as the largest.
-/

namespace RawReel.Duration

/-- Clock text of a number of seconds. -/
def ofSeconds (seconds : Float) : String :=
  let ms := seconds * 1000
  let hours := (ms / 3600000).toUInt64.toNat
  let minutes := (remainder ms 3600000 / 60000).toUInt64.toNat
  let secs := (remainder ms 60000 / 1000).toUInt64.toNat
  let millis := (remainder ms 1000).toUInt64.toNat
  Text.paddedNat 2 hours ++ ":" ++ Text.paddedNat 2 minutes ++ ":" ++ Text.paddedNat 2 secs
    ++ "." ++ Text.paddedNat 3 millis

/-- Clock text of a number of nanoseconds. -/
def ofNanoseconds (ns : UInt64) : String := ofSeconds (ns.toFloat / 1000000000)

end RawReel.Duration
