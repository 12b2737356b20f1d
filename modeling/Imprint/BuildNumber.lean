import Imprint.Text

/-!
# Build number — counted from a log, written in hexadecimal

The build number of a log is one more than its number of lines.  It is written as `0x` and at
least six lower-case hexadecimal digits; the number grows past six digits where it has to.
-/

namespace Imprint

namespace BuildNumber

/-- The number of a build whose log has so many lines; at the top of the range it stays there. -/
def ofLines (lines : UInt64) : UInt64 :=
  UInt64.ofNat (min (lines.toNat + 1) (UInt64.size - 1))

theorem toNat_ofLines (lines : UInt64) :
    (ofLines lines).toNat = min (lines.toNat + 1) (UInt64.size - 1) := by
  rw [ofLines, UInt64.toNat_ofNat_of_lt' (by rw [UInt64.size]; omega)]

/-- The number as it is written. -/
def toText (n : UInt64) : Text :=
  '0' :: 'x' :: (Nat.toDigits 16 n.toNat).leftpad 6 '0'

example : toText 298 = "0x00012a".toList := by decide
example : toText 0x1000000 = "0x1000000".toList := by decide

end BuildNumber

/-- The build string of a log with so many lines. -/
def buildString (lines : UInt64) : Text :=
  BuildNumber.toText (BuildNumber.ofLines lines)

end Imprint
