import Imprint.Decimal

/-!
# Document — numerals

`Phase` is an automaton for the numerals of JSON: a sign, whole digits without a leading zero, a
fraction and an exponent, each part optional but the whole digits.  `Numeral.parse` takes a
complete numeral apart.

A numeral without fraction and exponent is an integer if it fits in 64 bits.  Any other is read as
a binary number in floating point: its digits make a significand of 64 bits, digits that do not
fit are dropped, and a power of ten is multiplied on.  Where that overflows there is no value.
-/

namespace Imprint.Document

/-- A decimal digit. -/
def isDigit (b : UInt8) : Bool := octet '0' ≤ b && b ≤ octet '9'

/-- The part of a numeral that was read last. -/
inductive Phase where
  | sign
  | zero
  | whole
  | point
  | fraction
  | exponent
  | exponentSign
  | power
  deriving DecidableEq, Repr

/-- What an octet does to a numeral. -/
inductive Phase.Step where
  | on (p : Phase)
  /-- The numeral ended before the octet. -/
  | over
  | broken
  deriving DecidableEq, Repr

namespace Phase

/-- The phase a numeral begins with. -/
def begin? (b : UInt8) : Option Phase :=
  if b = octet '-' then some .sign
  else if b = octet '0' then some .zero
  else if isDigit b then some .whole
  else none

/-- A numeral that may end here. -/
def complete : Phase → Bool
  | .zero | .whole | .fraction | .power          => true
  | .sign | .point | .exponent | .exponentSign   => false

/-- An octet after the whole digits. -/
def afterWhole (b : UInt8) : Step :=
  if b = octet '.' then .on .point
  else if b = octet 'e' ∨ b = octet 'E' then .on .exponent
  else .over

/-- One octet. -/
def next (p : Phase) (b : UInt8) : Step :=
  match p with
  | .sign         =>
    if b = octet '0' then .on .zero else if isDigit b then .on .whole else .broken
  | .zero         => if isDigit b then .broken else afterWhole b
  | .whole        => if isDigit b then .on .whole else afterWhole b
  | .point        => if isDigit b then .on .fraction else .broken
  | .fraction     =>
    if isDigit b then .on .fraction
    else if b = octet 'e' ∨ b = octet 'E' then .on .exponent else .over
  | .exponent     =>
    if isDigit b then .on .power
    else if b = octet '+' ∨ b = octet '-' then .on .exponentSign else .broken
  | .exponentSign => if isDigit b then .on .power else .broken
  | .power        => if isDigit b then .on .power else .over

end Phase

/-- The parts of a numeral. -/
structure Numeral where
  negative         : Bool
  whole            : List Nat
  fraction         : List Nat
  exponentNegative : Bool
  power            : List Nat
  deriving DecidableEq, Repr

namespace Numeral

/-- The digits at the beginning. -/
def leading (bs : Bytes) : List Nat :=
  (bs.takeWhile isDigit).map fun b => b.toNat - 0x30

/-- The parts of a complete numeral. -/
def parse (bs : Bytes) : Numeral :=
  let negative := bs.head? = some (octet '-')
  let bs := if negative then bs.tail else bs
  let whole := leading bs
  let bs := bs.drop whole.length
  let fraction := if bs.head? = some (octet '.') then leading bs.tail else []
  let bs := if fraction.isEmpty then bs else bs.drop (1 + fraction.length)
  let bs := bs.tail
  let exponentNegative := bs.head? = some (octet '-')
  let bs := if exponentNegative ∨ bs.head? = some (octet '+') then bs.tail else bs
  ⟨negative, whole, fraction, exponentNegative, leading bs⟩

/-- One more digit on a number below `bound`, unless that reaches it. -/
def push? (bound n digit : Nat) : Option Nat :=
  if 10 * n + digit < bound then some (10 * n + digit) else none

/-- Pushes digits while they fit; the number of digits that are left then comes second. -/
def pushAll (bound n : Nat) : List Nat → Nat × Nat
  | []      => (n, 0)
  | d :: ds =>
    match push? bound n d with
    | some n => pushAll bound n ds
    | none   => (n, ds.length + 1)

/-- The significand and the power of ten that its digits call for.  A whole digit that does not
fit counts for the power, one of the fraction for nothing. -/
def significand (x : Numeral) : Nat × Int :=
  let (n, dropped) := pushAll UInt64.size 0 x.whole
  let (n, left) := pushAll UInt64.size n x.fraction
  (n, (dropped : Int) - (x.fraction.length - left : Nat))

/-- A power of ten up to the 308th. -/
def tenTo (k : Nat) : Float := Float.ofScientific 1 false k

/-- Multiplies a power of ten on, in steps of at most 308 digits downwards; there is no value
above the largest finite number. -/
def scale? (x : Float) : Nat → Int → Option Float
  | 0,        _ => some x
  | fuel + 1, k =>
    if k.natAbs ≤ 308 then
      if 0 ≤ k then
        let y := x * tenTo k.natAbs
        if y.isInf then none else some y
      else some (x / tenTo k.natAbs)
    else if x == 0 then some x
    else if 0 ≤ k then none
    else scale? (x / tenTo 308) fuel (k + 308)

/-- The size of the numeral in floating point.  Three divisions by the 308th power of ten turn any
significand to zero. -/
def magnitude? (x : Numeral) : Option Float :=
  let (n, k) := x.significand
  let (power, left) := pushAll (Nat.pow 2 31) 0 x.power
  if left ≠ 0 then if n ≠ 0 ∧ ! x.exponentNegative then none else some 0
  else scale? n.toUInt64.toFloat 4 (if x.exponentNegative then k - power else k + power)

/-- The value of the numeral: an integer or the text of a real; none where it is out of range. -/
def value? (x : Numeral) (integral : Bool) : Option (Int ⊕ Text) :=
  let (n, k) := x.significand
  let whole : Bool := integral && k = 0 && (if x.negative then n ≠ 0 && n ≤ Nat.pow 2 63 else true)
  if whole then some (.inl (if x.negative then -(n : Int) else n))
  else x.magnitude?.map fun y => .inr (floatText (if x.negative then -y else y))

end Numeral

end Imprint.Document
