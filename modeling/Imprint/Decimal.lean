import Imprint.Text

/-!
# Decimal — the shortest decimal of a binary fraction

A positive number with the binary form `m · 2 ^ q` stands for every real that rounds to it: those
between the halfway points to its neighbours, the halfway points included where `m` is even.  Of
the decimals among them, the *shortest* lies on the coarsest grid `c · 10 ^ k` that has a point
there; of two such points it is the nearer, and of two equally near the one with even `c`.

Everything is computed in whole numbers, on the scale of a quarter of the last binary place.

A decimal is written with a point from `10 ^ -5` on and below `10 ^ 16`, with a zero after the
point where no digit stands there, and with an exponent outside of that range, which has a sign.
-/

namespace Imprint

/-- The number `coefficient · 10 ^ exponent`. -/
structure Decimal where
  coefficient : Nat
  exponent    : Int
  deriving DecidableEq, Repr

/-- A positive number in binary form: `significand · 2 ^ exponent`.  At the foot of a binade the
neighbour below is only half as far away as the one above. -/
structure Binary where
  significand : Nat
  exponent    : Int
  atFoot      : Bool
  deriving DecidableEq, Repr

/-- The digits of a whole number. -/
def digits (n : Nat) : Text := Nat.toDigits 10 n

/-- A whole number with a minus sign where it is negative. -/
def signed : Int → Text
  | .ofNat n   => digits n
  | .negSucc n => '-' :: digits (n + 1)

/-- An exponent, with a sign in any case. -/
def exponentText : Int → Text
  | .ofNat n   => '+' :: digits n
  | .negSucc n => '-' :: digits (n + 1)

/-- The decimal as it is written. -/
def Decimal.toText (d : Decimal) : Text :=
  let ds := digits d.coefficient
  let point := ds.length + d.exponent
  if 0 ≤ d.exponent ∧ point ≤ 16 then ds ++ List.replicate d.exponent.toNat '0' ++ ['.', '0']
  else if 0 < point ∧ point ≤ 16 then ds.take point.toNat ++ '.' :: ds.drop point.toNat
  else if -5 < point ∧ point ≤ 0 then '0' :: '.' :: List.replicate (-point).toNat '0' ++ ds
  else if ds.length = 1 then ds ++ 'e' :: exponentText (point - 1)
  else ds.take 1 ++ '.' :: ds.drop 1 ++ 'e' :: exponentText (point - 1)

example : Decimal.toText ⟨15, -1⟩ = "1.5".toList := by decide
example : Decimal.toText ⟨12, 3⟩ = "12000.0".toList := by decide
example : Decimal.toText ⟨3, -5⟩ = "0.00003".toList := by decide
example : Decimal.toText ⟨1, 16⟩ = "1e+16".toList := by decide
example : Decimal.toText ⟨25, -8⟩ = "2.5e-7".toList := by decide

namespace Binary

/-- The halfway point below, in quarters of the last place. -/
def low (b : Binary) : Nat := 4 * b.significand - (if b.atFoot then 1 else 2)

/-- The number, in quarters of the last place. -/
def mid (b : Binary) : Nat := 4 * b.significand

/-- The halfway point above, in quarters of the last place. -/
def high (b : Binary) : Nat := 4 * b.significand + 2

/-- With `down`, how a quarter of the last place compares with the unit `10 ^ k`: `n` quarters are
`c` units exactly when `n * up = c * down`. -/
def up (b : Binary) (k : Int) : Nat :=
  Nat.pow 2 (b.exponent - 2).toNat * Nat.pow 10 (-k).toNat

/-- The other side of `up`. -/
def down (b : Binary) (k : Int) : Nat :=
  Nat.pow 2 (2 - b.exponent).toNat * Nat.pow 10 k.toNat

/-- `c · 10 ^ k` rounds to the number. -/
def covers (b : Binary) (k : Int) (c : Nat) : Bool :=
  let point := c * b.down k
  let low := b.low * b.up k
  let high := b.high * b.up k
  if b.significand % 2 = 0 then low ≤ point && point ≤ high else low < point && point < high

/-- The coefficient on the grid `10 ^ k` that rounds to the number and is nearest to it, if there
is one; it is one of the two neighbours of the number on that grid. -/
def nearest? (b : Binary) (k : Int) : Option Nat :=
  let value := b.mid * b.up k
  let unit := b.down k
  let below := value / unit
  match b.covers k below, b.covers k (below + 1) with
  | true,  true  =>
    match compare (2 * (value % unit)) unit with
    | .lt => some below
    | .gt => some (below + 1)
    | .eq => some (if below % 2 = 0 then below else below + 1)
  | true,  false => some below
  | false, true  => some (below + 1)
  | false, false => none

/-- The first grid with a hit, from `10 ^ k` on to finer ones. -/
def shortestFrom (b : Binary) : Nat → Int → Option Decimal
  | 0,        _ => none
  | fuel + 1, k =>
    match b.nearest? k with
    | some c => some ⟨c, k⟩
    | none   => b.shortestFrom fuel (k - 1)

/-- The shortest decimal that rounds to a positive number.  The powers of ten from 309 down to -324
cover the binary numbers of 64 bits. -/
def shortest (b : Binary) : Option Decimal :=
  if b.significand = 0 then none else b.shortestFrom 640 309

end Binary

/-- The binary form of a positive finite number of 64 bits. -/
def Binary.ofFloat (x : Float) : Binary :=
  let bits := x.toBits.toNat
  let fraction : Nat := bits % Nat.pow 2 52
  let biased : Nat := bits / Nat.pow 2 52 % Nat.pow 2 11
  if biased = 0 then ⟨fraction, -1074, false⟩
  else ⟨Nat.pow 2 52 + fraction, (biased : Int) - 1075, fraction == 0 && biased != 1⟩

/-- A finite number of 64 bits as it is written; zero keeps its sign. -/
def floatText (x : Float) : Text :=
  let sign : Text := if x.toBits.toNat / Nat.pow 2 63 = 1 then ['-'] else []
  sign ++ ((Binary.ofFloat x).shortest.elim ['0', '.', '0'] Decimal.toText)

end Imprint
