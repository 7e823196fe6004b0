/-!
# Shortest decimals

The digits written for a binary floating point number are the fewest that read
back as the same number and, among those, the nearest to it; of two equally near
ones the larger is taken.  All arithmetic is exact: a number is compared with
the points of a decimal grid as a quotient of natural numbers, and the grids are
tried from the coarsest on.
-/

namespace Mustache.Decimal

/-- Decimal digits after a point, times a power of ten: `0.d₁d₂… · 10 ^ point`. -/
structure Digits where
  digits : List Char
  point : Int
deriving DecidableEq, Repr

/-- A positive number in units of `2 ^ scale`, with the bounds between which
everything reads back as it.  The bounds themselves do so if `closed` holds. -/
structure Bracket where
  value : Nat
  low : Nat
  high : Nat
  scale : Int
  closed : Bool

/-- The first of the 53 bits of a mantissa; its place is not stored. -/
def leadingBit : Nat := 1 <<< 52

namespace Bracket

/-- The bracket of `mantissa · 2 ^ exponent`.  Below a power of two the
neighbours are closer. -/
def ofBinary (mantissa : Nat) (exponent : Int) : Bracket where
  value := 4 * mantissa
  low := 4 * mantissa - if mantissa = leadingBit then 1 else 2
  high := 4 * mantissa + 2
  scale := exponent - 2
  closed := mantissa % 2 = 0

/-- The numerator and, below, the denominator of a number of units in terms of
the grid of multiples of `10 ^ grid`. -/
def numerator (b : Bracket) (grid : Int) (units : Nat) : Nat :=
  (units <<< b.scale.toNat) * Nat.pow 10 (-grid).toNat

def denominator (b : Bracket) (grid : Int) : Nat :=
  (1 <<< (-b.scale).toNat) * Nat.pow 10 grid.toNat

/-- Whether a point of the grid reads back as the number. -/
def readsBack (b : Bracket) (grid : Int) (point : Nat) : Bool :=
  let p := point * b.denominator grid
  let low := b.numerator grid b.low
  let high := b.numerator grid b.high
  if b.closed then low ≤ p && p ≤ high else low < p && p < high

/-- The neighbour of the number on the grid that reads back, if one does. -/
def onGrid? (b : Bracket) (grid : Int) : Option Nat :=
  let n := b.numerator grid b.value
  let d := b.denominator grid
  let below := n / d
  let above := below + 1
  match b.readsBack grid below, b.readsBack grid above with
  | true, true => some (if 2 * (n % d) < d then below else above)
  | true, false => some below
  | false, true => some above
  | false, false => none

/-- The `k` for which the number is at least `10 ^ (k - 1)` and less than
`10 ^ k`. -/
def magnitude (b : Bracket) : Int :=
  let n := b.numerator 0 b.value
  let d := b.denominator 0
  if d ≤ n then (Nat.toDigits 10 (n / d)).length
  else 1 - (Nat.toDigits 10 ((d - 1) / n)).length

/-- The coarsest grid on which a neighbour of the number reads back, and that
neighbour.  Seventeen digits always suffice. -/
def coarsest (b : Bracket) : Nat × Int :=
  let k := b.magnitude
  let found := (List.range 17).findSome? fun (i : Nat) =>
    let grid := k - (i + 1)
    (b.onGrid? grid).map fun point => (point, grid)
  found.getD (b.numerator (k - 17) b.value / b.denominator (k - 17), k - 17)

def shortest (b : Bracket) : Digits :=
  let (point, grid) := b.coarsest
  let digits := Nat.toDigits 10 point
  { digits := (digits.reverse.dropWhile (· == '0')).reverse
    point := digits.length + grid }

end Bracket

/-- What a 64-bit pattern stands for, its sign apart. -/
inductive Magnitude where
  | nan
  | infinite
  | zero
  | finite (digits : Digits)

def split (x : Float) : Bool × Magnitude :=
  let bits := x.toBits.toNat
  let negative := bits.testBit 63
  let exponent := (bits >>> 52) % 2048
  let fraction := bits % leadingBit
  let magnitude :=
    if exponent = 2047 then if fraction = 0 then .infinite else .nan
    else if exponent = 0 then
      if fraction = 0 then .zero else .finite (Bracket.ofBinary fraction (-1074)).shortest
    else .finite (Bracket.ofBinary (leadingBit + fraction) (Int.ofNat exponent - 1075)).shortest
  (negative, magnitude)

end Mustache.Decimal
