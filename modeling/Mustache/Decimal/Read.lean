/-!
# Reading decimals

A decimal is digits with an optional point and an optional power of ten; at least
one digit has to stand before or after the point.  It is read as the nearest
floating point number.
-/

namespace Mustache.Decimal

def natOfDigits (digits : List Char) : Nat :=
  digits.foldl (fun n c => 10 * n + (c.toNat - '0'.toNat)) 0

def allDigits (s : List Char) : Bool :=
  s ≠ [] && s.all Char.isDigit

/-- The float nearest to `digits · 10 ^ exponent`. -/
def nearest (digits : Nat) (exponent : Int) : Float :=
  let size := (Nat.toDigits 10 digits).length + exponent
  if digits = 0 ∨ size < -400 then 0.0
  else if 400 < size then Float.ofScientific 1 false 400
  else Float.ofScientific digits (exponent < 0) exponent.natAbs

def readInt? (s : List Char) : Option Int :=
  match s with
  | '-' :: digits => if allDigits digits then some (-(natOfDigits digits : Int)) else none
  | '+' :: digits => if allDigits digits then some (natOfDigits digits) else none
  | digits => if allDigits digits then some (natOfDigits digits) else none

/-- The power of ten at the end of a decimal; without one it is zero. -/
def readExponent? (s : List Char) : Option Int :=
  match s with
  | [] => some 0
  | c :: rest => if c = 'e' || c = 'E' then readInt? rest else none

def readUnsigned? (s : List Char) : Option Float :=
  let whole := s.takeWhile Char.isDigit
  let (fraction, rest) :=
    match s.drop whole.length with
    | '.' :: t => (t.takeWhile Char.isDigit, t.dropWhile Char.isDigit)
    | t => ([], t)
  if whole ++ fraction = [] then none
  else
    (readExponent? rest).map fun exponent =>
      nearest (natOfDigits (whole ++ fraction)) (exponent - fraction.length)

def read? (s : List Char) : Option Float :=
  match s with
  | '-' :: t => (readUnsigned? t).map (- ·)
  | '+' :: t => readUnsigned? t
  | t => readUnsigned? t

end Mustache.Decimal
