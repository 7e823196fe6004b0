import Mustache.Decimal.Shortest

/-!
# Written numbers

Two written forms of a floating point number, both with its shortest digits.
The plain form, which templates show, never has an exponent and shows an
integral number without a point.  The literal form always shows that the number
is not an integer: it has a point or an exponent, the latter below `10 ^ -4` and
from `10 ^ 16` on.
-/

namespace Mustache.Decimal

namespace Digits

def zeros (n : Int) : List Char :=
  List.replicate n.toNat '0'

/-- The digits around a point; an integral number gets `integralEnd` after it. -/
def positional (d : Digits) (integralEnd : List Char) : List Char :=
  if d.point ≤ 0 then ['0', '.'] ++ zeros (-d.point) ++ d.digits
  else if d.digits.length ≤ d.point then
    d.digits ++ zeros (d.point - d.digits.length) ++ integralEnd
  else d.digits.take d.point.toNat ++ '.' :: d.digits.drop d.point.toNat

/-- One digit before the point, the others after it, and the power of ten. -/
def scientific (d : Digits) : List Char :=
  let exponent := (toString (d.point - 1)).toList
  match d.digits with
  | [] => []
  | [c] => c :: 'e' :: exponent
  | c :: rest => c :: '.' :: rest ++ 'e' :: exponent

end Digits

def signed (negative : Bool) (text : List Char) : String :=
  String.ofList (if negative then '-' :: text else text)

def plainText (x : Float) : String :=
  match split x with
  | (_, .nan) => "NaN"
  | (negative, .infinite) => signed negative "inf".toList
  | (negative, .zero) => signed negative ['0']
  | (negative, .finite d) => signed negative (d.positional [])

def literalText (x : Float) : String :=
  match split x with
  | (_, .nan) => "NaN"
  | (negative, .infinite) => signed negative "inf".toList
  | (negative, .zero) => signed negative "0.0".toList
  | (negative, .finite d) =>
      if -4 ≤ d.point - 1 ∧ d.point - 1 < 16 then signed negative (d.positional ['.', '0'])
      else signed negative d.scientific

end Mustache.Decimal
