/-!
# Sets of characters

A Unicode property is given by the ranges of code points that have it, in
increasing order and with both ends included.  All tables of this library are those
of version 17.0 of the standard.
-/

namespace Mustache.Text

abbrev CharRanges := List (Nat × Nat)

namespace CharRanges

def contains (ranges : CharRanges) (c : Char) : Bool :=
  ranges.any fun (first, last) => first ≤ c.toNat && c.toNat ≤ last

end CharRanges
end Mustache.Text
