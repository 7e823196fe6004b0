import Mustache.Text.Alphanumeric
import Mustache.Text.CaseTable

/-!
# Case conversion

Upper and lower case of texts by the full Unicode mappings, under which one
character may become several.  A whole text is lowered with regard to the Greek
sigma, which has a form of its own at the end of a word; a single character is
not.  `capitalize` raises the first character of every word and lowers the
others, a word being a maximal run of alphanumeric characters.
-/

namespace Mustache.Text

namespace CaseShift

def moved? (s : CaseShift) (n : Nat) : Option Nat :=
  let (first, last, step, shift) := s
  if first ≤ n ∧ n ≤ last ∧ (n - first) % step = 0 then some (n + shift).toNat else none

end CaseShift

/-- The mapping of a character by a table of sequences and one of shifts. -/
def mapCase (sequences : List (Nat × List Nat)) (shifts : List CaseShift) (c : Char) :
    List Char :=
  match sequences.lookup c.toNat with
  | some codes => codes.map Char.ofNat
  | none =>
      match shifts.findSome? (CaseShift.moved? · c.toNat) with
      | some n => [Char.ofNat n]
      | none => [c]

def upperChar (c : Char) : List Char :=
  if c.toNat < 0x80 then [c.toUpper] else mapCase upperSequences upperShifts c

def lowerChar (c : Char) : List Char :=
  if c.toNat < 0x80 then [c.toLower] else mapCase lowerSequences lowerShifts c

def upper (s : List Char) : List Char :=
  s.flatMap upperChar

/-- Whether the first character that is not case-ignorable is cased. -/
def meetsCased (s : List Char) : Bool :=
  match s.dropWhile caseIgnorableRanges.contains with
  | [] => false
  | c :: _ => casedRanges.contains c

/-- Lowers a text of which `before`, last character first, has been read. -/
def lowerAfter (before : List Char) : List Char → List Char
  | [] => []
  | c :: rest =>
      let lowered :=
        if c = 'Σ' then
          if meetsCased before && !meetsCased rest then ['ς'] else ['σ']
        else lowerChar c
      lowered ++ lowerAfter (c :: before) rest

def lower (s : List Char) : List Char :=
  lowerAfter [] s

/-- Capitalizes words under any division into words and any case mappings.
`atStart` tells whether the next alphanumeric character begins a word. -/
def capitalizeWith (isWord : Char → Bool) (raise sink : Char → List Char)
    (atStart : Bool) : List Char → List Char
  | [] => []
  | c :: rest =>
      if isWord c then
        (if atStart then raise c else sink c) ++ capitalizeWith isWord raise sink false rest
      else c :: capitalizeWith isWord raise sink true rest

def capitalize (s : List Char) : List Char :=
  capitalizeWith isAlphanumeric upperChar lowerChar true s

end Mustache.Text
