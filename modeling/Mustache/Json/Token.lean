import Mustache.Decimal.Read

/-!
# JSON tokens

The scalars and the punctuation of a JSON text.  An integer keeps its value as
long as it fits into 64 bits.  Any other number is computed in floating point: its
leading digits, as many as fit into 64 bits, are multiplied or divided by a power
of ten, so the result is not always the float nearest to what is written.
-/

namespace Mustache.Json

inductive Token where
  | openArray
  | closeArray
  | openObject
  | closeObject
  | comma
  | colon
  | null
  | bool (b : Bool)
  | integer (n : Int)
  | float (x : Float)
  | string (s : String)

/-! ## Numbers -/

def tenTo (n : Nat) : Float :=
  Float.ofScientific 1 false n

/-- The product `x · 10 ^ exponent`, absent if that is too large.  A small one may
take two steps, the power of ten being too small to be a floating point number. -/
def scale (x : Float) (exponent : Int) : Option Float :=
  if 308 < exponent then if x == 0 then some x else none
  else if 0 ≤ exponent then
    let y := x * tenTo exponent.toNat
    if y.isInf then none else some y
  else if -308 ≤ exponent then some (x / tenTo exponent.natAbs)
  else some (x / tenTo 308 / tenTo (min 308 (exponent + 308).natAbs))

/-- As many of the digits as make a number below `2 ^ 64`, read on from `n`,
and the digits that are left. -/
def leading (n : Nat) : List Char → Nat × List Char
  | [] => (n, [])
  | c :: rest =>
      let m := 10 * n + (c.toNat - '0'.toNat)
      if m < UInt64.size then leading m rest else (n, c :: rest)

def floatOf (whole fraction : List Char) (exponent : Int) : Option Float :=
  let (n, wholeLeft) := leading 0 whole
  let (m, fractionLeft) := leading n fraction
  let used := fraction.length - fractionLeft.length
  scale (Float.ofNat m) (exponent + wholeLeft.length - used)

/-- The value of a number: its sign, the digits before the point, those after it
and the power of ten, the last two if they are there. -/
def numberOf (negative : Bool) (whole : List Char) (fraction : Option (List Char))
    (exponent : Option Int) : Option Token :=
  let n := Decimal.natOfDigits whole
  if fraction.isNone ∧ exponent.isNone ∧ n < UInt64.size ∧ (negative → 0 < n ∧ n ≤ 1 <<< 63) then
    some (.integer (if negative then -n else n))
  else
    (floatOf whole (fraction.getD []) (exponent.getD 0)).map fun x =>
      .float (if negative then -x else x)

def takeDigits (s : List Char) : List Char × List Char :=
  (s.takeWhile Char.isDigit, s.dropWhile Char.isDigit)

/-- The fraction after a number's whole part, if there is one; a point needs
digits behind it. -/
def readFraction (s : List Char) : Option (Option (List Char) × List Char) :=
  match s with
  | '.' :: t =>
      match takeDigits t with
      | ([], _) => none
      | (digits, rest) => some (some digits, rest)
  | t => some (none, t)

def readPower (s : List Char) : Option (Option Int × List Char) :=
  match s with
  | [] => some (none, [])
  | c :: t =>
      if c = 'e' || c = 'E' then
        let (negative, t) :=
          match t with
          | '-' :: t => (true, t)
          | '+' :: t => (false, t)
          | t => (false, t)
        match takeDigits t with
        | ([], _) => none
        | (digits, rest) =>
            let n : Int := Decimal.natOfDigits digits
            some (some (if negative then -n else n), rest)
      else some (none, c :: t)

/-- Reads an unsigned number; a zero at the start stands alone. -/
def readNumber (negative : Bool) (s : List Char) : Option (Token × List Char) := do
  let (whole, rest) := takeDigits s
  if whole = [] || (whole.head? = some '0' && 1 < whole.length) then none
  else
    let (fraction, rest) ← readFraction rest
    let (exponent, rest) ← readPower rest
    let number ← numberOf negative whole fraction exponent
    return (number, rest)

theorem length_takeDigits_le (s : List Char) : (takeDigits s).2.length ≤ s.length :=
  (List.dropWhile_sublist _).length_le

theorem length_takeDigits_lt {s digits rest : List Char}
    (h : takeDigits s = (digits, rest)) (hdigits : digits ≠ []) :
    rest.length < s.length := by
  obtain ⟨rfl, rfl⟩ := Prod.mk.inj h
  cases s with
  | nil => simp at hdigits
  | cons c t =>
      have hc : c.isDigit = true := by
        cases hc : c.isDigit
        · simp [hc] at hdigits
        · rfl
      have hrest := length_takeDigits_le t
      simp only [takeDigits] at hrest
      simp only [List.dropWhile_cons, hc, if_true, List.length_cons]
      omega

theorem length_of_readFraction {s rest : List Char} {f : Option (List Char)}
    (h : readFraction s = some (f, rest)) : rest.length ≤ s.length := by
  unfold readFraction at h
  split at h
  · next t =>
    have hdigits := length_takeDigits_le t
    split at h <;> simp_all
    omega
  · simp_all

theorem length_of_readPower {s rest : List Char} {e : Option Int}
    (h : readPower s = some (e, rest)) : rest.length ≤ s.length := by
  unfold readPower at h
  split at h
  · simp_all
  · next c t =>
    split at h
    · split at h
      next sign u hsign =>
      have hdigits := length_takeDigits_le u
      have hu : u.length ≤ t.length := by grind
      split at h <;> simp_all
      omega
    · simp_all

theorem length_of_readNumber {s rest : List Char} {negative : Bool} {t : Token}
    (h : readNumber negative s = some (t, rest)) : rest.length < s.length := by
  unfold readNumber at h
  generalize hdigits : takeDigits s = p at h
  obtain ⟨whole, afterWhole⟩ := p
  dsimp only at h
  split at h
  · simp at h
  · next hwhole =>
    have hlt := length_takeDigits_lt hdigits (by simp_all)
    simp only [Option.bind_eq_bind, Option.bind_eq_some_iff, Option.pure_def,
      Option.some.injEq, Prod.mk.injEq, Prod.exists] at h
    obtain ⟨f, afterFraction, hf, e, afterPower, he, n, -, -, rfl⟩ := h
    have := length_of_readFraction hf
    have := length_of_readPower he
    omega

/-! ## Strings -/

def hexValue? (c : Char) : Option Nat :=
  if c.isDigit then some (c.toNat - '0'.toNat)
  else if 'a' ≤ c ∧ c ≤ 'f' then some (c.toNat - 'a'.toNat + 10)
  else if 'A' ≤ c ∧ c ≤ 'F' then some (c.toNat - 'A'.toNat + 10)
  else none

def hexOf? (s : List Char) : Option Nat :=
  s.foldlM (fun n c => (hexValue? c).map (16 * n + ·)) 0

def simpleEscape? : Char → Option Char
  | '"' => some '"'
  | '\\' => some '\\'
  | '/' => some '/'
  | 'b' => some '\x08'
  | 'f' => some '\x0c'
  | 'n' => some '\n'
  | 'r' => some '\r'
  | 't' => some '\t'
  | _ => none

/-- Whether a code unit is the first, or the second, of a pair. -/
def isHighSurrogate (n : Nat) : Bool := 0xD800 ≤ n && n < 0xDC00

def isLowSurrogate (n : Nat) : Bool := 0xDC00 ≤ n && n < 0xE000

/-- Reads a string after its opening quote.  `acc` is what has been read, last
character first. -/
def readString (acc : List Char) : List Char → Option (String × List Char)
  | '"' :: rest => some (String.ofList acc.reverse, rest)
  | '\\' :: 'u' :: a :: b :: c :: d :: rest =>
      match hexOf? [a, b, c, d] with
      | none => none
      | some n =>
          if isLowSurrogate n then none
          else if isHighSurrogate n then
            match rest with
            | '\\' :: 'u' :: e :: f :: g :: h :: rest =>
                match hexOf? [e, f, g, h] with
                | none => none
                | some m =>
                    if isLowSurrogate m then
                      let code := 0x10000 + (n - 0xD800) * 0x400 + (m - 0xDC00)
                      readString (Char.ofNat code :: acc) rest
                    else none
            | _ => none
          else readString (Char.ofNat n :: acc) rest
  | '\\' :: c :: rest =>
      match simpleEscape? c with
      | some e => readString (e :: acc) rest
      | none => none
  | c :: rest => if c.toNat < 0x20 then none else readString (c :: acc) rest
  | [] => none

theorem length_of_readString {acc s rest : List Char} {t : String}
    (h : readString acc s = some (t, rest)) : rest.length < s.length := by
  fun_induction readString acc s <;> simp_all <;> omega

/-! ## Tokens -/

def isSpace (c : Char) : Bool :=
  c = ' ' || c = '\n' || c = '\t' || c = '\r'

/-- The token `t` if its letters come next. -/
def readWord (letters : List Char) (t : Token) (s : List Char) : Option (Token × List Char) :=
  if letters.isPrefixOf s then some (t, s.drop letters.length) else none

/-- The token that starts with `c`, and what follows it. -/
def readToken (c : Char) (s : List Char) : Option (Token × List Char) :=
  match c with
  | '[' => some (.openArray, s)
  | ']' => some (.closeArray, s)
  | '\x7b' => some (.openObject, s)
  | '\x7d' => some (.closeObject, s)
  | ',' => some (.comma, s)
  | ':' => some (.colon, s)
  | '"' => (readString [] s).map fun (t, rest) => (.string t, rest)
  | '-' => readNumber true s
  | 'n' => readWord ['u', 'l', 'l'] .null s
  | 't' => readWord ['r', 'u', 'e'] (.bool true) s
  | 'f' => readWord ['a', 'l', 's', 'e'] (.bool false) s
  | c => if c.isDigit then readNumber false (c :: s) else none

theorem length_of_readWord {letters s rest : List Char} {t u : Token}
    (h : readWord letters t s = some (u, rest)) : rest.length ≤ s.length := by
  unfold readWord at h
  split at h
  · obtain ⟨-, rfl⟩ := Prod.mk.inj (Option.some.inj h)
    exact (List.drop_sublist _ _).length_le
  · simp at h

theorem length_of_readToken {c : Char} {s rest : List Char} {t : Token}
    (h : readToken c s = some (t, rest)) : rest.length ≤ s.length := by
  unfold readToken at h
  split at h
  all_goals try
    simp only [Option.some.injEq, Prod.mk.injEq] at h
    exact h.2 ▸ Nat.le_refl _
  · obtain ⟨⟨u, r⟩, hstring, hpair⟩ := Option.map_eq_some_iff.1 h
    obtain ⟨-, rfl⟩ := Prod.mk.inj hpair
    exact Nat.le_of_lt (length_of_readString hstring)
  · exact Nat.le_of_lt (length_of_readNumber h)
  iterate 3 exact length_of_readWord h
  · split at h
    · exact Nat.le_of_lt_succ (length_of_readNumber h)
    · simp at h

/-- The tokens of a text, which may have spaces between them. -/
def tokens? (s : List Char) : Option (List Token) :=
  match s with
  | [] => some []
  | c :: t =>
      if isSpace c then tokens? t
      else
        match _h : readToken c t with
        | none => none
        | some (token, rest) => (tokens? rest).map (token :: ·)
termination_by s.length
decreasing_by
  · simp
  · exact Nat.lt_succ_of_le (length_of_readToken _h)

end Mustache.Json
