import Mustache.Yaml.Scalar

/-!
# Tokens of YAML texts

The scanner turns indentation into tokens that open and close blocks.  Whether a
scalar or a bracketed collection is a key shows only at the colon behind it, so the
place of the last possible key is remembered and the tokens that make it one are
inserted there.  A key has to stand on one line, within 1024 bytes.

Anchors, tags, directives and block scalars are left out of this format; a text that
has them is refused.
-/

namespace Mustache.Yaml

inductive Token where
  | sequenceStart
  | mappingStart
  | blockEnd
  | flowSequenceStart
  | flowSequenceEnd
  | flowMappingStart
  | flowMappingEnd
  | blockEntry
  | flowEntry
  | key
  | value
  | scalar (text : String) (plain : Bool)
  | documentStart
  | documentEnd

/-- Where a key may have started: after how many tokens and at which place.  A
required one stands where the block mapping has to go on. -/
structure PossibleKey where
  tokens : Nat
  place : Place
  required : Bool

structure Scanner where
  rest : List Char
  place : Place := {}
  /-- The columns of the open blocks, innermost first. -/
  indents : List Nat := []
  /-- The possible key outside all brackets. -/
  blockKey : Option PossibleKey := none
  /-- The possible keys of the open brackets, innermost first. -/
  flowKeys : List (Option PossibleKey) := []
  keyAllowed : Bool := true
  /-- The tokens so far, last first. -/
  tokens : List Token := []

namespace Scanner

def inFlow (s : Scanner) : Bool :=
  !s.flowKeys.isEmpty

def emit (s : Scanner) (t : Token) : Scanner :=
  { s with tokens := t :: s.tokens }

/-- Inserts a token behind the first `n`. -/
def insert (s : Scanner) (n : Nat) (t : Token) : Scanner :=
  let later := s.tokens.length - n
  { s with tokens := s.tokens.take later ++ t :: s.tokens.drop later }

/-- Passes over a character that does not end the line. -/
def advance (s : Scanner) : Scanner :=
  match s.rest with
  | [] => s
  | c :: rest => { s with rest, place := s.place.next c }

/-! ## Keys -/

def possibleKey (s : Scanner) : Option PossibleKey :=
  match s.flowKeys with
  | [] => s.blockKey
  | k :: _ => k

def setPossibleKey (s : Scanner) (k : Option PossibleKey) : Scanner :=
  match s.flowKeys with
  | [] => { s with blockKey := k }
  | _ :: outer => { s with flowKeys := k :: outer }

/-- Gives up the possible key, unless a key is required. -/
def dropKey (s : Scanner) : Option Scanner :=
  match s.possibleKey with
  | some k => if k.required then none else some (s.setPossibleKey none)
  | none => some s

def saveKey (s : Scanner) : Option Scanner :=
  if s.keyAllowed then do
    let t ← s.dropKey
    let required := !s.inFlow && s.indents.head? == some s.place.column
    return t.setPossibleKey
      (some { tokens := s.tokens.length, place := s.place, required })
  else some s

def isStale (s : Scanner) (k : PossibleKey) : Bool :=
  k.place.line < s.place.line || k.place.offset + 1024 < s.place.offset

def dropStale (s : Scanner) (k : Option PossibleKey) : Option (Option PossibleKey) :=
  match k with
  | some k =>
      if s.isStale k then if k.required then none else some none else some (some k)
  | none => some none

def dropStaleKeys (s : Scanner) : Option Scanner := do
  let blockKey ← s.dropStale s.blockKey
  let flowKeys ← s.flowKeys.mapM s.dropStale
  return { s with blockKey, flowKeys }

/-! ## Indentation -/

/-- Opens a block at a column, with its token behind the first `n`. -/
def openBlock (s : Scanner) (column n : Nat) (t : Token) : Scanner :=
  if s.inFlow then s
  else
    match s.indents with
    | [] => { s.insert n t with indents := [column] }
    | indent :: outer =>
        if indent < column then { s.insert n t with indents := column :: indent :: outer } else s

/-- Closes the blocks that are indented deeper than a column; all of them if there
is none. -/
def closeBlocks (s : Scanner) (column : Option Nat) : Scanner :=
  if s.inFlow then s
  else
    let deeper (indent : Nat) : Bool := (column.map fun c => decide (c < indent)).getD true
    let closed := s.indents.takeWhile deeper
    { s with
      indents := s.indents.drop closed.length
      tokens := closed.map (fun _ => Token.blockEnd) ++ s.tokens }

/-! ## Single tokens -/

/-- Skips blanks, line breaks, comments and a byte order mark at the start of a
line. -/
def skipBlanks (flow keyAllowed comment : Bool) (p : Place) (s : List Char) :
    Bool × Place × List Char :=
  match s with
  | [] => (keyAllowed, p, [])
  | '\r' :: '\n' :: rest => skipBlanks flow (keyAllowed || !flow) false p.nextLine rest
  | c :: rest =>
      if isBreak c then skipBlanks flow (keyAllowed || !flow) false p.nextLine rest
      else if comment || c = '#' then skipBlanks flow keyAllowed true (p.next c) rest
      else if c = ' ' || (c = '\t' && (flow || !keyAllowed)) ||
          (c = '\ufeff' && p.column = 0) then
        skipBlanks flow keyAllowed false (p.next c) rest
      else (keyAllowed, p, c :: rest)

def skip (s : Scanner) : Scanner :=
  let (keyAllowed, place, rest) := skipBlanks s.inFlow s.keyAllowed false s.place s.rest
  { s with keyAllowed, place, rest }

def openFlow (s : Scanner) (t : Token) : Option Scanner := do
  let s ← s.saveKey
  return { (s.emit t).advance with flowKeys := none :: s.flowKeys, keyAllowed := true }

def closeFlow (s : Scanner) (t : Token) : Option Scanner := do
  let s ← s.dropKey
  return { (s.emit t).advance with flowKeys := s.flowKeys.tail, keyAllowed := false }

/-- A key or an item that starts with an indicator of its own. -/
def indicate (s : Scanner) (block t : Token) (keyAllowed : Bool) : Option Scanner :=
  if !s.inFlow && !s.keyAllowed then none
  else do
    let s := s.openBlock s.place.column s.tokens.length block
    let s ← s.dropKey
    return { (s.emit t).advance with keyAllowed }

/-- A colon: it makes the possible key one, if there is one. -/
def indicateValue (s : Scanner) : Option Scanner :=
  match s.possibleKey with
  | some k =>
      let s := (s.insert k.tokens .key).openBlock k.place.column k.tokens .mappingStart
      some { ((s.setPossibleKey none).emit .value).advance with keyAllowed := false }
  | none =>
      if !s.inFlow && !s.keyAllowed then none
      else
        let s := s.openBlock s.place.column s.tokens.length .mappingStart
        some { (s.emit .value).advance with keyAllowed := !s.inFlow }

def addScalar (s : Scanner) (plain : Bool) (scanned : Option Scanned) : Option Scanner := do
  let s ← s.saveKey
  let found ← scanned
  return { s.emit (.scalar found.text plain) with
    place := found.place, rest := found.rest, keyAllowed := found.newLine }

def documentMark (s : Scanner) (t : Token) : Option Scanner := do
  let s ← (s.closeBlocks none).dropKey
  return { (s.emit t).advance.advance.advance with keyAllowed := false }

/-- Whether a plain scalar may start with `c`. -/
def startsPlain (flow : Bool) (c : Char) (rest : List Char) : Bool :=
  let blankNext := (rest.head?.map isSpace).getD false
  if c = '-' then !blankNext
  else if c = '?' || c = ':' then !flow && !endsWord rest
  else !"\t,[]\x7b\x7d#&*!|>'\"%@\x60".toList.contains c

/-- Reads the token that starts with `c`. -/
def read (s : Scanner) (c : Char) (rest : List Char) : Option Scanner :=
  if s.place.column = 0 && c = '%' then none
  else if s.place.column = 0 && isDocumentMark (c :: rest) then
    s.documentMark (if c = '-' then .documentStart else .documentEnd)
  else if c = '[' then s.openFlow .flowSequenceStart
  else if c = '\x7b' then s.openFlow .flowMappingStart
  else if c = ']' then s.closeFlow .flowSequenceEnd
  else if c = '\x7d' then s.closeFlow .flowMappingEnd
  else if c = ',' then do
    let s ← s.dropKey
    return { (s.emit .flowEntry).advance with keyAllowed := true }
  else if c = '-' && endsWord rest then s.indicate .sequenceStart .blockEntry true
  else if c = '?' && (s.inFlow || endsWord rest) then
    s.indicate .mappingStart .key (!s.inFlow)
  else if c = ':' && (s.inFlow || endsWord rest) then s.indicateValue
  else if c = '\'' || c = '"' then
    s.addScalar false (scanQuoted (c = '"') [] .none .outside (s.place.next c) rest)
  else if startsPlain s.inFlow c rest then
    let indent := (s.indents.head?.map (· + 1)).getD 0
    s.addScalar true (scanPlain s.inFlow indent [] .none s.place (c :: rest))
  else none

/-- The tokens of the whole text.  Each token takes at least one character, so
`fuel` need not exceed their number by more than one. -/
def run : Nat → Scanner → Option (List Token)
  | 0, _ => none
  | fuel + 1, s => do
      let s ← s.skip.dropStaleKeys
      let s := s.closeBlocks (some s.place.column)
      match s.rest with
      | [] => do
          let s ← (s.closeBlocks none).dropKey
          return s.tokens.reverse
      | c :: rest => run fuel (← s.read c rest)

end Scanner

def isAllowed (c : Char) : Bool :=
  let n := c.toNat
  n = 0x09 || n = 0x0A || n = 0x0D || (0x20 ≤ n && n ≤ 0x7E) || n = 0x85 ||
    (0xA0 ≤ n && n ≤ 0xFFFD) || 0x10000 ≤ n

def tokens? (s : List Char) : Option (List Token) :=
  if s.all isAllowed then Scanner.run (s.length + 1) { rest := s } else none

end Mustache.Yaml
