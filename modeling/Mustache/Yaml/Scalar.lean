/-!
# Scalars of YAML texts

Scanning a plain or a quoted scalar.  Line breaks inside a scalar are folded: a
single one becomes a space, and of several all but the first are kept.  Blanks
around a line break are dropped.  A plain scalar ends at a comment, at a colon
that is followed by a blank, at a line that is not indented enough and, inside
brackets, at the punctuation of collections.
-/

namespace Mustache.Yaml

/-- Where a character stands in a text: its line, and how many characters and bytes
are before it on the line. -/
structure Place where
  line : Nat := 0
  column : Nat := 0
  offset : Nat := 0

namespace Place

/-- The place behind a character that does not end the line. -/
def next (p : Place) (c : Char) : Place :=
  { p with column := p.column + 1, offset := p.offset + c.utf8Size }

def nextLine (p : Place) : Place :=
  { line := p.line + 1 }

end Place

def isBreak (c : Char) : Bool :=
  c = '\n' || c = '\r' || c = '\u0085' || c = '\u2028' || c = '\u2029'

def isSpace (c : Char) : Bool :=
  c = ' ' || c = '\t'

/-- Whether a text ends here or goes on with a space or a line break. -/
def endsWord : List Char → Bool
  | [] => true
  | c :: _ => isSpace c || isBreak c

/-- The line break that a character stands for in a scalar. -/
def breakChar (c : Char) : Char :=
  if c = '\u2028' || c = '\u2029' then c else '\n'

/-- A mark of the start or the end of a document at the beginning of a line. -/
def isDocumentMark : List Char → Bool
  | '-' :: '-' :: '-' :: rest => endsWord rest
  | '.' :: '.' :: '.' :: rest => endsWord rest
  | _ => false

/-- What has been read since the last word of a scalar. -/
inductive Gap where
  | none
  | spaces (s : List Char)
  /-- Line breaks; the first may have been escaped and does not count then. -/
  | lines (escaped : Bool) (breaks : List Char)

namespace Gap

def isLines : Gap → Bool
  | .lines _ _ => true
  | .none | .spaces _ => false

def isNone : Gap → Bool
  | .none => true
  | .spaces _ | .lines _ _ => false

def addSpace (c : Char) : Gap → Gap
  | .none => .spaces [c]
  | .spaces s => .spaces (s ++ [c])
  | .lines escaped breaks => .lines escaped breaks

def addBreak (c : Char) : Gap → Gap
  | .none | .spaces _ => .lines false [breakChar c]
  | .lines escaped breaks => .lines escaped (breaks ++ [breakChar c])

def folded : Gap → List Char
  | .none => []
  | .spaces s => s
  | .lines true breaks => breaks
  | .lines false ['\n'] => [' ']
  | .lines false ('\n' :: breaks) => breaks
  | .lines false breaks => breaks

end Gap

/-- A scalar that has been scanned, what follows it and where.  `newLine` tells
that a line break has been passed behind it. -/
structure Scanned where
  text : String
  newLine : Bool
  place : Place
  rest : List Char

def isFlowPunctuation (c : Char) : Bool :=
  c = ',' || c = '[' || c = ']' || c = '\x7b' || c = '\x7d'

/-- Whether a plain scalar ends in front of `c`. -/
def endsPlain (flow : Bool) (c : Char) (rest : List Char) : Bool :=
  (c = ':' && endsWord rest) || (flow && isFlowPunctuation c)

/-- Inside brackets a colon must not be followed by punctuation. -/
def strayColon (flow : Bool) (c : Char) (rest : List Char) : Bool :=
  flow && c = ':' && (rest.head?.map fun d => isFlowPunctuation d || d = '?').getD false

/-- Scans on in a plain scalar.  `text` is what has been read, last character
first; lines have to be indented by `indent`. -/
def scanPlain (flow : Bool) (indent : Nat) (text : List Char) (gap : Gap) (p : Place)
    (s : List Char) : Option Scanned :=
  let finished : Scanned :=
    { text := String.ofList text.reverse, newLine := gap.isLines, place := p, rest := s }
  match s with
  | [] => some finished
  | '\r' :: '\n' :: rest => scanPlain flow indent text (gap.addBreak '\n') p.nextLine rest
  | c :: rest =>
      if isBreak c then scanPlain flow indent text (gap.addBreak c) p.nextLine rest
      else if isSpace c then
        if gap.isLines && c = '\t' && p.column < indent then none
        else scanPlain flow indent text (gap.addSpace c) (p.next c) rest
      else if gap.isLines && !flow && p.column < indent then some finished
      else if !gap.isNone && (c = '#' || (p.column = 0 && isDocumentMark s)) then some finished
      else if strayColon flow c rest then none
      else if endsPlain flow c rest then some finished
      else scanPlain flow indent (c :: (gap.folded.reverse ++ text)) .none (p.next c) rest

def simpleEscape? : Char → Option Char
  | '0' => some '\x00'
  | 'a' => some '\x07'
  | 'b' => some '\x08'
  | 't' | '\t' => some '\t'
  | 'n' => some '\n'
  | 'v' => some '\x0b'
  | 'f' => some '\x0c'
  | 'r' => some '\r'
  | 'e' => some '\x1b'
  | ' ' => some ' '
  | '"' => some '"'
  | '/' => some '/'
  | '\\' => some '\\'
  | 'N' => some '\u0085'
  | '_' => some '\u00a0'
  | 'L' => some '\u2028'
  | 'P' => some '\u2029'
  | _ => none

def codeLength? : Char → Option Nat
  | 'x' => some 2
  | 'u' => some 4
  | 'U' => some 8
  | _ => none

def digitValue? (c : Char) : Option Nat :=
  if c.isDigit then some (c.toNat - '0'.toNat)
  else if 'a' ≤ c ∧ c ≤ 'f' then some (c.toNat - 'a'.toNat + 10)
  else if 'A' ≤ c ∧ c ≤ 'F' then some (c.toNat - 'A'.toNat + 10)
  else none

def natOf? (base : Nat) (digits : List Char) : Option Nat :=
  if digits = [] then none
  else
    digits.foldlM
      (fun n c => (digitValue? c).bind fun d => if d < base then some (base * n + d) else none) 0

/-- A character that is still to come in an escape, or none. -/
inductive Escape where
  | outside
  | backslash
  | code (missing : Nat) (digits : List Char)

/-- Scans on in a quoted scalar after its opening quote. -/
def scanQuoted (double : Bool) (text : List Char) (gap : Gap) (escape : Escape) (p : Place)
    (s : List Char) : Option Scanned :=
  match escape, s with
  | _, [] => none
  | .code missing digits, c :: rest =>
      let digits := digits ++ [c]
      if 1 < missing then
        scanQuoted double text gap (.code (missing - 1) digits) (p.next c) rest
      else
        match natOf? 16 digits with
        | none => none
        | some n =>
            if n.isValidChar then
              scanQuoted double (Char.ofNat n :: text) .none .outside (p.next c) rest
            else none
  | .backslash, '\r' :: '\n' :: rest =>
      scanQuoted double text (.lines true []) .outside p.nextLine rest
  | .backslash, c :: rest =>
      if isBreak c then scanQuoted double text (.lines true []) .outside p.nextLine rest
      else
        match codeLength? c with
        | some n => scanQuoted double text gap (.code n []) (p.next c) rest
        | none =>
            match simpleEscape? c with
            | some d => scanQuoted double (d :: text) .none .outside (p.next c) rest
            | none => none
  | .outside, '\r' :: '\n' :: rest =>
      scanQuoted double text (gap.addBreak '\n') .outside p.nextLine rest
  | .outside, c :: rest =>
      if p.column = 0 && isDocumentMark s then none
      else if isBreak c then scanQuoted double text (gap.addBreak c) .outside p.nextLine rest
      else if isSpace c then scanQuoted double text (gap.addSpace c) .outside (p.next c) rest
      else
        let text := gap.folded.reverse ++ text
        if double then
          if c = '"' then
            some { text := String.ofList text.reverse, newLine := false, place := p.next c, rest }
          else if c = '\\' then scanQuoted double text .none .backslash (p.next c) rest
          else scanQuoted double (c :: text) .none .outside (p.next c) rest
        else if c = '\'' then
          match rest with
          | '\'' :: rest => scanQuoted double ('\'' :: text) .none .outside ((p.next c).next c) rest
          | rest =>
              some { text := String.ofList text.reverse, newLine := false, place := p.next c, rest }
        else scanQuoted double (c :: text) .none .outside (p.next c) rest

end Mustache.Yaml
