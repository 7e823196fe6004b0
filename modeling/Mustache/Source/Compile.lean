import Mustache.Node
import Mustache.Source.Token

/-!
# Compilation

A template source is compiled by folding its tokens into a tree under
construction.  The tree has one open level for each section that is still open
and one for the whole document; closing a section turns the innermost level
into a node of the next one.  A level also keeps the characters it was read
from, which become the source of the section.
-/

namespace Mustache

structure Compiled where
  nodes : List Node
  /-- The content type that the last pragma asks for. -/
  contentType : Option ContentType
deriving Repr, Inhabited

/-- The nodes of one nesting level and the texts of its tokens, last first. -/
structure Level where
  nodes : List Node := []
  raws : List (List Char) := []

namespace Level

def source (l : Level) : List Char :=
  l.raws.reverse.flatten

def read (l : Level) (raw : List Char) : Level :=
  { l with raws := raw :: l.raws }

def push (l : Level) (node : Node) (raw : List Char) : Level :=
  { nodes := node :: l.nodes, raws := raw :: l.raws }

end Level

/-- A section whose closing tag has not been read yet. -/
structure OpenSection where
  inverted : Bool
  expr : Expr
  line : Nat
  openTag : List Char
  /-- The level the section stands in, as it was before the section. -/
  outer : Level

namespace OpenSection

/-- Whether a closing tag may have this name.  An anonymous tag closes any
section; a named one has to repeat the expression of the opening tag. -/
def accepts (o : OpenSection) (line : Nat) (name : List Char) : Except CompileError Unit :=
  if name = [] then .ok ()
  else do
    let e ← Expr.parse line name
    if e.text = o.expr.text then .ok ()
    else .error (.mismatchedClose o.expr.text (String.ofList name) line)

def close (o : OpenSection) (body : Level) (closeTag : List Char) : Level :=
  let source := body.source
  let node := Node.sectionTag o.inverted o.expr body.nodes.reverse (String.ofList source)
  o.outer.push node (o.openTag ++ source ++ closeTag)

end OpenSection

structure Builder where
  contentType : Option ContentType := none
  level : Level := {}
  /-- The open sections, innermost first. -/
  opened : List OpenSection := []

namespace Builder

def push (b : Builder) (node : Node) (raw : List Char) : Builder :=
  { b with level := b.level.push node raw }

def read (b : Builder) (raw : List Char) : Builder :=
  { b with level := b.level.read raw }

def follow (b : Builder) (line : Nat) (raw : List Char) :
    Directive → Except CompileError Builder
  | .comment => .ok (b.read raw)
  | .pragma contentType =>
      .ok { b.read raw with contentType := contentType <|> b.contentType }
  | .delimiters _ => .ok (b.read raw)
  | .variableTag e escapes => .ok (b.push (.variableTag e escapes) raw)
  | .partialTag name => .ok (b.push (.partialTag name) raw)
  | .openSection inverted e =>
      .ok { b with
        level := {}
        opened := { inverted, expr := e, line, openTag := raw, outer := b.level } :: b.opened }
  | .closeSection name =>
      match b.opened with
      | [] => .error (.unexpectedClose (String.ofList name) line)
      | o :: opened => do
          o.accepts line name
          return { b with level := o.close b.level raw, opened }
  | .faulty err => .error err

def step (b : Builder) : Token → Except CompileError Builder
  | .text [] => .ok b
  | .text (c :: t) => .ok (b.push (.text (String.ofList (c :: t))) (c :: t))
  | .tag line raw directive => b.follow line raw directive

def finish (b : Builder) : Except CompileError Compiled :=
  match b.opened with
  | [] => .ok { nodes := b.level.nodes.reverse, contentType := b.contentType }
  | o :: _ => .error (.unclosedSection o.expr.text o.line)

end Builder

def compileChars (s : List Char) : Except CompileError Compiled := do
  let b ← (Token.scan .standard 1 s).foldlM Builder.step {}
  b.finish

def compile (source : String) : Except CompileError Compiled :=
  compileChars source.toList

end Mustache
