/-!
# Compilation errors

What can be wrong with a template source.  Every error carries the line, counted
from one, of the tag that is at fault; for a section that is never closed this
is the line of its opening tag.
-/

namespace Mustache

inductive CompileError where
  | unclosedTag (line : Nat)
  | unclosedSection (name : String) (line : Nat)
  | mismatchedClose (expected found : String) (line : Nat)
  | unexpectedClose (name : String) (line : Nat)
  | emptyTag (line : Nat)
  | invalidExpression (expression : String) (line : Nat)
  | invalidDelimiters (line : Nat)
deriving DecidableEq, Repr

namespace CompileError

def line : CompileError → Nat
  | .unclosedTag n | .unclosedSection _ n | .mismatchedClose _ _ n
  | .unexpectedClose _ n | .emptyTag n | .invalidExpression _ n
  | .invalidDelimiters n => n

def message : CompileError → String
  | .unclosedTag n => s!"Unclosed tag on line {n}"
  | .unclosedSection name n => s!"Unclosed section {name} opened on line {n}"
  | .mismatchedClose expected found n =>
      s!"Mismatched closing tag on line {n}: expected {expected}, found {found}"
  | .unexpectedClose name n => s!"Unexpected closing tag {name} on line {n}"
  | .emptyTag n => s!"Empty tag on line {n}"
  | .invalidExpression expression n =>
      "Invalid expression \x60" ++ expression ++ s!"\x60 on line {n}"
  | .invalidDelimiters n => s!"Invalid set delimiters tag on line {n}"

end CompileError
end Mustache
