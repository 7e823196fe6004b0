import Mustache.Content
import Mustache.Expr.Reader
import Mustache.Source.Delimiters

/-!
# Tokens

Scanning cuts a template source into texts and tags.  Each token keeps the
characters it was read from, so nothing of the source is lost, and each tag is
read as a directive under the delimiters in force where it stands.  A tag that
cannot be read is a directive too: the error takes effect only when the tree is
built, and by then every earlier tag has had its turn.
-/

namespace Mustache

open Mustache.Text

inductive Directive where
  | comment
  /-- A pragma; one that names no content type has no effect. -/
  | pragma (contentType : Option ContentType)
  | delimiters (marks : Delimiters)
  | variableTag (expr : Expr) (escapes : Bool)
  | partialTag (name : String)
  | openSection (inverted : Bool) (expr : Expr)
  /-- The end of a section; an anonymous one has no name. -/
  | closeSection (name : List Char)
  | faulty (error : CompileError)

namespace Directive

/-- The directive `build` makes of the expression written in `s`. -/
def ofExpr (line : Nat) (s : List Char) (build : Expr → Directive) : Directive :=
  match Expr.parse line s with
  | .ok e => build e
  | .error err => .faulty err

def contentTypePragma? (s : List Char) : Option ContentType :=
  if s = "CONTENT_TYPE:TEXT".toList then some .text
  else if s = "CONTENT_TYPE:HTML".toList then some .html
  else none

/-- Reads the content of a tag.  The first character that is not blank tells
the kinds of tags apart. -/
def ofContent (line : Nat) (content : List Char) : Directive :=
  match trim content with
  | [] => .faulty (.emptyTag line)
  | sigil :: t =>
      let rest := trim t
      match sigil with
      | '!' => .comment
      | '=' =>
          match Delimiters.read? (sigil :: t) with
          | some marks => .delimiters marks
          | none => .faulty (.invalidDelimiters line)
      | '%' => .pragma (contentTypePragma? rest)
      | '&' => ofExpr line rest (.variableTag · false)
      | '>' => if rest = [] then .faulty (.emptyTag line) else .partialTag (String.ofList rest)
      | '#' => ofExpr line rest (.openSection false ·)
      | '^' => ofExpr line rest (.openSection true ·)
      | '/' => .closeSection rest
      | _ => ofExpr line (sigil :: t) (.variableTag · true)

def delimitersAfter (d : Delimiters) : Directive → Delimiters
  | .delimiters marks => marks
  | _ => d

end Directive

/-- The inside of a tag as written: between the delimiters, or between one
more pair of braces within them. -/
inductive TagContent where
  | plain (content : List Char)
  | braced (content : List Char)

namespace TagContent

def read? (d : Delimiters) : List Char → Option (TagContent × List Char)
  | '{' :: s =>
      (breakAt ('}' :: d.closer) s).map fun (content, rest) => (.braced content, rest)
  | s => (breakAt d.closer s).map fun (content, rest) => (.plain content, rest)

def raw (d : Delimiters) : TagContent → List Char
  | .plain content => d.opener ++ content ++ d.closer
  | .braced content => d.opener ++ '{' :: content ++ '}' :: d.closer

def directive (line : Nat) : TagContent → Directive
  | .plain content => .ofContent line content
  | .braced content => .ofExpr line content (.variableTag · false)

theorem raw_append_of_read? {d : Delimiters} {s rest : List Char} {tag : TagContent}
    (h : read? d s = some (tag, rest)) : d.opener ++ s = tag.raw d ++ rest := by
  unfold read? at h
  split at h
  all_goals
    obtain ⟨⟨content, r⟩, hbreak, hpair⟩ := Option.map_eq_some_iff.1 h
    obtain ⟨rfl, rfl⟩ := Prod.mk.inj hpair
    simp [raw, eq_append_of_breakAt hbreak]

theorem length_of_read? {d : Delimiters} {s rest : List Char} {tag : TagContent}
    (h : read? d s = some (tag, rest)) : rest.length < s.length := by
  unfold read? at h
  split at h
  all_goals
    obtain ⟨⟨content, r⟩, hbreak, hpair⟩ := Option.map_eq_some_iff.1 h
    obtain ⟨rfl, rfl⟩ := Prod.mk.inj hpair
    have hlen := length_of_breakAt hbreak
    have hpos := d.closer_length_pos
    grind

end TagContent

inductive Token where
  | text (content : List Char)
  | tag (line : Nat) (raw : List Char) (directive : Directive)

namespace Token

def raw : Token → List Char
  | .text content => content
  | .tag _ raw _ => raw

/-- The tokens of `s`, which starts on the given line.  An opening mark whose
tag does not end takes up the rest of the source. -/
def scan (d : Delimiters) (line : Nat) (s : List Char) : List Token :=
  match _hopen : breakAt d.opener s with
  | none => [.text s]
  | some (before, after) =>
      let tagLine := line + before.count '\n'
      match _htag : TagContent.read? d after with
      | none =>
          [.text before, .tag tagLine (d.opener ++ after) (.faulty (.unclosedTag tagLine))]
      | some (found, rest) =>
          let directive := found.directive tagLine
          .text before :: .tag tagLine (found.raw d) directive ::
            scan (directive.delimitersAfter d) (tagLine + (found.raw d).count '\n') rest
termination_by s.length
decreasing_by
  have hbefore := length_of_breakAt _hopen
  have hrest := TagContent.length_of_read? _htag
  omega

/-- Scanning loses nothing. -/
theorem flatMap_raw_scan (d : Delimiters) (line : Nat) (s : List Char) :
    (scan d line s).flatMap raw = s := by
  fun_induction scan d line s with
  | case1 => simp [raw]
  | case2 d line s before after hopen tagLine htag =>
      simp [raw, eq_append_of_breakAt hopen]
  | case3 d line s before after hopen tagLine found rest htag directive ih =>
      simp only [List.flatMap_cons, raw, ih, eq_append_of_breakAt hopen, List.append_assoc]
      rw [TagContent.raw_append_of_read? htag]

end Token
end Mustache
