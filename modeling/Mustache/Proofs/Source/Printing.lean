import Mustache.Proofs.Expr.RoundTrip
import Mustache.Proofs.Source.Fragments

/-!
# Compilation undoes printing

A tree is printed with some delimiters, and the printer has choices: how a variable that
does not escape is written, whether a closing tag repeats the expression, and where
comments stand.  A layout is a tree together with these choices.  The printed text of a
layout is a fragment that adds the nodes of its tree, as long as the texts, names and
comments keep clear of the delimiters.  What that asks for depends on the delimiters:
between double braces little is forbidden, and with other marks, set by a leading tag, no
character of the mark may occur.
-/

namespace Mustache

open Mustache.Text

/-! ## Layouts -/

inductive Layout where
  | done
  | comment (content : List Char) (rest : Layout)
  | text (content : String) (rest : Layout)
  | escaped (expr : Expr) (rest : Layout)
  /-- A variable that does not escape, in braces or with an ampersand. -/
  | unescaped (expr : Expr) (braces : Bool) (rest : Layout)
  | partialTag (name : String) (rest : Layout)
  | sectionTag (inverted : Bool) (expr : Expr) (body : Layout) (named : Bool) (rest : Layout)

namespace Layout

def sigil : Bool → Char
  | false => '#'
  | true => '^'

def closingName (e : Expr) : Bool → List Char
  | false => []
  | true => e.text.toList

def variableContent (e : Expr) : Bool → TagContent
  | false => .plain ('&' :: e.text.toList)
  | true => .braced e.text.toList

def print (d : Delimiters) : Layout → List Char
  | .done => []
  | .comment content rest => (TagContent.plain ('!' :: content)).raw d ++ rest.print d
  | .text content rest => content.toList ++ rest.print d
  | .escaped e rest => (TagContent.plain e.text.toList).raw d ++ rest.print d
  | .unescaped e braces rest => (variableContent e braces).raw d ++ rest.print d
  | .partialTag name rest => (TagContent.plain ('>' :: name.toList)).raw d ++ rest.print d
  | .sectionTag inverted e body named rest =>
      (TagContent.plain (sigil inverted :: e.text.toList)).raw d ++
        (body.print d ++ (TagContent.plain ('/' :: closingName e named)).raw d) ++
          rest.print d

/-- The tree; the source of a section is the printed text of its body. -/
def nodes (d : Delimiters) : Layout → List Node
  | .done => []
  | .comment _ rest => rest.nodes d
  | .text content rest => .text content :: rest.nodes d
  | .escaped e rest => .variableTag e true :: rest.nodes d
  | .unescaped e _ rest => .variableTag e false :: rest.nodes d
  | .partialTag name rest => .partialTag name :: rest.nodes d
  | .sectionTag inverted e body _ rest =>
      .sectionTag inverted e (body.nodes d) (String.ofList (body.print d)) :: rest.nodes d

def StartsWithText : Layout → Prop
  | .text _ _ => True
  | .comment _ rest => rest.StartsWithText
  | _ => False

end Layout

/-- What the texts, the expressions and names, and the comments of a layout may be. -/
structure PrintRules where
  text : List Char → Prop
  word : List Char → Prop
  comment : List Char → Prop

/-- The layout can be read back: it keeps the rules, texts are not empty and do not touch,
and expressions and names are well formed. -/
def Layout.Keeps (rules : PrintRules) : Layout → Prop
  | .done => True
  | .comment content rest => rules.comment content ∧ rest.Keeps rules
  | .text content rest =>
      content ≠ "" ∧ rules.text content.toList ∧ ¬ rest.StartsWithText ∧ rest.Keeps rules
  | .escaped e rest | .unescaped e _ rest =>
      e.WellFormed ∧ rules.word e.text.toList ∧ rest.Keeps rules
  | .partialTag name rest =>
      name ≠ "" ∧ trim name.toList = name.toList ∧ '}' ∉ name.toList ∧
        rules.word name.toList ∧ rest.Keeps rules
  | .sectionTag _ e body _ rest =>
      e.WellFormed ∧ rules.word e.text.toList ∧ body.Keeps rules ∧ rest.Keeps rules

namespace PrintRules

def braces : PrintRules where
  text := fun t => ¬ ['{', '{'] <:+: t ∧ t.getLast? ≠ some '{'
  word := fun _ => True
  comment := fun content => '}' ∉ content

def marks (d : Delimiters) : PrintRules where
  text := fun t => ∀ c ∈ d.opener, c ∉ t
  word := fun w => ∀ c ∈ d.closer, c ∉ w
  comment := fun _ => False

/-- What keeps the rules can be read between the delimiters. -/
structure Suit (rules : PrintRules) (d : Delimiters) : Prop where
  text {t : List Char} : rules.text t → Unmarked d.opener t
  closer_head {m : Char} : d.closer.head? = some m → m ∉ ['#', '^', '/', '&', '>']
  word {m : Char} {w : List Char} :
    d.closer.head? = some m → rules.word w → '}' ∉ w → m ∉ w
  comment {m : Char} {content : List Char} :
    d.closer.head? = some m → rules.comment content → m ∉ '!' :: content

theorem braces_suit : braces.Suit .standard where
  text := fun ht => unmarked_double ht.1 ht.2
  closer_head := fun hm => by
    obtain rfl : '}' = _ := Option.some.inj hm
    decide
  word := fun hm _ hbrace => by
    obtain rfl : '}' = _ := Option.some.inj hm
    exact hbrace
  comment := fun hm hcontent => by
    obtain rfl : '}' = _ := Option.some.inj hm
    simpa [braces] using hcontent

end PrintRules

/-- The delimiters can be set by a tag between double braces and do not look like the
start of a tag. -/
structure Delimiters.Settable (d : Delimiters) : Prop where
  plain : ∀ c ∈ d.opener ++ d.closer, isBlank c = false ∧ c ∉ ['=', '{', '}']
  closer_head : ∀ m, d.closer.head? = some m → m ∉ ['#', '^', '/', '&', '>']

theorem Delimiters.settable_percent :
    Settable ⟨['<', '%'], ['%', '>'], by decide, by decide⟩ where
  plain := by
    simp only [List.cons_append, List.nil_append, List.forall_mem_cons, List.not_mem_nil,
      false_implies, implies_true]
    decide
  closer_head := fun m hm => by
    obtain rfl : '%' = m := Option.some.inj hm
    decide

theorem PrintRules.marks_suit {d : Delimiters} (hd : d.Settable) : (marks d).Suit d where
  text := fun {t} ht => by
    obtain ⟨m, opener, hopener⟩ := List.exists_cons_of_ne_nil d.opener_ne_nil
    rw [hopener]
    exact unmarked_of_head_notMem (ht m (by simp [hopener]))
  closer_head := fun hm => hd.closer_head _ hm
  word := fun hm hw _ => hw _ (List.mem_of_head? hm)
  comment := fun _ hcontent => hcontent.elim

/-! ## What printed tags mean -/

namespace TagContent

section Expressions

variable {e : Expr} (he : e.WellFormed)
include he

theorem means_escaped : (plain e.text.toList).Means (.variableTag e true) := by
  intro line
  have hwritten := Expr.written_text he
  have hparse := Expr.parse_written hwritten line
  obtain ⟨c, t, hct, hc⟩ := hwritten.exists_head
  have htrim := hwritten.trim_eq
  rw [hct] at htrim hparse ⊢
  simp only [directive, Directive.ofContent, htrim]
  split
  case h_9 => simp only [Directive.ofExpr, hparse]
  all_goals exact absurd hc (by decide)

theorem means_unescaped (inBraces : Bool) :
    (Layout.variableContent e inBraces).Means (.variableTag e false) := by
  intro line
  have hwritten := Expr.written_text he
  cases inBraces with
  | true =>
      simp only [Layout.variableContent, directive, Directive.ofExpr,
        Expr.parse_written hwritten]
  | false =>
      have hsigil := trim_cons_of_trimmed (c := '&') rfl hwritten.trim_eq
      simp only [Layout.variableContent, directive, Directive.ofContent, hsigil,
        hwritten.trim_eq, Directive.ofExpr, Expr.parse_written hwritten]

theorem means_openSection (inverted : Bool) :
    (plain (Layout.sigil inverted :: e.text.toList)).Means (.openSection inverted e) := by
  intro line
  have hwritten := Expr.written_text he
  have hsigil : ∀ c, isBlank c = false → trim (c :: e.text.toList) = c :: e.text.toList :=
    fun c hc => trim_cons_of_trimmed hc hwritten.trim_eq
  cases inverted <;>
    simp only [Layout.sigil, directive, Directive.ofContent, hsigil '#' rfl, hsigil '^' rfl,
      hwritten.trim_eq, Directive.ofExpr, Expr.parse_written hwritten]

theorem means_closeSection (named : Bool) :
    (plain ('/' :: Layout.closingName e named)).Means
      (.closeSection (Layout.closingName e named)) := by
  intro line
  have htrim : trim (Layout.closingName e named) = Layout.closingName e named := by
    cases named with
    | false => rfl
    | true => exact (Expr.written_text he).trim_eq
  have hsigil := trim_cons_of_trimmed (c := '/') rfl htrim
  simp only [directive, Directive.ofContent, hsigil, htrim]

end Expressions

theorem means_comment (content : List Char) : (plain ('!' :: content)).Means .comment := by
  intro line
  simp only [directive, Directive.ofContent, trim_cons (c := '!') rfl]

theorem means_partialTag {name : String} (hne : name ≠ "")
    (htrim : trim name.toList = name.toList) :
    (plain ('>' :: name.toList)).Means (.partialTag name) := by
  intro line
  have hname : name.toList ≠ [] := by simpa using hne
  have hsigil := trim_cons_of_trimmed (c := '>') rfl htrim
  simp only [directive, Directive.ofContent, hsigil, htrim, if_neg hname,
    String.ofList_toList]

end TagContent

theorem Expr.closedBy_closingName {e : Expr} (he : e.WellFormed) (named : Bool) :
    e.ClosedBy (Layout.closingName e named) := by
  intro o line ho
  cases named with
  | false => rfl
  | true =>
      have hwritten := Expr.written_text he
      obtain ⟨c, t, hct, -⟩ := hwritten.exists_head
      have hne : e.text.toList ≠ [] := by simp [hct]
      simp only [OpenSection.accepts, Layout.closingName, if_neg hne,
        Expr.parse_written hwritten, ho]
      exact if_pos rfl

/-! ## Printed layouts are fragments -/

variable {d : Delimiters}

/-- The first character of the closing mark does not occur in `w`. -/
def Delimiters.Clear (d : Delimiters) (w : List Char) : Prop :=
  ∀ m, d.closer.head? = some m → m ∉ w

theorem TagContent.closed_of_clear {c : Char} {w : List Char} (hc : c ≠ '{')
    (hclear : d.Clear (c :: w)) : (plain (c :: w)).Closed d := by
  have hhead : (c :: w ++ d.closer).head? ≠ some '{' := by simpa using hc
  refine closed_plain hhead ?_
  obtain ⟨m, closer, hcloser⟩ := List.exists_cons_of_ne_nil d.closer_ne_nil
  have hm := hclear m (by simp [hcloser])
  rw [hcloser]
  exact unmarked_of_head_notMem hm

namespace PrintRules.Suit

variable {rules : PrintRules} (hrules : rules.Suit d)
include hrules

theorem clear_word {w : List Char} (hw : rules.word w) (hbrace : '}' ∉ w) : d.Clear w :=
  fun _ hm => hrules.word hm hw hbrace

theorem closed_sigil {c : Char} {w : List Char} (hc : c ∈ ['#', '^', '/', '&', '>'])
    (hw : d.Clear w) : (TagContent.plain (c :: w)).Closed d := by
  refine TagContent.closed_of_clear ?_ ?_
  · rintro rfl
    exact absurd hc (by decide)
  · intro m hm hmem
    rcases List.mem_cons.1 hmem with rfl | hmem
    · exact hrules.closer_head hm hc
    · exact hw m hm hmem

theorem closed_comment {content : List Char} (hcontent : rules.comment content) :
    (TagContent.plain ('!' :: content)).Closed d :=
  TagContent.closed_of_clear (by decide) fun _ hm => hrules.comment hm hcontent

variable {e : Expr} (he : e.WellFormed) (hword : rules.word e.text.toList)
include he hword

theorem clear_expr : d.Clear e.text.toList :=
  hrules.clear_word hword (Expr.written_text he).brace_notMem

theorem closed_escaped : (TagContent.plain e.text.toList).Closed d := by
  have hclear := hrules.clear_expr he hword
  obtain ⟨c, t, hct, hc⟩ := (Expr.written_text he).exists_head
  rw [hct] at hclear ⊢
  refine TagContent.closed_of_clear ?_ hclear
  rintro rfl
  exact absurd hc (by decide)

theorem closed_unescaped (inBraces : Bool) :
    (Layout.variableContent e inBraces).Closed d := by
  cases inBraces with
  | false => exact hrules.closed_sigil (by decide) (hrules.clear_expr he hword)
  | true =>
      exact TagContent.closed_braced
        (unmarked_of_head_notMem (Expr.written_text he).brace_notMem)

theorem closed_openSection (inverted : Bool) :
    (TagContent.plain (Layout.sigil inverted :: e.text.toList)).Closed d := by
  refine hrules.closed_sigil ?_ (hrules.clear_expr he hword)
  cases inverted <;> decide

theorem closed_closeSection (named : Bool) :
    (TagContent.plain ('/' :: Layout.closingName e named)).Closed d := by
  refine hrules.closed_sigil (by decide) ?_
  cases named with
  | false => exact fun m _ => List.not_mem_nil
  | true => exact hrules.clear_expr he hword

end PrintRules.Suit

namespace Layout

theorem boundary_print {l : Layout} {rest : List Char} (hl : ¬ l.StartsWithText)
    (hrest : d.Boundary rest) : d.Boundary (l.print d ++ rest) := by
  cases l with
  | done => exact hrest
  | text content tail => exact absurd trivial hl
  | comment | escaped | unescaped | partialTag | sectionTag =>
      simp only [print, List.append_assoc]
      exact TagContent.boundary_raw _ d _

theorem reads {rules : PrintRules} (hrules : rules.Suit d) {l : Layout}
    (hl : l.Keeps rules) {rest : List Char} (hrest : d.Boundary rest) :
    Reads d d none (l.nodes d) (l.print d) rest := by
  induction l generalizing rest with
  | done => exact Reads.nil
  | comment content tail ih =>
      obtain ⟨hcontent, htail⟩ := hl
      exact (Reads.leaf (hrules.closed_comment hcontent) (TagContent.means_comment content)
        rfl).append (ih htail hrest)
  | text content tail ih =>
      obtain ⟨hne, htext, hapart, htail⟩ := hl
      have hnodes : textNodes content.toList = [.text content] := by
        simp [textNodes, hne]
      have hfirst := Reads.text (hrules.text htext) (boundary_print hapart hrest)
      rw [hnodes] at hfirst
      exact hfirst.append (ih htail hrest)
  | escaped e tail ih =>
      obtain ⟨he, hword, htail⟩ := hl
      exact (Reads.leaf (hrules.closed_escaped he hword) (TagContent.means_escaped he)
        rfl).append (ih htail hrest)
  | unescaped e inBraces tail ih =>
      obtain ⟨he, hword, htail⟩ := hl
      exact (Reads.leaf (hrules.closed_unescaped he hword inBraces)
        (TagContent.means_unescaped he inBraces) rfl).append (ih htail hrest)
  | partialTag name tail ih =>
      obtain ⟨hne, htrim, hbrace, hword, htail⟩ := hl
      have hclosed := hrules.closed_sigil (c := '>') (by decide) (hrules.clear_word hword hbrace)
      exact (Reads.leaf hclosed (TagContent.means_partialTag hne htrim) rfl).append
        (ih htail hrest)
  | sectionTag inverted e body named tail ihbody ihtail =>
      obtain ⟨he, hword, hbody, htail⟩ := hl
      have hinner := ihbody hbody (TagContent.boundary_raw
        (.plain ('/' :: closingName e named)) d (tail.print d ++ rest))
      exact (Reads.enclosed (hrules.closed_openSection he hword inverted)
        (TagContent.means_openSection he inverted) hinner
        (hrules.closed_closeSection he hword named) (TagContent.means_closeSection he named)
        (Expr.closedBy_closingName he named)).append (ihtail htail hrest)

end Layout

/-! ## Setting delimiters -/

namespace Delimiters

def setting (d : Delimiters) : List Char :=
  '=' :: (d.opener ++ ' ' :: d.closer ++ ['='])

theorem Settable.not_isBlank_opener (hd : d.Settable) :
    ∀ c ∈ d.opener, isBlank c = false :=
  fun c hc => (hd.plain c (List.mem_append_left d.closer hc)).1

theorem Settable.not_isBlank_closer (hd : d.Settable) :
    ∀ c ∈ d.closer, isBlank c = false :=
  fun c hc => (hd.plain c (List.mem_append_right d.opener hc)).1

theorem words_marks (hd : d.Settable) :
    words (d.opener ++ ' ' :: d.closer) = [d.opener, d.closer] := by
  have hopener : trimStart (d.opener ++ ' ' :: d.closer) = d.opener ++ ' ' :: d.closer := by
    obtain ⟨c, opener, hcons⟩ := List.exists_cons_of_ne_nil d.opener_ne_nil
    have hc := hd.not_isBlank_opener c (by simp [hcons])
    rw [hcons, List.cons_append, trimStart_cons hc]
  have hcloser : trimStart (' ' :: d.closer) = d.closer ++ [] := by
    obtain ⟨c, closer, hcons⟩ := List.exists_cons_of_ne_nil d.closer_ne_nil
    have hc := hd.not_isBlank_closer c (by simp [hcons])
    rw [List.append_nil, hcons]
    exact trimStart_cons hc closer
  have hblank : ∀ c, (' ' :: d.closer).head? = some c → isBlank c = true := by
    rintro c hc
    obtain rfl : ' ' = c := Option.some.inj hc
    rfl
  rw [words_of_trimStart hopener d.opener_ne_nil hd.not_isBlank_opener hblank,
    words_of_trimStart hcloser d.closer_ne_nil hd.not_isBlank_closer (by simp), words_nil]

theorem ofMarks?_marks (hd : d.Settable) :
    ofMarks? (d.opener ++ ' ' :: d.closer) = some d := by
  have hequals : ¬ ('=' ∈ d.opener ∨ '=' ∈ d.closer) := by
    rw [← List.mem_append]
    exact fun h => (hd.plain '=' h).2 (by decide)
  unfold ofMarks?
  split
  · next o c hwords =>
    have hpair : [d.opener, d.closer] = [o, c] := (words_marks hd).symm.trans hwords
    simp only [List.cons.injEq, and_true] at hpair
    obtain ⟨rfl, rfl⟩ := hpair
    rw [if_neg hequals]
  · next hwords => exact absurd (words_marks hd) (hwords _ _)

theorem read?_concat (s : List Char) : read? ('=' :: (s ++ ['='])) = ofMarks? s := by
  simp [read?]

theorem means_setting (hd : d.Settable) :
    (TagContent.plain d.setting).Means (.delimiters d) := by
  intro line
  have htrim : trim d.setting = d.setting :=
    trim_eq_self rfl rfl (List.cons_append (a := '=')).symm rfl
  have hread : read? d.setting = some d := by
    rw [setting, read?_concat, ofMarks?_marks hd]
  rw [setting] at htrim hread
  simp only [TagContent.directive, Directive.ofContent, setting, htrim, hread]

theorem closed_setting (hd : d.Settable) :
    (TagContent.plain d.setting).Closed .standard := by
  have hbrace : '}' ∉ d.setting := by
    have hmarks : '}' ∉ d.opener ++ d.closer :=
      fun h => (hd.plain '}' h).2 (by decide)
    simpa [setting] using hmarks
  refine TagContent.closed_of_clear (by decide) ?_
  intro m hm
  obtain rfl : '}' = m := Option.some.inj hm
  exact hbrace

end Delimiters

/-- A printed tree compiles to itself, each section with the printed text of its body. -/
theorem compile_print :
    (∀ l : Layout, l.Keeps .braces →
      compile (String.ofList (l.print .standard)) =
        .ok { nodes := l.nodes .standard, contentType := none }) ∧
    (∀ (d : Delimiters) (l : Layout), d.Settable → l.Keeps (.marks d) →
      compile (String.ofList (['{', '{', '='] ++ d.opener ++ ' ' :: d.closer ++
        ['=', '}', '}'] ++ l.print d)) = .ok { nodes := l.nodes d, contentType := none }) := by
  constructor
  · intro l hl
    exact (Layout.reads PrintRules.braces_suit hl (.inl rfl)).compile_eq
  · intro d l hd hl
    have htag : Reads .standard d none [] ((TagContent.plain d.setting).raw .standard)
        (l.print d ++ []) :=
      Reads.leaf (Delimiters.closed_setting hd) (Delimiters.means_setting hd) rfl
    have hsource : ['{', '{', '='] ++ d.opener ++ ' ' :: d.closer ++ ['=', '}', '}'] ++
        l.print d = (TagContent.plain d.setting).raw .standard ++ l.print d := by
      simp [TagContent.raw, Delimiters.setting, Delimiters.standard]
    rw [hsource]
    exact (htag.append (Layout.reads (PrintRules.marks_suit hd) hl (.inl rfl))).compile_eq

theorem compile_print_sections :
    compile "<{{#f(.x)}}{{! c }}{{{a.b}}}{}{{/}}{{>p}}" = .ok
      { nodes := [.text "<",
          .sectionTag false (.call (.name "f") (.member .implicit "x"))
            [.variableTag (.member (.name "a") "b") false, .text "{}"] "{{! c }}{{{a.b}}}{}",
          .partialTag "p"]
        contentType := none } ∧
    compile "{{=<% %>=}}{{x}}<%^.%>{ }<%&a%><%/.%>" = .ok
      { nodes := [.text "{{x}}",
          .sectionTag true .implicit [.text "{ }", .variableTag (.name "a") false] "{ }<%&a%>"]
        contentType := none } := by
  let braced : Layout :=
    .text "<" (.sectionTag false (.call (.name "f") (.member .implicit "x"))
      (.comment " c ".toList
        (.unescaped (.member (.name "a") "b") true (.text "{}" .done))) false
      (.partialTag "p" .done))
  let d : Delimiters := ⟨['<', '%'], ['%', '>'], by decide, by decide⟩
  let marked : Layout :=
    .text "{{x}}" (.sectionTag true .implicit
      (.text "{ }" (.unescaped (.name "a") false .done)) true .done)
  have hbraced : braced.Keeps .braces := by
    simp only [braced, Layout.Keeps, PrintRules.braces, Expr.WellFormed,
      Layout.StartsWithText]
    decide
  have hmarked : marked.Keeps (.marks d) := by
    simp only [marked, d, Layout.Keeps, PrintRules.marks, Expr.WellFormed,
      Layout.StartsWithText, List.forall_mem_cons, List.not_mem_nil,
      false_implies, implies_true]
    decide
  have hfirst := compile_print.1 braced hbraced
  have hsecond := compile_print.2 d marked Delimiters.settable_percent hmarked
  exact ⟨hfirst, hsecond⟩

end Mustache
