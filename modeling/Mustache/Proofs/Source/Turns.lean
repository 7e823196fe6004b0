import Mustache.Proofs.Source.Offsets
import Mustache.Proofs.Source.Positions

/-!
# Turns of the scanning loop

At the beginning of each turn the cursor is where the tree under construction has been read up
to.  The offset of the next turn ends what has been read, the offset at which lines were counted
last lies within it, and the body of each open section begins behind the opening tag that the
tree has kept.  So every slice is a part of the source, and a turn reads one tag as the scan
does.
-/

namespace Mustache

open Mustache.Text
open String (utf8Len)

/-! ## Marks -/

def Delimiters.pair (d : Delimiters) : List Char × List Char :=
  (d.opener, d.closer)

theorem marks?_eq (s : List Char) : marks? s = (Delimiters.ofMarks? s).map Delimiters.pair := by
  unfold Delimiters.ofMarks?
  split
  · next o c hwords =>
    simp only [marks?, hwords]
    split <;> rfl
  · next hne =>
    unfold marks?
    split
    · next o c hwords => exact absurd hwords (hne o c)
    · rfl

theorem readMarks?_eq (s : List Char) :
    readMarks? s = (Delimiters.read? s).map Delimiters.pair := by
  unfold Delimiters.read?
  split
  · next t =>
    rw [readMarks?, marks?_eq]
    split <;> rfl
  · next hne =>
    unfold readMarks?
    split
    · next t => exact absurd rfl (hne t)
    · rfl

/-! ## The source that has been read -/

/-- The source up to the body of the innermost section. -/
def enclosing : List OpenSection → List Char
  | [] => []
  | o :: outer => enclosing outer ++ (o.outer.source ++ o.openTag)

/-- The source that the tree has been read from. -/
def Builder.consumed (b : Builder) : List Char :=
  enclosing b.opened ++ b.level.source

@[simp] theorem Builder.consumed_push (b : Builder) (node : Node) (raw : List Char) :
    (b.push node raw).consumed = b.consumed ++ raw := by
  simp [consumed, push]

@[simp] theorem Builder.consumed_read (b : Builder) (raw : List Char) :
    (b.read raw).consumed = b.consumed ++ raw := by
  simp [consumed, read]

@[simp] theorem Builder.consumed_addText (b : Builder) (t : List Char) :
    ({ b with level := b.level.addText t } : Builder).consumed = b.consumed ++ t := by
  simp [consumed]

theorem Builder.consumed_follow {b b' : Builder} {line : Nat} {raw : List Char}
    {directive : Directive} (h : b.follow line raw directive = .ok b') :
    b'.consumed = b.consumed ++ raw := by
  cases directive with
  | comment | pragma | delimiters =>
      obtain rfl := Except.ok.inj h
      exact b.consumed_read raw
  | variableTag | partialTag =>
      obtain rfl := Except.ok.inj h
      exact b.consumed_push _ raw
  | openSection inverted e =>
      obtain rfl := Except.ok.inj h
      simp [consumed, enclosing]
  | closeSection name =>
      obtain ⟨o, outer, hopened, -, rfl⟩ := closed_of_follow h
      simp [consumed, hopened, enclosing, OpenSection.source_close]
  | faulty err => simp [follow] at h

/-- The open sections with offsets in place of what has been read. -/
def unclosed : List OpenSection → List Unclosed
  | [] => []
  | o :: outer =>
      { inverted := o.inverted
        expr := o.expr
        line := o.line
        bodyStart := utf8Len (enclosing (o :: outer))
        parent := o.outer.nodes.reverse } :: unclosed outer

/-! ## The rest of a source -/

section Complete

variable {b : Builder} {d : Delimiters} {line : Nat} {s before after : List Char}

theorem Builder.complete_of_none (hopen : breakAt d.opener s = none) :
    b.complete d line s = ({ b with level := b.level.addText s } : Builder).finish := by
  rw [complete, Token.scan_of_none hopen, List.foldlM_cons, step_text]
  rfl

variable (hopen : breakAt d.opener s = some (before, after))
include hopen

theorem Builder.complete_of_unclosed (hread : TagContent.read? d after = none) :
    b.complete d line s = .error (.unclosedTag (line + before.count '\n')) := by
  rw [complete, Token.scan_of_unclosed hopen hread, List.foldlM_cons, step_text]
  rfl

theorem Builder.complete_of_tag {found : TagContent} {rest : List Char}
    (hread : TagContent.read? d after = some (found, rest)) :
    let tagLine := line + before.count '\n'
    let directive := found.directive tagLine
    b.complete d line s =
      ({ b with level := b.level.addText before } : Builder).follow tagLine (found.raw d)
          directive >>= fun b' =>
        b'.complete (directive.delimitersAfter d) (tagLine + (found.raw d).count '\n') rest := by
  intro tagLine directive
  rw [eq_append_of_breakAt hopen, List.append_assoc, TagContent.raw_append_of_read? hread,
    complete_text (unmarked_of_breakAt d.opener_ne_nil hopen) (found.boundary_raw d rest),
    complete_tag (TagContent.closed_of_read? hread)]

theorem utf8Len_of_tag {found : TagContent} {rest : List Char}
    (hread : TagContent.read? d after = some (found, rest)) : utf8Len rest < utf8Len s := by
  have hopener : utf8Len d.opener ≠ 0 := by
    rw [Ne, String.utf8Len_eq_zero]
    exact d.opener_ne_nil
  rw [eq_append_of_breakAt hopen, List.append_assoc, TagContent.raw_append_of_read? hread,
    found.raw_eq]
  simp only [String.utf8Len_append]
  omega

end Complete

theorem Unclosed.accepts_eq {o : Unclosed} (o' : OpenSection) (h : o.expr = o'.expr)
    (line : Nat) (name : List Char) :
    o.accepts line name = rejecting (o'.accepts line name) := by
  unfold Unclosed.accepts OpenSection.accepts
  split
  · rfl
  · cases Expr.parse line name with
    | error err => rfl
    | ok e =>
        change (if e.text = o.expr.text then _ else _) =
          rejecting (if e.text = o'.expr.text then _ else _)
        rw [h]
        split <;> rfl

/-! ## One turn -/

/-- The characters that tell the kinds of tags apart. -/
def sigils : List Char :=
  ['!', '=', '%', '&', '>', '#', '^', '/']

theorem Directive.ofContent_of_not_sigil {content t : List Char} {sigil : Char}
    (hcontent : trim content = sigil :: t) (h : sigil ∉ sigils) (line : Nat) :
    ofContent line content = ofExpr line (sigil :: t) (.variableTag · true) := by
  simp only [ofContent, hcontent]
  split
  case h_9 => rfl
  all_goals exact absurd (by decide) h

theorem Cursor.act_of_not_sigil {t : List Char} {sigil : Char} (h : sigil ∉ sigils) (c : Cursor)
    (source : String) (tagStart : Nat) :
    c.act source tagStart (sigil :: t) = c.pushVariable (sigil :: t) true := by
  unfold act
  simp only
  split
  case h_9 => rfl
  all_goals exact absurd (by decide) h

/-- The same error, or results related by `R`. -/
inductive Tracks {α β : Type} (R : α → β → Prop) :
    Except CompileError α → Except Stop β → Prop where
  | ok {a : α} {b : β} : R a b → Tracks R (.ok a) (.ok b)
  | error {err : CompileError} : Tracks R (.error err) (.error (.rejected err))

theorem Tracks.imp {α β : Type} {R S : α → β → Prop} {x : Except CompileError α}
    {y : Except Stop β} (h : Tracks R x y) (himp : ∀ a b, x = .ok a → R a b → S a b) :
    Tracks S x y := by
  cases h with
  | ok hR => exact .ok (himp _ _ rfl hR)
  | error => exact .error

namespace Cursor

/-- The marks and the tree of the cursor. -/
structure Holds (c : Cursor) (b : Builder) (d : Delimiters) : Prop where
  opener_eq : c.opener = d.opener
  closer_eq : c.closer = d.closer
  contentType_eq : c.contentType = b.contentType
  nodes_eq : c.nodes = b.level.nodes.reverse
  opened_eq : c.opened = unclosed b.opened

/-- The offsets of the cursor and the line of the second one. -/
def place (c : Cursor) : Nat × Nat × Nat :=
  (c.pos, c.counted, c.line)

variable {c : Cursor} {b : Builder} {d : Delimiters}

theorem Holds.push (h : c.Holds b d) (node : Node) (raw : List Char) :
    (c.push node).Holds (b.push node raw) d where
  opener_eq := h.opener_eq
  closer_eq := h.closer_eq
  contentType_eq := h.contentType_eq
  nodes_eq := by simp [Cursor.push, Builder.push, Level.push, h.nodes_eq]
  opened_eq := h.opened_eq

theorem Holds.read (h : c.Holds b d) (raw : List Char) : c.Holds (b.read raw) d where
  opener_eq := h.opener_eq
  closer_eq := h.closer_eq
  contentType_eq := h.contentType_eq
  nodes_eq := h.nodes_eq
  opened_eq := h.opened_eq

theorem Holds.pushText (h : c.Holds b d) (t : List Char) :
    (c.pushText t).Holds { b with level := b.level.addText t } d := by
  cases t with
  | nil => exact h
  | cons x t => exact h.push _ _

/-- Acting on a tag does what following it does and leaves the offsets alone. -/
def Acts (c : Cursor) (d : Delimiters) (b' : Builder) (c' : Cursor) : Prop :=
  c'.Holds b' d ∧ c'.place = c.place

section Tags

variable (h : c.Holds b d) (raw : List Char)
include h

theorem Holds.tracks_pushVariable (s : List Char) (escapes : Bool) :
    let directive := Directive.ofExpr c.line s (.variableTag · escapes)
    Tracks (c.Acts (directive.delimitersAfter d)) (b.follow c.line raw directive)
      (c.pushVariable s escapes) := by
  unfold Directive.ofExpr pushVariable
  cases Expr.parse c.line s with
  | error err => exact .error
  | ok e => exact .ok ⟨h.push _ _, rfl⟩

theorem Holds.tracks_openSection (hpos : c.pos = utf8Len (b.consumed ++ raw)) (inverted : Bool)
    (s : List Char) :
    let directive := Directive.ofExpr c.line s (.openSection inverted ·)
    Tracks (c.Acts (directive.delimitersAfter d)) (b.follow c.line raw directive)
      (c.openSection inverted s) := by
  unfold Directive.ofExpr openSection
  cases Expr.parse c.line s with
  | error err => exact .error
  | ok e =>
      refine .ok ⟨⟨h.opener_eq, h.closer_eq, h.contentType_eq, rfl, ?_⟩, rfl⟩
      simp [unclosed, enclosing, hpos, h.nodes_eq, h.opened_eq, Builder.consumed]

theorem Holds.tracks_closeSection {source : String} {rest : List Char}
    (hsource : source.toList = b.consumed ++ rest) (name : List Char) :
    Tracks (c.Acts d) (b.follow c.line raw (.closeSection name))
      (c.closeSection source (utf8Len b.consumed) name) := by
  unfold Builder.follow closeSection
  rw [h.opened_eq]
  cases hopened : b.opened with
  | nil => exact .error
  | cons o outer =>
      have hbody : slice source (utf8Len (enclosing (o :: outer))) (utf8Len b.consumed) =
          .ok b.level.source := by
        rw [Builder.consumed, hopened, String.utf8Len_append]
        exact slice_eq_ok (by rw [hsource, Builder.consumed, hopened])
      simp only [unclosed]
      rw [Unclosed.accepts_eq o rfl]
      cases o.accepts c.line name with
      | error err => exact .error
      | ok =>
          change Tracks _ _ ((slice source (utf8Len (enclosing (o :: outer)))
            (utf8Len b.consumed)) >>= fun body => _)
          rw [hbody]
          refine .ok ⟨⟨h.opener_eq, h.closer_eq, h.contentType_eq, ?_, rfl⟩, rfl⟩
          simp [OpenSection.nodes_close, h.nodes_eq]

theorem Holds.tracks_setMarks (t : List Char) :
    let directive := match Delimiters.read? ('=' :: t) with
      | some marks => Directive.delimiters marks
      | none => .faulty (.invalidDelimiters c.line)
    Tracks (c.Acts (directive.delimitersAfter d)) (b.follow c.line raw directive)
      (c.setMarks ('=' :: t)) := by
  have hmarks := readMarks?_eq ('=' :: t)
  unfold setMarks
  cases hread : Delimiters.read? ('=' :: t) with
  | none =>
      rw [hread, Option.map_none] at hmarks
      rw [hmarks]
      exact .error
  | some d' =>
      rw [hread, Option.map_some] at hmarks
      rw [hmarks]
      exact .ok ⟨⟨rfl, rfl, h.contentType_eq, h.nodes_eq, h.opened_eq⟩, rfl⟩

theorem Holds.tracks_pushPartial (name : List Char) :
    let directive := if name = [] then Directive.faulty (.emptyTag c.line)
      else .partialTag (String.ofList name)
    Tracks (c.Acts (directive.delimitersAfter d)) (b.follow c.line raw directive)
      (c.pushPartial name) := by
  unfold pushPartial
  by_cases hname : name = []
  · simp only [if_pos hname]
    exact .error
  · simp only [if_neg hname]
    exact .ok ⟨h.push _ raw, rfl⟩

theorem Holds.tracks_act {source : String} {rest : List Char}
    (hsource : source.toList = b.consumed ++ rest)
    (hpos : c.pos = utf8Len (b.consumed ++ raw)) (content : List Char) :
    let directive := Directive.ofContent c.line content
    Tracks (c.Acts (directive.delimitersAfter d)) (b.follow c.line raw directive)
      (c.act source (utf8Len b.consumed) (trim content)) := by
  intro directive
  cases hcontent : trim content with
  | nil =>
      have hdirective : directive = .faulty (.emptyTag c.line) := by
        simp only [directive, Directive.ofContent, hcontent]
      rw [hdirective]
      exact .error
  | cons sigil t =>
      by_cases hsigil : sigil ∈ sigils
      · have hdirective : directive = Directive.ofContent c.line content := rfl
        unfold Directive.ofContent at hdirective
        rw [hcontent] at hdirective
        rw [hdirective]
        simp only [sigils, List.mem_cons, List.not_mem_nil, or_false] at hsigil
        rcases hsigil with rfl | rfl | rfl | rfl | rfl | rfl | rfl | rfl
        · exact .ok ⟨h.read raw, rfl⟩
        · exact h.tracks_setMarks raw t
        · refine .ok ⟨⟨h.opener_eq, h.closer_eq, ?_, h.nodes_eq, h.opened_eq⟩, rfl⟩
          simp only [h.contentType_eq]
        · exact h.tracks_pushVariable raw (trim t) false
        · exact h.tracks_pushPartial raw (trim t)
        · exact h.tracks_openSection raw hpos false (trim t)
        · exact h.tracks_openSection raw hpos true (trim t)
        · exact h.tracks_closeSection raw hsource (trim t)
      · have hdirective := Directive.ofContent_of_not_sigil hcontent hsigil c.line
        rw [act_of_not_sigil hsigil, show directive = _ from hdirective]
        exact h.tracks_pushVariable raw (sigil :: t) true

end Tags

/-- The cursor is where the tree has been read up to.  What follows starts on `line`. -/
structure At (c : Cursor) (source : String) (b : Builder) (d : Delimiters) (line : Nat)
    (rest : List Char) : Prop where
  holds : c.Holds b d
  source_eq : source.toList = b.consumed ++ rest
  pos_eq : c.pos = utf8Len b.consumed
  exists_counted : ∃ counted passed, b.consumed = counted ++ passed ∧
    c.counted = utf8Len counted ∧ line = c.line + passed.count '\n'

variable {source : String} {line : Nat} {rest after : List Char}

theorem At.of_acts {c' : Cursor} {b' : Builder} {raw : List Char} (hacts : c.Acts d b' c')
    (hconsumed : b'.consumed = b.consumed ++ raw)
    (hsource : source.toList = b.consumed ++ raw ++ rest)
    (hpos : c.pos = utf8Len (b.consumed ++ raw)) (hcounted : c.counted = utf8Len b.consumed) :
    c'.At source b' d (c.line + raw.count '\n') rest := by
  obtain ⟨hholds, hplace⟩ := hacts
  obtain ⟨hsamePos, hplace⟩ := Prod.mk.inj hplace
  obtain ⟨hsameCounted, hsameLine⟩ := Prod.mk.inj hplace
  refine ⟨hholds, ?_, ?_, b.consumed, raw, hconsumed, ?_, ?_⟩
  · rw [hconsumed, hsource]
  · rw [hsamePos, hpos, hconsumed]
  · rw [hsameCounted, hcounted]
  · rw [hsameLine]

theorem tracks_at {raw : List Char} {directive : Directive} {result : Except Stop Cursor}
    (hsource : source.toList = b.consumed ++ raw ++ rest)
    (hcounted : c.counted = utf8Len b.consumed)
    (h : Tracks (Acts { c with pos := utf8Len (b.consumed ++ raw) } d)
      (b.follow c.line raw directive) result) :
    Tracks (fun b' c' => c'.At source b' d (c.line + raw.count '\n') rest)
      (b.follow c.line raw directive) result := by
  refine h.imp fun b' c' hfollow hacts => ?_
  exact At.of_acts (c := { c with pos := utf8Len (b.consumed ++ raw) }) hacts
    (Builder.consumed_follow hfollow) hsource rfl hcounted

section Inside

variable (h : c.Holds b d)
include h

theorem Holds.moved (pos : Nat) : ({ c with pos } : Cursor).Holds b d :=
  ⟨h.opener_eq, h.closer_eq, h.contentType_eq, h.nodes_eq, h.opened_eq⟩

theorem Holds.start_eq :
    utf8Len b.consumed + utf8Len c.opener = utf8Len (b.consumed ++ d.opener) := by
  rw [h.opener_eq, String.utf8Len_append]

theorem Holds.tag_eq_plain (hsource : source.toList = b.consumed ++ d.opener ++ after)
    (hbrace : after.head? ≠ some '{') :
    c.tag source (utf8Len b.consumed) =
      c.plain source (utf8Len b.consumed) (utf8Len (b.consumed ++ d.opener)) := by
  simp only [tag, h.start_eq, slice_to_end hsource, bind, Except.bind]
  exact if_neg hbrace

theorem Holds.tag_eq_braced (hsource : source.toList = b.consumed ++ d.opener ++ '{' :: after) :
    c.tag source (utf8Len b.consumed) =
      c.braced source (utf8Len (b.consumed ++ (d.opener ++ ['{']))) := by
  simp only [tag, h.start_eq, slice_to_end hsource, bind, Except.bind]
  rw [if_pos List.head?_cons, ← utf8Len_concat_brace, List.append_assoc]

theorem Holds.plain_eq_error (hsource : source.toList = b.consumed ++ d.opener ++ after)
    (hclose : breakAt d.closer after = none) (tagStart : Nat) :
    c.plain source tagStart (utf8Len (b.consumed ++ d.opener)) =
      .error (.rejected (.unclosedTag c.line)) := by
  have hfind : find? c.closer after = none := by
    rw [find?, h.closer_eq, hclose, Option.map_none]
  simp only [plain, slice_to_end hsource, bind, Except.bind, hfind]

theorem Holds.braced_eq_error
    (hsource : source.toList = b.consumed ++ (d.opener ++ ['{']) ++ after)
    (hclose : breakAt ('}' :: d.closer) after = none) :
    c.braced source (utf8Len (b.consumed ++ (d.opener ++ ['{']))) =
      .error (.rejected (.unclosedTag c.line)) := by
  have hfind : find? ('}' :: c.closer) after = none := by
    rw [find?, h.closer_eq, hclose, Option.map_none]
  simp only [braced, slice_to_end hsource, bind, Except.bind, hfind]

variable (hcounted : c.counted = utf8Len b.consumed)
include hcounted

theorem Holds.tracks_plain {content : List Char}
    (hsource : source.toList = b.consumed ++ d.opener ++ after)
    (hclose : breakAt d.closer after = some (content, rest)) :
    let tag := TagContent.plain content
    let directive := tag.directive c.line
    Tracks (fun b' c' => c'.At source b' (directive.delimitersAfter d)
        (c.line + (tag.raw d).count '\n') rest)
      (b.follow c.line (tag.raw d) directive)
      (c.plain source (utf8Len b.consumed) (utf8Len (b.consumed ++ d.opener))) := by
  intro tag directive
  have hfind : find? c.closer after = some (utf8Len content) := by
    rw [find?, h.closer_eq, hclose, Option.map_some]
  have hwhole : source.toList = b.consumed ++ tag.raw d ++ rest := toList_of_content hsource hclose
  have hend : utf8Len (b.consumed ++ d.opener) + utf8Len content + utf8Len c.closer =
      utf8Len (b.consumed ++ tag.raw d) := by
    rw [h.closer_eq]
    exact utf8Len_content _ _ _ _
  simp only [plain, slice_to_end hsource, slice_content hsource hclose, bind, Except.bind, hfind,
    hend]
  exact tracks_at hwhole hcounted
    ((h.moved _).tracks_act (tag.raw d) (hwhole.trans (List.append_assoc _ _ _)) rfl content)

theorem Holds.tracks_braced {content : List Char}
    (hsource : source.toList = b.consumed ++ (d.opener ++ ['{']) ++ after)
    (hclose : breakAt ('}' :: d.closer) after = some (content, rest)) :
    let tag := TagContent.braced content
    let directive := tag.directive c.line
    Tracks (fun b' c' => c'.At source b' (directive.delimitersAfter d)
        (c.line + (tag.raw d).count '\n') rest)
      (b.follow c.line (tag.raw d) directive)
      (c.braced source (utf8Len (b.consumed ++ (d.opener ++ ['{'])))) := by
  intro tag directive
  have hraw : tag.raw d = d.opener ++ ['{'] ++ content ++ ('}' :: d.closer) := by
    simp [tag, TagContent.raw]
  have hfind : find? ('}' :: c.closer) after = some (utf8Len content) := by
    rw [find?, h.closer_eq, hclose, Option.map_some]
  have hwhole : source.toList = b.consumed ++ tag.raw d ++ rest := by
    rw [hraw]
    exact toList_of_content hsource hclose
  have hend : utf8Len (b.consumed ++ (d.opener ++ ['{'])) + utf8Len content +
      utf8Len ('}' :: c.closer) = utf8Len (b.consumed ++ tag.raw d) := by
    rw [h.closer_eq, hraw]
    exact utf8Len_content _ _ _ _
  simp only [braced, slice_to_end hsource, slice_content hsource hclose, bind, Except.bind, hfind,
    hend]
  exact tracks_at hwhole hcounted ((h.moved _).tracks_pushVariable (tag.raw d) content false)

theorem Holds.tracks_tag {found : TagContent}
    (hsource : source.toList = b.consumed ++ d.opener ++ after)
    (hread : TagContent.read? d after = some (found, rest)) :
    let directive := found.directive c.line
    Tracks (fun b' c' => c'.At source b' (directive.delimitersAfter d)
        (c.line + (found.raw d).count '\n') rest)
      (b.follow c.line (found.raw d) directive) (c.tag source (utf8Len b.consumed)) := by
  intro directive
  by_cases hbrace : after.head? = some '{'
  · obtain ⟨t, rfl⟩ := List.head?_eq_some_iff.1 hbrace
    obtain ⟨⟨content, r⟩, hclose, hpair⟩ := Option.map_eq_some_iff.1 hread
    obtain ⟨rfl, rfl⟩ := Prod.mk.inj hpair
    rw [h.tag_eq_braced hsource]
    exact h.tracks_braced hcounted (by simpa using hsource) hclose
  · rw [TagContent.read?_of_head_ne hbrace] at hread
    obtain ⟨⟨content, r⟩, hclose, hpair⟩ := Option.map_eq_some_iff.1 hread
    obtain ⟨rfl, rfl⟩ := Prod.mk.inj hpair
    rw [h.tag_eq_plain hsource hbrace]
    exact h.tracks_plain hcounted hsource hclose

end Inside

theorem Holds.tag_eq_error (h : c.Holds b d)
    (hsource : source.toList = b.consumed ++ d.opener ++ after)
    (hread : TagContent.read? d after = none) :
    c.tag source (utf8Len b.consumed) = .error (.rejected (.unclosedTag c.line)) := by
  by_cases hbrace : after.head? = some '{'
  · obtain ⟨t, rfl⟩ := List.head?_eq_some_iff.1 hbrace
    rw [h.tag_eq_braced hsource]
    exact h.braced_eq_error (by simpa using hsource) (Option.map_eq_none_iff.1 hread)
  · rw [TagContent.read?_of_head_ne hbrace] at hread
    rw [h.tag_eq_plain hsource hbrace]
    exact h.plain_eq_error hsource (Option.map_eq_none_iff.1 hread) _

section Turns

variable (h : c.At source b d line rest)
include h

theorem At.tagStart?_eq :
    c.tagStart? source =
      .ok ((breakAt d.opener rest).map fun (before, _) => c.pos + utf8Len before) := by
  simp only [tagStart?, h.pos_eq, slice_to_end h.source_eq, bind, Except.bind, find?,
    h.holds.opener_eq, Option.map_map]
  rfl

theorem At.finish_eq :
    c.finish source =
      rejecting ({ b with level := b.level.addText rest } : Builder).finish := by
  have htext := h.holds.pushText rest
  rw [finish, h.pos_eq, slice_to_end h.source_eq]
  simp only [bind, Except.bind, htext.opened_eq, Builder.finish]
  cases b.opened with
  | nil =>
      simp only [unclosed, htext.nodes_eq, htext.contentType_eq]
      rfl
  | cons o outer => rfl

theorem At.turn_of_none (hopen : breakAt d.opener rest = none) :
    c.turn source =
      .finished <$> rejecting ({ b with level := b.level.addText rest } : Builder).finish := by
  simp only [turn, h.tagStart?_eq, hopen, Option.map_none, bind, Except.bind, h.finish_eq]

variable {before : List Char} (hopen : breakAt d.opener rest = some (before, after))
include hopen

theorem At.source_split : source.toList = b.consumed ++ before ++ d.opener ++ after := by
  rw [h.source_eq, eq_append_of_breakAt hopen]
  simp

/-- The text in front of a tag is added, and the lines up to the tag are counted. -/
theorem At.exists_turn_eq :
    ∃ held : Cursor,
      c.turn source = .next <$> held.tag source (utf8Len (b.consumed ++ before)) ∧
      held.Holds { b with level := b.level.addText before } d ∧
      held.counted = utf8Len (b.consumed ++ before) ∧ held.line = line + before.count '\n' := by
  obtain ⟨counted, passed, hconsumed, hcounted, hline⟩ := h.exists_counted
  have hsource := h.source_split hopen
  have htag : c.pos + utf8Len before = utf8Len (b.consumed ++ before) := by
    rw [h.pos_eq, String.utf8Len_append]
  have htext : slice source c.pos (utf8Len (b.consumed ++ before)) = .ok before := by
    rw [h.pos_eq, String.utf8Len_append]
    exact slice_eq_ok (u := d.opener ++ after) (by rw [hsource]; simp)
  have hpassed : slice source c.counted (utf8Len (b.consumed ++ before)) =
      .ok (passed ++ before) := by
    rw [hcounted, hconsumed, List.append_assoc, String.utf8Len_append counted]
    exact slice_eq_ok (u := d.opener ++ after) (by rw [hsource, hconsumed]; simp)
  have hheld := h.holds.pushText before
  refine ⟨{ c.pushText before with
    line := c.line + (passed ++ before).count '\n', counted := utf8Len (b.consumed ++ before) },
    ?_, ⟨hheld.opener_eq, hheld.closer_eq, hheld.contentType_eq, hheld.nodes_eq,
      hheld.opened_eq⟩, rfl, ?_⟩
  · simp only [turn, h.tagStart?_eq, hopen, Option.map_some, bind, Except.bind, textAndTag, htag,
      htext, hpassed]
  · rw [List.count_append, hline, Nat.add_assoc]

end Turns

/-- Either the loop comes to its end or the next turn begins further on. -/
theorem At.turn_cases (h : c.At source b d line rest) :
    c.turn source = .finished <$> rejecting (b.complete d line rest) ∨
      ∃ c' b' d' line' rest', c.turn source = .ok (.next c') ∧ c'.At source b' d' line' rest' ∧
        b'.complete d' line' rest' = b.complete d line rest ∧ utf8Len rest' < utf8Len rest := by
  cases hopen : breakAt d.opener rest with
  | none =>
      left
      rw [h.turn_of_none hopen, Builder.complete_of_none hopen]
  | some found =>
      obtain ⟨before, after⟩ := found
      obtain ⟨held, hturn, hholds, hcounted, hline⟩ := h.exists_turn_eq hopen
      have hsource := h.source_split hopen
      rw [← Builder.consumed_addText] at hturn hcounted hsource
      cases hread : TagContent.read? d after with
      | none =>
          left
          rw [hturn, hholds.tag_eq_error hsource hread, Builder.complete_of_unclosed hopen hread,
            hline]
          rfl
      | some found =>
          obtain ⟨tag, rest'⟩ := found
          have htracks := hholds.tracks_tag hcounted hsource hread
          rw [hline] at htracks
          rw [hturn, Builder.complete_of_tag hopen hread]
          simp only at htracks
          generalize held.tag source _ = result at htracks ⊢
          generalize Builder.follow _ _ _ _ = followed at htracks ⊢
          cases htracks with
          | error => exact .inl rfl
          | ok hat =>
              right
              exact ⟨_, _, _, _, _, rfl, hat, rfl, utf8Len_of_tag hopen hread⟩

end Cursor
end Mustache
