import Mustache.Source.Compile
import Mustache.Proofs.Source.Marks

/-!
# Reading a source piece by piece

Compilation is followed here over the characters still to be read: the delimiters, the
line and the tree under construction are all that it keeps of what came before.  A text
is read as a whole if it is unmarked and nothing or an opening mark follows; a tag is
read as a whole whatever follows it.  So a source that is put together from such pieces
is compiled piece by piece, and a piece cut out of a source is read as it was there.
-/

namespace Mustache

/-- Compiles the rest of a source, which starts on the given line. -/
def Builder.complete (b : Builder) (d : Delimiters) (line : Nat) (s : List Char) :
    Except CompileError Compiled := do
  let b ← (Token.scan d line s).foldlM Builder.step b
  b.finish

theorem compile_ofList (s : List Char) :
    compile (String.ofList s) = ({} : Builder).complete .standard 1 s := by
  rw [compile, String.toList_ofList]
  rfl

/-! ## Levels -/

namespace Level

def addText (l : Level) : List Char → Level
  | [] => l
  | c :: t => l.push (.text (String.ofList (c :: t))) (c :: t)

@[simp] theorem source_empty : ({} : Level).source = [] := rfl

@[simp] theorem source_push (l : Level) (node : Node) (raw : List Char) :
    (l.push node raw).source = l.source ++ raw := by
  simp [source, push]

@[simp] theorem source_read (l : Level) (raw : List Char) :
    (l.read raw).source = l.source ++ raw := by
  simp [source, read]

@[simp] theorem source_addText (l : Level) (t : List Char) :
    (l.addText t).source = l.source ++ t := by
  cases t with
  | nil => simp [addText]
  | cons c t => rw [addText, source_push]

end Level

theorem Builder.step_text (b : Builder) (t : List Char) :
    b.step (.text t) = .ok { b with level := b.level.addText t } := by
  cases t <;> rfl

/-! ## Texts -/

/-- Where a text may end: at the end of the source or in front of a tag. -/
def Delimiters.Boundary (d : Delimiters) (rest : List Char) : Prop :=
  rest = [] ∨ ∃ after, rest = d.opener ++ after

variable {d : Delimiters}

theorem Token.scan_of_unmarked {t : List Char} (ht : Unmarked d.opener t) (line : Nat) :
    scan d line t = [.text t] := by
  rw [scan]
  split
  · rfl
  · next hopen =>
    rw [ht.breakAt_eq_none] at hopen
    simp at hopen

theorem Token.scan_of_unclosed {s before after : List Char}
    (hopen : breakAt d.opener s = some (before, after))
    (htag : TagContent.read? d after = none) (line : Nat) :
    scan d line s =
      [.text before, .tag (line + before.count '\n') (d.opener ++ after)
        (.faulty (.unclosedTag (line + before.count '\n')))] := by
  rw [scan]
  split
  · next hnone => simp [hopen] at hnone
  · next b a hsome =>
    rw [hopen] at hsome
    obtain ⟨rfl, rfl⟩ := Prod.mk.inj (Option.some.inj hsome)
    split
    · rfl
    · next hsome => simp [htag] at hsome

theorem Token.scan_of_tag {s before after rest : List Char} {found : TagContent}
    (hopen : breakAt d.opener s = some (before, after))
    (htag : TagContent.read? d after = some (found, rest)) (line : Nat) :
    let tagLine := line + before.count '\n'
    scan d line s =
      .text before :: .tag tagLine (found.raw d) (found.directive tagLine) ::
        scan ((found.directive tagLine).delimitersAfter d)
          (tagLine + (found.raw d).count '\n') rest := by
  intro tagLine
  rw [scan]
  split
  · next hnone => simp [hopen] at hnone
  · next b a hsome =>
    rw [hopen] at hsome
    obtain ⟨rfl, rfl⟩ := Prod.mk.inj (Option.some.inj hsome)
    split
    · next hnone => simp [htag] at hnone
    · next tag r hsome =>
      rw [htag] at hsome
      obtain ⟨rfl, rfl⟩ := Prod.mk.inj (Option.some.inj hsome)
      rfl

/-- The tokens after a text are the same as if the source began after it. -/
theorem Token.scan_text_append {t : List Char} (ht : Unmarked d.opener t) (line : Nat)
    (after : List Char) :
    ∃ tokens,
      scan d line (t ++ (d.opener ++ after)) = .text t :: tokens ∧
      scan d (line + t.count '\n') (d.opener ++ after) = .text [] :: tokens := by
  have htext := ht.breakAt_append after
  have hnothing := breakAt_mark_append d.opener after
  cases htag : TagContent.read? d after with
  | none =>
      rw [scan_of_unclosed htext htag, scan_of_unclosed hnothing htag]
      exact ⟨_, rfl, rfl⟩
  | some found =>
      rw [scan_of_tag htext htag, scan_of_tag hnothing htag]
      exact ⟨_, rfl, rfl⟩

theorem Builder.complete_nil (b : Builder) (d : Delimiters) (line : Nat) :
    b.complete d line [] = b.finish := by
  have hnothing : Unmarked d.opener [] :=
    unmarked_of_breakAt d.opener_ne_nil (breakAt_mark_append d.opener [])
  rw [complete, Token.scan_of_unmarked hnothing]
  rfl

theorem Builder.complete_text {t rest : List Char} (ht : Unmarked d.opener t)
    (hrest : d.Boundary rest) (b : Builder) (line : Nat) :
    b.complete d line (t ++ rest) =
      ({ b with level := b.level.addText t } : Builder).complete d
        (line + t.count '\n') rest := by
  rcases hrest with rfl | ⟨after, rfl⟩
  · rw [List.append_nil, complete_nil, complete, Token.scan_of_unmarked ht,
      List.foldlM_cons, step_text]
    rfl
  · obtain ⟨tokens, htext, hnothing⟩ := Token.scan_text_append ht line after
    rw [complete, complete, htext, hnothing]
    simp only [List.foldlM_cons, step_text]
    rfl

/-! ## Tags -/

namespace TagContent

def inside (d : Delimiters) : TagContent → List Char
  | .plain content => content ++ d.closer
  | .braced content => '{' :: content ++ '}' :: d.closer

theorem raw_eq (d : Delimiters) (tag : TagContent) :
    tag.raw d = d.opener ++ tag.inside d := by
  cases tag <;> simp [raw, inside]

/-- The tag is read as it is written, whatever follows it. -/
def Closed (d : Delimiters) (tag : TagContent) : Prop :=
  ∀ rest, read? d (tag.inside d ++ rest) = some (tag, rest)

theorem read?_of_head_ne {s : List Char} (h : s.head? ≠ some '{') :
    read? d s = (breakAt d.closer s).map fun (content, rest) => (.plain content, rest) := by
  unfold read?
  split
  · simp at h
  · rfl

theorem head?_append_closer (d : Delimiters) (content rest : List Char) :
    (content ++ (d.closer ++ rest)).head? = (content ++ d.closer).head? := by
  obtain ⟨c, closer, hcloser⟩ := List.exists_cons_of_ne_nil d.closer_ne_nil
  cases content <;> simp [hcloser]

theorem closed_plain {content : List Char} (hhead : (content ++ d.closer).head? ≠ some '{')
    (h : Unmarked d.closer content) : (plain content).Closed d := by
  intro rest
  rw [← head?_append_closer d content rest] at hhead
  rw [inside, List.append_assoc, read?_of_head_ne hhead, h.breakAt_append]
  rfl

theorem closed_braced {content : List Char} (h : Unmarked ('}' :: d.closer) content) :
    (braced content).Closed d := by
  intro rest
  simp only [inside, read?, List.cons_append, List.append_assoc]
  rw [← List.cons_append, h.breakAt_append]
  rfl

theorem closed_of_read? {s rest : List Char} {tag : TagContent}
    (h : read? d s = some (tag, rest)) : tag.Closed d := by
  by_cases hhead : s.head? = some '{'
  · obtain ⟨t, rfl⟩ := List.head?_eq_some_iff.1 hhead
    obtain ⟨⟨content, r⟩, hbreak, hpair⟩ := Option.map_eq_some_iff.1 h
    obtain ⟨rfl, rfl⟩ := Prod.mk.inj hpair
    exact closed_braced (unmarked_of_breakAt (List.cons_ne_nil _ _) hbreak)
  · rw [read?_of_head_ne hhead] at h
    obtain ⟨⟨content, r⟩, hbreak, hpair⟩ := Option.map_eq_some_iff.1 h
    obtain ⟨rfl, rfl⟩ := Prod.mk.inj hpair
    rw [eq_append_of_breakAt hbreak, List.append_assoc, head?_append_closer] at hhead
    exact closed_plain hhead (unmarked_of_breakAt d.closer_ne_nil hbreak)

end TagContent

theorem Token.scan_tag {tag : TagContent} (htag : tag.Closed d) (line : Nat)
    (rest : List Char) :
    scan d line (tag.raw d ++ rest) =
      .text [] :: .tag line (tag.raw d) (tag.directive line) ::
        scan ((tag.directive line).delimitersAfter d) (line + (tag.raw d).count '\n')
          rest := by
  have hopen := breakAt_mark_append d.opener (tag.inside d ++ rest)
  rw [← List.append_assoc, ← TagContent.raw_eq] at hopen
  exact scan_of_tag hopen (htag rest) line

theorem Builder.complete_tag {tag : TagContent} (htag : tag.Closed d) (b : Builder)
    (line : Nat) (rest : List Char) :
    b.complete d line (tag.raw d ++ rest) =
      b.follow line (tag.raw d) (tag.directive line) >>= fun b' =>
        b'.complete ((tag.directive line).delimitersAfter d)
          (line + (tag.raw d).count '\n') rest := by
  rw [complete, Token.scan_tag htag, List.foldlM_cons, step_text]
  change ((b.follow line (tag.raw d) (tag.directive line) >>= fun b' =>
    (Token.scan _ _ rest).foldlM Builder.step b') >>= Builder.finish) = _
  cases b.follow line (tag.raw d) (tag.directive line) <;> rfl

theorem TagContent.boundary_raw (tag : TagContent) (d : Delimiters) (rest : List Char) :
    d.Boundary (tag.raw d ++ rest) := by
  right
  exact ⟨tag.inside d ++ rest, by rw [raw_eq, List.append_assoc]⟩

end Mustache
