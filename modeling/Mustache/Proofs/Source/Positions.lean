import Mustache.Proofs.Source.Fragments

/-!
# Where tags stand

A source is a passage of texts and complete tags, by turns, and then a text or a tag that
does not end.  What is read of a passage does not depend on what follows it, so cutting a
source in front of a tag gives the tokens up to there, and whatever is put behind a complete
tag leaves the tokens up to this tag as they are.

The line of a tag is the number of line breaks in front of it.  Nothing else of a tag has
regard to lines, but if the tag is at fault then its error carries this line.
-/

namespace Mustache

/-! ## Lines of errors -/

namespace CompileError

/-- The same error on another line. -/
def atLine (n : Nat) : CompileError → CompileError
  | .unclosedTag _ => .unclosedTag n
  | .unclosedSection name _ => .unclosedSection name n
  | .mismatchedClose expected found _ => .mismatchedClose expected found n
  | .unexpectedClose name _ => .unexpectedClose name n
  | .emptyTag _ => .emptyTag n
  | .invalidExpression expression _ => .invalidExpression expression n
  | .invalidDelimiters _ => .invalidDelimiters n

@[simp] theorem line_atLine (err : CompileError) (n : Nat) : (err.atLine n).line = n := by
  cases err <;> rfl

/-- An error of a single tag on the line.  A section that stays open is none. -/
structure OfTag (n : Nat) (err : CompileError) : Prop where
  line_eq : err.line = n
  not_unclosedSection : ∀ name m, err ≠ .unclosedSection name m

end CompileError

theorem Expr.parse_onLines (line line' : Nat) (s : List Char) :
    (∃ e, Expr.parse line s = .ok e ∧ Expr.parse line' s = .ok e) ∨
      ∃ err : CompileError, err.OfTag line ∧ Expr.parse line s = .error err ∧
        Expr.parse line' s = .error (err.atLine line') := by
  unfold Expr.parse
  split
  · exact .inr ⟨_, ⟨rfl, by simp⟩, rfl, rfl⟩
  · split
    · exact .inl ⟨_, rfl, rfl⟩
    · exact .inr ⟨_, ⟨rfl, by simp⟩, rfl, rfl⟩

namespace Directive

/-- What one tag is read as on two lines: the same, unless it is at fault. -/
inductive OnLines (line line' : Nat) : Directive → Directive → Prop where
  | sound {directive : Directive} :
      (∀ err, directive ≠ .faulty err) → OnLines line line' directive directive
  | faulty {err : CompileError} :
      err.OfTag line → OnLines line line' (.faulty err) (.faulty (err.atLine line'))

variable {line line' : Nat}

theorem onLines_ofExpr (s : List Char) {build : Expr → Directive}
    (hbuild : ∀ e err, build e ≠ .faulty err) :
    OnLines line line' (ofExpr line s build) (ofExpr line' s build) := by
  unfold ofExpr
  rcases Expr.parse_onLines line line' s with ⟨e, he, he'⟩ | ⟨err, herr, he, he'⟩
  · rw [he, he']
    exact .sound (hbuild e)
  · rw [he, he']
    exact .faulty herr

theorem onLines_ofContent (content : List Char) :
    OnLines line line' (ofContent line content) (ofContent line' content) := by
  unfold ofContent
  split
  · exact .faulty ⟨rfl, by simp⟩
  · simp only
    split
    · exact .sound (by simp)
    · split
      · exact .sound (by simp)
      · exact .faulty ⟨rfl, by simp⟩
    · exact .sound (by simp)
    · exact onLines_ofExpr _ (by simp)
    · split
      · exact .faulty ⟨rfl, by simp⟩
      · exact .sound (by simp)
    · exact onLines_ofExpr _ (by simp)
    · exact onLines_ofExpr _ (by simp)
    · exact .sound (by simp)
    · exact onLines_ofExpr _ (by simp)

theorem OnLines.delimitersAfter_eq {directive directive' : Directive}
    (h : OnLines line line' directive directive') (d : Delimiters) :
    directive'.delimitersAfter d = directive.delimitersAfter d := by
  cases h <;> rfl

end Directive

theorem TagContent.onLines_directive (tag : TagContent) (line line' : Nat) :
    Directive.OnLines line line' (tag.directive line) (tag.directive line') := by
  cases tag with
  | plain content => exact Directive.onLines_ofContent content
  | braced content => exact Directive.onLines_ofExpr content nofun

/-- The error of a tag carries the line of the tag. -/
theorem TagContent.ofTag_of_faulty {tag : TagContent} {line : Nat} {err : CompileError}
    (h : tag.directive line = .faulty err) : err.OfTag line := by
  have hsame := tag.onLines_directive line 0
  rw [h] at hsame
  generalize tag.directive 0 = other at hsame
  cases hsame with
  | sound hsound => exact absurd rfl (hsound err)
  | faulty herr => exact herr

/-! ## Passages -/

/-- The delimiters in force behind a token. -/
def Token.delimitersAfter (d : Delimiters) : Token → Delimiters
  | .text _ => d
  | .tag _ _ directive => directive.delimitersAfter d

/-- The delimiters in force at the end of a text. -/
def Delimiters.behind (s : List Char) : Delimiters :=
  (Token.scan .standard 1 s).foldl Token.delimitersAfter .standard

/-- Texts and complete tags, by turns.  The first text starts on `line` between the
delimiters `d`, and the last tag ends on `line'` with `d'` in force. -/
inductive Passage : Delimiters → Nat → List Token → Delimiters → Nat → Prop where
  | nil {d : Delimiters} {line : Nat} : Passage d line [] d line
  | cons {d d' : Delimiters} {line tagLine line' : Nat} {before : List Char}
      {tag : TagContent} {tokens : List Token} :
      Unmarked d.opener before → tag.Closed d → tagLine = line + before.count '\n' →
      Passage ((tag.directive tagLine).delimitersAfter d)
        (tagLine + (tag.raw d).count '\n') tokens d' line' →
      Passage d line
        (.text before :: .tag tagLine (tag.raw d) (tag.directive tagLine) :: tokens) d' line'

namespace Passage

variable {d d' : Delimiters} {line line' : Nat} {tokens : List Token}

theorem scan_append (h : Passage d line tokens d' line') (rest : List Char) :
    Token.scan d line (tokens.flatMap Token.raw ++ rest) =
      tokens ++ Token.scan d' line' rest := by
  induction h with
  | nil => rfl
  | @cons d d' line tagLine line' before tag tokens hbefore htag hline _ ih =>
      subst hline
      let after := tag.inside d ++ (tokens.flatMap Token.raw ++ rest)
      have hopen : breakAt d.opener (before ++ (d.opener ++ after)) = some (before, after) :=
        hbefore.breakAt_append after
      have hscan := Token.scan_of_tag hopen (htag _) line
      simp only [List.flatMap_cons, Token.raw, TagContent.raw_eq, List.append_assoc] at hscan ih ⊢
      rw [hscan, ih]
      rfl

theorem line_eq (h : Passage d line tokens d' line') :
    line' = line + (tokens.flatMap Token.raw).count '\n' := by
  induction h with
  | nil => rfl
  | cons _ _ hline _ ih =>
      simp only [List.flatMap_cons, Token.raw, List.count_append]
      omega

theorem foldl_delimitersAfter (h : Passage d line tokens d' line') :
    tokens.foldl Token.delimitersAfter d = d' := by
  induction h with
  | nil => rfl
  | cons _ _ _ _ ih => exact ih

end Passage

/-! ## Tags of a source -/

theorem Token.scan_of_none {d : Delimiters} {s : List Char} (hopen : breakAt d.opener s = none)
    (line : Nat) : scan d line s = [.text s] := by
  rw [scan]
  split
  · rfl
  · next hsome => simp [hopen] at hsome

/-- What a tag of a source is found to be, with `d` in force in front of it: a complete tag,
or one that takes up the rest of the source. -/
inductive FoundTag (d : Delimiters) (line : Nat) : List Char → Directive → List Token → Prop where
  | complete {tag : TagContent} {rest : List Char} :
      tag.Closed d →
      FoundTag d line (tag.raw d) (tag.directive line)
        (Token.scan ((tag.directive line).delimitersAfter d)
          (line + (tag.raw d).count '\n') rest)
  | unclosed {after : List Char} :
      FoundTag d line (d.opener ++ after) (.faulty (.unclosedTag line)) []

variable {d : Delimiters} {line tagLine : Nat} {s raw : List Char} {directive : Directive}
  {earlier later : List Token}

/-- In front of each tag of a source there is a passage and one more text. -/
theorem Token.exists_passage
    (h : scan d line s = earlier ++ .tag tagLine raw directive :: later) :
    ∃ tokens d' line' before, Passage d line tokens d' line' ∧ Unmarked d'.opener before ∧
      earlier = tokens ++ [.text before] ∧ tagLine = line' + before.count '\n' ∧
      FoundTag d' tagLine raw directive later := by
  fun_induction scan d line s generalizing earlier with
  | case1 d line s hopen =>
      have hlength := congrArg List.length h
      simp only [List.length_append, List.length_cons, List.length_nil] at hlength
      obtain rfl : earlier = [] := List.length_eq_zero_iff.1 (by omega)
      simp at h
  | case2 d line s before after hopen htag =>
      have hbefore := unmarked_of_breakAt d.opener_ne_nil hopen
      rcases earlier with _ | ⟨first, _ | ⟨second, more⟩⟩
      · simp at h
      · obtain ⟨rfl, hrest⟩ := List.cons.inj h
        obtain ⟨htag', rfl⟩ := List.cons.inj hrest
        obtain ⟨rfl, rfl, rfl⟩ := Token.tag.inj htag'
        exact ⟨[], d, line, before, .nil, hbefore, rfl, rfl, .unclosed⟩
      · simp at h
  | case3 d line s before after hopen tagLine' found rest htag =>
      rename_i directive' ih
      have hbefore := unmarked_of_breakAt d.opener_ne_nil hopen
      have hclosed := TagContent.closed_of_read? htag
      rcases earlier with _ | ⟨first, _ | ⟨second, more⟩⟩
      · simp at h
      · obtain ⟨rfl, hrest⟩ := List.cons.inj h
        obtain ⟨htag', rfl⟩ := List.cons.inj hrest
        obtain ⟨rfl, rfl, rfl⟩ := Token.tag.inj htag'
        exact ⟨[], d, line, before, .nil, hbefore, rfl, rfl, .complete hclosed⟩
      · obtain ⟨rfl, hrest⟩ := List.cons.inj h
        obtain ⟨rfl, hmore⟩ := List.cons.inj hrest
        obtain ⟨tokens, d', line', before', hpassage, hbefore', rfl, hline, hfound⟩ := ih hmore
        exact ⟨_, d', line', before', .cons hbefore hclosed rfl hpassage, hbefore', rfl, hline,
          hfound⟩

theorem FoundTag.opener_starts (h : FoundTag d tagLine raw directive later) :
    d.opener <+: raw := by
  cases h with
  | complete _ =>
      rw [TagContent.raw_eq]
      exact List.prefix_append _ _
  | unclosed => exact List.prefix_append _ _

/-- The error of a tag is one of its line, also if the tag does not end. -/
theorem FoundTag.ofTag_of_faulty {err : CompileError}
    (h : FoundTag d tagLine raw (.faulty err) later) : err.OfTag tagLine := by
  generalize hdirective : Directive.faulty err = directive at h
  cases h with
  | complete _ => exact TagContent.ofTag_of_faulty hdirective.symm
  | unclosed =>
      obtain rfl := Directive.faulty.inj hdirective
      exact ⟨rfl, by simp⟩

namespace Token

/-- Whatever follows a complete tag, the tokens up to it are the same. -/
theorem exists_scan_append (h : scan d line s = earlier ++ .tag tagLine raw directive :: later)
    (hended : directive ≠ .faulty (.unclosedTag tagLine)) (t : List Char) :
    ∃ later', scan d line (s ++ t) = earlier ++ .tag tagLine raw directive :: later' := by
  have hloss := flatMap_raw_scan d line s
  obtain ⟨tokens, d', line', before, hpassage, hbefore, rfl, rfl, hfound⟩ := exists_passage h
  cases hfound with
  | unclosed => exact absurd rfl hended
  | @complete tag rest htag =>
      have hopen := hbefore.breakAt_append (tag.inside d' ++ (rest ++ t))
      have hscan := scan_of_tag hopen (htag _) line'
      have hsource : s ++ t =
          tokens.flatMap Token.raw ++ (before ++ (d'.opener ++ (tag.inside d' ++ (rest ++ t)))) := by
        rw [← hloss, h]
        simp [Token.raw, flatMap_raw_scan, TagContent.raw_eq]
      rw [hsource, hpassage.scan_append, hscan]
      exact ⟨_, by rw [List.append_assoc]; rfl⟩

/-- The source cut in front of a tag has the tokens up to there. -/
theorem scan_cut (h : scan d line s = earlier ++ .tag tagLine raw directive :: later) :
    scan d line (earlier.flatMap Token.raw) = earlier := by
  obtain ⟨tokens, d', line', before, hpassage, hbefore, rfl, -, -⟩ := exists_passage h
  rw [List.flatMap_append, hpassage.scan_append, List.flatMap_singleton, Token.raw,
    scan_of_unmarked hbefore]

theorem line_of_scan (h : scan d line s = earlier ++ .tag tagLine raw directive :: later) :
    tagLine = line + (earlier.flatMap Token.raw).count '\n' := by
  obtain ⟨tokens, d', line', before, hpassage, -, rfl, rfl, -⟩ := exists_passage h
  rw [hpassage.line_eq, List.flatMap_append, List.flatMap_singleton, Token.raw,
    List.count_append, Nat.add_assoc]

/-- A tag is found with the delimiters in force that the tokens in front of it leave. -/
theorem found_of_scan (h : scan d line s = earlier ++ .tag tagLine raw directive :: later) :
    FoundTag (earlier.foldl delimitersAfter d) tagLine raw directive later := by
  obtain ⟨tokens, d', line', before, hpassage, -, rfl, -, hfound⟩ := exists_passage h
  rw [List.foldl_append, hpassage.foldl_delimitersAfter]
  exact hfound

end Token
end Mustache
