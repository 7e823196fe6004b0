import Mathlib.Data.List.Forall2
import Mustache.Proofs.Source.ErrorPositions

/-!
# Compilation is local

A text in front of a source becomes a part of its first text, and it moves all tags further
down.  The tree under construction therefore has another first node, which lies at the bottom
of the open levels, and the open sections have other lines.  Nothing of this is looked at
until the end, so both trees take the same steps and errors differ in their line only.

What follows a tag that is at fault makes no difference at all, unless the fault is that the
source ends too early.
-/

namespace Mustache

/-! ## Results that differ in lines -/

/-- Results related by `R`, or the same error `k` lines further down. -/
inductive Agree {α : Type} (k : Nat) (R : α → α → Prop) :
    Except CompileError α → Except CompileError α → Prop where
  | ok {a a' : α} : R a a' → Agree k R (.ok a) (.ok a')
  | error {err : CompileError} :
      Agree k R (.error err) (.error (err.atLine (err.line + k)))

namespace Agree

variable {α β : Type} {k : Nat} {R : α → α → Prop} {S : β → β → Prop}

theorem bind {x x' : Except CompileError α} {f f' : α → Except CompileError β}
    (h : Agree k R x x') (hnext : ∀ a a', R a a' → Agree k S (f a) (f' a')) :
    Agree k S (x >>= f) (x' >>= f') := by
  cases h with
  | ok hR => exact hnext _ _ hR
  | error => exact .error

theorem of_ofTag {err : CompileError} {line : Nat} (h : err.OfTag line) :
    Agree k R (.error err) (.error (err.atLine (line + k))) := by
  obtain rfl := h.line_eq
  exact .error

theorem eq_error {x : Except CompileError α} {err : CompileError}
    (h : Agree k R (.error err) x) : x = .error (err.atLine (err.line + k)) := by
  cases h
  rfl

theorem exists_ok {x : Except CompileError α} {a : α} (h : Agree k R (.ok a) x) :
    ∃ a', x = .ok a' ∧ R a a' := by
  cases h with
  | ok hR => exact ⟨_, rfl, hR⟩

end Agree

/-- Whether a closing tag is accepted has nothing to do with the line. -/
theorem OpenSection.agree_accepts {k : Nat} {o o' : OpenSection} (h : o'.expr = o.expr)
    (line : Nat) (name : List Char) :
    Agree k (fun _ _ => True) (o.accepts line name) (o'.accepts (line + k) name) := by
  unfold accepts
  by_cases hname : name = []
  · rw [if_pos hname, if_pos hname]
    exact .ok trivial
  · rw [if_neg hname, if_neg hname, h]
    rcases Expr.parse_onLines line (line + k) name with ⟨e, he, he'⟩ | ⟨err, herr, he, he'⟩
    · rw [he, he']
      change Agree k _ (if e.text = o.expr.text then _ else _)
        (if e.text = o.expr.text then _ else _)
      by_cases htext : e.text = o.expr.text
      · rw [if_pos htext, if_pos htext]
        exact .ok trivial
      · rw [if_neg htext, if_neg htext]
        exact .error
    · rw [he, he']
      exact .of_ofTag herr

/-! ## Tokens on other lines -/

inductive Token.Lowered (k : Nat) : Token → Token → Prop where
  | text {content : List Char} : Lowered k (.text content) (.text content)
  | tag {line : Nat} {raw : List Char} {directive directive' : Directive} :
      Directive.OnLines line (line + k) directive directive' →
        Lowered k (.tag line raw directive) (.tag (line + k) raw directive')

theorem Token.lowered_scan (k : Nat) (d : Delimiters) (line : Nat) (s : List Char) :
    List.Forall₂ (Lowered k) (scan d line s) (scan d (line + k) s) := by
  fun_induction scan d line s with
  | case1 d line s hopen =>
      rw [scan_of_none hopen]
      exact .cons .text .nil
  | case2 d line s before after hopen tagLine htag =>
      rw [scan_of_unclosed hopen htag, Nat.add_right_comm]
      exact .cons .text (.cons (.tag (.faulty ⟨rfl, by simp⟩)) .nil)
  | case3 d line s before after hopen tagLine found rest htag directive ih =>
      have hlines := found.onLines_directive tagLine (tagLine + k)
      rw [scan_of_tag hopen htag, Nat.add_right_comm line k]
      refine .cons .text (.cons (.tag hlines) ?_)
      rw [hlines.delimitersAfter_eq, Nat.add_right_comm tagLine k]
      exact ih

/-! ## Trees with another first node -/

/-- The open levels of two trees under construction.  The nodes of the document begin with
`front` in one and with `front'` in the other tree, whose sections were opened `k` lines
further down. -/
inductive Reframed (k : Nat) (front front' : List Node) :
    Level → List OpenSection → Level → List OpenSection → Prop where
  | document {l l' : Level} (nodes : List Node) :
      l.nodes.reverse = front ++ nodes → l'.nodes.reverse = front' ++ nodes →
        Reframed k front front' l [] l' []
  | inside {o : OpenSection} {body outer' : Level} {rest rest' : List OpenSection} :
      Reframed k front front' o.outer rest outer' rest' →
        Reframed k front front' body (o :: rest) body
          ({ o with line := o.line + k, outer := outer' } :: rest')

namespace Reframed

variable {k : Nat} {front front' : List Node} {l l' : Level} {opened opened' : List OpenSection}

theorem push (h : Reframed k front front' l opened l' opened') (node : Node)
    (raw : List Char) :
    Reframed k front front' (l.push node raw) opened (l'.push node raw) opened' := by
  cases h with
  | document nodes hnodes hnodes' =>
      refine Reframed.document (nodes ++ [node]) ?_ ?_
      · rw [Level.push, List.reverse_cons, hnodes, List.append_assoc]
      · rw [Level.push, List.reverse_cons, hnodes', List.append_assoc]
  | inside houter => exact .inside houter

theorem read (h : Reframed k front front' l opened l' opened') (raw : List Char) :
    Reframed k front front' (l.read raw) opened (l'.read raw) opened' := by
  cases h with
  | document nodes hnodes hnodes' => exact .document nodes hnodes hnodes'
  | inside houter => exact .inside houter

theorem addText (h : Reframed k front front' l opened l' opened') (t : List Char) :
    Reframed k front front' (l.addText t) opened (l'.addText t) opened' := by
  cases t with
  | nil => exact h
  | cons c t => exact h.push _ _

end Reframed

namespace Builder

structure Reframed (k : Nat) (front front' : List Node) (b b' : Builder) : Prop where
  contentType : b'.contentType = b.contentType
  levels : Mustache.Reframed k front front' b.level b.opened b'.level b'.opened

namespace Reframed

variable {k : Nat} {front front' : List Node} {b b' : Builder}

theorem follow (hb : b.Reframed k front front' b') {line : Nat} (raw : List Char)
    {directive directive' : Directive} (h : directive.OnLines line (line + k) directive') :
    Agree k (Builder.Reframed k front front') (b.follow line raw directive)
      (b'.follow (line + k) raw directive') := by
  cases h with
  | faulty herr => exact .of_ofTag herr
  | sound hsound =>
      cases directive with
      | comment | delimiters => exact .ok ⟨hb.contentType, hb.levels.read raw⟩
      | pragma contentType =>
          exact .ok ⟨congrArg (contentType <|> ·) hb.contentType, hb.levels.read raw⟩
      | variableTag | partialTag => exact .ok ⟨hb.contentType, hb.levels.push _ raw⟩
      | openSection inverted e => exact .ok ⟨hb.contentType, .inside hb.levels⟩
      | faulty err => exact absurd rfl (hsound err)
      | closeSection name =>
          obtain ⟨contentType, level, opened⟩ := b
          obtain ⟨contentType', level', opened'⟩ := b'
          cases hb.levels with
          | document _ _ _ => exact .error
          | @inside o _ outer' rest rest' houter =>
              apply (OpenSection.agree_accepts rfl line name).bind
              intro _ _ _
              exact .ok ⟨hb.contentType, houter.push _ _⟩

theorem step (hb : b.Reframed k front front' b') {token token' : Token}
    (h : token.Lowered k token') :
    Agree k (Builder.Reframed k front front') (b.step token) (b'.step token') := by
  cases h with
  | text =>
      rw [step_text, step_text]
      exact .ok ⟨hb.contentType, hb.levels.addText _⟩
  | tag hlines => exact hb.follow _ hlines

theorem run (hb : b.Reframed k front front' b') {tokens tokens' : List Token}
    (h : List.Forall₂ (Token.Lowered k) tokens tokens') :
    Agree k (Builder.Reframed k front front') (tokens.foldlM Builder.step b)
      (tokens'.foldlM Builder.step b') := by
  induction h generalizing b b' with
  | nil => exact .ok hb
  | cons htoken _ ih =>
      rw [List.foldlM_cons, List.foldlM_cons]
      exact (hb.step htoken).bind fun _ _ hnext => ih hnext

end Reframed
end Builder

/-- Compiled alike, but for the nodes that the tree begins with. -/
def Compiled.Reframed (front front' : List Node) (compiled compiled' : Compiled) : Prop :=
  ∃ nodes, compiled.nodes = front ++ nodes ∧ compiled' = { compiled with nodes := front' ++ nodes }

theorem Builder.Reframed.finish {k : Nat} {front front' : List Node} {b b' : Builder}
    (hb : b.Reframed k front front' b') :
    Agree k (Compiled.Reframed front front') b.finish b'.finish := by
  obtain ⟨contentType, level, opened⟩ := b
  obtain ⟨contentType', level', opened'⟩ := b'
  obtain rfl : contentType' = contentType := hb.contentType
  cases hb.levels with
  | document _ hnodes hnodes' =>
      refine .ok ⟨_, hnodes, ?_⟩
      rw [hnodes']
  | inside _ => exact .error

/-! ## A text in front of a source -/

theorem breakAt_append_left {m : Char} {p : List Char} (hp : m ∉ p) (mark s : List Char) :
    breakAt (m :: mark) (p ++ s) =
      (breakAt (m :: mark) s).map fun (before, after) => (p ++ before, after) := by
  induction p with
  | nil => simp
  | cons c p ih =>
      obtain ⟨hc, hp⟩ := not_or.1 (List.mem_cons.not.1 hp)
      have hstarts : ¬ m :: mark <+: c :: (p ++ s) := by
        rw [List.cons_prefix_cons]
        exact fun h => hc h.1
      rw [List.cons_append, breakAt_cons hstarts, ih hp, Option.map_map]
      rfl

/-- What a source starts with, up to its first tag. -/
def leadingText (s : List Char) : List Char :=
  match breakAt Delimiters.standard.opener s with
  | none => s
  | some (before, _) => before

/-- A text in front makes the first text longer and lowers everything behind it. -/
theorem Token.scan_append_left {p : List Char} (hp : '{' ∉ p) (line : Nat) (s : List Char) :
    ∃ tokens,
      scan .standard (line + p.count '\n') s = .text (leadingText s) :: tokens ∧
        scan .standard line (p ++ s) = .text (p ++ leadingText s) :: tokens := by
  have hbreak : breakAt Delimiters.standard.opener (p ++ s) = _ := breakAt_append_left hp ['{'] s
  unfold leadingText
  cases hopen : breakAt Delimiters.standard.opener s with
  | none =>
      change breakAt ('{' :: ['{']) s = none at hopen
      rw [hopen] at hbreak
      exact ⟨[], scan_of_none hopen _, scan_of_none hbreak _⟩
  | some found =>
      obtain ⟨before, after⟩ := found
      change breakAt ('{' :: ['{']) s = some (before, after) at hopen
      rw [hopen] at hbreak
      have hline : line + (p ++ before).count '\n' =
          line + p.count '\n' + before.count '\n' := by
        rw [List.count_append, Nat.add_assoc]
      cases htag : TagContent.read? .standard after with
      | none =>
          rw [scan_of_unclosed hopen htag, scan_of_unclosed hbreak htag, hline]
          exact ⟨_, rfl, rfl⟩
      | some tag =>
          rw [scan_of_tag hopen htag, scan_of_tag hbreak htag, hline]
          exact ⟨_, rfl, rfl⟩

theorem agree_compile {p : String} (hp : '{' ∉ p.toList) (s : String) :
    Agree (p.toList.count '\n')
      (Compiled.Reframed (textNodes (leadingText s.toList))
        (textNodes (p.toList ++ leadingText s.toList)))
      (compile s) (compile (p ++ s)) := by
  obtain ⟨tokens', hbelow, hwhole⟩ := Token.scan_append_left hp 1 s.toList
  have htokens := Token.lowered_scan (p.toList.count '\n') .standard 1 s.toList
  rw [hbelow] at htokens
  rw [compile_eq_fold, compile_eq_fold, String.toList_append, hwhole]
  generalize Token.scan .standard 1 s.toList = all at htokens
  cases htokens with
  | @cons first _ tokens _ hfirst htokens =>
      cases hfirst
      rw [List.foldlM_cons, List.foldlM_cons, Builder.step_text, Builder.step_text]
      have hstart : Builder.Reframed (p.toList.count '\n')
          (textNodes (leadingText s.toList)) (textNodes (p.toList ++ leadingText s.toList))
          { level := ({} : Level).addText (leadingText s.toList) }
          { level := ({} : Level).addText (p.toList ++ leadingText s.toList) } := by
        refine ⟨rfl, .document [] ?_ ?_⟩
        · rw [Level.nodes_addText, List.append_nil]
          rfl
        · rw [Level.nodes_addText, List.append_nil]
          rfl
      exact (hstart.run htokens).bind fun _ _ hend => hend.finish

/-- The error of a complete tag is the error of each source that goes on behind it. -/
theorem compile_append_of_error {s : String} {err : CompileError} (h : compile s = .error err)
    (htag : ∀ line, err ≠ .unclosedTag line)
    (hsection : ∀ name line, err ≠ .unclosedSection name line) (t : String) :
    compile (s ++ t) = .error err := by
  rw [compile_eq_fold] at h
  cases hfold : (Token.scan .standard 1 s.toList).foldlM Builder.step {} with
  | ok b =>
      rw [hfold] at h
      obtain ⟨o, rest, -, rfl⟩ := Builder.finish_eq_error h
      exact absurd rfl (hsection _ _)
  | error err' =>
      rw [hfold] at h
      obtain rfl := Except.error.inj h
      obtain ⟨earlier, token, later, b, hscan, hearlier, hfault⟩ := Builder.exists_fault hfold
      cases token with
      | text content =>
          rw [Builder.step_text] at hfault
          exact nomatch hfault
      | tag line raw directive =>
          have hended : directive ≠ .faulty (.unclosedTag line) := by
            rintro rfl
            exact htag line (Except.error.inj hfault).symm
          obtain ⟨later', hscan'⟩ := Token.exists_scan_append hscan hended t.toList
          rw [← String.toList_append] at hscan'
          exact compile_of_step_error hscan' hearlier hfault

/-- A text without opening braces in front of a source changes no more than the first text and
the lines.  It is joined to the text that the source starts with, or is the first text if the
source starts with a tag.  An error of a complete tag is found whatever follows the source. -/
theorem compile_local {p : String} (hp : '{' ∉ p.toList) (s : String) :
    (∀ err, compile s = .error err →
      compile (p ++ s) = .error (err.atLine (err.line + p.toList.count '\n'))) ∧
    (∀ err, compile s = .error err → (∀ line, err ≠ .unclosedTag line) →
      (∀ name line, err ≠ .unclosedSection name line) → ∀ t : String,
        compile (p ++ s ++ t) = .error (err.atLine (err.line + p.toList.count '\n'))) ∧
    ∀ compiled, compile s = .ok compiled → ∃ nodes,
      compiled.nodes = textNodes (leadingText s.toList) ++ nodes ∧
      compile (p ++ s) = .ok
        { compiled with nodes := textNodes (p.toList ++ leadingText s.toList) ++ nodes } := by
  refine ⟨?failure, ?suffix, ?success⟩
  case failure =>
    intro err herr
    have hagree := agree_compile hp s
    rw [herr] at hagree
    exact hagree.eq_error
  case suffix =>
    intro err herr htag hsection t
    have hagree := agree_compile hp (s ++ t)
    rw [compile_append_of_error herr htag hsection t] at hagree
    rw [String.append_assoc]
    exact hagree.eq_error
  case success =>
    intro compiled hcompiled
    have hagree := agree_compile hp s
    rw [hcompiled] at hagree
    obtain ⟨compiled', hcompiled', nodes, hnodes, rfl⟩ := hagree.exists_ok
    exact ⟨nodes, hnodes, hcompiled'⟩

/-- A line in front of a section, with a fault in it and without, and in front of a text. -/
theorem compile_local_first_line :
    let p := "x\n"
    let faulty := "{{#a}}\n{{/b}}"
    let sound := "t{{#a}}\n{{x.y}}{{/}}"
    '{' ∉ p.toList ∧ compile faulty = .error (.mismatchedClose "a" "b" 2) ∧
      compile (p ++ faulty) = .error (.mismatchedClose "a" "b" 3) ∧
      compile (p ++ faulty ++ "\x7b\x7b") = .error (.mismatchedClose "a" "b" 3) ∧
      ∃ compiled nodes, compile sound = .ok compiled ∧ compiled.nodes = .text "t" :: nodes ∧
        compile (p ++ sound) = .ok { compiled with nodes := .text "x\nt" :: nodes } := by
  intro p faulty sound
  have hp : '{' ∉ p.toList := by decide
  have hfaulty : compile faulty = .error (.mismatchedClose "a" "b" 2) :=
    eq_error_of_errorOf? (by decide +kernel)
  have hsound : errorOf? (compile sound) = none := by decide +kernel
  have hlead : leadingText sound.toList = ['t'] := by decide +kernel
  have hjoined : p.toList ++ ['t'] = "x\nt".toList := by decide
  have hline : (CompileError.mismatchedClose "a" "b" 2).line + p.toList.count '\n' = 3 := by
    decide
  obtain ⟨hfailure, hsuffix, -⟩ := compile_local hp faulty
  have hmoved := hfailure _ hfaulty
  have hmoved' := hsuffix _ hfaulty (by simp) (by simp) "\x7b\x7b"
  rw [hline] at hmoved hmoved'
  refine ⟨hp, hfaulty, hmoved, hmoved', ?_⟩
  cases hcompiled : compile sound with
  | error err =>
      rw [hcompiled] at hsound
      exact nomatch hsound
  | ok compiled =>
      obtain ⟨nodes, hnodes, hwhole⟩ := (compile_local hp sound).2.2 compiled hcompiled
      rw [hlead] at hnodes hwhole
      rw [hjoined] at hwhole
      exact ⟨compiled, nodes, rfl, hnodes, hwhole⟩

end Mustache
