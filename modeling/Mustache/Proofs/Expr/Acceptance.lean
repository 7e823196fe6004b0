import Mustache.Proofs.Expr.Spacing

/-!
# What is read as an expression

Each text that is read is, but for the blanks at its parentheses, the text of the expression
it is read as, or else a member of the innermost scope is written with two dots in it.  The
reader keeps the calls it is inside of on a stack, so the induction on its steps carries along
the characters in front of the argument it is at.

As for dots, one that no name follows stands for the innermost scope, and then it is the first
character of the text or of an argument.  Nothing else can be left out of a path.
-/

namespace Mustache.Expr

open Mustache.Text

/-! ## Everything that is read is accepted -/

theorem eq_append_of_readName? {s rest : List Char} {id : String}
    (h : readName? s = some (id, rest)) : s = id.toList ++ rest := by
  unfold readName? at h
  split at h
  · cases h
  · next c t htake =>
    obtain ⟨rfl, rfl⟩ := Prod.mk.inj (Option.some.inj h)
    rw [String.toList_ofList, ← htake, List.takeWhile_append_dropWhile]

theorem accepted_of_readHead? {s rest : List Char} {e : Expr}
    (h : readHead? s = some (e, rest)) : ∃ t, s = t ++ rest ∧ Accepted e t := by
  unfold readHead? at h
  split at h
  · next s =>
    split at h
    · next key rest' hname =>
      obtain ⟨rfl, rfl⟩ := Prod.mk.inj (Option.some.inj h)
      have hs : '.' :: s = '.' :: key.toList ++ rest' := by
        rw [eq_append_of_readName? hname, List.cons_append]
      exact ⟨'.' :: key.toList, hs, .implicitMember (isName_of_readName? hname)⟩
    · obtain ⟨rfl, rfl⟩ := Prod.mk.inj (Option.some.inj h)
      exact ⟨['.'], rfl, .implicit⟩
  · obtain ⟨⟨id, rest'⟩, hname, hpair⟩ := Option.map_eq_some_iff.1 h
    obtain ⟨rfl, rfl⟩ := Prod.mk.inj hpair
    exact ⟨id.toList, eq_append_of_readName? hname, .name (isName_of_readName? hname)⟩

theorem exists_blanks_append_trimStart (s : List Char) :
    ∃ blanks, Blanks blanks ∧ s = blanks ++ trimStart s := by
  refine ⟨s.takeWhile isBlank, ?_, List.takeWhile_append_dropWhile.symm⟩
  exact List.all_eq_true.1 List.all_takeWhile

/-- What stands in front of the argument of the innermost call. -/
inductive Pending : List Expr → List Char → Prop where
  | nil : Pending [] []
  | cons {filter : Expr} {outer : List Expr} {before s left : List Char} :
      Pending outer before → Accepted filter s → Blanks left →
        Pending (filter :: outer) (before ++ s ++ '(' :: left)

theorem accepted_of_readTail? {pending : List Expr} {e e' : Expr} {before done s : List Char}
    (hpending : Pending pending before) (he : Accepted e done)
    (h : readTail? pending e s = some e') : Accepted e' (before ++ done ++ s) := by
  fun_induction readTail? pending e s generalizing before done with
  | case1 pending e t key rest hname ih =>
      have hrest := ih hpending (he.member (isName_of_readName? hname)) h
      rw [eq_append_of_readName? hname]
      simpa using hrest
  | case2 => cases h
  | case3 pending e t argument rest hhead ih =>
      obtain ⟨left, hleft, ht⟩ := exists_blanks_append_trimStart t
      obtain ⟨first, hfirst, hargument⟩ := accepted_of_readHead? hhead
      have hrest := ih (hpending.cons he hleft) hargument h
      rw [ht, hfirst]
      simpa using hrest
  | case4 => cases h
  | case5 e =>
      cases hpending
      obtain rfl := Option.some.inj h
      simpa using he
  | case6 => cases h
  | case7 e s _ _ filter outer rest hclose ih =>
      obtain ⟨right, hright, hs⟩ := exists_blanks_append_trimStart s
      cases hpending with
      | cons houter hfilter hleft =>
          have hrest := ih houter (hfilter.call hleft he hright) h
          rw [hs, hclose]
          simpa using hrest
  | case8 => cases h

theorem read?_eq_some_iff {e : Expr} {s : List Char} : read? s = some e ↔ Accepted e s := by
  constructor
  · intro h
    unfold read? at h
    split at h
    · next hhead =>
      obtain ⟨first, rfl, hfirst⟩ := accepted_of_readHead? hhead
      exact accepted_of_readTail? .nil hfirst h
    · cases h
  · exact read?_accepted

theorem parse_eq_ok_iff {line : Nat} {s : List Char} {e : Expr} :
    parse line s = .ok e ↔ Accepted e (trim s) := by
  rw [← read?_eq_some_iff, parse]
  split
  · next hnil => simp [hnil, read?, readHead?, readName?]
  · next c t htrim =>
    rw [htrim]
    cases read? (c :: t) <;> simp

/-- A text that is not blank but is not accepted either is reported as it is. -/
theorem parse_eq_invalidExpression {s : List Char} (hne : trim s ≠ [])
    (h : ∀ e, ¬ Accepted e (trim s)) (line : Nat) :
    parse line s = .error (.invalidExpression (String.ofList (trim s)) line) := by
  rw [parse]
  split
  · next hnil => exact absurd hnil hne
  · next c t htrim =>
    have hread : read? (c :: t) = none := by
      rw [← htrim, Option.eq_none_iff_forall_ne_some]
      intro e he
      exact h e (read?_eq_some_iff.1 he)
    rw [htrim]
    simp only [hread]

/-! ## Blanks at parentheses -/

/-- Without the blanks directly after opening parentheses. -/
def withoutLeading (opened : Bool) : List Char → List Char
  | [] => []
  | c :: s =>
      if opened && isBlank c then withoutLeading true s else c :: withoutLeading (c == '(') s

/-- Without the blanks directly before closing parentheses. -/
def withoutTrailing : List Char → List Char
  | [] => []
  | c :: s =>
      let rest := withoutTrailing s
      if isBlank c && rest.head? == some ')' then rest else c :: rest

/-- The text without the blanks that may stand at its parentheses. -/
def unspaced (s : List Char) : List Char :=
  withoutTrailing (withoutLeading false s)

theorem withoutLeading_blanks {blanks : List Char} (h : Blanks blanks) (s : List Char) :
    withoutLeading true (blanks ++ s) = withoutLeading true s := by
  induction blanks with
  | nil => rfl
  | cons c blanks ih =>
      obtain ⟨hc, hblanks⟩ := List.forall_mem_cons.1 h
      rw [List.cons_append, withoutLeading, hc]
      exact ih hblanks

theorem withoutLeading_closing {blanks : List Char} (h : Blanks blanks) (s : List Char) :
    withoutLeading false (blanks ++ ')' :: s) = blanks ++ ')' :: withoutLeading false s := by
  induction blanks with
  | nil => rfl
  | cons c blanks ih =>
      obtain ⟨hc, hblanks⟩ := List.forall_mem_cons.1 h
      have hopening : (c == '(') = false := by
        rw [beq_eq_false_iff_ne]
        rintro rfl
        exact absurd hc (by decide)
      rw [List.cons_append, withoutLeading, Bool.false_and, hopening, ih hblanks]
      rfl

theorem withoutTrailing_closing {blanks : List Char} (h : Blanks blanks) (s : List Char) :
    withoutTrailing (blanks ++ ')' :: s) = ')' :: withoutTrailing s := by
  induction blanks with
  | nil => rfl
  | cons c blanks ih =>
      obtain ⟨hc, hblanks⟩ := List.forall_mem_cons.1 h
      simp [withoutTrailing, ih hblanks, hc]

theorem withoutTrailing_cons {c : Char} (hc : isBlank c = false) (s : List Char) :
    withoutTrailing (c :: s) = c :: withoutTrailing s := by
  simp [withoutTrailing, hc]

theorem unspaced_of_spaced {t s : List Char} (h : Spaced t s)
    (ht : ∀ c ∈ t, isBlank c = false) (opened : Bool) :
    withoutTrailing (withoutLeading opened s) = t := by
  induction h generalizing opened with
  | nil => rfl
  | @opening blanks t s hblanks _ ih =>
      have hparenthesis : isBlank '(' = false := rfl
      have hrest := ih (fun c hc => ht c (List.mem_cons_of_mem _ hc)) true
      rw [withoutLeading, hparenthesis, Bool.and_false]
      change withoutTrailing ('(' :: withoutLeading true (blanks ++ s)) = _
      rw [withoutTrailing_cons hparenthesis, withoutLeading_blanks hblanks, hrest]
  | @closing blanks t s hblanks _ ih =>
      have hrest := ih (fun c hc => ht c (List.mem_cons_of_mem _ hc)) false
      cases opened with
      | true =>
          rw [withoutLeading_blanks hblanks]
          change withoutTrailing (')' :: withoutLeading false s) = _
          rw [withoutTrailing_cons rfl, hrest]
      | false => rw [withoutLeading_closing hblanks, withoutTrailing_closing hblanks, hrest]
  | @other c t s hopen _ _ ih =>
      obtain ⟨hc, ht⟩ := List.forall_mem_cons.1 ht
      have hrest := ih ht false
      have hopening : (c == '(') = false := beq_eq_false_iff_ne.2 hopen
      rw [withoutLeading, hc, Bool.and_false, hopening]
      change withoutTrailing (c :: withoutLeading false s) = _
      rw [withoutTrailing_cons hc, hrest]

theorem Spaced.append {t s t' s' : List Char} (h : Spaced t s) (h' : Spaced t' s') :
    Spaced (t ++ t') (s ++ s') := by
  induction h with
  | nil => exact h'
  | opening hblanks _ ih => simpa using Spaced.opening hblanks ih
  | closing hblanks _ ih => simpa using Spaced.closing hblanks ih
  | other hopen hclose _ ih => exact .other hopen hclose ih

theorem spaced_name {id : String} (hid : IsName id) : Spaced id.toList id.toList := by
  have hchars := hid.2
  generalize id.toList = s at hchars
  induction s with
  | nil => exact .nil
  | cons c s ih =>
      obtain ⟨hc, hs⟩ := List.forall_mem_cons.1 hchars
      have hopen : c ≠ '(' := by
        rintro rfl
        exact absurd hc (by decide)
      have hclose : c ≠ ')' := by
        rintro rfl
        exact absurd hc (by decide)
      exact .other hopen hclose (ih hs)

theorem spaced_key {key : String} (hkey : IsName key) :
    Spaced ('.' :: key.toList) ('.' :: key.toList) :=
  .other (by decide) (by decide) (spaced_name hkey)

theorem Written.spaced {e : Expr} {s : List Char} (h : Written e s) : Spaced e.text.toList s := by
  induction h with
  | implicit => exact .other (by decide) (by decide) .nil
  | name hid => exact spaced_name hid
  | implicitMember hkey =>
      rw [text_implicitMember]
      exact spaced_key hkey
  | member hbase _ hkey ih =>
      rw [text_member hbase]
      exact ih.append (spaced_key hkey)
  | @call filter argument s left t right _ hleft _ hright ihfilter ihargument =>
      have hclosing : Spaced [')'] (right ++ [')']) := .closing hright .nil
      have hparentheses := Spaced.opening hleft (ihargument.append hclosing)
      rw [text_call, List.append_assoc, List.append_assoc]
      exact ihfilter.append hparentheses

theorem Written.wellFormed {e : Expr} {s : List Char} (h : Written e s) : e.WellFormed := by
  induction h with
  | implicit => trivial
  | name hid => exact hid
  | implicitMember hkey => exact ⟨trivial, hkey⟩
  | member _ _ hkey ih => exact ⟨ih, hkey⟩
  | call _ _ _ _ ihfilter ihargument => exact ⟨ihfilter, ihargument⟩

theorem not_isBlank_of_mem_text {e : Expr} (he : e.WellFormed) :
    ∀ c ∈ e.text.toList, isBlank c = false := by
  have hname : ∀ {id : String}, IsName id → ∀ c ∈ id.toList, isBlank c = false :=
    fun hid c hc => not_isBlank_of_isNameChar (hid.2 c hc)
  induction e with
  | implicit => simp [text, isBlank]
  | name id => exact hname he
  | member base key ih =>
      obtain ⟨hbase, hkey⟩ := he
      have hdot : ∀ c ∈ '.' :: key.toList, isBlank c = false :=
        List.forall_mem_cons.2 ⟨rfl, hname hkey⟩
      by_cases himplicit : base = .implicit
      · subst himplicit
        rwa [text_implicitMember]
      · rw [text_member himplicit]
        exact List.forall_mem_append.2 ⟨ih hbase, hdot⟩
  | call filter argument ihfilter ihargument =>
      have hclosing : ∀ c ∈ [')'], isBlank c = false := by simp [isBlank]
      have hargument := List.forall_mem_append.2 ⟨ihargument he.2, hclosing⟩
      rw [text_call]
      exact List.forall_mem_append.2 ⟨ihfilter he.1, List.forall_mem_cons.2 ⟨rfl, hargument⟩⟩

theorem Written.unspaced_eq {e : Expr} {s : List Char} (h : Written e s) :
    unspaced s = e.text.toList :=
  unspaced_of_spaced h.spaced (not_isBlank_of_mem_text h.wellFormed) false

/-! ## Dots -/

/-- An expression begins behind these characters, be it the whole one or an argument. -/
def StartsExpr (before : List Char) : Prop :=
  before = [] ∨ ∃ t blanks, before = t ++ '(' :: blanks ∧ Blanks blanks

/-- At the beginning of an expression stand two dots and a name. -/
def DoublesDot (s : List Char) : Prop :=
  ∃ before after, s = before ++ '.' :: '.' :: after ∧ StartsExpr before ∧ ¬ EndsName after

theorem StartsExpr.argument {before left : List Char} (h : StartsExpr before)
    (hleft : Blanks left) (s : List Char) : StartsExpr (s ++ '(' :: (left ++ before)) := by
  rcases h with rfl | ⟨t, blanks, rfl, hblanks⟩
  · exact .inr ⟨s, left, by simp, hleft⟩
  · exact .inr ⟨s ++ '(' :: (left ++ t), blanks, by simp, hblanks⟩

theorem StartsExpr.not_isNameChar {before : List Char} {c : Char}
    (h : StartsExpr (before ++ [c])) : isNameChar c = false := by
  rcases h with hnil | ⟨t, blanks, hopened, hblanks⟩
  · simp at hnil
  · rcases List.eq_nil_or_concat blanks with rfl | ⟨first, d, rfl⟩
    · obtain ⟨-, hc⟩ := List.append_inj' hopened rfl
      obtain rfl := (List.cons.inj hc).1
      rfl
    · rw [List.concat_eq_append, ← List.cons_append, ← List.append_assoc] at hopened
      obtain ⟨-, hcd⟩ := List.append_inj' hopened rfl
      obtain rfl := (List.cons.inj hcd).1
      exact not_isNameChar_of_isBlank (hblanks c (by simp))

theorem not_endsName_append {after : List Char} (h : ¬ EndsName after) (rest : List Char) :
    ¬ EndsName (after ++ rest) := by
  intro hends
  apply h
  intro c hc
  obtain ⟨t, rfl⟩ := List.head?_eq_some_iff.1 hc
  exact hends c rfl

theorem not_endsName_name {id : String} (hid : IsName id) : ¬ EndsName id.toList := by
  have hne : id.toList ≠ [] := by simpa using hid.1
  obtain ⟨c, t, hct⟩ := List.exists_cons_of_ne_nil hne
  have hc : isNameChar c = true := hid.2 c (by simp [hct])
  intro hends
  have hnot := hends c (by simp [hct])
  rw [hc] at hnot
  cases hnot

theorem DoublesDot.append_right {s : List Char} (h : DoublesDot s) (rest : List Char) :
    DoublesDot (s ++ rest) := by
  obtain ⟨before, after, rfl, hbefore, hafter⟩ := h
  exact ⟨before, after ++ rest, by simp, hbefore, not_endsName_append hafter rest⟩

theorem DoublesDot.argument {t left : List Char} (h : DoublesDot t) (hleft : Blanks left)
    (s : List Char) : DoublesDot (s ++ '(' :: (left ++ t)) := by
  obtain ⟨before, after, rfl, hbefore, hafter⟩ := h
  exact ⟨s ++ '(' :: (left ++ before), after, by simp, hbefore.argument hleft s, hafter⟩

/-- The text of an accepted expression is a writing of it, or some dot is doubled. -/
theorem Accepted.written_or_doublesDot {e : Expr} {s : List Char} (h : Accepted e s) :
    Written e s ∨ DoublesDot s := by
  induction h with
  | implicit => exact .inl .implicit
  | name hid => exact .inl (.name hid)
  | implicitMember hkey => exact .inl (.implicitMember hkey)
  | @member base s key _ hkey ih =>
      rcases ih with hwritten | hdoubled
      · by_cases himplicit : base = .implicit
        · subst himplicit
          cases hwritten
          exact .inr ⟨[], key.toList, rfl, .inl rfl, not_endsName_name hkey⟩
        · exact .inl (.member himplicit hwritten hkey)
      · exact .inr (hdoubled.append_right _)
  | @call filter argument s left t right _ hleft _ hright ihfilter ihargument =>
      rcases ihfilter with hfilter | hdoubled
      · rcases ihargument with hargument | hdoubled
        · exact .inl (.call hfilter hleft hargument hright)
        · have hcall := (hdoubled.argument hleft s).append_right (right ++ [')'])
          exact .inr (by simpa using hcall)
      · exact .inr (hdoubled.append_right _)

/-- A character of two texts one after the other is in the first one or in the second one. -/
theorem split_append {l r before after : List Char} {c : Char}
    (h : l ++ r = before ++ c :: after) :
    (∃ rest, l = before ++ c :: rest ∧ after = rest ++ r) ∨
      ∃ first, before = l ++ first ∧ r = first ++ c :: after := by
  rcases List.append_eq_append_iff.1 h with ⟨first, hbefore, hr⟩ | ⟨rest, hl, hrest⟩
  · exact .inr ⟨first, hbefore, hr⟩
  · cases rest with
    | nil => exact .inr ⟨[], by simpa using hl.symm, by simpa using hrest.symm⟩
    | cons d rest =>
        obtain ⟨rfl, rfl⟩ := List.cons.inj hrest
        exact .inl ⟨rest, hl, rfl⟩

/-- A dot with these characters behind it needs no name of its own if it is the first of an
expression: it stands for the innermost scope, or for nothing if another dot and a name
follow. -/
def LeadsOn (after : List Char) : Prop :=
  ∀ rest, after = '.' :: rest → ¬ EndsName rest

theorem LeadsOn.append {after rest : List Char} (h : LeadsOn after)
    (hrest : LeadsOn rest) : LeadsOn (after ++ rest) := by
  cases after with
  | nil => exact hrest
  | cons c after =>
      intro t ht
      obtain ⟨rfl, rfl⟩ := List.cons.inj ht
      exact not_endsName_append (h after rfl) rest

theorem leadsOn_cons {c : Char} (hc : c ≠ '.') (rest : List Char) : LeadsOn (c :: rest) := by
  intro t ht
  exact absurd (List.cons.inj ht).1 hc

theorem Blanks.leadsOn {right : List Char} (h : Blanks right) (rest : List Char) :
    LeadsOn (right ++ ')' :: rest) := by
  cases right with
  | nil => exact leadsOn_cons (by decide) rest
  | cons c right =>
      apply leadsOn_cons
      rintro rfl
      exact absurd (h '.' List.mem_cons_self) (by decide)

theorem leadsOn_key {key : String} (hkey : IsName key) : LeadsOn ('.' :: key.toList) := by
  intro t ht
  rw [← (List.cons.inj ht).2]
  exact not_endsName_name hkey

/-- A dot is followed by a name, unless an expression begins with it. -/
theorem Accepted.dot {e : Expr} {s before after : List Char} (h : Accepted e s)
    (hs : s = before ++ '.' :: after) :
    ¬ EndsName after ∨ StartsExpr before ∧ LeadsOn after := by
  have hkeyDot : ∀ {key : String} {before after : List Char}, IsName key →
      '.' :: key.toList = before ++ '.' :: after → ¬ EndsName after := by
    intro key before after hkey hdot
    cases before with
    | nil =>
        rw [← (List.cons.inj hdot).2]
        exact not_endsName_name hkey
    | cons c before =>
        have hmem : '.' ∈ key.toList := by simp [(List.cons.inj hdot).2]
        exact absurd (hkey.2 '.' hmem) (by decide)
  have hblanksDot : ∀ {blanks : List Char}, Blanks blanks → '.' ∉ blanks :=
    fun hblanks hdot => absurd (hblanks '.' hdot) (by decide)
  induction h generalizing before after with
  | implicit =>
      cases before with
      | nil =>
          obtain rfl := (List.cons.inj hs).2
          exact .inr ⟨.inl rfl, nofun⟩
      | cons c before => simp at hs
  | @name id hid =>
      have hmem : '.' ∈ id.toList := by simp [hs]
      exact absurd (hid.2 '.' hmem) (by decide)
  | implicitMember hkey => exact .inl (hkeyDot hkey hs)
  | @member base s key _ hkey ih =>
      rcases split_append hs with ⟨rest, rfl, rfl⟩ | ⟨first, rfl, hfirst⟩
      · rcases ih rfl with hname | ⟨hbefore, hrest⟩
        · exact .inl (not_endsName_append hname _)
        · exact .inr ⟨hbefore, hrest.append (leadsOn_key hkey)⟩
      · exact .inl (hkeyDot hkey hfirst)
  | @call filter argument s left t right _ hleft _ hright ihfilter ihargument =>
      rcases split_append hs with ⟨rest, rfl, rfl⟩ | ⟨first, rfl, hfirst⟩
      · rcases ihfilter rfl with hname | ⟨hbefore, hrest⟩
        · exact .inl (not_endsName_append hname _)
        · exact .inr ⟨hbefore, hrest.append (leadsOn_cons (by decide) _)⟩
      · cases first with
        | nil => simp at hfirst
        | cons c first =>
            obtain ⟨rfl, hinside⟩ := List.cons.inj hfirst
            rw [List.append_assoc, List.append_assoc] at hinside
            rcases split_append hinside with ⟨rest, rfl, -⟩ | ⟨first', rfl, hafter⟩
            · exact absurd (by simp) (hblanksDot hleft)
            rcases split_append hafter with ⟨rest, rfl, rfl⟩ | ⟨first'', rfl, hclosing⟩
            · rcases ihargument rfl with hname | ⟨hbefore, hrest⟩
              · exact .inl (not_endsName_append hname _)
              · exact .inr ⟨hbefore.argument hleft s, hrest.append (hright.leadsOn [])⟩
            · have hmem : '.' ∈ right ++ [')'] := by simp [hclosing]
              rcases List.mem_append.1 hmem with hright' | hparenthesis
              · exact absurd hright' (hblanksDot hright)
              · simp at hparenthesis

/-- Which texts are read.  A text in which no dot is doubled is the text of its expression
once the blanks at its parentheses are deleted.  Two dots in a row anywhere but in front of
the first name of an expression, and a dot behind a name with no name after it, are reported. -/
theorem parse_within_grammar (line : Nat) (s : List Char) :
    (∀ e, parse line s = .ok e ↔ Accepted e (trim s)) ∧
      (∀ e, parse line s = .ok e → ¬ DoublesDot (trim s) →
        unspaced (trim s) = e.text.toList) ∧
      (∀ before after, trim s = before ++ '.' :: '.' :: after →
        ¬ StartsExpr before ∨ EndsName after →
          parse line s = .error (.invalidExpression (String.ofList (trim s)) line)) ∧
      (∀ before c after, trim s = before ++ c :: '.' :: after → isNameChar c = true →
        EndsName after →
          parse line s = .error (.invalidExpression (String.ofList (trim s)) line)) := by
  refine ⟨fun e => parse_eq_ok_iff, ?text, ?doubled, ?trailing⟩
  case text =>
    intro e he hdoubled
    rcases (parse_eq_ok_iff.1 he).written_or_doublesDot with hwritten | hdoubles
    · exact hwritten.unspaced_eq
    · exact absurd hdoubles hdoubled
  case doubled =>
    intro before after htrim hempty
    apply parse_eq_invalidExpression (by simp [htrim])
    intro e haccepted
    rcases haccepted.dot htrim with hname | ⟨hbefore, hafter⟩
    · exact hname (by simp [EndsName, isNameChar])
    · rcases hempty with hmiddle | hends
      · exact hmiddle hbefore
      · exact hafter after rfl hends
  case trailing =>
    intro before c after htrim hc hends
    apply parse_eq_invalidExpression (by simp [htrim])
    intro e haccepted
    have hdot : trim s = (before ++ [c]) ++ '.' :: after := by simp [htrim]
    rcases haccepted.dot hdot with hname | ⟨hbefore, -⟩
    · exact hname hends
    · rw [hbefore.not_isNameChar] at hc
      cases hc

/-- Blanks at the parentheses of a call, and three places at which a name is missing. -/
theorem parse_within_grammar_blanks :
    let s := " f( .a ).b".toList
    let e : Expr := .member (.call (.name "f") (.member .implicit "a")) "b"
    (parse 1 s = .ok e ∧ ¬ DoublesDot (trim s) ∧ unspaced (trim s) = e.text.toList) ∧
      parse 2 "f( .. )".toList = .error (.invalidExpression "f( .. )" 2) ∧
      parse 3 "a..b".toList = .error (.invalidExpression "a..b" 3) ∧
      parse 4 "a. ".toList = .error (.invalidExpression "a." 4) := by
  intro s e
  have hread : read? (trim s) = some e := by decide +kernel
  have hparse : parse 1 s = .ok e := parse_eq_ok_iff.2 (read?_eq_some_iff.1 hread)
  have hdoubled : ¬ DoublesDot (trim s) := by
    rintro ⟨before, after, hs, -, -⟩
    have hinfix : ['.', '.'] <:+: trim s := ⟨before, after, by simp [hs]⟩
    exact absurd hinfix (by decide +kernel)
  have htext := (parse_within_grammar 1 s).2.1 e hparse hdoubled
  have hargument := (parse_within_grammar 2 "f( .. )".toList).2.2.1 "f( ".toList " )".toList
    (by decide +kernel) (.inr (by simp [EndsName, isNameChar]))
  have hbehind : ¬ StartsExpr ([] ++ ['a']) := fun h => absurd h.not_isNameChar (by decide)
  have hmiddle := (parse_within_grammar 3 "a..b".toList).2.2.1 ['a'] ['b'] (by decide +kernel)
    (.inl hbehind)
  have htrailing := (parse_within_grammar 4 "a. ".toList).2.2.2 [] 'a' [] (by decide +kernel)
    (by decide) (by simp [EndsName])
  have hreports : String.ofList (trim "f( .. )".toList) = "f( .. )" ∧
      String.ofList (trim "a..b".toList) = "a..b" ∧ String.ofList (trim "a. ".toList) = "a." := by
    decide +kernel
  rw [hreports.1] at hargument
  rw [hreports.2.1] at hmiddle
  rw [hreports.2.2] at htrailing
  exact ⟨⟨hparse, hdoubled, htext⟩, hargument, hmiddle, htrailing⟩

/-- Two dots are taken for one where an expression begins. -/
theorem parse_doubled_dot :
    let e : Expr := .member .implicit "a"
    parse 1 "..a".toList = .ok e ∧ unspaced (trim "..a".toList) ≠ e.text.toList := by
  intro e
  have hread : read? (trim "..a".toList) = some e := by decide +kernel
  have hparse : parse 1 "..a".toList = .ok e := parse_eq_ok_iff.2 (read?_eq_some_iff.1 hread)
  exact ⟨hparse, by decide +kernel⟩

end Mustache.Expr
