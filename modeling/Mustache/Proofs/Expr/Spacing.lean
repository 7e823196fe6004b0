import Mustache.Proofs.Expr.RoundTrip

/-!
# Blanks in written expressions

Blanks may stand at both ends of an expression's text, after its opening parentheses and
before its closing ones, and change nothing.  What is read is made of proper names, so that
the text of an expression that was read tells it apart from all others.
-/

namespace Mustache.Expr

open Mustache.Text

/-! ## Inserting blanks -/

/-- The second text is the first one with blanks after opening parentheses and before
closing ones. -/
inductive Spaced : List Char → List Char → Prop where
  | nil : Spaced [] []
  | opening {blanks t s : List Char} :
      Blanks blanks → Spaced t s → Spaced ('(' :: t) ('(' :: (blanks ++ s))
  | closing {blanks t s : List Char} :
      Blanks blanks → Spaced t s → Spaced (')' :: t) (blanks ++ ')' :: s)
  | other {c : Char} {t s : List Char} :
      c ≠ '(' → c ≠ ')' → Spaced t s → Spaced (c :: t) (c :: s)

namespace Spaced

theorem exists_append {t u s : List Char} (h : Spaced (t ++ u) s) :
    ∃ first second, s = first ++ second ∧ Spaced t first ∧ Spaced u second := by
  induction t generalizing s with
  | nil => exact ⟨[], s, rfl, .nil, h⟩
  | cons c t ih =>
      cases h with
      | @opening blanks _ s hblanks hrest =>
          obtain ⟨first, second, rfl, hfirst, hsecond⟩ := ih hrest
          exact ⟨'(' :: (blanks ++ first), second, by simp, .opening hblanks hfirst, hsecond⟩
      | @closing blanks _ s hblanks hrest =>
          obtain ⟨first, second, rfl, hfirst, hsecond⟩ := ih hrest
          exact ⟨blanks ++ ')' :: first, second, by simp, .closing hblanks hfirst, hsecond⟩
      | other hopen hclose hrest =>
          obtain ⟨first, second, rfl, hfirst, hsecond⟩ := ih hrest
          exact ⟨c :: first, second, rfl, .other hopen hclose hfirst, hsecond⟩

theorem eq_of_name {id : String} (hid : IsName id) {s : List Char} (h : Spaced id.toList s) :
    s = id.toList := by
  have hchars := hid.2
  generalize id.toList = t at h hchars
  induction h with
  | nil => rfl
  | opening _ _ _ => exact absurd (hchars '(' List.mem_cons_self) (by decide)
  | closing _ _ _ => exact absurd (hchars ')' List.mem_cons_self) (by decide)
  | other _ _ _ ih => rw [ih fun c hc => hchars c (List.mem_cons_of_mem _ hc)]

theorem exists_dot {t s : List Char} (h : Spaced ('.' :: t) s) :
    ∃ s', s = '.' :: s' ∧ Spaced t s' := by
  cases h with
  | other _ _ hrest => exact ⟨_, rfl, hrest⟩

theorem eq_of_key {key : String} (hkey : IsName key) {s : List Char}
    (h : Spaced ('.' :: key.toList) s) : s = '.' :: key.toList := by
  obtain ⟨s', rfl, hs'⟩ := h.exists_dot
  rw [hs'.eq_of_name hkey]

theorem exists_parentheses {t s : List Char} (h : Spaced ('(' :: (t ++ [')'])) s) :
    ∃ left s' right, s = '(' :: (left ++ s' ++ right ++ [')']) ∧
      Blanks left ∧ Spaced t s' ∧ Blanks right := by
  cases h with
  | @opening left _ _ hleft hrest =>
      obtain ⟨s', closing, rfl, hs', hclosing⟩ := hrest.exists_append
      cases hclosing with
      | @closing right _ _ hright hnil =>
          cases hnil
          exact ⟨left, s', right, by simp, hleft, hs', hright⟩
      | other _ hclose _ => exact absurd rfl hclose
  | other hopen _ _ => exact absurd rfl hopen

end Spaced

theorem written_of_spaced {e : Expr} (he : e.WellFormed) {s : List Char}
    (h : Spaced e.text.toList s) : Written e s := by
  induction e generalizing s with
  | implicit =>
      obtain ⟨s', rfl, hs'⟩ := h.exists_dot
      cases hs'
      exact .implicit
  | name id =>
      rw [h.eq_of_name he]
      exact .name he
  | member base key ih =>
      obtain ⟨hbase, hkey⟩ := he
      by_cases himplicit : base = .implicit
      · subst himplicit
        rw [text_implicitMember] at h
        rw [h.eq_of_key hkey]
        exact .implicitMember hkey
      · rw [text_member himplicit] at h
        obtain ⟨s', dot, rfl, hs', hdot⟩ := h.exists_append
        rw [hdot.eq_of_key hkey]
        exact .member himplicit (ih hbase hs') hkey
  | call filter argument ihfilter ihargument =>
      rw [text_call] at h
      obtain ⟨s', call, rfl, hs', hcall⟩ := h.exists_append
      obtain ⟨left, t, right, rfl, hleft, ht, hright⟩ := hcall.exists_parentheses
      exact .call (ihfilter he.1 hs') hleft (ihargument he.2 ht) hright

/-! ## Blanks at the ends -/

theorem trimEnd_append {right : List Char} (hright : Blanks right) (s : List Char) :
    trimEnd (s ++ right) = trimEnd s := by
  have hreverse : Blanks right.reverse := fun c hc => hright c (List.mem_reverse.1 hc)
  rw [trimEnd, List.reverse_append]
  exact congrArg List.reverse (trimStart_append hreverse s.reverse)

theorem Written.trim_append {e : Expr} {s : List Char} (h : Written e s)
    {left right : List Char} (hleft : Blanks left) (hright : Blanks right) :
    trim (left ++ s ++ right) = s := by
  have hstart : trimStart (s ++ right) = s ++ right := by
    obtain ⟨c, t, rfl, hc⟩ := h.exists_head
    exact trimStart_cons (not_isBlank_of_head hc) (t ++ right)
  calc trim (left ++ s ++ right)
      = trimEnd (trimStart (s ++ right)) := by
        rw [List.append_assoc, trim, trimStart_append hleft]
    _ = trimEnd s := by rw [hstart, trimEnd_append hright]
    _ = s := by
        obtain ⟨t, c, rfl, hc⟩ := h.exists_last
        exact trimEnd_concat hc t

theorem parse_spaced {e : Expr} (he : e.WellFormed) {left s right : List Char}
    (hleft : Blanks left) (h : Spaced e.text.toList s) (hright : Blanks right) (line : Nat) :
    parse line (left ++ s ++ right) = .ok e := by
  have hwritten := written_of_spaced he h
  have htrim := hwritten.trim_append hleft hright
  have hparse := parse_written hwritten line
  rw [parse, hwritten.trim_eq] at hparse
  rw [parse, htrim]
  exact hparse

theorem text_injective {e e' : Expr} (he : e.WellFormed) (he' : e'.WellFormed)
    (h : e.text = e'.text) : e = e' := by
  have hread := read?_written (written_text he)
  rw [h, read?_written (written_text he')] at hread
  exact (Option.some.inj hread).symm

/-! ## Expressions that are read -/

theorem isName_of_readName? {s rest : List Char} {id : String}
    (h : readName? s = some (id, rest)) : IsName id := by
  unfold readName? at h
  split at h
  · cases h
  · next c t htake =>
    obtain ⟨rfl, -⟩ := Prod.mk.inj (Option.some.inj h)
    constructor
    · intro hempty
      have hnil := congrArg String.toList hempty
      rw [String.toList_ofList] at hnil
      cases hnil
    · intro x hx
      rw [String.toList_ofList, ← htake] at hx
      exact List.all_eq_true.1 List.all_takeWhile x hx

theorem wellFormed_of_readHead? {s rest : List Char} {e : Expr}
    (h : readHead? s = some (e, rest)) : e.WellFormed := by
  unfold readHead? at h
  split at h
  · split at h
    · next hname =>
      obtain ⟨rfl, -⟩ := Prod.mk.inj (Option.some.inj h)
      exact ⟨trivial, isName_of_readName? hname⟩
    · obtain ⟨rfl, -⟩ := Prod.mk.inj (Option.some.inj h)
      trivial
  · obtain ⟨⟨id, rest'⟩, hname, hpair⟩ := Option.map_eq_some_iff.1 h
    obtain ⟨rfl, -⟩ := Prod.mk.inj hpair
    exact isName_of_readName? hname

theorem wellFormed_of_readTail? {pending : List Expr} {e e' : Expr} {s : List Char}
    (hpending : ∀ filter ∈ pending, filter.WellFormed) (he : e.WellFormed)
    (h : readTail? pending e s = some e') : e'.WellFormed := by
  fun_induction readTail? pending e s with
  | case1 pending e t key rest hname ih =>
      exact ih hpending ⟨he, isName_of_readName? hname⟩ h
  | case2 => exact nomatch h
  | case3 pending e t argument rest hhead ih =>
      have hopened : ∀ filter ∈ e :: pending, filter.WellFormed :=
        List.forall_mem_cons.2 ⟨he, hpending⟩
      exact ih hopened (wellFormed_of_readHead? hhead) h
  | case4 => exact nomatch h
  | case5 e =>
      obtain rfl := Option.some.inj h
      exact he
  | case6 => exact nomatch h
  | case7 e s _ _ filter outer rest _ ih =>
      obtain ⟨hfilter, houter⟩ := List.forall_mem_cons.1 hpending
      exact ih houter ⟨hfilter, he⟩ h
  | case8 => exact nomatch h

theorem wellFormed_of_parse {line : Nat} {s : List Char} {e : Expr}
    (h : parse line s = .ok e) : e.WellFormed := by
  unfold parse at h
  split at h
  · cases h
  · split at h
    · next hread =>
      obtain rfl := Except.ok.inj h
      unfold read? at hread
      split at hread
      · next hhead =>
        exact wellFormed_of_readTail? (List.forall_mem_nil _) (wellFormed_of_readHead? hhead) hread
      · cases hread
    · cases h

end Mustache.Expr
