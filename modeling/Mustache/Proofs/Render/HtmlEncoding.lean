import Mathlib.Logic.Function.Basic
import Mustache.Proofs.Render.ChainSimulation
import Mustache.Proofs.Render.Iteration

/-!
# HTML escaping as an encoding

Every special character is written as an entity that starts with an ampersand, and no other
ampersand is written.  So a text can be read back from left to right, also if it had entities
or stray ampersands of its own before it was escaped.

A text enters a document escaped once, whether an escaping tag or the standard filter has
escaped it: what the filter makes is HTML already, and tags leave HTML as it is.
-/

namespace Mustache

/-! ## Entities -/

def htmlEntities : List String :=
  ["&amp;", "&lt;", "&gt;", "&quot;", "&#39;"]

/-- Replaces the entities from left to right. -/
def unescapeChars : List Char → List Char
  | '&' :: 'a' :: 'm' :: 'p' :: ';' :: rest => '&' :: unescapeChars rest
  | '&' :: 'l' :: 't' :: ';' :: rest => '<' :: unescapeChars rest
  | '&' :: 'g' :: 't' :: ';' :: rest => '>' :: unescapeChars rest
  | '&' :: 'q' :: 'u' :: 'o' :: 't' :: ';' :: rest => '"' :: unescapeChars rest
  | '&' :: '#' :: '3' :: '9' :: ';' :: rest => '\'' :: unescapeChars rest
  | c :: rest => c :: unescapeChars rest
  | [] => []

def unescapeHtml (s : String) : String :=
  String.ofList (unescapeChars s.toList)

theorem unescapeChars_cons {c : Char} (h : c ≠ '&') (rest : List Char) :
    unescapeChars (c :: rest) = c :: unescapeChars rest := by
  rw [unescapeChars]
  all_goals
    rintro _ rfl
    exact absurd rfl h

theorem unescapeChars_escapeChar_append (c : Char) (rest : List Char) :
    unescapeChars (escapeChar c ++ rest) = c :: unescapeChars rest := by
  by_cases hspecial : c ∈ htmlSpecials
  · simp only [htmlSpecials, List.mem_cons, List.not_mem_nil, or_false] at hspecial
    rcases hspecial with rfl | rfl | rfl | rfl | rfl <;> rfl
  · rw [escapeChar_of_not_special hspecial]
    apply unescapeChars_cons
    rintro rfl
    exact hspecial List.mem_cons_self

theorem unescapeHtml_escapeHtml (s : String) : unescapeHtml (escapeHtml s) = s := by
  have hchars : ∀ cs : List Char, unescapeChars (cs.flatMap escapeChar) = cs := by
    intro cs
    induction cs with
    | nil => rfl
    | cons c cs ih => rw [List.flatMap_cons, unescapeChars_escapeChar_append, ih]
  rw [unescapeHtml, escapeHtml, String.toList_ofList, hchars, String.ofList_toList]

/-- An ampersand is written at the start of an entity only. -/
theorem escapeChar_eq_append {c : Char} {before after : List Char}
    (h : escapeChar c = before ++ '&' :: after) :
    before = [] ∧ String.ofList (escapeChar c) ∈ htmlEntities := by
  by_cases hspecial : c ∈ htmlSpecials
  · have hentities : ∀ c ∈ htmlSpecials,
        '&' ∉ (escapeChar c).tail ∧ String.ofList (escapeChar c) ∈ htmlEntities := by
      simp only [htmlSpecials, List.forall_mem_cons, List.not_mem_nil, false_implies,
        implies_true]
      decide
    obtain ⟨htail, hentity⟩ := hentities c hspecial
    refine ⟨?_, hentity⟩
    cases before with
    | nil => rfl
    | cons b before =>
        rw [h] at htail
        simp at htail
  · rw [escapeChar_of_not_special hspecial] at h
    cases before with
    | nil =>
        obtain ⟨rfl, -⟩ := List.cons.inj h
        exact absurd List.mem_cons_self hspecial
    | cons b before => simp at h

theorem exists_entity_of_flatMap {cs before after : List Char}
    (h : cs.flatMap escapeChar = before ++ '&' :: after) :
    ∃ entity ∈ htmlEntities, entity.toList <+: '&' :: after := by
  induction cs generalizing before with
  | nil => simp at h
  | cons c cs ih =>
      rw [List.flatMap_cons] at h
      rcases List.append_eq_append_iff.1 h with ⟨inside, -, hlater⟩ | ⟨inside, hhere, hlater⟩
      · exact ih hlater
      · cases inside with
        | nil =>
            have hhead : cs.flatMap escapeChar = [] ++ '&' :: after := hlater.symm
            exact ih hhead
        | cons d inside =>
            obtain ⟨rfl, hafter⟩ := List.cons.inj hlater
            obtain ⟨rfl, hentity⟩ := escapeChar_eq_append hhere
            refine ⟨_, hentity, ?_⟩
            rw [String.toList_ofList, hhere, hafter]
            exact ⟨cs.flatMap escapeChar, rfl⟩

/-! ## Tags that escape -/

variable {κ : Type} {setting : Setting κ} {c : ScopeChain κ} {e : Expr} {x : Value κ} {s : String}

/-- Without hooks, a tag comes to what its value is rendered to. -/
theorem Site.result_render_of_hooks_eq_nil {site : Site κ} {r : Rendering}
    (hhooks : site.scope.hooks = [])
    (hvalue : (e.evaluate setting.host site.scope).result = .ok x)
    (hfragment : (site.fragment setting x).result = .ok r) (escapes : Bool) :
    (site.render setting e escapes).result = .ok (r.embed setting.contentType escapes) := by
  have hlast : finalCandidate setting.host site.tag site.scope.hooks x = x := by
    rw [hhooks]
    rfl
  rw [render, Run.result_bind_of_ok hvalue, result_observe, hlast, result_renderValue, hfragment]
  rfl

theorem Node.result_renderOn_scalar (hhooks : c.hooks = [])
    (hvalue : (e.evaluate setting.host c).result = .ok x) (hoverride : x.override = none)
    (htext : x.text? = some s) (deeper : List Node → ScopeChain κ → Run κ String)
    (escapes : Bool) :
    ((Node.variableTag e escapes).renderOn setting deeper c).result =
      .ok (Rendering.embed ⟨s, .text⟩ setting.contentType escapes) := by
  apply Site.result_render_of_hooks_eq_nil hhooks hvalue
  rw [Site.fragment_eq_renderDefault (.inr hoverride), Site.renderDefault_variable rfl, Value.text,
    htext]
  rfl

def Expr.htmlEscape (argument : Expr) : Expr :=
  .call (.name "HTMLEscape") argument

/-- Whether or not the tag escapes, what the filter has escaped is HTML. -/
theorem Node.result_renderOn_htmlEscape (hhooks : c.hooks = []) (hlibrary : c.Offers .htmlEscape)
    (hvalue : (e.evaluate setting.host c).result = .ok x) (htext : x.text? = some s)
    (deeper : List Node → ScopeChain κ → Run κ String) (escapes : Bool) :
    ((Node.variableTag e.htmlEscape escapes).renderOn setting deeper c).result =
      .ok (escapeHtml s) := by
  have hfilter : (e.htmlEscape.evaluate setting.host c).result =
      .ok { override := some (.fixed ⟨escapeHtml s, .html⟩) } := by
    rw [Expr.htmlEscape]
    refine (hlibrary.result_call hvalue).trans ?_
    rw [StandardFilter.apply, htext]
  have hfragment : ((Site.ofVariable deeper e.htmlEscape c).fragment setting
      { override := some (.fixed ⟨escapeHtml s, .html⟩) }).result =
        .ok ⟨escapeHtml s, .html⟩ := by
    rw [Site.fragment_of_fixed (by simp [Site.ofVariable, TagInfo.ofVariable]) rfl]
  refine (Site.result_render_of_hooks_eq_nil hhooks hfilter hfragment escapes).trans ?_
  simp [Rendering.embed]

/-- Escaping distributes over concatenation, leaves no special character but ampersands that
begin an entity, and can be undone.  In an HTML document a scalar comes out escaped once,
whether an escaping tag does it, the standard filter, or the filter in an escaping tag. -/
theorem escapeHtml_faithful :
    (∀ s t, escapeHtml (s ++ t) = escapeHtml s ++ escapeHtml t) ∧
    (∀ s, ∀ special ∈ ['<', '>', '"', '\''], special ∉ (escapeHtml s).toList) ∧
    (∀ s before after, (escapeHtml s).toList = before ++ '&' :: after →
      ∃ entity ∈ htmlEntities, entity.toList <+: '&' :: after) ∧
    (∀ s, unescapeHtml (escapeHtml s) = s) ∧
    Function.Injective escapeHtml ∧
    ∀ (setting : Setting κ) (c : ScopeChain κ) (e : Expr) (x : Value κ) (s : String),
      setting.contentType = .html → c.hooks = [] → c.Offers .htmlEscape →
      (e.evaluate setting.host c).result = .ok x → x.override = none → x.text? = some s →
      ∀ tag ∈ [Node.variableTag e true, .variableTag e.htmlEscape true,
          .variableTag e.htmlEscape false],
        ∀ deeper, (tag.renderOn setting deeper c).result = .ok (escapeHtml s) := by
  refine ⟨escapeHtml_append, ?specials, ?ampersands, unescapeHtml_escapeHtml, ?injective, ?tags⟩
  case specials =>
    intro s special hspecial hmem
    have hall : ∀ special ∈ ['<', '>', '"', '\''], special ∈ htmlSpecials ∧ special ≠ '&' := by
      simp only [List.forall_mem_cons, List.not_mem_nil, false_implies, implies_true]
      decide
    obtain ⟨hmember, hne⟩ := hall special hspecial
    exact hne (eq_ampersand_of_mem_escapeHtml hmem hmember)
  case ampersands =>
    intro s before after h
    rw [escapeHtml, String.toList_ofList] at h
    exact exists_entity_of_flatMap h
  case injective => exact Function.LeftInverse.injective unescapeHtml_escapeHtml
  case tags =>
    intro setting c e x s hhtml hhooks hlibrary hvalue hoverride htext tag htag deeper
    simp only [List.mem_cons, List.not_mem_nil, or_false] at htag
    rcases htag with rfl | rfl | rfl
    · rw [Node.result_renderOn_scalar hhooks hvalue hoverride htext, hhtml]
      rfl
    · exact Node.result_renderOn_htmlEscape hhooks hlibrary hvalue htext deeper true
    · exact Node.result_renderOn_htmlEscape hhooks hlibrary hvalue htext deeper false

/-- A text that looks escaped already is escaped again, and that just once. -/
theorem escapeHtml_faithful_entity :
    let host : Host Unit := ⟨fun _ v => .ok v, fun _ _ v => v, fun _ _ => .done (.ok default)⟩
    let setting : Setting Unit := ⟨host, .html, 0, none⟩
    let c : ScopeChain Unit :=
      ScopeChain.standard.withScope (.ofEntries [("x", .ofString "&lt;'")])
    let e : Expr := .name "x"
    let x : Value Unit := .ofString "&lt;'"
    setting.contentType = .html ∧ c.hooks = [] ∧ c.Offers .htmlEscape ∧
      (e.evaluate setting.host c).result = .ok x ∧ x.override = none ∧
      x.text? = some "&lt;'" ∧
      ((Node.variableTag e.htmlEscape true).renderOn setting (renderLevels setting 0) c).result =
        .ok "&amp;lt;&#39;" := by
  intro host setting c e x
  have hlibrary : c.Offers .htmlEscape := ⟨[_], [], rfl, List.forall_mem_singleton.2 rfl⟩
  have hvalue : (e.evaluate setting.host c).result = .ok x := rfl
  obtain ⟨-, -, -, -, -, htags⟩ := @escapeHtml_faithful Unit
  have hescaped : escapeHtml "&lt;'" = "&amp;lt;&#39;" := by decide
  refine ⟨rfl, rfl, hlibrary, hvalue, rfl, rfl, ?_⟩
  rw [← hescaped]
  exact htags setting c e x _ rfl rfl hlibrary hvalue rfl rfl _ (by simp) _

end Mustache
