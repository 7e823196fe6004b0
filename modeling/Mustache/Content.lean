/-!
# Content types and escaping

A document and every rendered fragment is either plain text or HTML.  Text
that enters an HTML document through an escaping tag is escaped; everything
else is embedded as it is.
-/

namespace Mustache

inductive ContentType where
  | text
  | html
deriving DecidableEq, Repr, Inhabited

namespace ContentType

def name : ContentType → String
  | .text => "text"
  | .html => "html"

def ofName? : String → Option ContentType
  | "text" => some .text
  | "html" => some .html
  | _ => none

end ContentType

def escapeChar : Char → List Char
  | '&' => "&amp;".toList
  | '<' => "&lt;".toList
  | '>' => "&gt;".toList
  | '"' => "&quot;".toList
  | '\'' => "&#39;".toList
  | c => [c]

def escapeHtml (s : String) : String :=
  String.ofList (s.toList.flatMap escapeChar)

/-- The characters that do not stand for themselves in HTML. -/
def htmlSpecials : List Char :=
  ['&', '<', '>', '"', '\'']

theorem escapeChar_of_not_special {c : Char} (h : c ∉ htmlSpecials) : escapeChar c = [c] := by
  simp only [htmlSpecials, List.mem_cons, List.not_mem_nil, or_false, not_or] at h
  unfold escapeChar
  split <;> simp_all

/-- Of the special characters only the ampersand stands in the place of another. -/
theorem eq_ampersand_of_mem_escapeChar {c d : Char} (h : d ∈ escapeChar c)
    (hd : d ∈ htmlSpecials) : d = '&' := by
  by_cases hc : c ∈ htmlSpecials
  · have hall : (htmlSpecials.all fun c => (escapeChar c).all fun d =>
        !htmlSpecials.contains d || d == '&') = true := by
      decide
    have hmem := List.all_eq_true.1 (List.all_eq_true.1 hall c hc) d h
    simpa [hd] using hmem
  · rw [escapeChar_of_not_special hc, List.mem_singleton] at h
    exact absurd (h ▸ hd) hc

@[simp] theorem escapeHtml_empty : escapeHtml "" = "" := rfl

theorem escapeHtml_append (s t : String) :
    escapeHtml (s ++ t) = escapeHtml s ++ escapeHtml t := by
  simp [escapeHtml, String.toList_append, List.flatMap_append]

theorem flatMap_escapeChar_of_not_special {l : List Char} (h : ∀ c ∈ l, c ∉ htmlSpecials) :
    l.flatMap escapeChar = l := by
  induction l with
  | nil => rfl
  | cons c rest ih =>
      rw [List.flatMap_cons, escapeChar_of_not_special (h c List.mem_cons_self),
        ih fun d hd => h d (List.mem_cons_of_mem c hd)]
      rfl

theorem escapeHtml_of_not_special {s : String} (h : ∀ c ∈ s.toList, c ∉ htmlSpecials) :
    escapeHtml s = s := by
  rw [escapeHtml, flatMap_escapeChar_of_not_special h, String.ofList_toList]

theorem eq_ampersand_of_mem_escapeHtml {s : String} {c : Char}
    (h : c ∈ (escapeHtml s).toList) (hc : c ∈ htmlSpecials) : c = '&' := by
  rw [escapeHtml, String.toList_ofList] at h
  obtain ⟨d, -, hd⟩ := List.mem_flatMap.1 h
  exact eq_ampersand_of_mem_escapeChar hd hc

structure Rendering where
  text : String
  contentType : ContentType
deriving DecidableEq, Repr, Inhabited

namespace Rendering

/-- The fragment as it appears in a document of type `target`. -/
def embed (r : Rendering) (target : ContentType) (escapes : Bool) : String :=
  if escapes && target == .html && r.contentType == .text then escapeHtml r.text else r.text

end Rendering
end Mustache
