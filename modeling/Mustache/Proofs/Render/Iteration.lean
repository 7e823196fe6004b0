import Mustache.Proofs.Render.Sections
import Mustache.Proofs.Render.Termination

/-!
# Iteration with positions

`each` hands out the elements of a collection in their order, each with its position and, if
the collection is keyed, with its key.  A section on the result pushes one element after the
other, so `@index`, `@first`, `@last` and `@key` describe the element of the innermost
iteration.

Values without a position do not stand in the way, however many of them are pushed: what
further sections, partials and expansions inside the body do to the chain leaves the innermost
position as it is, until an element of another iteration is pushed.  Its position holds for
the bodies of that iteration only, because the nodes behind it are rendered in the same chain
as those in front of it.
-/

namespace Mustache

variable {κ : Type}

/-! ## Elements -/

/-- The elements of a keyed collection or of a sequence, in order and with their keys. -/
def Value.elements? (v : Value κ) : Option (List (Option String × Value κ)) :=
  match v.data with
  | .map entries => some (entries.map fun (key, element) => (some key, element))
  | .sequence items => some (items.map fun item => (none, item))
  | .empty | .bool _ | .integer _ | .float _ | .string _ | .custom _ _ => none

/-- The element with its position as number `i` of `n`. -/
def Value.positioned (element : Value κ) (i n : Nat) (key : Option String) : Value κ :=
  { element with position := some (.ofIndex i n key) }

def positioned (elements : List (Option String × Value κ)) : List (Value κ) :=
  elements.mapIdx fun i (key, element) => element.positioned i elements.length key

@[simp] theorem length_positioned (elements : List (Option String × Value κ)) :
    (positioned elements).length = elements.length :=
  List.length_mapIdx

theorem getElem?_positioned {elements : List (Option String × Value κ)} {i : Nat}
    {key : Option String} {element : Value κ} (h : elements[i]? = some (key, element)) :
    (positioned elements)[i]? = some (element.positioned i elements.length key) := by
  rw [positioned, List.getElem?_mapIdx, h]
  rfl

theorem positionEntries_eq (entries : List (String × Value κ)) :
    StandardFilter.positionEntries entries =
      positioned (entries.map fun (key, element) => (some key, element)) := by
  apply List.ext_getElem?
  intro i
  simp only [StandardFilter.positionEntries, positioned, List.getElem?_mapIdx,
    List.getElem?_map, List.length_map, Option.map_map]
  rfl

theorem positionItems_eq (items : List (Value κ)) :
    StandardFilter.positionItems items = positioned (items.map fun item => (none, item)) := by
  apply List.ext_getElem?
  intro i
  simp only [StandardFilter.positionItems, positioned, List.getElem?_mapIdx,
    List.getElem?_map, List.length_map, Option.map_map]
  rfl

theorem StandardFilter.apply_each {v : Value κ} {elements : List (Option String × Value κ)}
    (h : v.elements? = some elements) :
    StandardFilter.each.apply v = .ok (.ofList (positioned elements)) := by
  unfold Value.elements? at h
  split at h
  · next entries hdata =>
    obtain rfl := Option.some.inj h
    simp only [apply, hdata, positionEntries_eq]
  · next items hdata =>
    obtain rfl := Option.some.inj h
    simp only [apply, hdata, positionItems_eq]
  all_goals exact nomatch h

/-! ## Chains -/

namespace ScopeChain

/-- The chain holds the standard library, and no scope above it has the name of the filter. -/
def Offers (c : ScopeChain κ) (f : StandardFilter) : Prop :=
  ∃ above below, c.scopes = above ++ standardLibrary :: below ∧
    ∀ v ∈ above, v.lookup f.key = none

theorem Offers.resolve_eq {c : ScopeChain κ} {f : StandardFilter} (h : c.Offers f) :
    c.resolve f.key = { filter := some (.standard f) } := by
  obtain ⟨above, below, hscopes, habove⟩ := h
  have hfield : positionField? f.key = (none : Option (Position → Value κ)) := by
    cases f <;> rfl
  have hlibrary : (standardLibrary : Value κ).lookup f.key =
      some { filter := some (.standard f) } := by
    cases f <;> rfl
  have hfound : c.scopes.findSome? (·.lookup f.key) = some { filter := some (.standard f) } := by
    rw [hscopes, List.findSome?_append, List.findSome?_eq_none_iff.2 habove, Option.none_or,
      List.findSome?_cons, hlibrary]
  simp only [resolve, hfield, hfound, Option.getD_some]

/-- Calling a standard filter by its name applies it. -/
theorem Offers.result_call {c : ScopeChain κ} {f : StandardFilter} (h : c.Offers f)
    {host : Host κ} {a : Expr} {v : Value κ} (hargument : (a.evaluate host c).result = .ok v) :
    ((Expr.call (.name f.key) a).evaluate host c).result = f.apply v := by
  rw [Expr.evaluate, Run.result_bind_of_ok (a := c.resolve f.key) rfl,
    Run.result_bind_of_ok hargument, h.resolve_eq]
  simp only [Filter.call]
  rw [Run.result_bind_of_ok (a := ()) rfl, Run.result_ofExcept]

/-- In the chain the metadata are those of element number `i` of `n`, with this key. -/
structure Describes (c : ScopeChain κ) (i n : Nat) (key : Option String) : Prop where
  index : c.resolve "@index" = .ofNat i
  first : c.resolve "@first" = .ofBool (i = 0)
  last : c.resolve "@last" = .ofBool (i = n - 1)
  key : c.resolve "@key" = (key.map .ofString).getD .empty

theorem describes_of_position {c : ScopeChain κ} {i n : Nat} {key : Option String} (hi : i < n)
    (h : c.position? = some (.ofIndex i n key)) : c.Describes i n key := by
  have hlast : decide (i + 1 = n) = decide (i = n - 1) := by
    rw [decide_eq_decide]
    omega
  constructor <;> simp [resolve, positionField?, h, Position.ofIndex, hlast]

/-- What is pushed on the first chain to get the second one has no positions. -/
def Unpositioned (c c' : ScopeChain κ) : Prop :=
  ∃ pushed, c'.scopes = pushed ++ c.scopes ∧ ∀ v ∈ pushed, v.position = none

theorem Unpositioned.position?_eq {c c' : ScopeChain κ} (h : c.Unpositioned c') :
    c'.position? = c.position? := by
  obtain ⟨pushed, hscopes, hpushed⟩ := h
  rw [position?, hscopes, List.findSome?_append, List.findSome?_eq_none_iff.2 hpushed,
    Option.none_or, position?]

end ScopeChain

/-- The second call is nested in the first one, at any depth, and nothing that has a position
is pushed on the way. -/
def Setting.NestedUnpositioned (setting : Setting κ) : Call κ → Call κ → Prop :=
  Relation.ReflTransGen fun call nested =>
    setting.Nested call nested ∧ call.scope.Unpositioned nested.scope

theorem Setting.NestedUnpositioned.position?_eq {setting : Setting κ} {call nested : Call κ}
    (h : setting.NestedUnpositioned call nested) :
    nested.scope.position? = call.scope.position? := by
  induction h with
  | refl => rfl
  | tail _ hstep ih => exact hstep.2.position?_eq.trans ih

/-! ## Sections -/

def Expr.each (argument : Expr) : Expr :=
  .call (.name "each") argument

section EachSections

variable {setting : Setting κ} {c : ScopeChain κ} {a : Expr} {v : Value κ}
  {elements : List (Option String × Value κ)}

theorem Expr.result_each (hlibrary : c.Offers .each)
    (hargument : (a.evaluate setting.host c).result = .ok v)
    (helements : v.elements? = some elements) :
    (a.each.evaluate setting.host c).result = .ok (.ofList (positioned elements)) := by
  rw [← StandardFilter.apply_each helements]
  exact hlibrary.result_call hargument

theorem Expr.around_of_hooks_eq_nil (hhooks : c.hooks = []) (host : Host κ) (e : Expr)
    (tag : TagInfo) (candidate : Value κ) (inside : Run κ String) :
    e.around host c tag candidate inside = e.evaluate host c >>= fun _ => inside := by
  have hbetween : ∀ last : Value κ, (inside.between [] fun result =>
      closing tag [] last result.toOption) = inside := by
    intro last
    ext1
    · exact List.append_nil _
    · rfl
  simp only [around, hhooks, opening, hbetween]

theorem bodyScopes_ofList (c : ScopeChain κ) (items : List (Value κ)) :
    bodyScopes .sectionTag c (.ofList items) = items.map c.extended := by
  cases items <;> rfl

/-- Without hooks, a section on `each` evaluates its expression and then renders its body in
the chains that belong to the elements. -/
theorem Node.renderOn_eachSection (hlibrary : c.Offers .each) (hhooks : c.hooks = [])
    (hargument : (a.evaluate setting.host c).result = .ok v)
    (helements : v.elements? = some elements)
    (deeper : List Node → ScopeChain κ → Run κ String) (inverted : Bool) (body : List Node)
    (source : String) :
    (Node.sectionTag inverted a.each body source).renderOn setting deeper c =
      a.each.evaluate setting.host c >>= fun _ =>
        renderBodies (renderNodesOn setting deeper body)
          (bodyScopes (.ofInverted inverted) c (.ofList (positioned elements))) := by
  have hresult := Expr.result_each hlibrary hargument helements
  have hlast : finalCandidate setting.host (.ofSection inverted a.each source) c.hooks
      (.ofList (positioned elements)) = .ofList (positioned elements) := by
    rw [hhooks]
    rfl
  rw [Node.renderOn_section hresult hlast (.inr rfl), Expr.around_of_hooks_eq_nil hhooks]

end EachSections

/-- The chains of the bodies of an iteration: each has one element pushed, in order. -/
def iterationScopes (c : ScopeChain κ) (elements : List (Option String × Value κ)) :
    List (ScopeChain κ) :=
  (positioned elements).map c.extended

theorem getElem?_iterationScopes {elements : List (Option String × Value κ)} {i : Nat}
    {key : Option String} {element : Value κ} (h : elements[i]? = some (key, element))
    (c : ScopeChain κ) :
    (iterationScopes c elements)[i]? =
      some (c.extended (element.positioned i elements.length key)) := by
  rw [iterationScopes, List.getElem?_map, getElem?_positioned h]
  rfl

/-- The nodes behind another one are rendered in the same chain as those in front of it. -/
theorem renderNodesOn_append_cons (setting : Setting κ)
    (deeper : List Node → ScopeChain κ → Run κ String) (before : List Node) (node : Node)
    (after : List Node) (c : ScopeChain κ) :
    renderNodesOn setting deeper (before ++ node :: after) c = do
      let first ← renderNodesOn setting deeper before c
      let second ← node.renderOn setting deeper c
      let third ← renderNodesOn setting deeper after c
      return first ++ (second ++ third) := by
  rw [renderNodesOn_append, renderNodesOn]
  simp only [bind_assoc, pure_bind]

/-- A section on `each` of a collection renders its body once for each element, in their
order, with the element on top.  There, and wherever nothing with a position has been pushed
since, the metadata describe the element; and whatever has been pushed for a node, such as an
inner section on `each`, is gone behind it.  If there are no elements then only the inverted
section renders its body. -/
theorem renderOn_each {setting : Setting κ} {c : ScopeChain κ} {a : Expr} {v : Value κ}
    {elements : List (Option String × Value κ)} (hlibrary : c.Offers .each)
    (hhooks : c.hooks = []) (hargument : (a.evaluate setting.host c).result = .ok v)
    (helements : v.elements? = some elements)
    (hobservers : ∀ x ∈ elements, x.2.observer = none)
    (deeper : List Node → ScopeChain κ → Run κ String) (body : List Node) (source : String) :
    (a.each.evaluate setting.host c).result = .ok (.ofList (positioned elements)) ∧
      (Node.sectionTag false a.each body source).renderOn setting deeper c =
        (a.each.evaluate setting.host c >>= fun _ =>
          renderBodies (renderNodesOn setting deeper body) (iterationScopes c elements)) ∧
      (iterationScopes c elements).length = elements.length ∧
      (∀ i key element, elements[i]? = some (key, element) → ∃ here,
        (iterationScopes c elements)[i]? = some here ∧ here.hooks = [] ∧
          Expr.implicit.evaluate setting.host here =
            pure (element.positioned i elements.length key) ∧
          ∀ depth inner, setting.NestedUnpositioned ⟨depth, body, here⟩ inner →
            inner.scope.Describes i elements.length key ∧
              ∀ before node after, inner.nodes = before ++ node :: after →
                renderNodesOn setting deeper inner.nodes inner.scope = do
                  let first ← renderNodesOn setting deeper before inner.scope
                  let second ← node.renderOn setting deeper inner.scope
                  let third ← renderNodesOn setting deeper after inner.scope
                  return first ++ (second ++ third)) ∧
      (elements = [] →
        (Node.sectionTag false a.each body source).renderOn setting deeper c =
            (a.each.evaluate setting.host c >>= fun _ => pure "") ∧
          (Node.sectionTag true a.each body source).renderOn setting deeper c =
            a.each.evaluate setting.host c >>= fun _ =>
              renderNodesOn setting deeper body c) := by
  have hresult := Expr.result_each hlibrary hargument helements
  have hsection := Node.renderOn_eachSection hlibrary hhooks hargument helements deeper false
    body source
  rw [TagKind.ofInverted, bodyScopes_ofList] at hsection
  refine ⟨hresult, hsection, ?length, ?elements, ?noElements⟩
  case length => rw [iterationScopes, List.length_map, length_positioned]
  case elements =>
    intro i key element helement
    refine ⟨_, getElem?_iterationScopes helement c, ?_, rfl, ?_⟩
    · have hobserver : (element.positioned i elements.length key).observer = none :=
        hobservers (key, element) (List.mem_of_getElem? helement)
      rw [ScopeChain.hooks_extended, hobserver, hhooks]
      rfl
    · intro depth inner hnested
      refine ⟨?_, ?_⟩
      · apply ScopeChain.describes_of_position (List.getElem?_eq_some_iff.1 helement).1
        rw [hnested.position?_eq]
        rfl
      · intro before node after hnodes
        rw [hnodes, renderNodesOn_append_cons]
  case noElements =>
    rintro rfl
    refine ⟨hsection, ?_⟩
    have hinverted := Node.renderOn_eachSection hlibrary hhooks hargument helements deeper true
      body source
    have hscopes : bodyScopes (.ofInverted true) c (.ofList (positioned [])) = [c] := rfl
    simpa only [hscopes, renderBodies_singleton] using hinverted

/-- A table whose rows show the indices of their items and then, from inside a section that
pushes a boolean, their own key. -/
theorem renderOn_each_nested :
    let setting : Setting Unit := ⟨bodyHost, .text, 3, none⟩
    let rows : List (String × Value Unit) :=
      [("a", .ofList [.ofString "x"]), ("b", .ofList [.ofString "y", .ofString "z"])]
    let elements : List (Option String × Value Unit) :=
      rows.map fun (key, element) => (some key, element)
    let root : Value Unit := .ofEntries [("table", .ofEntries rows), ("on", .ofBool true)]
    let c : ScopeChain Unit := ScopeChain.standard.withScope root
    let keyNodes : List Node := [.variableTag (.name "@key") true]
    let items : Node :=
      .sectionTag false (Expr.each .implicit) [.variableTag (.name "@index") true] ""
    let body : List Node := [items, .sectionTag false (.name "on") keyNodes ""]
    let table : Node := .sectionTag false (Expr.name "table").each body ""
    c.Offers .each ∧ c.hooks = [] ∧
      ((Expr.name "table").evaluate setting.host c).result = .ok (.ofEntries rows) ∧
      (Value.ofEntries rows).elements? = some elements ∧
      (∀ x ∈ elements, x.2.observer = none) ∧
      (table.renderOn setting (renderLevels setting 3) c).result.toOption = some "0a01b" ∧
      ∃ here, (iterationScopes c elements)[1]? = some here ∧ here.Describes 1 2 (some "b") ∧
        (here.extended (.ofBool true)).Describes 1 2 (some "b") ∧
        renderNodesOn setting (renderLevels setting 3) body here = do
          let first ← renderNodesOn setting (renderLevels setting 3) [] here
          let second ← items.renderOn setting (renderLevels setting 3) here
          let third ← renderNodesOn setting (renderLevels setting 3)
            [.sectionTag false (.name "on") keyNodes ""] here
          return first ++ (second ++ third) := by
  intro setting rows elements root c keyNodes items body table
  have hlibrary : c.Offers .each := ⟨[root], [], rfl, List.forall_mem_singleton.2 rfl⟩
  have hargument : ((Expr.name "table").evaluate setting.host c).result =
      .ok (.ofEntries rows) := rfl
  have hobservers : ∀ x ∈ elements, x.2.observer = none := by
    simp [elements, rows, Value.ofList]
  have helements : (Value.ofEntries rows).elements? = some elements := rfl
  obtain ⟨-, -, -, hrows, -⟩ := renderOn_each hlibrary rfl hargument helements hobservers
    (renderLevels setting 3) body ""
  obtain ⟨here, hhere, -, -, hnested⟩ := hrows 1 (some "b") _ rfl
  obtain ⟨hdescribes, hbehind⟩ := hnested 0 ⟨0, body, here⟩ .refl
  have hinner : setting.NestedUnpositioned ⟨0, body, here⟩
      ⟨0, keyNodes, here.extended (.ofBool true)⟩ := by
    have hpushed : here.extended (.ofBool true) ∈
        bodyScopes .sectionTag here (.ofBool true : Value Unit) := .head _
    exact .single ⟨.body (Nat.zero_le 3) (.tail _ (.head _)) rfl hpushed, [.ofBool true], rfl,
      List.forall_mem_singleton.2 rfl⟩
  exact ⟨hlibrary, rfl, hargument, helements, hobservers, by decide +kernel, here, hhere, hdescribes,
    (hnested 0 _ hinner).1, hbehind [] items _ rfl⟩

end Mustache
