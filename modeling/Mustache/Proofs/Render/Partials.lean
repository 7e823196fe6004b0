import Mustache.Render.Engine

/-!
# The trees of partials

A render expands the partials of its tree, the partials of those, and so on.  Only the
trees that can be reached in this way matter to it.
-/

namespace Mustache

mutual

/-- The names of the partials that stand in a node, at any depth. -/
def Node.partialNames : Node → List String
  | .text _ | .variableTag _ _ => []
  | .sectionTag _ _ body _ => partialNames body
  | .partialTag name => [name]

def partialNames : List Node → List String
  | [] => []
  | node :: rest => node.partialNames ++ partialNames rest

end

/-- The tree itself, the trees of its partials, those of their partials, and so on. -/
inductive Reaches (partials : Option (String → Except RenderError (List Node)))
    (nodes : List Node) : List Node → Prop where
  | self : Reaches partials nodes nodes
  | included {tree tree' : List Node} {name : String}
      {resolve : String → Except RenderError (List Node)} :
      Reaches partials nodes tree → name ∈ partialNames tree → partials = some resolve →
        resolve name = .ok tree' → Reaches partials nodes tree'

/-- The names of the partials that a render of the tree can ask for. -/
def ReachedName (partials : Option (String → Except RenderError (List Node)))
    (nodes : List Node) (name : String) : Prop :=
  ∃ tree, Reaches partials nodes tree ∧ name ∈ partialNames tree

mutual

/-- The expressions that stand in a node, at any depth. -/
def Node.exprs : Node → List Expr
  | .text _ | .partialTag _ => []
  | .variableTag e _ => [e]
  | .sectionTag _ e body _ => e :: exprs body

def exprs : List Node → List Expr
  | [] => []
  | node :: rest => node.exprs ++ exprs rest

end

/-- The expression stands in a tree that a render can come to. -/
def ReachedExpr (partials : Option (String → Except RenderError (List Node)))
    (nodes : List Node) (e : Expr) : Prop :=
  ∃ tree, Reaches partials nodes tree ∧ e ∈ exprs tree

theorem partialNames_append (nodes nodes' : List Node) :
    partialNames (nodes ++ nodes') = partialNames nodes ++ partialNames nodes' := by
  induction nodes with
  | nil => rfl
  | cons node rest ih => rw [List.cons_append, partialNames, partialNames, ih, List.append_assoc]

section Reached

variable {partials : Option (String → Except RenderError (List Node))}
  {nodes nodes' tree : List Node}

theorem Reaches.trans {tree' : List Node} (h : Reaches partials nodes tree)
    (h' : Reaches partials tree tree') : Reaches partials nodes tree' := by
  induction h' with
  | self => exact h
  | included _ hname hpartials hresolve ih => exact ih.included hname hpartials hresolve

/-- A tree that asks for no more partials reaches no more trees. -/
theorem Reaches.of_subset (hnames : partialNames nodes ⊆ partialNames nodes')
    (h : Reaches partials nodes tree) : tree = nodes ∨ Reaches partials nodes' tree := by
  induction h with
  | self => exact .inl rfl
  | included _ hname hpartials hresolve ih =>
      rcases ih with rfl | hreaches
      · exact .inr (.included .self (hnames hname) hpartials hresolve)
      · exact .inr (hreaches.included hname hpartials hresolve)

theorem ReachedExpr.of_subset {e : Expr} (hexprs : exprs nodes ⊆ exprs nodes')
    (hnames : partialNames nodes ⊆ partialNames nodes') (h : ReachedExpr partials nodes e) :
    ReachedExpr partials nodes' e := by
  obtain ⟨tree, hreaches, he⟩ := h
  rcases hreaches.of_subset hnames with rfl | hreaches'
  · exact ⟨nodes', .self, hexprs he⟩
  · exact ⟨tree, hreaches', he⟩

theorem ReachedExpr.of_included {e : Expr} {name : String}
    {resolve : String → Except RenderError (List Node)} (hname : name ∈ partialNames nodes)
    (hpartials : partials = some resolve) (hresolve : resolve name = .ok tree)
    (h : ReachedExpr partials tree e) : ReachedExpr partials nodes e := by
  obtain ⟨tree', hreaches, he⟩ := h
  exact ⟨tree', (Reaches.self.included hname hpartials hresolve).trans hreaches, he⟩

end Reached

end Mustache
