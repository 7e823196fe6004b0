import Mathlib.Order.WellFounded
import Mustache.Proofs.Render.Comparison
import Mustache.Proofs.Render.HookTrace
import Mustache.Proofs.Render.Partials
import Mustache.Template.Repository

/-!
# Partials are inlining

Putting the trees of partials in the places of their tags, in sections and in other
partials as well, leaves a tree that needs no partials.  There is such a tree, and then
only one, if every partial within reach has a tree and none includes partials without end.

Both trees render the same.  What differs is the depth: the inlined tree opens no frames
for partials, so that it stays within any limit that the original stays within.  The proof
is therefore by induction on the levels that are left to the original, and within one
level on the inlining.
-/

namespace Mustache

variable {κ : Type} {partials : Option (String → Except RenderError (List Node))}

def Resolves (partials : Option (String → Except RenderError (List Node))) (name : String)
    (tree : List Node) : Prop :=
  ∃ resolve, partials = some resolve ∧ resolve name = .ok tree

theorem Resolves.unique {name : String} {tree tree' : List Node}
    (h : Resolves partials name tree) (h' : Resolves partials name tree') : tree = tree' := by
  obtain ⟨resolve, rfl, htree⟩ := h
  obtain ⟨resolve', hresolve, htree'⟩ := h'
  obtain rfl := Option.some.inj hresolve
  rw [htree] at htree'
  exact Except.ok.inj htree'

theorem Reaches.resolved {nodes tree tree' : List Node} {name : String}
    (h : Reaches partials nodes tree) (hname : name ∈ partialNames tree)
    (hresolves : Resolves partials name tree') : Reaches partials nodes tree' := by
  obtain ⟨resolve, hpartials, htree'⟩ := hresolves
  exact .included h hname hpartials htree'

/-! ## Inclusion -/

/-- The tree of the first partial includes the second one. -/
def Includes (partials : Option (String → Except RenderError (List Node)))
    (outer inner : String) : Prop :=
  ∃ tree, Resolves partials outer tree ∧ inner ∈ partialNames tree

/-- Every chain of inclusions that begins within reach of the tree comes to an end. -/
def Acyclic (partials : Option (String → Except RenderError (List Node)))
    (nodes : List Node) : Prop :=
  ∀ chain : Nat → String, ReachedName partials nodes (chain 0) →
    ∃ i, ¬ Includes partials (chain i) (chain (i + 1))

theorem ReachedName.includes {nodes : List Node} {outer inner : String}
    (h : ReachedName partials nodes outer) (hincludes : Includes partials outer inner) :
    ReachedName partials nodes inner := by
  obtain ⟨tree, hreaches, hname⟩ := h
  obtain ⟨tree', hresolves, hinner⟩ := hincludes
  exact ⟨tree', hreaches.resolved hname hresolves, hinner⟩

theorem Acyclic.acc {nodes : List Node} (h : Acyclic partials nodes) {name : String}
    (hname : ReachedName partials nodes name) : Acc (flip (Includes partials)) name := by
  rw [acc_iff_isEmpty_descending_chain]
  constructor
  rintro ⟨chain, rfl, hchain⟩
  obtain ⟨i, hend⟩ := h chain hname
  exact hend (hchain i)

/-! ## Inlined trees -/

/-- The second tree is the first one with the trees of partials, inlined in the same way,
in the places of their tags. -/
inductive Inlined (partials : Option (String → Except RenderError (List Node))) :
    List Node → List Node → Prop where
  | nil : Inlined partials [] []
  | text {content : String} {rest rest' : List Node} :
      Inlined partials rest rest' →
        Inlined partials (.text content :: rest) (.text content :: rest')
  | variableTag {e : Expr} {escapes : Bool} {rest rest' : List Node} :
      Inlined partials rest rest' →
        Inlined partials (.variableTag e escapes :: rest) (.variableTag e escapes :: rest')
  | sectionTag {inverted : Bool} {e : Expr} {body body' : List Node} {source : String}
      {rest rest' : List Node} :
      Inlined partials body body' → Inlined partials rest rest' →
        Inlined partials (.sectionTag inverted e body source :: rest)
          (.sectionTag inverted e body' source :: rest')
  | partialTag {name : String} {tree tree' rest rest' : List Node} :
      Resolves partials name tree → Inlined partials tree tree' →
        Inlined partials rest rest' →
          Inlined partials (.partialTag name :: rest) (tree' ++ rest')

theorem Inlined.unique {nodes nodes' other : List Node} (h : Inlined partials nodes nodes')
    (hother : Inlined partials nodes other) : other = nodes' := by
  induction h generalizing other with
  | nil =>
      cases hother
      rfl
  | text _ ih =>
      cases hother with
      | text hrest => rw [ih hrest]
  | variableTag _ ih =>
      cases hother with
      | variableTag hrest => rw [ih hrest]
  | sectionTag _ _ ihbody ih =>
      cases hother with
      | sectionTag hbody hrest => rw [ihbody hbody, ih hrest]
  | partialTag hresolves _ _ ihtree ih =>
      cases hother with
      | partialTag hresolves' htree hrest =>
          obtain rfl := hresolves.unique hresolves'
          rw [ihtree htree, ih hrest]

theorem Inlined.partialNames_eq {nodes nodes' : List Node}
    (h : Inlined partials nodes nodes') : partialNames nodes' = [] := by
  induction h with
  | nil => rfl
  | text _ ih => exact ih
  | variableTag _ ih => exact ih
  | sectionTag _ _ ihbody ih =>
      rw [partialNames, Node.partialNames, ihbody, ih]
      rfl
  | partialTag _ _ _ ihtree ih =>
      rw [partialNames_append, ihtree, ih]
      rfl

mutual

theorem Node.exists_inlined {rest rest' : List Node} (hrest : Inlined partials rest rest')
    (node : Node)
    (hnames : ∀ name ∈ node.partialNames,
      ∃ tree tree', Resolves partials name tree ∧ Inlined partials tree tree') :
    ∃ nodes', Inlined partials (node :: rest) nodes' := by
  cases node with
  | text content => exact ⟨_, .text hrest⟩
  | variableTag e escapes => exact ⟨_, .variableTag hrest⟩
  | sectionTag inverted e body source =>
      obtain ⟨body', hbody⟩ := exists_inlined body hnames
      exact ⟨_, .sectionTag hbody hrest⟩
  | partialTag name =>
      obtain ⟨tree, tree', hresolves, htree⟩ := hnames name (List.mem_singleton.2 rfl)
      exact ⟨_, .partialTag hresolves htree hrest⟩

theorem exists_inlined (nodes : List Node)
    (hnames : ∀ name ∈ partialNames nodes,
      ∃ tree tree', Resolves partials name tree ∧ Inlined partials tree tree') :
    ∃ nodes', Inlined partials nodes nodes' := by
  cases nodes with
  | nil => exact ⟨_, .nil⟩
  | cons node rest =>
      obtain ⟨rest', hrest⟩ := exists_inlined rest fun name h =>
        hnames name (List.mem_append_right _ h)
      exact node.exists_inlined hrest fun name h => hnames name (List.mem_append_left _ h)

end

/-- There is an inlined tree if each partial within reach has a tree and inclusions come
to an end. -/
theorem Acyclic.exists_inlined {nodes : List Node} (hacyclic : Acyclic partials nodes)
    (hresolves : ∀ name, ReachedName partials nodes name →
      ∃ tree, Resolves partials name tree) :
    ∃ nodes', Inlined partials nodes nodes' := by
  have htrees : ∀ name, ReachedName partials nodes name →
      ∃ tree tree', Resolves partials name tree ∧ Inlined partials tree tree' := by
    intro name hname
    have hacc := hacyclic.acc hname
    induction hacc with
    | intro name _ ih =>
        obtain ⟨tree, htree⟩ := hresolves name hname
        obtain ⟨tree', hinlined⟩ := Mustache.exists_inlined tree fun inner hinner =>
          have hincludes : Includes partials name inner := ⟨tree, htree, hinner⟩
          ih inner hincludes (hname.includes hincludes)
        exact ⟨tree, tree', htree, hinlined⟩
  exact Mustache.exists_inlined nodes fun name hname => htrees name ⟨nodes, .self, hname⟩

mutual

theorem Node.inlined_self {rest : List Node} (hrest : Inlined partials rest rest)
    (node : Node) (hnames : node.partialNames = []) :
    Inlined partials (node :: rest) (node :: rest) := by
  cases node with
  | text content => exact .text hrest
  | variableTag e escapes => exact .variableTag hrest
  | sectionTag inverted e body source => exact .sectionTag (inlined_self body hnames) hrest
  | partialTag name => exact absurd hnames (List.cons_ne_nil name [])

/-- A tree without partials is inlined already. -/
theorem inlined_self (nodes : List Node) (hnames : partialNames nodes = []) :
    Inlined partials nodes nodes := by
  cases nodes with
  | nil => exact .nil
  | cons node rest =>
      obtain ⟨hnode, hrest⟩ := List.append_eq_nil_iff.1 hnames
      exact node.inlined_self (inlined_self rest hrest) hnode

end

/-! ## Runs that go the same way below a limit -/

/-- Unless the first run fails at the limit, the second one has its result and its
events. -/
def Run.FollowedBy {α : Type} (limit : Nat) (x y : Run κ α) : Prop :=
  x.result ≠ .error (.recursionLimit limit) → y.result = x.result ∧ y.events = x.events

namespace Run.FollowedBy

variable {α β : Type} {limit : Nat}

theorem refl (x : Run κ α) : FollowedBy limit x x :=
  fun _ => ⟨rfl, rfl⟩

theorem framed {x y : Run κ α} (h : FollowedBy limit x y) (frame : Frame) :
    FollowedBy limit (.framed frame x) (.framed frame y) := by
  intro hlimit
  rw [result_framed, result_framed, events_framed, events_framed]
  exact h hlimit

theorem bind {x y : Run κ α} {f g : α → Run κ β} (h : FollowedBy limit x y)
    (hnext : ∀ a, FollowedBy limit (f a) (g a)) : FollowedBy limit (x >>= f) (y >>= g) := by
  intro hlimit
  cases hx : x.result with
  | error e =>
      have hother : e ≠ .recursionLimit limit := by
        rintro rfl
        exact hlimit (result_bind_of_error hx f)
      have hfirst : x.result ≠ .error (.recursionLimit limit) := by
        rw [hx]
        exact fun hsame => hother (Except.error.inj hsame)
      obtain ⟨hresult, hevents⟩ := h hfirst
      rw [hx] at hresult
      rw [result_bind_of_error hx, result_bind_of_error hresult, events_bind_of_error hx,
        events_bind_of_error hresult]
      exact ⟨rfl, hevents⟩
  | ok a =>
      rw [result_bind_of_ok hx] at hlimit
      have hfirst : x.result ≠ .error (.recursionLimit limit) := by
        rw [hx]
        exact nofun
      obtain ⟨hresult, hevents⟩ := h hfirst
      obtain ⟨hresult', hevents'⟩ := hnext a hlimit
      rw [hx] at hresult
      rw [result_bind_of_ok hx, result_bind_of_ok hresult, events_bind_of_ok hx,
        events_bind_of_ok hresult, hevents, hevents']
      exact ⟨hresult', rfl⟩

theorem settle {x y : Run κ α} {f g : Except RenderError α → Run κ β}
    (h : FollowedBy limit x y) (hstops : ∀ e, f (.error e) = fail e)
    (hnext : ∀ result, FollowedBy limit (f result) (g result)) :
    FollowedBy limit (x.settle f) (y.settle g) := by
  intro hlimit
  have hfirst : x.result ≠ .error (.recursionLimit limit) := by
    intro hx
    apply hlimit
    rw [Run.settle, hx, hstops]
    rfl
  obtain ⟨hresult, hevents⟩ := h hfirst
  obtain ⟨hresult', hevents'⟩ := hnext x.result hlimit
  rw [events_settle, events_settle, hresult, hevents, hevents']
  refine ⟨?_, rfl⟩
  rw [Run.settle, hresult]
  exact hresult'

theorem between {x y : Run κ α} (before : List (Event κ))
    (after : Except RenderError α → List (Event κ)) (h : FollowedBy limit x y) :
    FollowedBy limit (x.between before after) (y.between before after) := by
  intro hlimit
  obtain ⟨hresult, hevents⟩ := h hlimit
  rw [events_between, events_between, hresult, hevents]
  exact ⟨hresult, rfl⟩

theorem comparison (limit : Nat) : Comparison (κ := κ) (FollowedBy limit) where
  ofExcept _ := refl _
  emit _ := refl _
  bind := bind
  settle := settle
  between := between

end Run.FollowedBy

/-! ## Renders of inlined trees -/

theorem renderNodesOn_append (setting : Setting κ)
    (deeper : List Node → ScopeChain κ → Run κ String) (nodes rest : List Node)
    (c : ScopeChain κ) :
    renderNodesOn setting deeper (nodes ++ rest) c = do
      let first ← renderNodesOn setting deeper nodes c
      let others ← renderNodesOn setting deeper rest c
      return first ++ others := by
  induction nodes with
  | nil =>
      rw [List.nil_append, renderNodesOn, pure_bind]
      simp only [String.empty_append, bind_pure]
  | cons node nodes ih =>
      rw [List.cons_append, renderNodesOn, renderNodesOn, ih]
      simp only [bind_assoc, pure_bind, String.append_assoc]

section Trees

variable {setting : Setting κ} (hpropagates : setting.host.Propagates)
  (hexpands : setting.host.ExpandsOnly fun nodes => partialNames nodes = [])
include hpropagates hexpands

/-- On one level, where `deeper` and `deeper'` render what lies below: an included tree is
rendered below by the first render and on the level itself by the second one. -/
theorem Inlined.followedBy_renderNodesOn
    {deeper deeper' : List Node → ScopeChain κ → Run κ String}
    (hdeeper : ∀ {nodes nodes'} (c : ScopeChain κ), Inlined setting.partials nodes nodes' →
      Run.FollowedBy setting.maxDepth (deeper nodes c) (deeper' nodes' c))
    (hincluded : ∀ {nodes nodes'} (c : ScopeChain κ), Inlined setting.partials nodes nodes' →
      Run.FollowedBy setting.maxDepth (deeper nodes c)
        (renderNodesOn { setting with partials := none } deeper' nodes' c))
    {nodes nodes' : List Node} (h : Inlined setting.partials nodes nodes')
    (c : ScopeChain κ) :
    Run.FollowedBy setting.maxDepth (renderNodesOn setting deeper nodes c)
      (renderNodesOn { setting with partials := none } deeper' nodes' c) := by
  have hcomparison := Run.FollowedBy.comparison (κ := κ) setting.maxDepth
  induction h generalizing c with
  | nil =>
      rw [renderNodesOn, renderNodesOn]
      exact .refl _
  | text _ ih =>
      rw [renderNodesOn, renderNodesOn, Node.renderOn, Node.renderOn]
      exact hcomparison.join (.refl _) (ih c)
  | @variableTag e escapes rest rest' _ ih =>
      rw [renderNodesOn, renderNodesOn, Node.renderOn, Node.renderOn]
      have hsites : Comparison.Sites (Run.FollowedBy setting.maxDepth)
          (fun nodes => partialNames nodes = []) (.ofVariable deeper e c)
          (.ofVariable deeper' e c) :=
        { tag := rfl
          scope := rfl
          body := fun c => .refl _
          inner := fun c => (hdeeper c .nil).framed .body
          expand := fun c hnodes => (hdeeper c (inlined_self _ hnodes)).framed .template }
      exact hcomparison.join (hcomparison.render hsites hpropagates hexpands e escapes) (ih c)
  | @sectionTag inverted e body body' source rest rest' hbody _ ihbody ih =>
      rw [renderNodesOn, renderNodesOn, Node.renderOn, Node.renderOn]
      have hsites : Comparison.Sites (Run.FollowedBy setting.maxDepth)
          (fun nodes => partialNames nodes = [])
          (.ofSection (fun c => renderNodesOn setting deeper body c) deeper inverted e body
            source c)
          (.ofSection (fun c => renderNodesOn { setting with partials := none } deeper' body' c)
            deeper' inverted e body' source c) :=
        { tag := rfl
          scope := rfl
          body := ihbody
          inner := fun c => (hdeeper c hbody).framed .body
          expand := fun c hnodes => (hdeeper c (inlined_self _ hnodes)).framed .template }
      exact hcomparison.join (hcomparison.render hsites hpropagates hexpands e true) (ih c)
  | @partialTag name tree tree' rest rest' hresolves htree _ _ ih =>
      obtain ⟨resolve, hpartials, hresolve⟩ := hresolves
      rw [renderNodesOn, renderNodesOn_append, Node.renderOn, hpartials]
      simp only [hresolve]
      refine hcomparison.join ?_ (ih c)
      intro hlimit
      rw [Run.result_framed, Run.events_framed]
      exact hincluded c htree hlimit

theorem Inlined.followedBy_renderLevels {levels levels' : Nat} (hle : levels ≤ levels')
    {nodes nodes' : List Node} (h : Inlined setting.partials nodes nodes')
    (c : ScopeChain κ) :
    Run.FollowedBy setting.maxDepth (renderLevels setting levels nodes c)
      (renderLevels { setting with partials := none } levels' nodes' c) := by
  induction levels generalizing levels' nodes nodes' c with
  | zero =>
      intro hlimit
      exact absurd rfl hlimit
  | succ levels ih =>
      obtain ⟨levels', rfl⟩ := Nat.exists_eq_add_one_of_ne_zero (by omega : levels' ≠ 0)
      have hlevels : levels ≤ levels' := Nat.le_of_succ_le_succ hle
      have hlevels' : levels ≤ levels' + 1 := Nat.le_succ_of_le hlevels
      exact h.followedBy_renderNodesOn hpropagates hexpands (fun c h => ih hlevels h c)
        (fun c h => ih hlevels' h c) c

end Trees

/-- Of a compiled partial only the nodes are used. -/
theorem Repository.asPartial_congr {answer answer' : Except TemplateError Compiled}
    (h : answer.map (·.nodes) = answer'.map (·.nodes)) (name : String) :
    asPartial name answer = asPartial name answer' := by
  cases answer with
  | error e =>
      cases answer' with
      | error e' => rw [Except.error.inj h]
      | ok compiled' => exact nomatch h
  | ok compiled =>
      cases answer' with
      | error e' => exact nomatch h
      | ok compiled' => exact congrArg Except.ok (Except.ok.inj h)

/-- Rendering a tree with partials is rendering the tree with the partials inlined.  What
a partial's source says about the type of the document has no part in it: repositories
with the same trees for all names provide the same partials. -/
theorem renderTree_inlined (setting : Setting κ) (nodes : List Node)
    (hresolves : ∀ name, ReachedName setting.partials nodes name →
      ∃ tree, Resolves setting.partials name tree)
    (hacyclic : Acyclic setting.partials nodes)
    (hpropagates : setting.host.Propagates)
    (hexpands : setting.host.ExpandsOnly fun nodes => partialNames nodes = []) :
    (∃ inlined, Inlined setting.partials nodes inlined ∧ partialNames inlined = [] ∧
      (∀ other, Inlined setting.partials nodes other → other = inlined) ∧
      ∀ scope,
        (renderTree setting nodes scope).result ≠ .error (.recursionLimit setting.maxDepth) →
          (renderTree { setting with partials := none } inlined scope).result =
              (renderTree setting nodes scope).result ∧
            (renderTree { setting with partials := none } inlined scope).events =
              (renderTree setting nodes scope).events) ∧
    ∀ (r r' : Repository) (w w' : Workspace),
      (∀ name, (r.find w name).map (·.nodes) = (r'.find w' name).map (·.nodes)) →
        r.resolve w = r'.resolve w' := by
  refine ⟨?_, ?_⟩
  · obtain ⟨inlined, hinlined⟩ := hacyclic.exists_inlined hresolves
    refine ⟨inlined, hinlined, hinlined.partialNames_eq, ?_, ?_⟩
    · intro other hother
      exact hinlined.unique hother
    · intro scope
      exact hinlined.followedBy_renderLevels hpropagates hexpands (Nat.le_refl _) scope
  · intro r r' w w' hnodes
    funext name
    exact Repository.asPartial_congr (hnodes name) name

/-- A partial in a section, in the sight of a hook, that includes the partial after the
section as well. -/
theorem renderTree_inlined_nested :
    let resolve : String → Except RenderError (List Node) := fun name =>
      if name = "a" then .ok [.text "<", .partialTag "b"]
      else if name = "b" then .ok [.variableTag .implicit true]
      else .error (.partialNotFound name)
    let setting : Setting Unit := ⟨bodyHost, .html, 2, some resolve⟩
    let nodes : List Node := [.sectionTag false .implicit [.partialTag "a"] "", .partialTag "b"]
    let inlined : List Node :=
      [.sectionTag false .implicit [.text "<", .variableTag .implicit true] "",
        .variableTag .implicit true]
    let scope := (ScopeChain.empty.withScope (.ofString "&")).withHook
      { observer := some ⟨some (), some ()⟩ }
    (∀ name, ReachedName setting.partials nodes name →
        ∃ tree, Resolves setting.partials name tree) ∧
      Acyclic setting.partials nodes ∧ bodyHost.Propagates ∧
      bodyHost.ExpandsOnly (fun nodes => partialNames nodes = []) ∧
      Inlined setting.partials nodes inlined ∧
      (renderTree setting nodes scope).result.toOption = some "<&amp;&amp;" ∧
      (renderTree { setting with partials := none } inlined scope).result =
        (renderTree setting nodes scope).result ∧
      (renderTree { setting with partials := none } inlined scope).events =
        (renderTree setting nodes scope).events := by
  intro resolve setting nodes inlined scope
  have hinner : ∀ inner, Includes setting.partials "b" inner → False := by
    rintro inner ⟨tree, ⟨resolve', hpartials, htree⟩, hmem⟩
    obtain rfl := Option.some.inj hpartials
    obtain rfl := Except.ok.inj htree
    exact List.not_mem_nil hmem
  have houter : ∀ inner, Includes setting.partials "a" inner → inner = "b" := by
    rintro inner ⟨tree, ⟨resolve', hpartials, htree⟩, hmem⟩
    obtain rfl := Option.some.inj hpartials
    obtain rfl := Except.ok.inj htree
    exact List.mem_singleton.1 hmem
  have hnames : ∀ name, ReachedName setting.partials nodes name → name = "a" ∨ name = "b" := by
    rintro name ⟨tree, hreaches, hname⟩
    induction hreaches generalizing name with
    | self => simpa [nodes, partialNames, Node.partialNames] using hname
    | @included tree tree' outer resolve' _ houtername hpartials hresolve ih =>
        have hincludes : Includes setting.partials outer name :=
          ⟨tree', ⟨resolve', hpartials, hresolve⟩, hname⟩
        rcases ih outer houtername with rfl | rfl
        · exact .inr (houter name hincludes)
        · exact absurd hincludes (hinner name)
  have hresolves : ∀ name, ReachedName setting.partials nodes name →
      ∃ tree, Resolves setting.partials name tree := by
    intro name hname
    rcases hnames name hname with rfl | rfl
    · exact ⟨_, resolve, rfl, rfl⟩
    · exact ⟨_, resolve, rfl, rfl⟩
  have hacyclic : Acyclic setting.partials nodes := by
    intro chain hstart
    rcases hnames (chain 0) hstart with hfirst | hfirst
    · by_cases hincludes : Includes setting.partials (chain 0) (chain 1)
      · have hsecond : chain 1 = "b" := houter _ (hfirst ▸ hincludes)
        exact ⟨1, fun h => hinner _ (hsecond ▸ h)⟩
      · exact ⟨0, hincludes⟩
    · exact ⟨0, fun h => hinner _ (hfirst ▸ h)⟩
  have hpropagates : bodyHost.Propagates := fun _ _ => ⟨fun _ => rfl, fun _ => trivial⟩
  have hexpands : bodyHost.ExpandsOnly fun nodes => partialNames nodes = [] :=
    fun _ _ _ => trivial
  have hinlined : Inlined setting.partials nodes inlined := by
    have hb : Inlined setting.partials [.partialTag "b"] [.variableTag .implicit true] :=
      .partialTag ⟨resolve, rfl, rfl⟩ (.variableTag .nil) .nil
    exact .sectionTag (.partialTag ⟨resolve, rfl, rfl⟩ (.text hb) .nil) hb
  have htext : (renderTree setting nodes scope).result.toOption = some "<&amp;&amp;" := by
    decide +kernel
  have hlimit : (renderTree setting nodes scope).result ≠ .error (.recursionLimit 2) := by
    intro hfails
    rw [hfails] at htext
    cases htext
  obtain ⟨tree, _, _, hunique, hsame⟩ :=
    (renderTree_inlined setting nodes hresolves hacyclic hpropagates hexpands).1
  obtain ⟨hresult, hevents⟩ := hsame scope hlimit
  rw [← hunique inlined hinlined] at hresult hevents
  exact ⟨hresolves, hacyclic, hpropagates, hexpands, hinlined, htext, hresult, hevents⟩

end Mustache
