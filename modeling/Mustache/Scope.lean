import Mustache.Value.Basic

/-!
# Scope chains

A scope chain lists what is in scope at some place of a render, innermost first.
Each link may hold a scope, in which names are looked up, and a hook, which is a
value whose observer watches the tags.  Pushing a value that has an observer does
both.  Rendering gets to see a chain only through its scopes and its hooks.
-/

namespace Mustache

structure Link (κ : Type) where
  scope : Option (Value κ) := none
  hook : Option (Value κ) := none

structure ScopeChain (κ : Type) where
  links : List (Link κ)

namespace ScopeChain

variable {κ : Type}

def empty : ScopeChain κ := ⟨[]⟩

instance : Inhabited (ScopeChain κ) := ⟨empty⟩

def push (c : ScopeChain κ) (link : Link κ) : ScopeChain κ :=
  ⟨link :: c.links⟩

/-- Pushes a value as the innermost scope and, if it has an observer, as a hook. -/
def extended (c : ScopeChain κ) (v : Value κ) : ScopeChain κ :=
  c.push { scope := some v, hook := if v.observer.isSome then some v else none }

/-- Pushes a value as the innermost scope only. -/
def withScope (c : ScopeChain κ) (v : Value κ) : ScopeChain κ :=
  c.push { scope := some v }

/-- Registers a value as a hook only. -/
def withHook (c : ScopeChain κ) (v : Value κ) : ScopeChain κ :=
  c.push { hook := some v }

/-- The scopes, innermost first. -/
def scopes (c : ScopeChain κ) : List (Value κ) :=
  c.links.filterMap (·.scope)

/-- The observers registered as hooks, innermost first. -/
def hooks (c : ScopeChain κ) : List (Observer κ) :=
  c.links.filterMap fun link => link.hook.bind (·.observer)

def top (c : ScopeChain κ) : Value κ :=
  c.scopes.head?.getD .empty

/-- The position of the innermost scope that has one. -/
def position? (c : ScopeChain κ) : Option Position :=
  c.scopes.findSome? (·.position)

def positionField? (id : String) : Option (Position → Value κ) :=
  if id = "@key" then some fun p => (p.key.map .ofString).getD .empty
  else if id = "@index" then some fun p => .ofNat p.index
  else if id = "@first" then some fun p => .ofBool p.first
  else if id = "@last" then some fun p => .ofBool p.last
  else none

/-- The value of a name: a field of the innermost position, or what the
innermost scope that knows the name has under it.  Whatever is not found is
empty. -/
def resolve (c : ScopeChain κ) (id : String) : Value κ :=
  match positionField? id with
  | some field => (c.position?.map field).getD .empty
  | none => (c.scopes.findSome? (·.lookup id)).getD .empty

@[simp] theorem scopes_empty : (empty : ScopeChain κ).scopes = [] := rfl

@[simp] theorem hooks_empty : (empty : ScopeChain κ).hooks = [] := rfl

@[simp] theorem scopes_withScope (c : ScopeChain κ) (v : Value κ) :
    (c.withScope v).scopes = v :: c.scopes := rfl

@[simp] theorem hooks_withScope (c : ScopeChain κ) (v : Value κ) :
    (c.withScope v).hooks = c.hooks := rfl

@[simp] theorem scopes_withHook (c : ScopeChain κ) (v : Value κ) :
    (c.withHook v).scopes = c.scopes := rfl

@[simp] theorem hooks_withHook (c : ScopeChain κ) (v : Value κ) :
    (c.withHook v).hooks = v.observer.toList ++ c.hooks := by
  cases h : v.observer <;> simp [withHook, push, hooks, h]

@[simp] theorem scopes_extended (c : ScopeChain κ) (v : Value κ) :
    (c.extended v).scopes = v :: c.scopes := rfl

@[simp] theorem hooks_extended (c : ScopeChain κ) (v : Value κ) :
    (c.extended v).hooks = v.observer.toList ++ c.hooks := by
  cases h : v.observer <;> simp [extended, push, hooks, h]

end ScopeChain
end Mustache
