import Mustache.Node
import Mustache.Render.Error
import Mustache.Scope

/-!
# Traces

A run is what a piece of rendering does and what it comes to: the steps it takes,
in order, and a result or an error.  A step is an event, that is a call of some
value's capability, or the entering or leaving of a frame.  Frames are the
renderings that count against the recursion limit; the bodies of sections are
not among them.  Running one thing after another appends the traces, and an
error keeps the trace up to it.
-/

namespace Mustache

/-- A capability being called, with what it is given. -/
inductive Event (κ : Type) where
  | will (hook : κ) (tag : TagInfo) (value : Value κ)
  | did (hook : κ) (tag : TagInfo) (value : Value κ) (text : Option String)
  | filter (filter : Filter κ) (argument : Value κ)
  | override (override : Override κ) (tag : TagInfo) (contentType : ContentType)

inductive Frame where
  | inclusion (name : String)
  /-- The body of a section that its render override expands. -/
  | body
  /-- Another template that a render override expands. -/
  | template
deriving DecidableEq, Repr

inductive Step (κ : Type) where
  | event (e : Event κ)
  | enter (frame : Frame)
  | leave

namespace Step

variable {κ : Type}

def event? : Step κ → Option (Event κ)
  | .event e => some e
  | .enter _ | .leave => none

def inclusion? : Step κ → Option String
  | .enter (.inclusion name) => some name
  | _ => none

/-- The number of open frames after the steps, and the largest number of frames
open at once during them. -/
def depths : List (Step κ) → Nat → Nat × Nat
  | [], n => (n, n)
  | .event _ :: rest, n => depths rest n
  | .enter _ :: rest, n =>
      let (last, most) := depths rest (n + 1)
      (last, max n most)
  | .leave :: rest, n =>
      let (last, most) := depths rest (n - 1)
      (last, max n most)

end Step

structure Run (κ α : Type) where
  trace : List (Step κ)
  result : Except RenderError α

namespace Run

variable {κ α β : Type}

instance : Monad (Run κ) where
  pure a := { trace := [], result := .ok a }
  bind x f :=
    match x.result with
    | .ok a =>
        let y := f a
        { trace := x.trace ++ y.trace, result := y.result }
    | .error e => { trace := x.trace, result := .error e }

def ofExcept (result : Except RenderError α) : Run κ α :=
  { trace := [], result }

def fail (e : RenderError) : Run κ α :=
  ofExcept (.error e)

def emit (e : Event κ) : Run κ Unit :=
  { trace := [.event e], result := .ok () }

/-- Runs inside a frame, which is left again whatever the result. -/
def framed (frame : Frame) (x : Run κ α) : Run κ α :=
  { trace := .enter frame :: x.trace ++ [.leave], result := x.result }

def events (x : Run κ α) : List (Event κ) :=
  x.trace.filterMap Step.event?

def inclusions (x : Run κ α) : List String :=
  x.trace.filterMap Step.inclusion?

/-- The largest number of frames that are open at the same time. -/
def maxOpen (x : Run κ α) : Nat :=
  (Step.depths x.trace 0).2

@[ext] theorem ext {x y : Run κ α} (htrace : x.trace = y.trace)
    (hresult : x.result = y.result) : x = y := by
  cases x
  cases y
  simp_all

@[simp] theorem pure_eq (a : α) : (pure a : Run κ α) = { trace := [], result := .ok a } := rfl

theorem bind_of_ok {x : Run κ α} {a : α} (h : x.result = .ok a) (f : α → Run κ β) :
    x >>= f = { trace := x.trace ++ (f a).trace, result := (f a).result } := by
  simp only [bind, h]

theorem bind_of_error {x : Run κ α} {e : RenderError} (h : x.result = .error e)
    (f : α → Run κ β) : x >>= f = { trace := x.trace, result := .error e } := by
  simp only [bind, h]

theorem bind_pure_id (x : Run κ α) : x >>= pure = x := by
  cases h : x.result with
  | ok a => rw [bind_of_ok h]; ext1 <;> simp [h]
  | error e => rw [bind_of_error h]; ext1 <;> simp [h]

theorem bind_assoc {γ : Type} (x : Run κ α) (f : α → Run κ β) (g : β → Run κ γ) :
    x >>= f >>= g = x >>= fun a => f a >>= g := by
  cases h : x.result with
  | error e => rw [bind_of_error h, bind_of_error h, bind_of_error rfl]
  | ok a =>
      rw [bind_of_ok h, bind_of_ok h]
      cases h' : (f a).result with
      | error e => rw [bind_of_error rfl, bind_of_error h']
      | ok b => rw [bind_of_ok rfl, bind_of_ok h', List.append_assoc]

instance : LawfulMonad (Run κ) :=
  LawfulMonad.mk' _ bind_pure_id (fun _ _ => bind_of_ok rfl _) bind_assoc

/-! ## Results and events -/

@[simp] theorem result_ofExcept (result : Except RenderError α) :
    (ofExcept result : Run κ α).result = result := rfl

@[simp] theorem events_ofExcept (result : Except RenderError α) :
    (ofExcept result : Run κ α).events = [] := rfl

@[simp] theorem events_fail (e : RenderError) : (fail e : Run κ α).events = [] := rfl

@[simp] theorem result_framed (frame : Frame) (x : Run κ α) :
    (framed frame x).result = x.result := rfl

@[simp] theorem events_framed (frame : Frame) (x : Run κ α) :
    (framed frame x).events = x.events := by
  have henter : Step.event? (κ := κ) (.enter frame) = none := rfl
  have hleave : Step.event? (κ := κ) .leave = none := rfl
  simp [events, framed, henter, hleave]

theorem events_mk (trace : List (Step κ)) (result : Except RenderError α) :
    ({ trace, result } : Run κ α).events = trace.filterMap Step.event? := rfl

/-- What comes of a run and what follows it: the error that stops the run, or what
comes of the rest. -/
theorem result_bind (x : Run κ α) (f : α → Run κ β) :
    (x >>= f).result = x.result >>= fun a => (f a).result := by
  cases h : x.result with
  | ok a => rw [bind_of_ok h]; rfl
  | error e => rw [bind_of_error h]; rfl

theorem result_bind_of_ok {x : Run κ α} {a : α} (h : x.result = .ok a) (f : α → Run κ β) :
    (x >>= f).result = (f a).result := by
  rw [bind_of_ok h]

theorem result_bind_of_error {x : Run κ α} {e : RenderError} (h : x.result = .error e)
    (f : α → Run κ β) : (x >>= f).result = .error e := by
  rw [bind_of_error h]

theorem events_bind_of_ok {x : Run κ α} {a : α} (h : x.result = .ok a) (f : α → Run κ β) :
    (x >>= f).events = x.events ++ (f a).events := by
  rw [bind_of_ok h]
  simp [events]

theorem events_bind_of_error {x : Run κ α} {e : RenderError} (h : x.result = .error e)
    (f : α → Run κ β) : (x >>= f).events = x.events := by
  rw [bind_of_error h]
  rfl

theorem result_map (f : α → β) (x : Run κ α) : (f <$> x).result = x.result.map f := by
  rw [map_eq_pure_bind, result_bind]
  cases x.result <;> rfl

theorem events_map (f : α → β) (x : Run κ α) : (f <$> x).events = x.events := by
  rw [map_eq_pure_bind]
  cases h : x.result with
  | ok a =>
      rw [events_bind_of_ok h]
      simp [events]
  | error e => rw [events_bind_of_error h]

/-- None of the events of the run has the property. -/
def Avoids (P : Event κ → Prop) (x : Run κ α) : Prop :=
  ∀ e ∈ x.events, ¬ P e

theorem Avoids.of_map {P : Event κ → Prop} {f : α → β} {x : Run κ α}
    (h : (f <$> x).Avoids P) : x.Avoids P := by
  rw [Avoids, events_map] at h
  exact h

theorem Avoids.of_bind {P : Event κ → Prop} {x : Run κ α} {f : α → Run κ β}
    (h : (x >>= f).Avoids P) : x.Avoids P ∧ ∀ a, x.result = .ok a → (f a).Avoids P := by
  cases hresult : x.result with
  | error e =>
      rw [Avoids, events_bind_of_error hresult] at h
      exact ⟨h, fun a ha => nomatch ha⟩
  | ok a =>
      rw [Avoids, events_bind_of_ok hresult] at h
      refine ⟨fun e he => h e (List.mem_append_left _ he), fun b hb => ?_⟩
      cases hb
      exact fun e he => h e (List.mem_append_right _ he)

end Run
end Mustache
