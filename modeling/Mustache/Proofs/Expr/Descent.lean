import Mathlib.Logic.Function.Iterate
import Mustache.Proofs.Expr.RoundTrip
import Mustache.Proofs.Source.Offsets

/-!
# Reading expressions by recursive descent

The reader of expressions keeps the functions whose argument is being read on a stack.  Here
the argument of a call is read by a call of the reader itself, names are cut off at byte
offsets, and the recursion is left open: `descend` puts together what it is told about the calls
that it makes.  Each of them has less of the text in front of it, so descending often enough
says all there is to say, whatever is assumed about the calls further in.
-/

namespace Mustache.Expr

open Mustache.Text
open String (utf8Len)

/-! ## Names -/

def splitAt (s : List Char) (offset : Nat) : Except Stop (List Char × List Char) := do
  let source := String.ofList s
  let before ← slice source 0 offset
  let after ← slice source offset source.utf8ByteSize
  return (before, after)

/-- The name that a text starts with, and what follows it. -/
def identifier (s : List Char) : Except Stop (Option (String × List Char)) :=
  match s.takeWhile isNameChar with
  | [] => .ok none
  | c :: t => do
      let (id, rest) ← splitAt s (utf8Len (c :: t))
      return some (String.ofList id, rest)

theorem splitAt_append (s t : List Char) : splitAt (s ++ t) (utf8Len s) = .ok (s, t) := by
  have hwhole : (String.ofList (s ++ t)).toList = s ++ t := String.toList_ofList
  have hbefore := slice_eq_ok (s := []) (t := s) (u := t) hwhole
  rw [String.utf8Len_nil, Nat.zero_add] at hbefore
  simp only [splitAt, hbefore, slice_to_end hwhole, bind, Except.bind]
  rfl

theorem identifier_eq (s : List Char) : identifier s = .ok (readName? s) := by
  have hsplit := splitAt_append (s.takeWhile isNameChar) (s.dropWhile isNameChar)
  rw [List.takeWhile_append_dropWhile] at hsplit
  unfold identifier readName?
  cases htake : s.takeWhile isNameChar with
  | nil => rfl
  | cons c t =>
      rw [htake] at hsplit
      simp only [hsplit]
      rfl

/-! ## The descent -/

/-- What the reader is called for: an expression at the start of a text, or more of one that
ends in front of it. -/
inductive Descent where
  | start (s : List Char)
  | onward (e : Expr) (s : List Char)

def Descent.remainder : Descent → List Char
  | .start s | .onward _ s => s

/-- Goes on behind the argument of a call, which has to be closed. -/
def closeCall (again : Descent → Except Stop (Option (Expr × List Char))) (filter : Expr) :
    Option (Expr × List Char) → Except Stop (Option (Expr × List Char))
  | some (argument, after) =>
      match trimStart after with
      | ')' :: rest => again (.onward (.call filter argument) rest)
      | _ => return none
  | none => return none

/-- One call, for which `again` answers the calls that it makes. -/
def descend (again : Descent → Except Stop (Option (Expr × List Char))) :
    Descent → Except Stop (Option (Expr × List Char))
  | .start ('.' :: s) => do
      match ← identifier s with
      | some (key, rest) => again (.onward (.member .implicit key) rest)
      | none => again (.onward .implicit s)
  | .start s => do
      match ← identifier s with
      | some (id, rest) => again (.onward (.name id) rest)
      | none => return none
  | .onward e ('.' :: s) => do
      match ← identifier s with
      | some (key, rest) => again (.onward (.member e key) rest)
      | none => return none
  | .onward e ('(' :: s) => do
      let argument ← again (.start (trimStart s))
      closeCall again e argument
  | .onward e s => return some (e, s)

/-- Reads the expression of a tag through calls that `again` answers. -/
def parseWith (again : Descent → Except Stop (Option (Expr × List Char))) (line : Nat)
    (s : List Char) : Except Stop Expr :=
  match trim s with
  | [] => .error (.rejected (.emptyTag line))
  | c :: t => do
      match ← again (.start (c :: t)) with
      | some (e, []) => return e
      | _ => .error (.rejected (.invalidExpression (String.ofList (c :: t)) line))

def Descent.answer (call : Descent) : Except Stop (Option (Expr × List Char)) :=
  descend^[call.remainder.length + 1] (fun _ => .error .outOfRange) call

variable {again : Descent → Except Stop (Option (Expr × List Char))}

theorem descend_start (s : List Char) :
    descend again (.start s) =
      match readHead? s with
      | some (e, rest) => again (.onward e rest)
      | none => .ok none := by
  by_cases hdot : ∃ t, s = '.' :: t
  · obtain ⟨t, rfl⟩ := hdot
    simp only [descend, identifier_eq, bind, Except.bind, readHead?]
    cases readName? t <;> rfl
  · rw [descend, readHead?, identifier_eq]
    · cases readName? s <;> rfl
    all_goals
      intro t ht
      exact hdot ⟨t, ht⟩

theorem descend_dot (e : Expr) (t : List Char) :
    descend again (.onward e ('.' :: t)) =
      match readName? t with
      | some (key, rest) => again (.onward (.member e key) rest)
      | none => .ok none := by
  rw [descend, identifier_eq]
  cases readName? t <;> rfl

theorem readTail?_dot (pending : List Expr) (e : Expr) (t : List Char) :
    readTail? pending e ('.' :: t) =
      match readName? t with
      | some (key, rest) => readTail? pending (.member e key) rest
      | none => none := by
  rw [readTail?]
  split
  · next hname => rw [hname]
  · next hname => rw [hname]

/-- What the stacked reader makes of the answer to a call: the argument that is being read
ends at its parenthesis, and an expression that is no argument at the end of the text. -/
def resume : List Expr → Option (Expr × List Char) → Option Expr
  | _, none => none
  | [], some (e, s) => if s = [] then some e else none
  | filter :: outer, some (e, s) =>
      match trimStart s with
      | ')' :: rest => readTail? outer (.call filter e) rest
      | _ => none

@[simp] theorem resume_none (pending : List Expr) : resume pending none = none := by
  cases pending <;> rfl

theorem readTail?_end {s : List Char} (hdot : ∀ t, s ≠ '.' :: t) (hopen : ∀ t, s ≠ '(' :: t)
    (pending : List Expr) (e : Expr) : readTail? pending e s = resume pending (some (e, s)) := by
  cases pending with
  | nil =>
      rw [readTail?]
      · rfl
      · exact hdot
      · exact hopen
  | cons filter outer =>
      rw [readTail?]
      · simp only [resume]
        split
        · next hclose => simp only [hclose]
        · next hne =>
          split
          · next rest hclose => exact absurd hclose (hne rest)
          · rfl
      · exact hdot
      · exact hopen

/-! ## What comes of a call -/

/-- What the stacked reader makes of the text that is left. -/
def Descent.stacked (pending : List Expr) : Descent → Option Expr
  | .start s => readFrom? pending s
  | .onward e s => readTail? pending e s

@[simp] theorem Descent.stacked_start (pending : List Expr) (s : List Char) :
    (start s).stacked pending = readFrom? pending s := rfl

@[simp] theorem Descent.stacked_onward (pending : List Expr) (e : Expr) (s : List Char) :
    (onward e s).stacked pending = readTail? pending e s := rfl

/-- The call comes to `found`, however the calls further in are answered, and `found` is what
the stacked reader goes on with. -/
structure Descent.Settled (call : Descent) (found : Option (Expr × List Char)) : Prop where
  iterate_eq : ∀ n again, call.remainder.length < n → descend^[n] again call = .ok found
  descend_eq : ∀ again,
    (∀ inner : Descent, inner.remainder.length < call.remainder.length →
      again inner = inner.answer) → descend again call = .ok found
  length_le : ∀ e rest, found = some (e, rest) → rest.length ≤ call.remainder.length
  stacked_eq : ∀ pending, call.stacked pending = resume pending found

namespace Descent.Settled

variable {call : Descent} {found : Option (Expr × List Char)}

/-- It is enough to see the answers to calls with a shorter remainder. -/
theorem of_descend
    (hdescend : ∀ again,
      (∀ inner found', inner.remainder.length < call.remainder.length → Settled inner found' →
        again inner = .ok found') → descend again call = .ok found)
    (hlength : ∀ e rest, found = some (e, rest) → rest.length ≤ call.remainder.length)
    (hstacked : ∀ pending, call.stacked pending = resume pending found) : call.Settled found where
  iterate_eq := by
    intro n again hn
    obtain ⟨m, rfl⟩ := Nat.exists_eq_add_of_lt hn
    rw [Function.iterate_succ_apply']
    apply hdescend
    intro inner found' hlt hinner
    exact hinner.iterate_eq _ again (by omega)
  descend_eq := by
    intro again hagain
    apply hdescend
    intro inner found' hlt hinner
    rw [hagain inner hlt]
    exact hinner.iterate_eq _ _ (Nat.lt_succ_self _)
  length_le := hlength
  stacked_eq := hstacked

theorem onward_end {e : Expr} {s : List Char} (hdot : ∀ t, s ≠ '.' :: t)
    (hopen : ∀ t, s ≠ '(' :: t) : (onward e s).Settled (some (e, s)) := by
  apply of_descend
  · intro again _
    rw [descend]
    · rfl
    · exact hdot
    · exact hopen
  · intro e' rest h
    obtain ⟨-, rfl⟩ := Prod.mk.inj (Option.some.inj h)
    exact Nat.le_refl _
  · intro pending
    exact readTail?_end hdot hopen pending e

theorem of_refused (hdescend : ∀ again, descend again call = .ok none)
    (hstacked : ∀ pending, call.stacked pending = none) : call.Settled none := by
  apply of_descend
  · exact fun again _ => hdescend again
  · exact nofun
  · intro pending
    rw [hstacked, resume_none]

/-- A call that hands on what comes of a call with a shorter remainder. -/
theorem of_handed {inner : Descent} (h : inner.Settled found)
    (hlt : inner.remainder.length < call.remainder.length)
    (hdescend : ∀ again, descend again call = again inner)
    (hstacked : ∀ pending, call.stacked pending = inner.stacked pending) : call.Settled found := by
  apply of_descend
  · intro again hagain
    rw [hdescend]
    exact hagain inner found hlt h
  · intro e rest hfound
    exact Nat.le_trans (h.length_le e rest hfound) (Nat.le_of_lt hlt)
  · intro pending
    rw [hstacked]
    exact h.stacked_eq pending

theorem length_argument (e : Expr) (t : List Char) :
    (start (trimStart t)).remainder.length < (onward e ('(' :: t)).remainder.length :=
  Nat.lt_succ_of_le (length_trimStart_le t)

section Open

variable {e : Expr} {t : List Char} (h : (start (trimStart t)).Settled found)
include h

theorem onward_open_refused
    (hclose : ∀ argument after rest, found = some (argument, after) →
      trimStart after ≠ ')' :: rest) : (onward e ('(' :: t)).Settled none := by
  apply of_descend
  · intro again hagain
    rw [descend, hagain _ found (length_argument e t) h]
    change closeCall again e found = _
    unfold closeCall
    split
    · next argument after =>
      split
      · next rest hrest => exact absurd hrest (hclose argument after rest rfl)
      · rfl
    · rfl
  · exact nofun
  · intro pending
    rw [stacked_onward, readTail?_open, ← stacked_start, h.stacked_eq, resume_none]
    cases found with
    | none => rfl
    | some read =>
        obtain ⟨argument, after⟩ := read
        simp only [resume]
        split
        · next rest hrest => exact absurd hrest (hclose argument after rest rfl)
        · rfl

variable {argument : Expr} {after rest : List Char} (hfound : found = some (argument, after))
  (hclose : trimStart after = ')' :: rest)
include hfound hclose

theorem length_closed : rest.length < ('(' :: t).length := by
  have hafter := h.length_le argument after hfound
  have hargument := length_trimStart_le t
  have htrim := length_trimStart_le after
  rw [hclose] at htrim
  simp only [remainder, List.length_cons] at hafter htrim ⊢
  omega

theorem onward_open_closed {found' : Option (Expr × List Char)}
    (hnext : (onward (.call e argument) rest).Settled found') :
    (onward e ('(' :: t)).Settled found' := by
  have hlt := h.length_closed hfound hclose
  subst hfound
  apply of_descend
  · intro again hagain
    rw [descend, hagain _ _ (length_argument e t) h]
    change closeCall again e (some (argument, after)) = _
    simp only [closeCall, hclose]
    exact hagain _ _ hlt hnext
  · intro e' rest' hfound
    exact Nat.le_trans (hnext.length_le e' rest' hfound) (Nat.le_of_lt hlt)
  · intro pending
    rw [stacked_onward, readTail?_open, ← stacked_start, h.stacked_eq, ← hnext.stacked_eq]
    simp only [resume, hclose, stacked_onward]

end Open

end Descent.Settled

section Exists

variable {call : Descent}
  (ih : ∀ inner : Descent, inner.remainder.length < call.remainder.length →
    ∃ found, inner.Settled found)
include ih

theorem Descent.exists_settled_start {s : List Char} (hcall : call = .start s) :
    ∃ found, call.Settled found := by
  subst hcall
  cases hhead : readHead? s with
  | none =>
      refine ⟨none, .of_refused (fun again => ?_) (fun pending => ?_)⟩
      · rw [descend_start, hhead]
      · rw [stacked_start, readFrom?, hhead]
  | some head =>
      obtain ⟨e, rest⟩ := head
      have hlt : rest.length < s.length := length_of_readHead? hhead
      obtain ⟨found, hfound⟩ := ih (.onward e rest) hlt
      refine ⟨found, hfound.of_handed hlt (fun again => ?_) (fun pending => ?_)⟩
      · rw [descend_start, hhead]
      · rw [stacked_start, readFrom?, hhead, stacked_onward]

theorem Descent.exists_settled_dot {e : Expr} {t : List Char}
    (hcall : call = .onward e ('.' :: t)) : ∃ found, call.Settled found := by
  subst hcall
  cases hname : readName? t with
  | none =>
      refine ⟨none, .of_refused (fun again => ?_) (fun pending => ?_)⟩
      · rw [descend_dot, hname]
      · rw [stacked_onward, readTail?_dot, hname]
  | some name =>
      obtain ⟨key, rest⟩ := name
      have hlt : rest.length < ('.' :: t).length := Nat.lt_succ_of_lt (length_of_readName? hname)
      obtain ⟨found, hfound⟩ := ih (.onward (.member e key) rest) hlt
      refine ⟨found, hfound.of_handed hlt (fun again => ?_) (fun pending => ?_)⟩
      · rw [descend_dot, hname]
      · rw [stacked_onward, readTail?_dot, hname, stacked_onward]

theorem Descent.exists_settled_open {e : Expr} {t : List Char}
    (hcall : call = .onward e ('(' :: t)) : ∃ found, call.Settled found := by
  subst hcall
  obtain ⟨found, hfound⟩ := ih (.start (trimStart t)) (Settled.length_argument e t)
  by_cases hclose : ∃ argument after rest, found = some (argument, after) ∧
      trimStart after = ')' :: rest
  · obtain ⟨argument, after, rest, hargument, hclose⟩ := hclose
    obtain ⟨found', hnext⟩ := ih (.onward (.call e argument) rest)
      (hfound.length_closed hargument hclose)
    exact ⟨found', hfound.onward_open_closed hargument hclose hnext⟩
  · refine ⟨none, hfound.onward_open_refused fun argument after rest hargument hrest => ?_⟩
    exact hclose ⟨argument, after, rest, hargument, hrest⟩

end Exists

theorem Descent.exists_settled (call : Descent) : ∃ found, call.Settled found := by
  induction hlen : call.remainder.length using Nat.strongRecOn generalizing call with
  | ind n ih =>
    subst hlen
    have hshorter : ∀ inner : Descent, inner.remainder.length < call.remainder.length →
        ∃ found, inner.Settled found :=
      fun inner hlt => ih _ hlt inner rfl
    cases hcall : call with
    | start s => exact hcall ▸ exists_settled_start hshorter hcall
    | onward e s =>
        by_cases hdot : ∃ t, s = '.' :: t
        · obtain ⟨t, rfl⟩ := hdot
          exact hcall ▸ exists_settled_dot hshorter hcall
        · by_cases hopen : ∃ t, s = '(' :: t
          · obtain ⟨t, rfl⟩ := hopen
            exact hcall ▸ exists_settled_open hshorter hcall
          · exact ⟨_, .onward_end (not_exists.1 hdot) (not_exists.1 hopen)⟩

/-- What comes of a call depends on calls with a shorter remainder only. -/
theorem descend_eq_answer (call : Descent)
    (h : ∀ inner : Descent, inner.remainder.length < call.remainder.length →
      again inner = inner.answer) : descend again call = call.answer := by
  obtain ⟨found, hfound⟩ := call.exists_settled
  rw [hfound.descend_eq again h]
  exact (hfound.iterate_eq _ _ (Nat.lt_succ_self _)).symm

theorem length_trim_le (s : List Char) : (trim s).length ≤ s.length := by
  calc (trim s).length
      = ((trimStart s).reverse.dropWhile isBlank).length := List.length_reverse
    _ ≤ (trimStart s).reverse.length := length_dropWhile_le isBlank _
    _ = (trimStart s).length := List.length_reverse
    _ ≤ s.length := length_trimStart_le s

theorem parseWith_iterate (line : Nat) (s : List Char) {n : Nat} (hn : s.length < n) :
    parseWith (descend^[n] again) line s = rejecting (parse line s) := by
  have htrim : (trim s).length ≤ s.length := length_trim_le s
  unfold parseWith parse
  cases hs : trim s with
  | nil => rfl
  | cons c t =>
      rw [hs] at htrim
      obtain ⟨found, hfound⟩ := (Descent.start (c :: t)).exists_settled
      have hread : read? (c :: t) = resume [] found := hfound.stacked_eq []
      simp only [hfound.iterate_eq n again (Nat.lt_of_le_of_lt htrim hn), hread, bind, Except.bind]
      cases found with
      | none => rfl
      | some read =>
          obtain ⟨e, rest⟩ := read
          cases rest <;> rfl

end Mustache.Expr
