import Mustache.Command.Run
import Mustache.Proofs.Template.Discovery

/-!
# The exit code of a check

A check goes through the discovered names in their order and finds a fault with each template
that cannot be loaded or does not compile.  Its exit code tells whether there is any fault, but
only the first one says of which kind: the code of a template that does not compile is hidden
by a file with an earlier name that is no text.
-/

namespace Mustache

/-! ## Faults -/

namespace Loader

/-- The template of a name is there and compiles. -/
def Compiles (l : Loader) (w : Workspace) (name : String) : Prop :=
  ∃ source compiled, l.load w name = .ok source ∧ compile source = .ok compiled

/-- The template of a name is there but does not compile. -/
def FailsToCompile (l : Loader) (w : Workspace) (name : String) : Prop :=
  ∃ source e, l.load w name = .ok source ∧ compile source = .error e

variable {l : Loader} {w : Workspace} {name : String}

theorem load_ne_error_compile (l : Loader) (w : Workspace) (name : String) (e : CompileError) :
    l.load w name ≠ .error (.compile e) := by
  unfold load pathOf
  intro h
  split at h
  · simp only [bind, Except.bind] at h
    split at h
    · cases hread : w.read (Path.join l.root (l.fileOf name)) with
      | error e' =>
          rw [hread] at h
          exact nomatch h
      | ok source =>
          rw [hread] at h
          exact nomatch h
    · exact nomatch h
  · exact nomatch h

end Loader

namespace Repository

variable {w : Workspace} {root extension name : String}

theorem fresh_ofDirectory (root extension : String) (w : Workspace) (name : String) :
    (ofDirectory root extension).fresh w name = (do
      (compile (← (Loader.ofExtension root extension).load w name)).mapError .compile) := rfl

theorem faultOf_fresh_of_error {e : TemplateError}
    (h : (Loader.ofExtension root extension).load w name = .error e) :
    faultOf ((ofDirectory root extension).fresh w name) = some e := by
  rw [fresh_ofDirectory, h]
  rfl

theorem faultOf_fresh_of_ok {source : String}
    (h : (Loader.ofExtension root extension).load w name = .ok source) :
    faultOf ((ofDirectory root extension).fresh w name) =
      faultOf ((compile source).mapError .compile) := by
  rw [fresh_ofDirectory, h]
  rfl

theorem faultOf_fresh_eq_none_iff :
    faultOf ((ofDirectory root extension).fresh w name) = none ↔
      (Loader.ofExtension root extension).Compiles w name := by
  unfold Loader.Compiles
  cases hload : (Loader.ofExtension root extension).load w name with
  | error e => simp [faultOf_fresh_of_error hload]
  | ok source =>
      rw [faultOf_fresh_of_ok hload]
      cases hcompile : compile source <;> simp [faultOf, Except.mapError, hcompile]

theorem faultOf_fresh_eq_compile_iff :
    (∃ e, faultOf ((ofDirectory root extension).fresh w name) = some (.compile e)) ↔
      (Loader.ofExtension root extension).FailsToCompile w name := by
  unfold Loader.FailsToCompile
  cases hload : (Loader.ofExtension root extension).load w name with
  | error e =>
      have hne : ∀ e', e ≠ .compile e' := by
        rintro e' rfl
        exact Loader.load_ne_error_compile _ _ _ _ hload
      simpa [faultOf_fresh_of_error hload] using hne
  | ok source =>
      rw [faultOf_fresh_of_ok hload]
      cases hcompile : compile source <;> simp [faultOf, Except.mapError, hcompile]

end Repository

/-! ## The first fault -/

/-- In an increasing list, the first place with an answer is the least one. -/
theorem findSome?_eq_some_iff_of_pairwise_lt {names : List String} (h : names.Pairwise (· < ·))
    {α : Type} {f : String → Option α} {x : α} :
    names.findSome? f = some x ↔
      ∃ name ∈ names, f name = some x ∧ ∀ other ∈ names, other < name → f other = none := by
  rw [List.findSome?_eq_some_iff]
  constructor
  · rintro ⟨front, name, back, rfl, hname, hfront⟩
    refine ⟨name, by simp, hname, ?_⟩
    intro other hother hlt
    rw [List.pairwise_append, List.pairwise_cons] at h
    rcases List.mem_append.1 hother with hother | hother
    · exact hfront other hother
    · rcases List.mem_cons.1 hother with rfl | hother
      · exact absurd hlt (String.lt_irrefl other)
      · exact absurd (String.lt_trans hlt (h.2.1.1 other hother)) (String.lt_irrefl other)
  · rintro ⟨name, hmem, hname, hless⟩
    obtain ⟨front, back, rfl⟩ := List.append_of_mem hmem
    refine ⟨front, name, back, rfl, hname, ?_⟩
    intro other hother
    rw [List.pairwise_append] at h
    have hlt : other < name := h.2.2 other hother name List.mem_cons_self
    exact hless other (List.mem_append_left _ hother) hlt

/-! ## Exit codes -/

namespace Command

variable {w : Workspace} {a : CheckArguments}

theorem Failure.exitCode_ne_zero (f : Failure) : f.exitCode ≠ 0 := by
  unfold exitCode
  split <;> decide

theorem Failure.exitCode_eq_three_iff (f : Failure) :
    f.exitCode = 3 ↔ ∃ e, f.cause = some (.template (.compile e)) := by
  unfold exitCode
  split <;> simp_all

/-- What a check finds to say against the template of a name. -/
def CheckArguments.fault? (a : CheckArguments) (w : Workspace) (name : String) :
    Option TemplateError :=
  Repository.faultOf ((Repository.ofDirectory a.directory a.extension).fresh w name)

def CheckArguments.names (a : CheckArguments) (w : Workspace) : List String :=
  (Repository.ofDirectory a.directory a.extension).names w

namespace CheckArguments

theorem mem_names {name : String} :
    name ∈ a.names w ↔ name ∈ (Loader.ofExtension a.directory a.extension).discover w :=
  Repository.mem_names_ofDirectory

theorem fault?_eq_none_iff {name : String} :
    a.fault? w name = none ↔ (Loader.ofExtension a.directory a.extension).Compiles w name :=
  Repository.faultOf_fresh_eq_none_iff

theorem fault?_eq_compile_iff {name : String} :
    (∃ e, a.fault? w name = some (.compile e)) ↔
      (Loader.ofExtension a.directory a.extension).FailsToCompile w name :=
  Repository.faultOf_fresh_eq_compile_iff

theorem findSome?_fault?_eq_some_iff {e : TemplateError} :
    (a.names w).findSome? (a.fault? w) = some e ↔
      ∃ name ∈ a.names w, a.fault? w name = some e ∧
        ∀ other ∈ a.names w, other < name → a.fault? w other = none :=
  findSome?_eq_some_iff_of_pairwise_lt (Repository.pairwise_names _ w)

end CheckArguments

/-- All faults are counted, the first one is the cause. -/
theorem failure_runCheck (h : w.isDirectory a.directory = true) :
    let total := (a.names w).length
    let failed := (a.names w).countP fun name => (a.fault? w name).isSome
    (runCheck w a).failure = ((a.names w).findSome? (a.fault? w)).map fun e => {
      context := s!"{failed} of {total} templates failed to compile"
      cause := some (.template e) } := by
  have hcheck := (Repository.consistent_ofDirectory a.directory a.extension w).check_eq
  rw [runCheck, if_pos h]
  dsimp only
  rw [hcheck, List.findSome?_map, failedCount, List.countP_map, List.length_map]
  rfl

theorem exitCode_runCheck_eq_zero_iff (h : w.isDirectory a.directory = true) :
    (runCheck w a).exitCode = 0 ↔ ∀ name ∈ a.names w, a.fault? w name = none := by
  rw [Outcome.exitCode, failure_runCheck h, ← List.findSome?_eq_none_iff]
  cases (a.names w).findSome? (a.fault? w) with
  | none => simp
  | some e => simp [Failure.exitCode_ne_zero]

theorem exitCode_runCheck_eq_three_iff (h : w.isDirectory a.directory = true) :
    (runCheck w a).exitCode = 3 ↔
      ∃ e, (a.names w).findSome? (a.fault? w) = some (.compile e) := by
  rw [Outcome.exitCode, failure_runCheck h]
  cases (a.names w).findSome? (a.fault? w) with
  | none => simp
  | some e => simp [Failure.exitCode_eq_three_iff]

/-- The code is that of the first fault, in the order of the names. -/
theorem exitCode_runCheck (w : Workspace) (a : CheckArguments)
    (h : w.isDirectory a.directory = true) :
    let l := Loader.ofExtension a.directory a.extension
    let code := (runCheck w a).exitCode
    (code = 0 ↔ ∀ name ∈ l.discover w, l.Compiles w name) ∧
    (code = 3 ↔ ∃ name ∈ l.discover w, l.FailsToCompile w name ∧
      ∀ other ∈ l.discover w, other < name → l.Compiles w other) ∧
    ((∃ name ∈ l.discover w, l.FailsToCompile w name) →
      (∀ name ∈ l.discover w, l.Compiles w name ∨ l.FailsToCompile w name) → code = 3) ∧
    ∀ json, (runCheck w { a with json }).exitCode = code := by
  intro l code
  simp only [l, ← CheckArguments.mem_names, ← CheckArguments.fault?_eq_none_iff,
    ← CheckArguments.fault?_eq_compile_iff]
  refine ⟨exitCode_runCheck_eq_zero_iff h, ?_, ?_, ?_⟩
  · rw [exitCode_runCheck_eq_three_iff h]
    simp only [CheckArguments.findSome?_fault?_eq_some_iff]
    constructor
    · rintro ⟨e, name, hname, hfault, hless⟩
      exact ⟨name, hname, ⟨e, hfault⟩, hless⟩
    · rintro ⟨name, hname, ⟨e, hfault⟩, hless⟩
      exact ⟨e, name, hname, hfault, hless⟩
  · rintro ⟨name, hname, e, hfault⟩ hloads
    cases hfirst : (a.names w).findSome? (a.fault? w) with
    | none =>
        rw [List.findSome?_eq_none_iff.1 hfirst name hname] at hfault
        exact nomatch hfault
    | some first =>
        obtain ⟨name', hname', hfault', -⟩ := CheckArguments.findSome?_fault?_eq_some_iff.1 hfirst
        rcases hloads name' hname' with hnone | ⟨e', hcompile⟩
        · rw [hfault'] at hnone
          exact nomatch hnone
        · rw [hfault'] at hcompile
          rw [exitCode_runCheck_eq_three_iff h, hfirst]
          exact ⟨e', hcompile⟩
  · intro json
    have hfailure : (runCheck w { a with json }).failure = (runCheck w a).failure := by
      rw [failure_runCheck h]
      exact failure_runCheck h
    rw [Outcome.exitCode, hfailure]
    rfl

/-! ## Two templates -/

/-- A directory with the files of two templates. -/
def twoTemplates (first second : FileContent) : Workspace where
  root := .directory [("t", .directory [
    ("a.mustache", .file first), ("b.mustache", .file second)])]

section TwoTemplates

variable {first second : FileContent}

theorem isDirectory_twoTemplates : (twoTemplates first second).isDirectory "t" = true := rfl

theorem mem_discover_twoTemplates {name : String} :
    name ∈ (Loader.ofExtension "t" "mustache").discover (twoTemplates first second) ↔
      name = "a" ∨ name = "b" := by
  have hfiles : (twoTemplates first second).filesBelow "t" = [["a.mustache"], ["b.mustache"]] :=
    rfl
  have ha : (Loader.ofExtension "t" "mustache").nameOf? ["a.mustache"] = some "a" := by decide
  have hb : (Loader.ofExtension "t" "mustache").nameOf? ["b.mustache"] = some "b" := by decide
  rw [Loader.mem_discover_iff, show (Loader.ofExtension "t" "mustache").root = "t" from rfl, hfiles]
  simp [ha, hb, eq_comm]

theorem load_twoTemplates_first :
    (Loader.ofExtension "t" "mustache").load (twoTemplates first second) "a" =
      first.read.mapError .io := rfl

theorem load_twoTemplates_second :
    (Loader.ofExtension "t" "mustache").load (twoTemplates first second) "b" =
      second.read.mapError .io := rfl

end TwoTemplates

theorem compile_unclosed : compile "\x7b\x7b" = .error (.unclosedTag 1) := by cbv

theorem exitCode_runCheck_second_template :
    let w := twoTemplates (.text "") (.text "\x7b\x7b")
    w.isDirectory "t" = true ∧ (runCheck w { directory := "t" }).exitCode = 3 := by
  intro w
  have h : w.isDirectory "t" = true := isDirectory_twoTemplates
  have hcode := (exitCode_runCheck w { directory := "t" } h).2.1
  refine ⟨h, hcode.2 ⟨"b", mem_discover_twoTemplates.2 (.inr rfl), ?_, ?_⟩⟩
  · exact ⟨_, _, load_twoTemplates_second, compile_unclosed⟩
  · intro other hother hlt
    rcases mem_discover_twoTemplates.1 hother with rfl | rfl
    · exact ⟨"", _, load_twoTemplates_first, by cbv⟩
    · exact absurd hlt (String.lt_irrefl _)

/-- A file that is no text hides the template behind it, which does not compile. -/
theorem exitCode_runCheck_hidden_fault :
    let w := twoTemplates (.bytes ⟨#[0xff]⟩) (.text "\x7b\x7b")
    let l := Loader.ofExtension "t" "mustache"
    let a : CheckArguments := { directory := "t" }
    "b" ∈ l.discover w ∧ l.FailsToCompile w "b" ∧ (runCheck w a).exitCode = 1 := by
  intro w l a
  refine ⟨mem_discover_twoTemplates.2 (.inr rfl),
    ⟨_, _, load_twoTemplates_second, compile_unclosed⟩, ?_⟩
  have hnames : ∀ name, name ∈ a.names w ↔ name = "a" ∨ name = "b" := fun _ =>
    CheckArguments.mem_names.trans mem_discover_twoTemplates
  have hfirst : (a.names w).findSome? (a.fault? w) = some (.io .invalidText) := by
    have hfault : a.fault? w "a" = some (.io .invalidText) :=
      Repository.faultOf_fresh_of_error load_twoTemplates_first
    refine CheckArguments.findSome?_fault?_eq_some_iff.2
      ⟨"a", (hnames _).2 (.inl rfl), hfault, ?_⟩
    intro other hother hlt
    rcases (hnames _).1 hother with rfl | rfl
    · exact absurd hlt (String.lt_irrefl _)
    · exact absurd hlt (by decide)
  rw [Outcome.exitCode, failure_runCheck isDirectory_twoTemplates, hfirst]
  rfl

end Command

end Mustache
