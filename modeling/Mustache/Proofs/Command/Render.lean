import Mustache.Data.Formats
import Mustache.Proofs.Command.Check
import Mustache.Proofs.Files.Writing
import Mustache.Proofs.Render.Iteration

/-!
# The exit code and the output of a render

A render goes through five stages, and the first one that fails decides what it comes to.  Each
stage has its own kind of cause, from which the exit code tells the stages apart: only the
template's own source can fail to compile, because what is wrong with a partial is an error of
rendering.  The stages are described by the files that they read and by what the readers of the
two formats make of the texts, whatever readers these are.

Nothing is written unless all stages succeed.  Then the file holds the text that would have been
printed otherwise.
-/

namespace Mustache.Command

/-! ## Causes -/

theorem mapError_eq_error_iff {ε ε' α : Type} {x : Except ε α} {f : ε → ε'} {e : ε'} :
    x.mapError f = .error e ↔ ∃ e', x = .error e' ∧ f e' = e := by
  cases x <;> simp [Except.mapError]

def Cause.exitCode (c : Cause) : Nat :=
  Failure.exitCode { context := "", cause := some c }

theorem Cause.exitCode_io (e : IoError) :
    (Cause.io e).exitCode = if e = .notFound then 2 else 1 := by
  cases e <;> rfl

theorem Cause.exitCode_template_io (e : IoError) :
    (Cause.template (.io e)).exitCode = if e = .notFound then 2 else 1 := by
  cases e <;> rfl

/-! ## Stages -/

/-- The reader for the file of data at a path. -/
def readerAt (formats : Formats) (path : String) : String → Except String Document :=
  if isJsonPath path then formats.json else formats.yaml

namespace RenderArguments

/-- The configuration without regard to whether everything is to be text. -/
inductive ReadsConfig (formats : Formats) (a : RenderArguments) (w : Workspace) : Config → Prop
  | standard : a.config = none → ReadsConfig formats a w {}
  | file {path text : String} {settings : Config.Settings} :
      a.config = some path → w.read path = .ok text → formats.settings text = .ok settings →
        ReadsConfig formats a w (.ofSettings settings)

inductive ReadsData (formats : Formats) (a : RenderArguments) (w : Workspace) :
    Value Empty → Prop
  | empty : a.data = none → ReadsData formats a w .empty
  | file {path text : String} {document : Document} :
      a.data = some path → w.read path = .ok text → readerAt formats path text = .ok document →
        ReadsData formats a w document.toValue

/-- Everything that is read before the template is compiled. -/
structure Loads (formats : Formats) (a : RenderArguments) (w : Workspace) (config : Config)
    (source : String) (data : Value Empty) : Prop where
  config : a.ReadsConfig formats w config
  source : w.read a.template = .ok source
  data : a.ReadsData formats w data

/-- The partials are looked for in the given directory or in that of the template, with the
extension of the template or the usual one. -/
def loader (a : RenderArguments) : Loader :=
  .ofExtension (a.partials.getD ((Path.parent? a.template).getD ""))
    ((Path.extension? a.template).getD "mustache")

/-- The tree of a partial with the given source, or what is wrong with the partial. -/
def partialTree (name : String) : Except TemplateError String → Except RenderError (List Node)
  | .error (.notFound _) => .error (.partialNotFound name)
  | .error e => .error (.invalidPartial name e.message)
  | .ok source =>
      match compile source with
      | .error e => .error (.invalidPartial name (TemplateError.compile e).message)
      | .ok compiled => .ok compiled.nodes

def partial? (a : RenderArguments) (w : Workspace) (name : String) :
    Except RenderError (List Node) :=
  partialTree name (a.loader.load w name)

def setting (a : RenderArguments) (w : Workspace) (config : Config) (compiled : Compiled) :
    Setting Empty where
  host := noHost
  contentType := compiled.contentType.getD (if a.asText then .text else config.contentType)
  maxDepth := config.maxDepth
  partials := some (a.partial? w)

def rendered (a : RenderArguments) (w : Workspace) (config : Config) (compiled : Compiled)
    (data : Value Empty) : Except RenderError String :=
  (renderTree (a.setting w config compiled) compiled.nodes
    (ScopeChain.standard.extended data)).result

/-- The template's own source does not compile, and everything else can be read. -/
def FailsToCompile (formats : Formats) (a : RenderArguments) (w : Workspace) : Prop :=
  ∃ config source data e, a.Loads formats w config source data ∧ compile source = .error e

def FailsToRender (formats : Formats) (a : RenderArguments) (w : Workspace) : Prop :=
  ∃ config source data compiled e, a.Loads formats w config source data ∧
    compile source = .ok compiled ∧ a.rendered w config compiled data = .error e

def CanWrite (a : RenderArguments) (w : Workspace) : Prop :=
  ∀ path, a.output = some path → w.writeError? path = none

/-- The text that the stages come to, or the cause of the first one to fail. -/
inductive ComesTo (formats : Formats) (a : RenderArguments) (w : Workspace) :
    Except Cause String → Prop
  | configFile {path : String} {e : IoError} :
      a.config = some path → w.read path = .error e →
        ComesTo formats a w (.error (.template (.io e)))
  | configText {path text refusal : String} :
      a.config = some path → w.read path = .ok text → formats.settings text = .error refusal →
        ComesTo formats a w (.error (.template (.yaml refusal)))
  | source {config : Config} {e : IoError} :
      a.ReadsConfig formats w config → w.read a.template = .error e →
        ComesTo formats a w (.error (.io e))
  | dataFile {config : Config} {source path : String} {e : IoError} :
      a.ReadsConfig formats w config → w.read a.template = .ok source →
        a.data = some path → w.read path = .error e →
        ComesTo formats a w (.error (.template (.io e)))
  | dataText {config : Config} {source path text refusal : String} :
      a.ReadsConfig formats w config → w.read a.template = .ok source →
        a.data = some path → w.read path = .ok text →
        readerAt formats path text = .error refusal →
        ComesTo formats a w
          (.error (.template (if isJsonPath path then .json refusal else .yaml refusal)))
  | compile {config : Config} {source : String} {data : Value Empty} {e : CompileError} :
      a.Loads formats w config source data → compile source = .error e →
        ComesTo formats a w (.error (.template (.compile e)))
  | render {config : Config} {source : String} {data : Value Empty} {compiled : Compiled}
      {e : RenderError} :
      a.Loads formats w config source data → Mustache.compile source = .ok compiled →
        a.rendered w config compiled data = .error e →
        ComesTo formats a w (.error (.template (.render e)))
  | text {config : Config} {source : String} {data : Value Empty} {compiled : Compiled}
      {text : String} :
      a.Loads formats w config source data → Mustache.compile source = .ok compiled →
        a.rendered w config compiled data = .ok text → ComesTo formats a w (.ok text)

variable {formats : Formats} {a : RenderArguments} {w : Workspace}

theorem exists_readsConfig (formats : Formats) (a : RenderArguments) (w : Workspace) :
    (∃ config, a.ReadsConfig formats w config) ∨ ∃ c, a.ComesTo formats w (.error c) := by
  cases hpath : a.config with
  | none => exact .inl ⟨_, .standard hpath⟩
  | some path =>
    cases hread : w.read path with
    | error e => exact .inr ⟨_, .configFile hpath hread⟩
    | ok text =>
      cases hsettings : formats.settings text with
      | error refusal => exact .inr ⟨_, .configText hpath hread hsettings⟩
      | ok settings => exact .inl ⟨_, .file hpath hread hsettings⟩

theorem exists_readsData {config : Config} {source : String}
    (hconfig : a.ReadsConfig formats w config) (hsource : w.read a.template = .ok source) :
    (∃ data, a.ReadsData formats w data) ∨ ∃ c, a.ComesTo formats w (.error c) := by
  cases hpath : a.data with
  | none => exact .inl ⟨_, .empty hpath⟩
  | some path =>
    cases hread : w.read path with
    | error e => exact .inr ⟨_, .dataFile hconfig hsource hpath hread⟩
    | ok text =>
      cases hdocument : readerAt formats path text with
      | error refusal => exact .inr ⟨_, .dataText hconfig hsource hpath hread hdocument⟩
      | ok document => exact .inl ⟨_, .file hpath hread hdocument⟩

theorem exists_comesTo (formats : Formats) (a : RenderArguments) (w : Workspace) :
    ∃ r, a.ComesTo formats w r := by
  rcases exists_readsConfig formats a w with ⟨config, hconfig⟩ | ⟨c, hfails⟩
  · cases hsource : w.read a.template with
    | error e => exact ⟨_, .source hconfig hsource⟩
    | ok source =>
      rcases exists_readsData hconfig hsource with ⟨data, hdata⟩ | ⟨c, hfails⟩
      · have hloads : a.Loads formats w config source data := ⟨hconfig, hsource, hdata⟩
        cases hcompile : compile source with
        | error e => exact ⟨_, .compile hloads hcompile⟩
        | ok compiled =>
          cases hrender : a.rendered w config compiled data with
          | error e => exact ⟨_, .render hloads hcompile hrender⟩
          | ok text => exact ⟨_, .text hloads hcompile hrender⟩
      · exact ⟨_, hfails⟩
  · exact ⟨_, hfails⟩

/-! ## The order of the stages -/

def configuration (formats : Formats) (a : RenderArguments) (w : Workspace) :
    Except TemplateError Config :=
  match a.config with
  | some path => formats.loadConfig w path
  | none => .ok {}

def input (formats : Formats) (a : RenderArguments) (w : Workspace) :
    Except TemplateError (Value Empty) :=
  match a.data with
  | some path => formats.loadData w path
  | none => .ok .empty

theorem configuration_of_unread {path : String} {e : IoError} (hpath : a.config = some path)
    (hread : w.read path = .error e) : a.configuration formats w = .error (.io e) := by
  simp only [configuration, hpath, Formats.loadConfig, hread]
  rfl

theorem configuration_of_refused {path text refusal : String} (hpath : a.config = some path)
    (hread : w.read path = .ok text) (hsettings : formats.settings text = .error refusal) :
    a.configuration formats w = .error (.yaml refusal) := by
  simp only [configuration, hpath, Formats.loadConfig, hread]
  simp only [Except.mapError, bind, Except.bind, hsettings]

theorem ReadsConfig.configuration_eq {config : Config} (h : a.ReadsConfig formats w config) :
    a.configuration formats w = .ok config := by
  cases h with
  | standard hpath => simp only [configuration, hpath]
  | file hpath hread hsettings =>
      simp only [configuration, hpath, Formats.loadConfig, hread]
      simp only [Except.mapError, bind, Except.bind, hsettings]
      rfl

theorem input_of_unread {path : String} {e : IoError} (hpath : a.data = some path)
    (hread : w.read path = .error e) : a.input formats w = .error (.io e) := by
  simp only [input, hpath, Formats.loadData, hread]
  rfl

theorem document_eq (formats : Formats) (path text : String) :
    formats.document path text =
      (readerAt formats path text).mapError (if isJsonPath path then .json else .yaml) := by
  unfold Formats.document readerAt
  split <;> rfl

theorem input_of_refused {path text refusal : String} (hpath : a.data = some path)
    (hread : w.read path = .ok text) (hdocument : readerAt formats path text = .error refusal) :
    a.input formats w =
      .error (if isJsonPath path then .json refusal else .yaml refusal) := by
  simp only [input, hpath, Formats.loadData, hread]
  simp only [Except.mapError, bind, Except.bind, document_eq, hdocument]
  split <;> rfl

theorem ReadsData.input_eq {data : Value Empty} (h : a.ReadsData formats w data) :
    a.input formats w = .ok data := by
  cases h with
  | empty hpath => simp only [input, hpath]
  | file hpath hread hdocument =>
      simp only [input, hpath, Formats.loadData, hread]
      simp only [Except.mapError, bind, Except.bind, document_eq, hdocument]
      rfl

/-- The repository of a render finds the same partials, whatever it keeps. -/
theorem resolve_partialsRepository (a : RenderArguments) (w : Workspace) :
    (partialsRepository a).resolve w = a.partial? w := by
  funext name
  have hfind : (partialsRepository a).find w name = (do
      (Mustache.compile (← a.loader.load w name)).mapError .compile) := by
    have hconsistent : (partialsRepository a).Consistent w :=
      Repository.consistent_ofDirectory _ _ w
    exact hconsistent.find_eq name
  simp only [Repository.resolve, hfind, partial?]
  cases a.loader.load w name with
  | error e => cases e <;> rfl
  | ok source =>
      simp only [bind, Except.bind, partialTree]
      cases Mustache.compile source <;> rfl

theorem result_render (a : RenderArguments) (w : Workspace) (config : Config)
    (compiled : Compiled) (data : Value Empty) :
    ((partialsRepository a).render w noHost
      (.ofCompiled compiled
        (if a.asText then { config with contentType := .text } else config)) data).1.result =
      a.rendered w config compiled data := by
  rw [Repository.render, rendered, Template.render, Template.setting, resolve_partialsRepository,
    setting]
  cases a.asText <;> rfl

theorem compileAndRender_eq (a : RenderArguments) (w : Workspace) (config : Config)
    (source : String) (data : Value Empty) :
    (do
      let template ← orFail (.template ∘ .compile) "Failed to compile" a.template
        (Template.ofSource source
          (if a.asText then { config with contentType := .text } else config))
      orFail (.template ∘ .render) "Failed to render" a.template
        ((partialsRepository a).render w noHost template data).1.result) = (do
      let compiled ←
        orFail (.template ∘ .compile) "Failed to compile" a.template (Mustache.compile source)
      orFail (.template ∘ .render) "Failed to render" a.template
        (a.rendered w config compiled data)) := by
  simp only [← result_render, Template.ofSource]
  cases Mustache.compile source <;> rfl

theorem renderText_eq_stages (formats : Formats) (a : RenderArguments) (w : Workspace) :
    renderText formats w a = (do
      let config ←
        orFail .template "Failed to load config" (a.config.getD "") (a.configuration formats w)
      let source ← orFail .io "Failed to read template" a.template (w.read a.template)
      let data ←
        orFail .template "Failed to load data" (a.data.getD "") (a.input formats w)
      let compiled ←
        orFail (.template ∘ .compile) "Failed to compile" a.template (Mustache.compile source)
      orFail (.template ∘ .render) "Failed to render" a.template
        (a.rendered w config compiled data)) := by
  have hbehind := compileAndRender_eq a w
  rw [renderText]
  dsimp only at hbehind ⊢
  simp only [hbehind, configuration, input]
  cases a.config <;> cases a.data <;> rfl

theorem ComesTo.renderText_eq {r : Except Cause String} (h : a.ComesTo formats w r) :
    (renderText formats w a).mapError (·.cause) = r.mapError some := by
  rw [renderText_eq_stages]
  cases h with
  | configFile hpath hread =>
      rw [configuration_of_unread hpath hread]
      rfl
  | configText hpath hread hsettings =>
      rw [configuration_of_refused hpath hread hsettings]
      rfl
  | source hconfig hsource =>
      rw [hconfig.configuration_eq, hsource]
      rfl
  | dataFile hconfig hsource hpath hread =>
      rw [hconfig.configuration_eq, hsource, input_of_unread hpath hread]
      rfl
  | dataText hconfig hsource hpath hread hdocument =>
      rw [hconfig.configuration_eq, hsource, input_of_refused hpath hread hdocument]
      rfl
  | compile hloads hcompile =>
      rw [hloads.config.configuration_eq, hloads.source, hloads.data.input_eq]
      simp only [orFail, Except.mapError, bind, Except.bind, hcompile]
      rfl
  | render hloads hcompile hrender =>
      rw [hloads.config.configuration_eq, hloads.source, hloads.data.input_eq]
      simp only [orFail, Except.mapError, bind, Except.bind, hcompile, hrender]
      rfl
  | text hloads hcompile hrender =>
      rw [hloads.config.configuration_eq, hloads.source, hloads.data.input_eq]
      simp only [orFail, Except.mapError, bind, Except.bind, hcompile, hrender]

theorem ComesTo.exitCode_of_error {c : Cause} (h : a.ComesTo formats w (.error c)) :
    (runRender formats w a).exitCode = c.exitCode := by
  obtain ⟨⟨context, cause⟩, hfailure, rfl⟩ := mapError_eq_error_iff.1 h.renderText_eq
  rw [runRender, hfailure]
  rfl

theorem ComesTo.runRender_of_ok {text : String} (h : a.ComesTo formats w (.ok text)) :
    runRender formats w a =
      match a.output with
      | none => { stdout := text }
      | some path =>
          match w.writeError? path with
          | none => { output := some (path, text) }
          | some e =>
              { failure := some {
                  context := "Failed to write " ++ Text.quote path, cause := some (.io e) } } := by
  have htext : renderText formats w a = .ok text := by
    have hsame := h.renderText_eq
    cases hresult : renderText formats w a with
    | error f =>
        rw [hresult] at hsame
        cases hsame
    | ok text' =>
        rw [hresult] at hsame
        rw [Except.ok.inj hsame]
  unfold runRender
  generalize renderText formats w a = result at htext ⊢
  subst htext
  rfl

theorem ComesTo.exitCode_of_ok {text : String} (h : a.ComesTo formats w (.ok text)) :
    (runRender formats w a).exitCode = 0 ∧ a.CanWrite w ∨
      ((runRender formats w a).exitCode = 1 ∨ (runRender formats w a).exitCode = 2) ∧
        ¬ a.CanWrite w := by
  rw [h.runRender_of_ok, CanWrite]
  cases a.output with
  | none =>
      refine .inl ⟨rfl, fun path hpath => ?_⟩
      cases hpath
  | some path =>
      dsimp only
      cases hwrite : w.writeError? path with
      | none =>
          refine .inl ⟨rfl, fun path' hpath => ?_⟩
          rw [← Option.some.inj hpath]
          exact hwrite
      | some e =>
          refine .inr ⟨?_, fun hall => ?_⟩
          · cases e <;> simp [Outcome.exitCode, Failure.exitCode]
          · rw [hall path rfl] at hwrite
            cases hwrite

/-- A failure behind the reading of files has an exit code of its own. -/
theorem ComesTo.exitCode_of_stage {c : Cause} (h : a.ComesTo formats w (.error c)) :
    a.FailsToCompile formats w ∧ c.exitCode = 3 ∨ a.FailsToRender formats w ∧ c.exitCode = 4 ∨
      c.exitCode = 1 ∨ c.exitCode = 2 := by
  cases h with
  | configFile _ _ | dataFile _ _ _ _ =>
      rw [Cause.exitCode_template_io]
      right; right
      split <;> simp
  | configText _ _ _ => exact .inr (.inr (.inl rfl))
  | source _ _ =>
      rw [Cause.exitCode_io]
      right; right
      split <;> simp
  | dataText _ _ _ _ _ =>
      right; right; left
      split <;> rfl
  | compile hloads hcompile => exact .inl ⟨⟨_, _, _, _, hloads, hcompile⟩, rfl⟩
  | render hloads hcompile hrender =>
      exact .inr (.inl ⟨⟨_, _, _, _, _, hloads, hcompile, hrender⟩, rfl⟩)

theorem exitCode_eq_three_iff :
    (runRender formats w a).exitCode = 3 ↔ a.FailsToCompile formats w := by
  constructor
  · intro hcode
    obtain ⟨r, hr⟩ := exists_comesTo formats a w
    cases r with
    | error c =>
        rw [hr.exitCode_of_error] at hcode
        exact (hr.exitCode_of_stage.resolve_right fun hno => by omega).1
    | ok text =>
        have hwrite := hr.exitCode_of_ok
        omega
  · rintro ⟨config, source, data, e, hloads, hcompile⟩
    exact (ComesTo.compile hloads hcompile).exitCode_of_error

end RenderArguments

/-! ## Output -/

namespace RenderArguments

variable {formats : Formats} {a : RenderArguments} {w : Workspace} {text : String}

end RenderArguments

end Mustache.Command
