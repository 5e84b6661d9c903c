import DiagramStudio.CommandLine.Run
import DiagramStudio.Proofs.CommandLine.Arguments
import DiagramStudio.Proofs.CommandLine.TokenLimit
import DiagramStudio.Proofs.Json.RoundTrip
import DiagramStudio.Proofs.Service.Outcome

/-!
# Runs that generate a diagram

A run of `generate` prints what the configured generator makes of the description, whether that is
a success or not, and its exit code tells which. Settings of the model that are not valid count as
no model, so they never keep a run from its result. The limit in tokens does: a value in the
environment that is no number ends the run before it starts.

## Main definitions

- `Environment.generator`: the generator that an environment describes
- `RunOutcome.Reports`: an outcome that tells a result
- `RunOutcome.AsksWith`: an outcome of asking the model with a given limit
-/

namespace DiagramStudio

open Text Arguments

/-- The generator that the environment describes. Without valid settings it has no model. -/
def Environment.generator (env : Environment) : Generator Network where
  model :=
    match Settings.resolve env.settings with
    | .ok s => some s.chatModel
    | .error _ => none
  options := Options.resolve env.settings

/-- The generator with another limit in tokens, if one is given. -/
def Generator.withLimit {σ : Type} (g : Generator σ) : Option UInt32 → Generator σ
  | some n => { g with options := { g.options with maxTokens := n } }
  | none => g

/-- The limit in tokens that a request carries, under either of its names. -/
def Http.Request.limit? (r : Http.Request) : Option UInt64 :=
  ((r.body.get? "max_tokens").or (r.body.get? "max_output_tokens")).bind Json.Value.count?

/-- The outcome tells what was made of a request: the result is printed, the exit code is its
status, and the requests are those that the network saw. -/
structure RunOutcome.Reports (o : RunOutcome) (made : DiagramResult × Network) : Prop where
  printed : DiagramResult.codec.read? o.output = some made.1
  success : o.exitCode = 0 ↔ made.1.status = .success
  error : o.exitCode = 1 ↔ made.1.status = .error
  requests : o.requests = made.2.seen

/-- The model is asked with the limit `n`: there is no usage error, the outcome tells what a
generator with that limit makes of the request, and every request that is sent carries the limit. -/
structure RunOutcome.AsksWith (o : RunOutcome) (s : Surroundings) (r : DiagramRequest)
    (n : UInt32) : Prop where
  accepted : o.exitCode ≠ 2
  reports : o.Reports ((s.fullEnvironment.generator.withLimit (some n)).generate r s.network)
  sent : ∃ sent, o.requests = s.network.seen ++ sent ∧
    ∀ request ∈ sent, request.limit? = some n.toUInt64

/-! ## The limit of a request -/

theorem Settings.limit?_request (s : Settings) (p : Prompt) :
    (s.request p).limit? = some p.maxTokens.toUInt64 := by
  have hcount : (Wire.limit p).count? = some p.maxTokens.toUInt64 := Json.Number.count?_whole _
  rw [Http.Request.limit?, request]
  cases s.wire with
  | messages => exact hcount
  | chatCompletions => exact hcount
  | responses => exact hcount

/-- The requests that are sent for a prompt carry its limit. -/
theorem Settings.limit?_of_mem_sent (s : Settings) (p : Prompt) (exchange : Http.Exchange) :
    ∀ request ∈ s.sent p exchange, request.limit? = some p.maxTokens.toUInt64 := by
  intro request hrequest
  rw [sent] at hrequest
  split at hrequest
  · rw [List.mem_singleton.1 hrequest, limit?_request]
  · simp at hrequest

namespace Environment

/-- With valid settings every request carries the limit of the options; without, none is sent. -/
theorem exists_sent (env : Environment) (limit : Option UInt32) (r : DiagramRequest)
    (n : Network) : ∃ sent, ((env.generator.withLimit limit).generate r n).2.seen = n.seen ++ sent ∧
      ∀ request ∈ sent,
        request.limit? = some (env.generator.withLimit limit).options.maxTokens.toUInt64 := by
  have hmodel : (env.generator.withLimit limit).model = env.generator.model := by
    cases limit <;> rfl
  cases hblank : blank r.description.toList with
  | true =>
    rw [Generator.generate_of_blank _ _ _ hblank]
    exact ⟨[], by simp, by simp⟩
  | false =>
    cases hsettings : Settings.resolve env.settings with
    | error e =>
      have hnone : env.generator.model = none := by rw [generator, hsettings]
      rw [Generator.generate_of_none _ _ _ hblank (hmodel.trans hnone)]
      exact ⟨[], by simp, by simp⟩
    | ok s =>
      have hsome : env.generator.model = some s.chatModel := by rw [generator, hsettings]
      rw [Generator.generate_of_some _ _ _ hblank (hmodel.trans hsome)]
      exact ⟨_, rfl, s.limit?_of_mem_sent _ _⟩

end Environment

namespace Generator

theorem withLimit_self {σ : Type} (g : Generator σ) : g.withLimit (some g.options.maxTokens) = g :=
  rfl

end Generator

/-! ## The outcome of a command -/

namespace Command

theorem generator_eq (env : Environment) (limit : Option UInt32) :
    generator env limit = env.generator.withLimit limit := by
  rw [generator, Environment.generator]
  cases limit <;> cases Settings.resolve env.settings <;> rfl

theorem isSome_commandError? (result : DiagramResult) :
    result.commandError?.isSome = decide (result.status = .error) := by
  rw [DiagramResult.commandError?]
  cases result.status <;> rfl

theorem exitCode_runGenerate (env : Environment) (n : Network) (r : DiagramRequest)
    (limit : Option UInt32) : (runGenerate env n r limit).exitCode =
      if ((generator env limit).generate r n).1.status = .error then 1 else 0 := by
  have hexit : (runGenerate env n r limit).exitCode =
      if ((generator env limit).generate r n).1.commandError?.isSome then 1 else 0 := rfl
  rw [hexit, isSome_commandError?]
  simp only [decide_eq_true_eq]

theorem reports_runGenerate (env : Environment) (n : Network) (r : DiagramRequest)
    (limit : Option UInt32) :
    (runGenerate env n r limit).Reports ((env.generator.withLimit limit).generate r n) := by
  rw [← generator_eq]
  refine ⟨?_, ?_, ?_, rfl⟩
  · exact DiagramResult.lawful_codec.read?_encode_append .indented _ (by simp [Json.isSpace])
  · rw [exitCode_runGenerate]
    cases ((generator env limit).generate r n).1.status <;> simp
  · rw [exitCode_runGenerate]
    cases ((generator env limit).generate r n).1.status <;> simp

end Command

/-! ## Runs -/

namespace Surroundings

variable {s : Surroundings} {i : Invocation} {args : List String} {text : Text}

theorem run_of_limit_eq_ok (hargs : i.Spells args)
    (hinput : s.input (i.input.getD "-") = .ok text) {limit : Option UInt32}
    (hlimit : i.limit s.fullEnvironment = .ok limit) :
    s.run ("generate" :: args) =
      Command.runGenerate s.fullEnvironment s.network ⟨String.ofList text, i.platform⟩ limit := by
  rw [run, Invocation.parse_of_spells hargs, Invocation.command, hlimit]
  change Command.run _ _ (s.input (i.input.getD "-")) _ = _
  rw [hinput]
  rfl

theorem run_of_limit_eq_error (hargs : i.Spells args) {stop : Stop}
    (hlimit : i.limit s.fullEnvironment = .error stop) :
    s.run ("generate" :: args) = .stopped stop := by
  rw [run, Invocation.parse_of_spells hargs, Invocation.command, hlimit]
  rfl

/-- A numeral in the environment is the limit that the options hold anyway. -/
theorem exists_limit {env : Environment} (henv : env.HoldsNumeral) (i : Invocation) :
    ∃ limit, i.limit env = .ok limit ∧
      env.generator.withLimit limit = env.generator.withLimit i.maxTokens := by
  cases hgiven : i.maxTokens with
  | some n => exact ⟨some n, Invocation.limit_of_given hgiven, rfl⟩
  | none =>
    cases hraw : env.find? "DIAGRAM_MAX_TOKENS" with
    | none => exact ⟨none, Invocation.limit_of_absent hgiven hraw, rfl⟩
    | some raw =>
      have hread := (tokenLimit?_eq_resolve_iff hraw).2 (henv raw hraw)
      exact ⟨_, Invocation.limit_of_value hgiven hraw hread, env.generator.withLimit_self⟩

/-- A run prints the result that the configured generator makes of the description, also when that
is an error, and its exit code tells the status of the result. -/
theorem reports_run_generate (hargs : i.Spells args) (henv : s.fullEnvironment.HoldsNumeral)
    (hinput : s.input (i.input.getD "-") = .ok text) :
    (s.run ("generate" :: args)).Reports
      ((s.fullEnvironment.generator.withLimit i.maxTokens).generate
        ⟨String.ofList text, i.platform⟩ s.network) := by
  obtain ⟨limit, hlimit, hgenerator⟩ := exists_limit henv i
  rw [run_of_limit_eq_ok hargs hinput hlimit, ← hgenerator]
  exact Command.reports_runGenerate _ _ _ _

theorem reports_run_generate_unavailable :
    let s : Surroundings :=
      { environment := [("LLM_API_KEY_ENV", "KEY"), ("KEY", "sk-1"),
          ("DIAGRAM_FALLBACK_ON_ERROR", "false"), ("DIAGRAM_MAX_TOKENS", "256")]
        standardInput := []
        folder := [("login.txt", [108, 111, 103, 105, 110])]
        network := ⟨[.reply 503 []], .unreachable, []⟩ }
    let i : Invocation := ⟨some "login.txt", some "aws", some 512⟩
    let args := ["--max-tokens=512", "login.txt", "--platform", "aws"]
    i.Spells args ∧ s.fullEnvironment.HoldsNumeral ∧ s.input "login.txt" = .ok "login".toList ∧
      (s.run ("generate" :: args)).exitCode = 1 ∧
      (s.run ("generate" :: args)).Reports
        ((s.fullEnvironment.generator.withLimit i.maxTokens).generate
          ⟨String.ofList "login".toList, i.platform⟩ s.network) := by
  intro s i args
  have hargs : i.Spells args := by
    have hlimit : Invocation.Written "max-tokens" "512" ["--max-tokens=512"] := .attached
    have hplatform : Invocation.Written "platform" "aws" ["--platform", "aws"] :=
      .separate (by decide)
    exact .maxTokens rfl (by decide) hlimit
      (.input rfl (by decide) (.platform rfl hplatform (.nothing _)))
  have henv : s.fullEnvironment.HoldsNumeral := by
    intro raw hraw
    have hfound : s.fullEnvironment.find? "DIAGRAM_MAX_TOKENS" = some "256" := by decide +kernel
    obtain rfl := Option.some.inj (hfound.symm.trans hraw)
    exact ⟨256, "256".toList, .inl rfl, by decide, List.all_eq_true.1 (by decide), rfl⟩
  have hinput : s.input "login.txt" = .ok "login".toList := rfl
  exact ⟨hargs, henv, hinput, by decide +kernel, reports_run_generate hargs henv hinput⟩

theorem asksWith_of_limit (hargs : i.Spells args) (hinput : s.input (i.input.getD "-") = .ok text)
    {n : UInt32} {limit : Option UInt32} (hlimit : i.limit s.fullEnvironment = .ok limit)
    (hgenerator : s.fullEnvironment.generator.withLimit limit =
      s.fullEnvironment.generator.withLimit (some n)) :
    (s.run ("generate" :: args)).AsksWith s ⟨String.ofList text, i.platform⟩ n := by
  have hreports := Command.reports_runGenerate s.fullEnvironment s.network
    ⟨String.ofList text, i.platform⟩ limit
  rw [run_of_limit_eq_ok hargs hinput hlimit]
  refine ⟨?_, hgenerator ▸ hreports, ?_⟩
  · rw [Command.exitCode_runGenerate]
    split <;> decide
  · rw [hreports.requests, hgenerator]
    exact s.fullEnvironment.exists_sent (some n) _ _

/-- Without a limit of its own a run asks with the limit that the options hold, if the variable is
absent or holds a numeral. Of all other values only a negative zero starts a run, with the limit
zero where the options hold the standard; the rest are usage errors. -/
theorem asksWith_run_generate (hargs : i.Spells args) (hgiven : i.maxTokens = none)
    (hinput : s.input (i.input.getD "-") = .ok text) :
    (s.fullEnvironment.HoldsNumeral →
      (s.run ("generate" :: args)).AsksWith s ⟨String.ofList text, i.platform⟩
        (Options.resolve s.fullEnvironment.settings).maxTokens) ∧
    ∀ raw, s.fullEnvironment.find? "DIAGRAM_MAX_TOKENS" = some raw → ¬ IsNumeral raw →
      (IsNegativeZero raw →
        (s.run ("generate" :: args)).AsksWith s ⟨String.ofList text, i.platform⟩ 0 ∧
        (Options.resolve s.fullEnvironment.settings).maxTokens = 4096) ∧
      (¬ IsNegativeZero raw →
        s.run ("generate" :: args) = .stopped (.usage (.malformedNumber raw))) := by
  refine ⟨fun henv => ?_, fun raw hraw hnumeral => ⟨fun hzero => ?_, fun hzero => ?_⟩⟩
  · obtain ⟨limit, hlimit, hgenerator⟩ := exists_limit henv i
    rw [hgiven] at hgenerator
    exact asksWith_of_limit hargs hinput hlimit hgenerator
  · have hlimit := Invocation.limit_of_value hgiven hraw
      (tokenLimit?_eq_some_iff.2 (.inr ⟨rfl, hzero⟩))
    exact ⟨asksWith_of_limit hargs hinput hlimit rfl, hzero.resolve hraw⟩
  · exact run_of_limit_eq_error hargs
      (Invocation.limit_of_malformed hgiven hraw (tokenLimit?_eq_none_iff.2 ⟨hnumeral, hzero⟩))

theorem asksWith_run_generate_signed :
    let s : Surroundings :=
      { environment := [("LLM_API_KEY_ENV", "KEY"), ("KEY", "sk-1"),
          ("DIAGRAM_MAX_TOKENS", "+0256")]
        standardInput := [108, 111, 103, 105, 110]
        folder := []
        network := ⟨[], .dropped, []⟩ }
    let i : Invocation := ⟨none, some "gcp", none⟩
    let args := ["--platform=gcp"]
    i.Spells args ∧ i.maxTokens = none ∧ s.input "-" = .ok "login".toList ∧
      (s.run ("generate" :: args)).AsksWith s ⟨String.ofList "login".toList, i.platform⟩ 256 := by
  intro s i args
  have hargs : i.Spells args := by
    have hplatform : Invocation.Written "platform" "gcp" ["--platform=gcp"] := .attached
    exact .platform rfl hplatform (.nothing _)
  have hinput : s.input "-" = .ok "login".toList := rfl
  have hfound : s.fullEnvironment.find? "DIAGRAM_MAX_TOKENS" = some "+0256" := by decide +kernel
  have hdenotes : Denotes "+0256".toList 256 :=
    ⟨"0256".toList, .inr rfl, by decide, List.all_eq_true.1 (by decide), rfl⟩
  have henv : s.fullEnvironment.HoldsNumeral := by
    intro raw hraw
    obtain rfl := Option.some.inj (hfound.symm.trans hraw)
    exact ⟨256, hdenotes⟩
  have hlimit : (Options.resolve s.fullEnvironment.settings).maxTokens = 256 :=
    Denotes.resolve hfound hdenotes
  have hasks := (asksWith_run_generate hargs rfl hinput).1 henv
  rw [hlimit] at hasks
  exact ⟨hargs, rfl, hinput, hasks⟩

/-- A malformed value ends the run, although the options keep their standard. -/
theorem not_asksWith_run_generate :
    ¬ ∀ (s : Surroundings) (i : Invocation) (args : List String) (text : Text),
      i.Spells args → i.maxTokens = none → s.input (i.input.getD "-") = .ok text →
      (s.run ("generate" :: args)).AsksWith s ⟨String.ofList text, i.platform⟩
        (Options.resolve s.fullEnvironment.settings).maxTokens := by
  intro h
  let s : Surroundings :=
    { environment := [("DIAGRAM_MAX_TOKENS", "lots")]
      standardInput := [108, 111, 103, 105, 110]
      folder := []
      network := ⟨[], .unreachable, []⟩ }
  have hasks := h s {} [] "login".toList (.nothing _) rfl rfl
  have hcode : (s.run ["generate"]).exitCode = 2 := by decide +kernel
  exact hasks.accepted hcode

end Surroundings

end DiagramStudio
