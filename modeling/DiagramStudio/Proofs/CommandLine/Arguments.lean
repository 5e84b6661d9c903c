import DiagramStudio.CommandLine.Arguments

/-!
# Invocations

What the arguments of the command `generate` say, and the ways in which it can be said. The parts
of an invocation stand in any order, each at most once; an option has its value in its own argument
or in the next one; and two dashes end the options, so that the input may look like one. The
arguments that are taken are exactly those that spell an invocation.

## Main definitions

- `Invocation`: an input, a platform and a limit in tokens, each of them optional
- `Invocation.Spells`: the arguments that say an invocation
-/

namespace DiagramStudio

open Text Arguments

/-- What the arguments of `generate` say. -/
structure Invocation where
  input : Option String := none
  platform : Option String := none
  maxTokens : Option UInt32 := none

namespace Invocation

/-- The two ways to write an option with its value. -/
inductive Written (name value : String) : List String → Prop
  | attached : Written name value ["--" ++ name ++ "=" ++ value]
  | separate (h : isOption value = false) : Written name value ["--" ++ name, value]

/-- The arguments add to what was said before them. -/
inductive Adds : Invocation → List String → Invocation → Prop
  | nothing (i : Invocation) : Adds i [] i
  | input {i j : Invocation} {path : String} {args : List String} (hfree : i.input = none)
      (hpath : isOption path = false) (hrest : Adds { i with input := some path } args j) :
      Adds i (path :: args) j
  | platform {i j : Invocation} {tag : String} {option args : List String}
      (hfree : i.platform = none) (hoption : Written "platform" tag option)
      (hrest : Adds { i with platform := some tag } args j) : Adds i (option ++ args) j
  | maxTokens {i j : Invocation} {raw : String} {n : UInt32} {option args : List String}
      (hfree : i.maxTokens = none) (hnumber : tokenLimit? raw = some n)
      (hoption : Written "max-tokens" raw option)
      (hrest : Adds { i with maxTokens := some n } args j) : Adds i (option ++ args) j
  | ended (i : Invocation) : Adds i ["--"] i
  | endedInput {i : Invocation} (path : String) (hfree : i.input = none) :
      Adds i ["--", path] { i with input := some path }

/-- The arguments that say an invocation. -/
def Spells (i : Invocation) (args : List String) : Prop := Adds {} args i

/-- The arguments read so far say an invocation. -/
structure Said (g : Given) (i : Invocation) : Prop where
  input : g.operand = i.input
  platform : g.values.lookup "platform" = i.platform
  maxTokens : (g.values.lookup "max-tokens").map tokenLimit? = i.maxTokens.map some

theorem said_nothing : Said .nothing {} := ⟨rfl, rfl, rfl⟩

/-! ## Reading one part -/

variable {g g' : Given} {i j : Invocation}

theorem Said.addOperand_eq_ok_iff (h : Said g i) {path : String} :
    g.addOperand path = .ok g' ↔ i.input = none ∧ g' = { g with operand := some path } := by
  rw [Given.addOperand, h.input]
  cases i.input with
  | none => simp [eq_comm]
  | some input => simp

theorem Said.addOperand (h : Said g i) (path : String) :
    Said { g with operand := some path } { i with input := some path } :=
  ⟨rfl, h.platform, h.maxTokens⟩

theorem Said.addPlatform_eq_ok_iff (h : Said g i) {tag : String} :
    g.addValue "platform" tag = .ok g' ↔
      i.platform = none ∧ g' = { g with values := ("platform", tag) :: g.values } := by
  have hname : ¬ ("platform" = "max-tokens" ∧ (tokenLimit? tag).isNone = true) :=
    fun hnames => absurd hnames.1 (by decide)
  rw [Given.addValue, h.platform, if_neg hname]
  cases i.platform with
  | none => simp [eq_comm]
  | some platform => simp

theorem Said.addPlatform (h : Said g i) (tag : String) :
    Said { g with values := ("platform", tag) :: g.values } { i with platform := some tag } :=
  ⟨h.input, rfl, h.maxTokens⟩

theorem Said.addMaxTokens_eq_ok_iff (h : Said g i) {raw : String} :
    g.addValue "max-tokens" raw = .ok g' ↔ i.maxTokens = none ∧ (∃ n, tokenLimit? raw = some n) ∧
      g' = { g with values := ("max-tokens", raw) :: g.values } := by
  have hsome : (g.values.lookup "max-tokens").isSome = i.maxTokens.isSome := by
    simpa using congrArg Option.isSome h.maxTokens
  rw [Given.addValue, hsome]
  cases i.maxTokens with
  | none => cases tokenLimit? raw <;> simp [eq_comm]
  | some n => simp

theorem Said.addMaxTokens (h : Said g i) {raw : String} {n : UInt32}
    (hnumber : tokenLimit? raw = some n) :
    Said { g with values := ("max-tokens", raw) :: g.values } { i with maxTokens := some n } :=
  ⟨h.input, h.platform, congrArg some hnumber⟩

/-! ## Reading all parts -/

theorem splitOption_of_not_mem {name : String} (h : '=' ∉ name.toList) :
    splitOption name.toList = (name, none) := by
  rw [splitOption, cut?_of_not_mem h, String.ofList_toList]

theorem splitOption_append_cons {name : String} (h : '=' ∉ name.toList) (value : String) :
    splitOption (name.toList ++ '=' :: value.toList) = (name, some value) := by
  rw [splitOption, cut?_append_cons h]
  dsimp only
  rw [String.ofList_toList, String.ofList_toList]

theorem plain_of_mem_valued :
    ∀ name ∈ Verb.generate.valued, '=' ∉ name.toList ∧ name.toList ≠ [] ∧ name ≠ "help" := by
  decide

/-- What `generate` does with an option that has a value, however it is written. -/
theorem collect_written {name value : String} (hname : name ∈ Verb.generate.valued)
    {option : List String} (hoption : Written name value option) (rest : List String) :
    collect .generate g (option ++ rest) =
      match g.addValue name value with
      | .ok g => collect .generate g rest
      | .error stop => .error stop := by
  obtain ⟨hplain, hne, hhelp⟩ := plain_of_mem_valued name hname
  have hflags : Verb.generate.flags.contains name = false := rfl
  have hvalued : Verb.generate.valued.contains name = true := List.contains_iff_mem.2 hname
  obtain ⟨c, t, ht⟩ := List.exists_cons_of_ne_nil hne
  cases hoption with
  | attached =>
    have harg : ("--" ++ name ++ "=" ++ value).toList =
        '-' :: '-' :: c :: (t ++ '=' :: value.toList) := by simp [ht]
    have hsplit := splitOption_append_cons hplain value
    rw [ht, List.cons_append] at hsplit
    rw [List.singleton_append, collect, harg]
    simp only [hsplit, hhelp, hflags, hvalued]
    rfl
  | separate h =>
    have harg : ("--" ++ name).toList = '-' :: '-' :: c :: t := by simp [ht]
    have hsplit := splitOption_of_not_mem hplain
    rw [ht] at hsplit
    rw [List.cons_append, List.singleton_append, collect, harg]
    simp only [hsplit, hhelp, hflags, hvalued, h]
    rfl

theorem collect_operand {path : String} (hpath : isOption path = false) (rest : List String) :
    collect .generate g (path :: rest) =
      match g.addOperand path with
      | .ok g => collect .generate g rest
      | .error stop => .error stop := by
  rw [isOption] at hpath
  rw [collect]
  split
  · next h => simp [h] at hpath
  · next h => simp [h] at hpath
  · next h => simp [h] at hpath
  · next h => simp [h] at hpath
  · rfl

theorem collect_ended (rest : List String) :
    collect .generate g ("--" :: rest) = g.addOperands rest := rfl

/-- Arguments that say an invocation are taken, and what is read from them says the same. -/
theorem Adds.collect {args : List String} (h : Adds i args j) (hg : Said g i) :
    ∃ g', Arguments.collect .generate g args = .ok g' ∧ Said g' j := by
  induction h generalizing g with
  | nothing i => exact ⟨g, rfl, hg⟩
  | input hfree hpath _ ih =>
    rw [collect_operand hpath, hg.addOperand_eq_ok_iff.2 ⟨hfree, rfl⟩]
    exact ih (hg.addOperand _)
  | platform hfree hoption _ ih =>
    rw [collect_written (by decide) hoption, hg.addPlatform_eq_ok_iff.2 ⟨hfree, rfl⟩]
    exact ih (hg.addPlatform _)
  | maxTokens hfree hnumber hoption _ ih =>
    rw [collect_written (by decide) hoption,
      hg.addMaxTokens_eq_ok_iff.2 ⟨hfree, ⟨_, hnumber⟩, rfl⟩]
    exact ih (hg.addMaxTokens hnumber)
  | ended i => exact ⟨g, rfl, hg⟩
  | endedInput path hfree =>
    rw [collect_ended, Given.addOperands, hg.addOperand_eq_ok_iff.2 ⟨hfree, rfl⟩]
    exact ⟨_, rfl, hg.addOperand path⟩

theorem eq_of_splitOption {t : Text} {name : String} {attached : Option String}
    (h : splitOption t = (name, attached)) :
    (attached = none ∧ t = name.toList) ∨
      ∃ value, attached = some value ∧ t = name.toList ++ '=' :: value.toList := by
  rw [splitOption] at h
  split at h
  · next before after hcut =>
    obtain ⟨rfl, rfl⟩ := Prod.mk.inj h
    exact .inr ⟨_, rfl, by simpa using cut?_eq_some hcut⟩
  · obtain ⟨rfl, rfl⟩ := Prod.mk.inj h
    exact .inl ⟨rfl, by simp⟩

theorem eq_of_addOperands {args : List String} (h : g.addOperands args = .ok g') (hg : Said g i) :
    (args = [] ∧ g' = g) ∨
      ∃ path, args = [path] ∧ i.input = none ∧ g' = { g with operand := some path } := by
  cases args with
  | nil => exact .inl ⟨rfl, (Except.ok.inj h).symm⟩
  | cons path rest =>
    rw [Given.addOperands] at h
    split at h
    · next g₁ hpath =>
      obtain ⟨hfree, rfl⟩ := hg.addOperand_eq_ok_iff.1 hpath
      cases rest with
      | nil => exact .inr ⟨path, rfl, hfree, (Except.ok.inj h).symm⟩
      | cons second rest =>
        -- There is room for one operand only.
        rw [Given.addOperands, Given.addOperand] at h
        simp at h
    · simp at h

theorem isOption_eq_false {argument : String}
    (h : ∀ c t, argument.toList = '-' :: c :: t → False) : isOption argument = false := by
  rw [isOption]
  split
  · next c t hargument => exact (h c t hargument).elim
  · rfl

/-- An option with a value that is taken is said with whatever is said behind it. -/
theorem Written.adds {name value : String} (hname : name ∈ Verb.generate.valued)
    {option rest : List String} (hoption : Written name value option)
    (hvalue : g.addValue name value = .ok g') (hg : Said g i) {P : Invocation → Prop}
    (hrest : ∀ i, Said g' i → ∃ j, Adds i rest j ∧ P j) :
    ∃ j, Adds i (option ++ rest) j ∧ P j := by
  have hnames : name = "platform" ∨ name = "max-tokens" := by
    simpa [Verb.valued] using hname
  rcases hnames with rfl | rfl
  · obtain ⟨hfree, rfl⟩ := hg.addPlatform_eq_ok_iff.1 hvalue
    obtain ⟨j, hadds, hj⟩ := hrest _ (hg.addPlatform value)
    exact ⟨j, .platform hfree hoption hadds, hj⟩
  · obtain ⟨hfree, ⟨n, hnumber⟩, rfl⟩ := hg.addMaxTokens_eq_ok_iff.1 hvalue
    obtain ⟨j, hadds, hj⟩ := hrest _ (hg.addMaxTokens hnumber)
    exact ⟨j, .maxTokens hfree hnumber hoption hadds, hj⟩

/-- Arguments that are taken say an invocation. -/
theorem exists_adds {args : List String} (h : Arguments.collect .generate g args = .ok g')
    (hg : Said g i) : ∃ j, Adds i args j ∧ Said g' j := by
  fun_induction Arguments.collect Verb.generate g args generalizing i
  -- No argument is left.
  case case1 => exact ⟨i, .nothing i, Except.ok.inj h ▸ hg⟩
  -- Two dashes.
  case case2 g argument rest hargument =>
    obtain rfl : argument = "--" := String.toList_inj.1 hargument
    rcases eq_of_addOperands h hg with ⟨rfl, rfl⟩ | ⟨path, rfl, hfree, rfl⟩
    · exact ⟨i, .ended i, hg⟩
    · exact ⟨_, .endedInput path hfree, hg.addOperand path⟩
  -- An option without a value, of which there are none.
  case case6 hflag _ _ _ _ => simp [Verb.flags] at hflag
  -- An option with its value in the same argument.
  case case8 g argument t _ hargument name _ _ hvalued value rest g₁ hvalue hsplit ih =>
    rcases eq_of_splitOption hsplit with ⟨hnone, -⟩ | ⟨value', hsome, ht⟩
    · simp at hnone
    · obtain rfl := Option.some.inj hsome
      obtain rfl : argument = "--" ++ name ++ "=" ++ value := by
        rw [← String.toList_inj, hargument, ht]
        simp
      exact Written.adds (List.contains_iff_mem.1 hvalued) .attached hvalue hg fun i => ih h
  -- An option with its value in the next argument.
  case case12 g argument t _ hargument name _ _ hvalued value rest hplain g₁ hvalue hsplit ih =>
    rcases eq_of_splitOption hsplit with ⟨-, ht⟩ | ⟨value', hsome, -⟩
    · obtain rfl : argument = "--" ++ name := by
        rw [← String.toList_inj, hargument, ht]
        simp
      exact Written.adds (List.contains_iff_mem.1 hvalued) (.separate (by simpa using hplain))
        hvalue hg fun i => ih h
    · simp at hsome
  -- An operand.
  case case17 g argument rest g₁ hoperand _ _ _ hdashed ih =>
    obtain ⟨hfree, rfl⟩ := hg.addOperand_eq_ok_iff.1 hoperand
    obtain ⟨j, hadds, hj⟩ := ih h (hg.addOperand argument)
    exact ⟨j, .input hfree (isOption_eq_false hdashed) hadds, hj⟩
  -- Everything else ends the reading.
  all_goals simp at h

/-! ## Reading a command -/

/-- The limit in tokens that holds for an invocation: its own, or else that of the environment. -/
def limit (env : Environment) (i : Invocation) : Except Stop (Option UInt32) :=
  match i.maxTokens, env.find? "DIAGRAM_MAX_TOKENS" with
  | some n, _ => .ok (some n)
  | none, none => .ok none
  | none, some raw =>
    match tokenLimit? raw with
    | some n => .ok (some n)
    | none => .error (.usage (.malformedNumber raw))

section

variable {env : Environment}

theorem limit_of_given {n : UInt32} (h : i.maxTokens = some n) : i.limit env = .ok (some n) := by
  rw [limit, h]

theorem limit_of_absent (h : i.maxTokens = none) (henv : env.find? "DIAGRAM_MAX_TOKENS" = none) :
    i.limit env = .ok none := by
  rw [limit, h, henv]

theorem limit_of_value (h : i.maxTokens = none) {raw : String}
    (hraw : env.find? "DIAGRAM_MAX_TOKENS" = some raw) {n : UInt32}
    (hnumber : tokenLimit? raw = some n) : i.limit env = .ok (some n) := by
  simp only [limit, h, hraw, hnumber]

theorem limit_of_malformed (h : i.maxTokens = none) {raw : String}
    (hraw : env.find? "DIAGRAM_MAX_TOKENS" = some raw) (hnumber : tokenLimit? raw = none) :
    i.limit env = .error (.usage (.malformedNumber raw)) := by
  simp only [limit, h, hraw, hnumber]

end

/-- The command that an invocation means. -/
def command (env : Environment) (i : Invocation) : Except Stop Command :=
  (i.limit env).map fun limit => .generate (i.input.getD "-") i.platform limit

theorem Said.tokenLimit_eq (hg : Said g i) (env : Environment) :
    tokenLimit env g = i.limit env := by
  have hnumber := hg.maxTokens
  rw [tokenLimit, limit]
  cases hgiven : i.maxTokens with
  | none =>
    rw [hgiven, Option.map_none, Option.map_eq_none_iff] at hnumber
    rw [hnumber, Option.none_or]
    cases env.find? "DIAGRAM_MAX_TOKENS" <;> rfl
  | some n =>
    rw [hgiven, Option.map_some, Option.map_eq_some_iff] at hnumber
    obtain ⟨raw, hraw, hnumber⟩ := hnumber
    simp only [hraw, Option.some_or, hnumber]

theorem Said.command_eq (hg : Said g i) (env : Environment) :
    Arguments.command env .generate g = i.command env := by
  rw [Arguments.command, command, hg.input, hg.platform, hg.tokenLimit_eq]

theorem parse_of_spells {args : List String} (h : i.Spells args) (env : Environment) :
    parse env ("generate" :: args) = i.command env := by
  obtain ⟨g, hcollect, hg⟩ := Adds.collect h said_nothing
  rw [parse, show Verb.ofName? "generate" = some .generate from rfl]
  dsimp only
  rw [hcollect]
  exact hg.command_eq env

/-- The commands that generate a diagram are those of the invocations that the arguments spell. -/
theorem parse_generate_eq_ok_iff {env : Environment} {args : List String} {c : Command} :
    parse env ("generate" :: args) = .ok c ↔
      ∃ i : Invocation, i.Spells args ∧ i.command env = .ok c := by
  constructor
  · intro h
    rw [parse, show Verb.ofName? "generate" = some .generate from rfl] at h
    dsimp only at h
    split at h
    · next g hcollect =>
      obtain ⟨i, hadds, hg⟩ := exists_adds hcollect said_nothing
      exact ⟨i, hadds, by rw [← hg.command_eq, h]⟩
    · simp at h
  · rintro ⟨i, hargs, hc⟩
    rw [parse_of_spells hargs, hc]

/-- Behind two dashes an input may look like an option. -/
example :
    (parse [] ["generate", "--platform=", "--", "--platform"]).toOption =
      some (.generate "--platform" (some "") none) := by
  decide +kernel

end Invocation

end DiagramStudio
