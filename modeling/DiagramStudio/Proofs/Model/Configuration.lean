import DiagramStudio.Model.Settings
import DiagramStudio.Proofs.Text.Numeral

/-!
# Settings from variables

The settings come from seven variables and from the one that holds the key, whose name one of the
seven holds. What the variables describe is said here without a reader: names count in any case and
with blanks around them, an address loses the slashes at its end, and a timeout that is no number
is as good as absent. Settings are resolved if provider, key and mode are in order; otherwise the
first fault is reported, in this order, whatever else is wrong.

## Main definitions

- `Lookup.Describes`: the settings that the variables describe
- `Lookup.Resolvable`: provider, key and mode are in order
- `Lookup.FirstFault`: the error that the first fault calls for
- `Lookup.AgreesWith`: lookups that agree on all variables that count
-/

namespace DiagramStudio

open Text

/-! ## Values of variables -/

/-- The value is `t` with blanks around it. -/
def Pads (t : Text) (raw : String) : Prop :=
  ∃ w v, (∀ c ∈ w, isBlank c = true) ∧ (∀ c ∈ v, isBlank c = true) ∧ raw.toList = w ++ (t ++ v)

/-- The value is a name in any case, with blanks around it. -/
def IsNameOf (name raw : String) : Prop := ∃ t, Pads t raw ∧ lowercase t = name.toList

/-- The value is the number `n` with blanks around it. -/
def IsNumberOf (n : Nat) (raw : String) : Prop := ∃ t, Pads t raw ∧ Denotes t n

/-- The value is a number of 64 bits; if it is anything else, `standard` is meant. -/
def Means (standard n : UInt64) (raw : String) : Prop :=
  IsNumberOf n.toNat raw ∨ n = standard ∧ ∀ m : UInt64, ¬ IsNumberOf m.toNat raw

/-- An address is another one and slashes, with no slash left at the end of the other one. -/
def IsWithoutSlashes (base address : String) : Prop :=
  (∃ slashes, (∀ c ∈ slashes, c = '/') ∧ address.toList = base.toList ++ slashes) ∧
    base.toList.getLast? ≠ some '/'

/-- The name that a provider has in the settings. -/
def Provider.name : Provider → String
  | anthropic => "anthropic"
  | openAi => "openai"

/-- The name that a mode has in the settings. -/
def OpenAiMode.name : OpenAiMode → String
  | chatCompletions => "chat_completions"
  | responses => "responses"

/-! ## Variables -/

namespace Lookup

/-- What holds of the value of a variable, or else because it is absent. -/
def Holds (lookup : Lookup) (name : String) (absent : Prop) (present : String → Prop) : Prop :=
  match lookup name with
  | none => absent
  | some raw => present raw

/-- The settings that the variables describe. -/
structure Describes (lookup : Lookup) (s : Settings) : Prop where
  provider : lookup.Holds "LLM_PROVIDER" (s.provider = .anthropic) (IsNameOf s.provider.name)
  key : ∃ name, lookup "LLM_API_KEY_ENV" = some name ∧ lookup name = some s.apiKey
  mode : lookup.Holds "LLM_OPENAI_MODE" (s.mode = .responses) (IsNameOf s.mode.name)
  model : lookup.Holds "LLM_MODEL" (s.model = s.provider.defaultModel) (s.model = ·)
  baseUrl : lookup.Holds "LLM_OPENAI_BASE_URL"
    (IsWithoutSlashes s.baseUrl "https://api.openai.com/v1") (IsWithoutSlashes s.baseUrl)
  request : lookup.Holds "LLM_REQUEST_TIMEOUT_SECS" (s.timeouts.request = 120)
    (Means 120 s.timeouts.request)
  connect : lookup.Holds "LLM_CONNECT_TIMEOUT_SECS" (s.timeouts.connect = 10)
    (Means 10 s.timeouts.connect)

/-- The provider is absent or one that exists. -/
def NamesProvider (lookup : Lookup) : Prop :=
  lookup.Holds "LLM_PROVIDER" True fun raw => ∃ p : Provider, IsNameOf p.name raw

/-- There is a variable that is said to hold the key, and it holds one. -/
def LeadsToKey (lookup : Lookup) : Prop :=
  ∃ name key, lookup "LLM_API_KEY_ENV" = some name ∧ lookup name = some key

/-- The mode is absent or one that exists. -/
def NamesMode (lookup : Lookup) : Prop :=
  lookup.Holds "LLM_OPENAI_MODE" True fun raw => ∃ m : OpenAiMode, IsNameOf m.name raw

/-- Provider, key and mode are in order. -/
structure Resolvable (lookup : Lookup) : Prop where
  provider : lookup.NamesProvider
  key : lookup.LeadsToKey
  mode : lookup.NamesMode

/-- The error that the first fault calls for. -/
inductive FirstFault (lookup : Lookup) : ModelError → Prop
  | provider {raw : String} (hraw : lookup "LLM_PROVIDER" = some raw)
      (hunknown : ∀ p : Provider, ¬ IsNameOf p.name raw) :
      FirstFault lookup (.configuration ("unknown LLM_PROVIDER: " ++ raw))
  | pointer (hprovider : lookup.NamesProvider) (habsent : lookup "LLM_API_KEY_ENV" = none) :
      FirstFault lookup (.missingKey "LLM_API_KEY_ENV")
  | key {name : String} (hprovider : lookup.NamesProvider)
      (hname : lookup "LLM_API_KEY_ENV" = some name) (habsent : lookup name = none) :
      FirstFault lookup (.missingKey name)
  | mode {raw : String} (hprovider : lookup.NamesProvider) (hkey : lookup.LeadsToKey)
      (hraw : lookup "LLM_OPENAI_MODE" = some raw)
      (hunknown : ∀ m : OpenAiMode, ¬ IsNameOf m.name raw) :
      FirstFault lookup (.configuration
        ("unsupported openai_api mode '" ++ raw ++ "', use responses or chat_completions"))

/-- The names of the variables that are read whatever they hold. -/
def fixedNames : List String :=
  ["LLM_PROVIDER", "LLM_API_KEY_ENV", "LLM_OPENAI_MODE", "LLM_OPENAI_BASE_URL", "LLM_MODEL",
    "LLM_REQUEST_TIMEOUT_SECS", "LLM_CONNECT_TIMEOUT_SECS"]

/-- The lookups agree on the variables that are read and on the one that is said to hold the
key. -/
structure AgreesWith (lookup other : Lookup) : Prop where
  fixed : ∀ name ∈ fixedNames, other name = lookup name
  key : ∀ name, lookup "LLM_API_KEY_ENV" = some name → other name = lookup name

end Lookup

/-! ## Names -/

theorem pads_iff {t : Text} (ht : Trimmed t) {raw : String} : Pads t raw ↔ trim raw.toList = t := by
  constructor
  · rintro ⟨w, v, hw, hv, hraw⟩
    rw [hraw, trim_append hw hv ht]
  · rintro rfl
    obtain ⟨w, v, hw, hv, hraw, -⟩ := exists_trim raw.toList
    exact ⟨w, v, hw, hv, hraw⟩

theorem pads_trim (raw : String) : Pads (trim raw.toList) raw :=
  (pads_iff (trimmed_trim raw.toList)).2 rfl

theorem toLower_of_isBlank {c : Char} (h : isBlank c = true) : c.toLower = c := by
  refine dif_neg ?_
  rintro ⟨hlo, hhi⟩
  have hrange : 65 ≤ c.toNat ∧ c.toNat ≤ 90 :=
    ⟨UInt32.le_iff_toNat_le.1 hlo, UInt32.le_iff_toNat_le.1 hhi⟩
  simp [isBlank] at h
  omega

/-- A name that holds no blanks is found by trimming. -/
theorem isNameOf_iff_of_ink {name : String} (hname : name.toList.any isBlank = false)
    {raw : String} : IsNameOf name raw ↔ lowercase (trim raw.toList) = name.toList := by
  constructor
  · rintro ⟨t, hpads, ht⟩
    have hink : ∀ c ∈ t, isBlank c = false := by
      intro c hc
      have hlower : c.toLower ∈ name.toList := ht ▸ List.mem_map_of_mem hc
      cases hblank : isBlank c with
      | false => rfl
      | true =>
        rw [toLower_of_isBlank hblank] at hlower
        exact absurd hblank (List.any_eq_false.1 hname c hlower)
    rw [(pads_iff (trimmed_of_ink hink)).1 hpads, ht]
  · intro h
    exact ⟨_, pads_trim raw, h⟩

/-- A reader that finds a choice by its name, and otherwise reports the value as a fault. -/
structure ReadsNames {α : Type} (read : String → Except ModelError α) (name : α → String)
    (fault : String → ModelError) : Prop where
  own : ∀ a, IsNameOf (name a) (name a)
  known : ∀ {a raw}, IsNameOf (name a) raw → read raw = .ok a
  unknown : ∀ {raw}, (∀ a, ¬ IsNameOf (name a) raw) → read raw = .error (fault raw)

namespace ReadsNames

variable {α : Type} {read : String → Except ModelError α} {name : α → String}
  {fault : String → ModelError} {lookup : Lookup} {key : String} {standard a : α} {e : ModelError}

theorem eq_ok_iff (h : ReadsNames read name fault) {raw : String} :
    read raw = .ok a ↔ IsNameOf (name a) raw := by
  constructor
  · intro hread
    by_cases hknown : ∃ a, IsNameOf (name a) raw
    · obtain ⟨a', ha'⟩ := hknown
      obtain rfl := Except.ok.inj ((h.known ha').symm.trans hread)
      exact ha'
    · rw [h.unknown fun a ha => hknown ⟨a, ha⟩] at hread
      cases hread
  · exact h.known

theorem eq_error_iff (h : ReadsNames read name fault) {raw : String} :
    read raw = .error e ↔ (∀ a, ¬ IsNameOf (name a) raw) ∧ fault raw = e := by
  constructor
  · intro hread
    have hunknown : ∀ a, ¬ IsNameOf (name a) raw := by
      intro a ha
      rw [h.known ha] at hread
      cases hread
    exact ⟨hunknown, Except.error.inj ((h.unknown hunknown).symm.trans hread)⟩
  · rintro ⟨hunknown, rfl⟩
    exact h.unknown hunknown

/-- What is chosen by a variable, with a choice for the case that it is absent. -/
theorem getD_eq_ok_iff (h : ReadsNames read name fault) :
    read ((lookup key).getD (name standard)) = .ok a ↔
      lookup.Holds key (a = standard) (IsNameOf (name a)) := by
  rw [Lookup.Holds]
  cases lookup key with
  | none =>
    rw [Option.getD_none, h.known (h.own standard)]
    exact ⟨fun ha => (Except.ok.inj ha).symm, fun ha => by rw [ha]⟩
  | some raw => exact h.eq_ok_iff

theorem exists_getD_eq_ok_iff (h : ReadsNames read name fault) :
    (∃ a, read ((lookup key).getD (name standard)) = .ok a) ↔
      lookup.Holds key True fun raw => ∃ a, IsNameOf (name a) raw := by
  simp only [h.getD_eq_ok_iff, Lookup.Holds]
  cases lookup key with
  | none => simp
  | some raw => rfl

theorem getD_eq_error_iff (h : ReadsNames read name fault) :
    read ((lookup key).getD (name standard)) = .error e ↔
      ∃ raw, lookup key = some raw ∧ (∀ a, ¬ IsNameOf (name a) raw) ∧ fault raw = e := by
  cases lookup key with
  | none =>
    rw [Option.getD_none, h.known (h.own standard)]
    simp
  | some raw => simp [h.eq_error_iff]

end ReadsNames

theorem Provider.isNameOf_iff {p : Provider} {raw : String} :
    IsNameOf p.name raw ↔ lowercase (trim raw.toList) = p.name.toList :=
  isNameOf_iff_of_ink (by cases p <;> rfl)

theorem Provider.readsNames_read :
    ReadsNames Provider.read Provider.name
      fun raw => .configuration ("unknown LLM_PROVIDER: " ++ raw) where
  own p := isNameOf_iff.2 (by cases p <;> rfl)
  known {p raw} h := by
    rw [isNameOf_iff] at h
    rw [Provider.read, h]
    cases p with
    | anthropic => exact if_pos rfl
    | openAi => exact (if_neg (by decide)).trans (if_pos rfl)
  unknown {raw} h := by
    exact (if_neg fun h' => h anthropic (isNameOf_iff.2 h')).trans
      (if_neg fun h' => h openAi (isNameOf_iff.2 h'))

theorem OpenAiMode.isNameOf_iff {m : OpenAiMode} {raw : String} :
    IsNameOf m.name raw ↔ lowercase (trim raw.toList) = m.name.toList :=
  isNameOf_iff_of_ink (by cases m <;> rfl)

theorem OpenAiMode.readsNames_read :
    ReadsNames OpenAiMode.read OpenAiMode.name fun raw => .configuration
      ("unsupported openai_api mode '" ++ raw ++ "', use responses or chat_completions") where
  own m := isNameOf_iff.2 (by cases m <;> rfl)
  known {m raw} h := by
    rw [isNameOf_iff] at h
    rw [OpenAiMode.read, h]
    cases m with
    | responses => exact if_pos rfl
    | chatCompletions => exact (if_neg (by decide)).trans (if_pos rfl)
  unknown {raw} h := by
    exact (if_neg fun h' => h responses (isNameOf_iff.2 h')).trans
      (if_neg fun h' => h chatCompletions (isNameOf_iff.2 h'))

/-! ## Keys -/

namespace Settings

variable {lookup : Lookup}

theorem resolveKey_eq_ok_iff {key : String} : resolveKey lookup = .ok key ↔
    ∃ name, lookup "LLM_API_KEY_ENV" = some name ∧ lookup name = some key := by
  rw [resolveKey]
  cases lookup "LLM_API_KEY_ENV" with
  | none => simp
  | some name => cases h : lookup name <;> simp [h]

theorem exists_resolveKey_eq_ok_iff : (∃ key, resolveKey lookup = .ok key) ↔ lookup.LeadsToKey := by
  simp only [resolveKey_eq_ok_iff]
  exact exists_comm

theorem resolveKey_eq_error_iff {e : ModelError} : resolveKey lookup = .error e ↔
    lookup "LLM_API_KEY_ENV" = none ∧ .missingKey "LLM_API_KEY_ENV" = e ∨
      ∃ name, lookup "LLM_API_KEY_ENV" = some name ∧ lookup name = none ∧ .missingKey name = e := by
  rw [resolveKey]
  cases lookup "LLM_API_KEY_ENV" with
  | none => simp
  | some name => cases h : lookup name <;> simp [h]

/-! ## Addresses and timeouts -/

theorem withoutTrailingSlashes_eq_iff {address base : String} :
    withoutTrailingSlashes address = base ↔ IsWithoutSlashes base address := by
  rw [withoutTrailingSlashes]
  constructor
  · rintro rfl
    obtain ⟨slashes, hslashes, haddress⟩ := exists_dropTrailing (· == '/') address.toList
    refine ⟨⟨slashes, fun c hc => beq_iff_eq.1 (hslashes c hc), ?_⟩, fun hlast => ?_⟩
    · rwa [String.toList_ofList]
    · rw [String.toList_ofList] at hlast
      exact absurd (getLast?_dropTrailing hlast) (by decide)
  · rintro ⟨⟨slashes, hslashes, haddress⟩, hlast⟩
    rw [haddress, dropTrailing_append_of_forall fun c hc => beq_iff_eq.2 (hslashes c hc),
      dropTrailing_of_last, String.ofList_toList]
    intro c hc
    rw [beq_eq_false_iff_ne]
    rintro rfl
    exact hlast hc

theorem isNumberOf_iff {n : Nat} {raw : String} :
    IsNumberOf n raw ↔ Denotes (trim raw.toList) n := by
  constructor
  · rintro ⟨t, ht, hn⟩
    rwa [(pads_iff (trimmed_of_ink fun _ hc => hn.ink hc)).1 ht]
  · intro hn
    exact ⟨_, pads_trim raw, hn⟩

theorem ofNat_getD_numeral?_eq_iff {standard n : UInt64} {raw : String} :
    UInt64.ofNat ((numeral? (Nat.pow 2 64) (trim raw.toList)).getD standard.toNat) = n ↔
      Means standard n raw := by
  simp only [Means, isNumberOf_iff]
  cases hnumeral : numeral? (Nat.pow 2 64) (trim raw.toList) with
  | none =>
    have hnone : ∀ m : UInt64, ¬ Denotes (trim raw.toList) m.toNat :=
      fun m hm => Nat.not_le_of_lt m.toNat_lt (numeral?_eq_none_iff.1 hnumeral _ hm)
    rw [Option.getD_none, UInt64.ofNat_toNat]
    simp [hnone, eq_comm]
  | some m =>
    obtain ⟨-, hlt⟩ := numeral?_eq_some_iff.1 hnumeral
    have hread : ∀ n : UInt64, Denotes (trim raw.toList) n.toNat ↔ UInt64.ofNat m = n := by
      intro n
      rw [← UInt64.toNat_inj, UInt64.toNat_ofNat_of_lt' hlt, ← Option.some_inj, ← hnumeral,
        numeral?_eq_some_iff]
      exact ⟨fun hn => ⟨hn, n.toNat_lt⟩, And.left⟩
    rw [Option.getD_some]
    simp only [hread]
    exact ⟨.inl, fun h => h.resolve_right fun hother => hother.2 _ rfl⟩

theorem ofNat_numberOr_eq_iff {key : String} {standard n : UInt64} :
    UInt64.ofNat (lookup.numberOr key (Nat.pow 2 64) standard.toNat) = n ↔
      lookup.Holds key (n = standard) (Means standard n) := by
  rw [Lookup.numberOr, Lookup.Holds]
  cases lookup key with
  | none =>
    rw [Option.bind_none, Option.getD_none, UInt64.ofNat_toNat]
    exact eq_comm
  | some raw => exact ofNat_getD_numeral?_eq_iff

/-! ## Settings -/

theorem bind_eq_ok_iff {ε α β : Type} {x : Except ε α} {f : α → Except ε β} {b : β} :
    x.bind f = .ok b ↔ ∃ a, x = .ok a ∧ f a = .ok b := by
  cases x <;> simp [Except.bind]

theorem bind_eq_error_iff {ε α β : Type} {x : Except ε α} {f : α → Except ε β} {e : ε} :
    x.bind f = .error e ↔ x = .error e ∨ ∃ a, x = .ok a ∧ f a = .error e := by
  cases x <;> simp [Except.bind]

theorem resolve_eq (lookup : Lookup) : resolve lookup =
    (Provider.read ((lookup "LLM_PROVIDER").getD Provider.anthropic.name)).bind fun provider =>
      (resolveKey lookup).bind fun key =>
        (OpenAiMode.read ((lookup "LLM_OPENAI_MODE").getD OpenAiMode.responses.name)).bind
          fun mode => .ok ⟨provider, key, (lookup "LLM_MODEL").getD provider.defaultModel, mode,
            withoutTrailingSlashes ((lookup "LLM_OPENAI_BASE_URL").getD defaultBaseUrl),
            resolveTimeouts lookup⟩ :=
  rfl

theorem getD_eq_iff {key absent value : String} :
    (lookup key).getD absent = value ↔ lookup.Holds key (value = absent) (value = ·) := by
  rw [Lookup.Holds]
  cases lookup key <;> exact eq_comm

theorem withoutTrailingSlashes_getD_eq_iff {key absent base : String} :
    withoutTrailingSlashes ((lookup key).getD absent) = base ↔
      lookup.Holds key (IsWithoutSlashes base absent) (IsWithoutSlashes base) := by
  rw [withoutTrailingSlashes_eq_iff, Lookup.Holds]
  cases lookup key <;> rfl

/-- The settings that are resolved are those that the variables describe. -/
theorem resolve_eq_ok_iff {s : Settings} : resolve lookup = .ok s ↔ lookup.Describes s := by
  rw [resolve_eq]
  simp only [bind_eq_ok_iff]
  constructor
  · rintro ⟨p, hp, key, hkey, m, hm, hs⟩
    obtain rfl := Except.ok.inj hs
    exact {
      provider := Provider.readsNames_read.getD_eq_ok_iff.1 hp
      key := resolveKey_eq_ok_iff.1 hkey
      mode := OpenAiMode.readsNames_read.getD_eq_ok_iff.1 hm
      model := getD_eq_iff.1 rfl
      baseUrl := withoutTrailingSlashes_getD_eq_iff.1 rfl
      request := ofNat_numberOr_eq_iff.1 rfl
      connect := ofNat_numberOr_eq_iff.1 rfl }
  · intro h
    have htimeouts : resolveTimeouts lookup = s.timeouts := by
      rw [resolveTimeouts, Timeouts.mk.injEq]
      exact ⟨ofNat_numberOr_eq_iff.2 h.request, ofNat_numberOr_eq_iff.2 h.connect⟩
    refine ⟨s.provider, Provider.readsNames_read.getD_eq_ok_iff.2 h.provider, s.apiKey,
      resolveKey_eq_ok_iff.2 h.key, s.mode, OpenAiMode.readsNames_read.getD_eq_ok_iff.2 h.mode, ?_⟩
    rw [getD_eq_iff.2 h.model, defaultBaseUrl, withoutTrailingSlashes_getD_eq_iff.2 h.baseUrl,
      htimeouts]

theorem exists_resolve_eq_ok_iff : (∃ s, resolve lookup = .ok s) ↔ lookup.Resolvable := by
  rw [resolve_eq]
  simp only [bind_eq_ok_iff]
  constructor
  · rintro ⟨_, p, hp, key, hkey, m, hm, -⟩
    exact ⟨Provider.readsNames_read.exists_getD_eq_ok_iff.1 ⟨p, hp⟩,
      exists_resolveKey_eq_ok_iff.1 ⟨key, hkey⟩,
      OpenAiMode.readsNames_read.exists_getD_eq_ok_iff.1 ⟨m, hm⟩⟩
  · intro h
    obtain ⟨p, hp⟩ := Provider.readsNames_read.exists_getD_eq_ok_iff.2 h.provider
    obtain ⟨key, hkey⟩ := exists_resolveKey_eq_ok_iff.2 h.key
    obtain ⟨m, hm⟩ := OpenAiMode.readsNames_read.exists_getD_eq_ok_iff.2 h.mode
    exact ⟨_, p, hp, key, hkey, m, hm, rfl⟩

theorem resolve_eq_error_iff {e : ModelError} :
    resolve lookup = .error e ↔ lookup.FirstFault e := by
  rw [resolve_eq]
  simp only [bind_eq_error_iff, Provider.readsNames_read.getD_eq_error_iff,
    OpenAiMode.readsNames_read.getD_eq_error_iff, resolveKey_eq_error_iff]
  constructor
  · rintro (⟨raw, hraw, hunknown, rfl⟩ | ⟨p, hp, hrest⟩)
    · exact .provider hraw hunknown
    · have hprovider := Provider.readsNames_read.exists_getD_eq_ok_iff.1 ⟨p, hp⟩
      rcases hrest with (⟨habsent, rfl⟩ | ⟨name, hname, habsent, rfl⟩) | ⟨key, hkey, hrest⟩
      · exact .pointer hprovider habsent
      · exact .key hprovider hname habsent
      · rcases hrest with ⟨raw, hraw, hunknown, rfl⟩ | ⟨m, -, hs⟩
        · exact .mode hprovider (exists_resolveKey_eq_ok_iff.1 ⟨key, hkey⟩) hraw hunknown
        · cases hs
  · rintro (⟨hraw, hunknown⟩ | ⟨hprovider, habsent⟩ | ⟨hprovider, hname, habsent⟩ |
      ⟨hprovider, hkey, hraw, hunknown⟩)
    · exact .inl ⟨_, hraw, hunknown, rfl⟩
    · obtain ⟨p, hp⟩ := Provider.readsNames_read.exists_getD_eq_ok_iff.2 hprovider
      exact .inr ⟨p, hp, .inl (.inl ⟨habsent, rfl⟩)⟩
    · obtain ⟨p, hp⟩ := Provider.readsNames_read.exists_getD_eq_ok_iff.2 hprovider
      exact .inr ⟨p, hp, .inl (.inr ⟨_, hname, habsent, rfl⟩)⟩
    · obtain ⟨p, hp⟩ := Provider.readsNames_read.exists_getD_eq_ok_iff.2 hprovider
      obtain ⟨key, hkey⟩ := exists_resolveKey_eq_ok_iff.2 hkey
      exact .inr ⟨p, hp, .inr ⟨key, hkey, .inl ⟨_, hraw, hunknown, rfl⟩⟩⟩

theorem resolve_congr {other : Lookup} (h : lookup.AgreesWith other) :
    resolve other = resolve lookup := by
  have hfixed := h.fixed
  simp only [Lookup.fixedNames, List.forall_mem_cons] at hfixed
  obtain ⟨hprovider, hpointer, hmode, hbaseUrl, hmodel, hrequest, hconnect, -⟩ := hfixed
  have hkey : resolveKey other = resolveKey lookup := by
    rw [resolveKey, resolveKey, hpointer]
    cases hname : lookup "LLM_API_KEY_ENV" with
    | none => rfl
    | some name =>
      dsimp only
      rw [h.key name hname]
  have htimeouts : resolveTimeouts other = resolveTimeouts lookup := by
    rw [resolveTimeouts, resolveTimeouts, Lookup.numberOr, Lookup.numberOr, Lookup.numberOr,
      Lookup.numberOr, hrequest, hconnect]
  rw [resolve_eq, resolve_eq, hprovider, hkey, hmode, hmodel, hbaseUrl, htimeouts]

/-- Settings are resolved from a provider, a key and a mode that are in order; otherwise the first
fault among them is reported. The variables describe the settings, and no other variables count. -/
theorem resolve_spec (lookup : Lookup) :
    ((∃ s, resolve lookup = .ok s) ↔ lookup.Resolvable) ∧
      (∀ e, resolve lookup = .error e ↔ lookup.FirstFault e) ∧
      (∀ s, resolve lookup = .ok s ↔ lookup.Describes s) ∧
      ∀ other, lookup.AgreesWith other → resolve other = resolve lookup :=
  ⟨exists_resolve_eq_ok_iff, fun _ => resolve_eq_error_iff, fun _ => resolve_eq_ok_iff,
    fun _ => resolve_congr⟩

/-- The key is where the model is named, and a variable that nothing points to does not count. -/
theorem resolve_spec_key_in_model : ∃ lookup other : Lookup,
    lookup "HOME" ≠ other "HOME" ∧ lookup.AgreesWith other ∧ resolve other = resolve lookup ∧
      (resolve other).toOption = some
        ⟨.openAi, "m", "m", .responses, "https://api.openai.com/v1", ⟨120, 7⟩⟩ := by
  let lookup : Lookup := fun name => [("LLM_PROVIDER", " OpenAI "),
    ("LLM_API_KEY_ENV", "LLM_MODEL"), ("LLM_MODEL", "m"), ("LLM_REQUEST_TIMEOUT_SECS", "soon"),
    ("LLM_CONNECT_TIMEOUT_SECS", " +7 ")].lookup name
  let other : Lookup := fun name => if name = "HOME" then some "/" else lookup name
  have hagrees : lookup.AgreesWith other := by
    refine ⟨by decide, fun name hname => ?_⟩
    obtain rfl : "LLM_MODEL" = name := Option.some.inj hname
    rfl
  have hcongr : resolve other = resolve lookup := (resolve_spec lookup).2.2.2 other hagrees
  exact ⟨lookup, other, by decide, hagrees, hcongr, by decide +kernel⟩

end Settings

end DiagramStudio
