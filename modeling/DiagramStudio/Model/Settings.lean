import DiagramStudio.Model.Error
import DiagramStudio.Text.Blank

/-!
# Settings of the model

All settings come from named variables. Only the API key is mandatory, and it is named indirectly:
`LLM_API_KEY_ENV` holds the name of the variable that holds the key.
-/

namespace DiagramStudio

open Text

/-- The value of a named variable, if it is present. -/
abbrev Lookup := String → Option String

namespace Lookup

/-- A number below `bound` with blanks around it, or `standard` if the variable is absent or holds
anything else. -/
def numberOr (lookup : Lookup) (name : String) (bound standard : Nat) : Nat :=
  ((lookup name).bind fun raw => numeral? bound (trim raw.toList)).getD standard

end Lookup

/-- The companies whose models can be asked. -/
inductive Provider
  | anthropic
  | openAi
  deriving Repr, DecidableEq

namespace Provider

/-- The model that is asked unless another one is named. -/
def defaultModel : Provider → String
  | anthropic => "claude-sonnet-4-5-20250929"
  | openAi => "gpt-4o"

/-- Reads the name of a provider. Case and blanks around it do not matter. -/
def read (raw : String) : Except ModelError Provider :=
  let name := lowercase (trim raw.toList)
  if name = "anthropic".toList then .ok anthropic
  else if name = "openai".toList then .ok openAi
  else .error (.configuration ("unknown LLM_PROVIDER: " ++ raw))

end Provider

/-- The two interfaces that OpenAI and compatible providers offer. -/
inductive OpenAiMode
  | chatCompletions
  | responses
  deriving Repr, DecidableEq

namespace OpenAiMode

/-- Reads the name of a mode. Case and blanks around it do not matter. -/
def read (raw : String) : Except ModelError OpenAiMode :=
  let name := lowercase (trim raw.toList)
  if name = "responses".toList then .ok responses
  else if name = "chat_completions".toList then .ok chatCompletions
  else
    .error (.configuration
      ("unsupported openai_api mode '" ++ raw ++ "', use responses or chat_completions"))

end OpenAiMode

/-- How long a request may take, in seconds. -/
structure Timeouts where
  request : UInt64
  connect : UInt64
  deriving Repr, DecidableEq

/-- Everything that is needed to ask a model. -/
structure Settings where
  provider : Provider
  apiKey : String
  model : String
  mode : OpenAiMode
  baseUrl : String
  timeouts : Timeouts
  deriving Repr, DecidableEq

namespace Settings

/-- The address of OpenAI's own service. -/
def defaultBaseUrl : String := "https://api.openai.com/v1"

/-- The address without the slashes at its end. -/
def withoutTrailingSlashes (address : String) : String :=
  String.ofList (dropTrailing (· == '/') address.toList)

/-- The API key, found through the variable that names its variable. -/
def resolveKey (lookup : Lookup) : Except ModelError String :=
  match lookup "LLM_API_KEY_ENV" with
  | none => .error (.missingKey "LLM_API_KEY_ENV")
  | some name =>
    match lookup name with
    | none => .error (.missingKey name)
    | some key => .ok key

/-- The timeouts: two minutes for a request and ten seconds to connect, unless set. -/
def resolveTimeouts (lookup : Lookup) : Timeouts where
  request := UInt64.ofNat (lookup.numberOr "LLM_REQUEST_TIMEOUT_SECS" (Nat.pow 2 64) 120)
  connect := UInt64.ofNat (lookup.numberOr "LLM_CONNECT_TIMEOUT_SECS" (Nat.pow 2 64) 10)

/-- The settings that the variables describe. The first fault in the order provider, key, mode is
the one reported. -/
def resolve (lookup : Lookup) : Except ModelError Settings := do
  let provider ← Provider.read ((lookup "LLM_PROVIDER").getD "anthropic")
  let apiKey ← resolveKey lookup
  let mode ← OpenAiMode.read ((lookup "LLM_OPENAI_MODE").getD "responses")
  return {
    provider, apiKey, mode
    model := (lookup "LLM_MODEL").getD provider.defaultModel
    baseUrl := withoutTrailingSlashes ((lookup "LLM_OPENAI_BASE_URL").getD defaultBaseUrl)
    timeouts := resolveTimeouts lookup }

end Settings

end DiagramStudio
