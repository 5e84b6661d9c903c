import DiagramStudio.Text.Numeral

/-!
# Model errors

What can go wrong between reading the settings of a model and reading its reply. Each error has a
message, a stable code, and says whether the same request may succeed later.
-/

namespace DiagramStudio

/-- A failure to get a reply from a model. -/
inductive ModelError
  /-- A setting names something unknown. -/
  | configuration (detail : String)
  /-- A variable that the API key depends on is absent. -/
  | missingKey (name : String)
  /-- The request could not be sent or its reply was cut short. -/
  | transport (detail : String)
  /-- The reply has a status other than 200. -/
  | status (code : UInt16) (body : String)
  /-- The reply does not have the expected form. -/
  | unreadable (detail : String)
  /-- The means to send requests could not be set up. -/
  | clientSetup (detail : String)
  deriving Repr, DecidableEq

namespace ModelError

def message : ModelError → String
  | configuration detail => "invalid LLM config: " ++ detail
  | missingKey name => "no API key: " ++ name ++ " is unset"
  | transport detail => "LLM request failed: " ++ detail
  | status code _ =>
    "LLM provider returned status " ++ String.ofList (Text.decimal code.toNat)
  | unreadable detail => "unreadable LLM reply: " ++ detail
  | clientSetup detail => "could not build HTTP client: " ++ detail

/-- The stable code. -/
def code : ModelError → String
  | configuration _ => "E_CONFIG_PARSE"
  | missingKey _ => "E_MISSING_API_KEY"
  | transport _ => "E_API_REQUEST"
  | status .. => "E_API_RESPONSE"
  | unreadable _ => "E_API_PARSE"
  | clientSetup _ => "E_HTTP_CLIENT_BUILD"

/-- True if the same request may succeed later: after a transport failure, when the provider asks
to slow down, or when the provider itself failed. -/
def retryable : ModelError → Bool
  | transport _ => true
  | status code _ => code == 429 || (500 ≤ code && code ≤ 599)
  | _ => false

end ModelError

end DiagramStudio
