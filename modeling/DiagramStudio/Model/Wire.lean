import DiagramStudio.Http.Request
import DiagramStudio.Model.Conversation
import DiagramStudio.Model.Settings

/-!
# Wire formats

The three interfaces through which models are asked: Anthropic's messages, and OpenAI's chat
completions and responses. Each has an address, headers that carry the API key, and a JSON body
that carries the model, the limit on the reply, the instructions and the conversation.
-/

namespace DiagramStudio

open Json

/-- The interfaces of the providers. -/
inductive Wire
  | messages
  | chatCompletions
  | responses
  deriving Repr, DecidableEq

namespace Settings

/-- The interface that the settings select. The mode matters for OpenAI only. -/
def wire (s : Settings) : Wire :=
  match s.provider, s.mode with
  | .anthropic, _ => .messages
  | .openAi, .chatCompletions => .chatCompletions
  | .openAi, .responses => .responses

end Settings

namespace Wire

/-- The address that requests are sent to. Slashes at the end of the base address do not count. -/
def address (baseUrl : String) : Wire → String
  | messages => "https://api.anthropic.com/v1/messages"
  | chatCompletions => Settings.withoutTrailingSlashes baseUrl ++ "/chat/completions"
  | responses => Settings.withoutTrailingSlashes baseUrl ++ "/responses"

/-- The headers with the API key. -/
def headers (apiKey : String) : Wire → List (String × String)
  | messages =>
    [("x-api-key", apiKey), ("anthropic-version", "2023-06-01"),
      ("content-type", "application/json")]
  | chatCompletions | responses =>
    [("authorization", "Bearer " ++ apiKey), ("content-type", "application/json")]

/-- The messages of a chat completion: the instructions come first, as a message of the system,
unless they are blank. -/
def chatMessages (p : Prompt) : List Message :=
  if Text.blank p.system.toList then p.messages else ⟨"system", p.system⟩ :: p.messages

/-- A message in the form of the responses interface. -/
def inputItem (m : Message) : Value :=
  .object [
    ("type", .string "message"),
    ("role", .string m.role),
    ("content",
      .array [.object [("type", .string "input_text"), ("text", .string m.content)]])]

/-- The limit on the reply as a number. -/
def limit (p : Prompt) : Value := .count p.maxTokens.toUInt64

/-- The body of a request. -/
def body (model : String) (p : Prompt) : Wire → Value
  | messages =>
    .object [
      ("model", .string model),
      ("max_tokens", limit p),
      ("system", .string p.system),
      ("messages", .array (p.messages.map Message.json))]
  | chatCompletions =>
    .object [
      ("model", .string model),
      ("max_tokens", limit p),
      ("messages", .array ((chatMessages p).map Message.json))]
  | responses =>
    .object [
      ("model", .string model),
      ("max_output_tokens", limit p),
      ("instructions", .string p.system),
      ("input", .array (p.messages.map inputItem))]

end Wire

namespace Settings

/-- The request that asks the configured model. -/
def request (s : Settings) (p : Prompt) : Http.Request where
  address := s.wire.address s.baseUrl
  headers := s.wire.headers s.apiKey
  body := s.wire.body s.model p

end Settings

end DiagramStudio
