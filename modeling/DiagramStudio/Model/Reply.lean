import DiagramStudio.Json.Reader
import DiagramStudio.Model.Wire

/-!
# Reading replies

The body of a successful reply as a completion. The messages interface has a fixed record; the two
OpenAI interfaces are read tolerantly, because compatible providers leave fields out or give them
other types: only text that has the expected place counts, and everything else has a default.
-/

namespace DiagramStudio

open Json

namespace Reply

/-- A body that is not the expected JSON. -/
def undecodable : ModelError := .unreadable "undecodable JSON"

/-! ## Messages -/

/-- The token counts of a reply. -/
structure Usage where
  input : UInt64
  output : UInt64
  deriving Repr, DecidableEq

def decodeUsage? (source : Source) : Option Usage := do
  let fields ← source.fields? ["input_tokens", "output_tokens"]
  return {
    input := ← fields.required? "input_tokens" Source.count?
    output := ← fields.required? "output_tokens" Source.count? }

/-- Reads a reply of the messages interface and keeps its text blocks. -/
def decodeMessages? (source : Source) : Option Completion := do
  let fields ← source.fields? ["content", "model", "stop_reason", "usage"]
  let content ← fields.required? "content" Completion.decodeContent?
  let model ← fields.required? "model" Source.text?
  let stopReason ← fields.optional? "stop_reason" Source.text?
  let usage ← fields.required? "usage" decodeUsage?
  return {
    content := content.filter ContentBlock.isText
    model
    stopReason := stopReason.getD ""
    inputTokens := usage.input
    outputTokens := usage.output }

def readMessages (body : Text) : Except ModelError Completion :=
  match (read? body).bind decodeMessages? with
  | some completion => .ok completion
  | none => .error undecodable

/-! ## OpenAI -/

/-- A token count of a reply, zero unless it is given as a count. -/
def usage (root : Value) (key : String) : UInt64 :=
  (((root.get? "usage").bind (Value.get? key)).bind Value.count?).getD 0

/-- The model that a reply names, if any. -/
def modelName (root : Value) : String := ((root.get? "model").bind Value.string?).getD ""

/-- The reason to stop, which is either the limit on the reply or the end of the turn. -/
def stopReason (atLimit : Bool) : String := if atLimit then "max_tokens" else "end_turn"

/-- A text block, unless the text is missing or empty. -/
def textBlock? (s : Option String) : Option ContentBlock :=
  match s with
  | some s => if s = "" then none else some (.text s)
  | none => none

/-- The first choice of a chat completion. -/
def firstChoice? (root : Value) : Option Value :=
  match (root.get? "choices").bind Value.items? with
  | some (choice :: _) => some choice
  | _ => none

def ofChoice (root choice : Value) : Completion where
  content :=
    (textBlock? (((choice.get? "message").bind (Value.get? "content")).bind Value.string?)).toList
  model := modelName root
  stopReason := stopReason ((choice.get? "finish_reason").bind Value.string? == some "length")
  inputTokens := usage root "prompt_tokens"
  outputTokens := usage root "completion_tokens"

def readChatCompletions (body : Text) : Except ModelError Completion :=
  match readText? body with
  | none => .error undecodable
  | some root =>
    match firstChoice? root with
    | none => .error (.unreadable "chat_completions: missing choices[0]")
    | some choice => .ok (ofChoice root choice)

/-- True of a value that names the given kind. -/
def hasKind (kind : String) (v : Value) : Bool :=
  (v.get? "type").bind Value.string? == some kind

/-- The text block of a part of a message. The text stands under `text` or, if that key is absent,
under `output_text`. -/
def partBlock? (part : Value) : Option ContentBlock :=
  if hasKind "output_text" part || hasKind "text" part then
    textBlock? (((part.get? "text").or (part.get? "output_text")).bind Value.string?)
  else none

/-- The text blocks of an item; only messages have any. -/
def itemBlocks (item : Value) : List ContentBlock :=
  if hasKind "message" item then
    (((item.get? "content").bind Value.items?).getD []).filterMap partBlock?
  else []

/-- The text blocks of a response: those of its items, or the text given for the whole. -/
def responseBlocks (root : Value) : List ContentBlock :=
  match (root.get? "output").bind Value.items? with
  | some items => items.flatMap itemBlocks
  | none => (textBlock? ((root.get? "output_text").bind Value.string?)).toList

/-- True of a response that was cut off at the limit. -/
def isCutOff (root : Value) : Bool :=
  ((root.get? "incomplete_details").bind (Value.get? "reason")).bind Value.string? ==
    some "max_output_tokens"

def ofResponse (root : Value) : Completion where
  content := responseBlocks root
  model := modelName root
  stopReason := stopReason (isCutOff root)
  inputTokens := usage root "input_tokens"
  outputTokens := usage root "output_tokens"

def readResponses (body : Text) : Except ModelError Completion :=
  match readText? body with
  | none => .error undecodable
  | some root => .ok (ofResponse root)

end Reply

namespace Wire

/-- Reads the body of a successful reply. -/
def readReply (body : Text) : Wire → Except ModelError Completion
  | messages => Reply.readMessages body
  | chatCompletions => Reply.readChatCompletions body
  | responses => Reply.readResponses body

end Wire

end DiagramStudio
