import DiagramStudio.Json.Record

/-!
# Conversations

What is said to a model and what it answers, independent of any provider, with their JSON forms.
-/

namespace DiagramStudio

open Json

/-- One turn of a conversation. -/
structure Message where
  role : String
  content : String
  deriving Repr, DecidableEq

namespace Message

def user (content : String) : Message := ⟨"user", content⟩

def json (m : Message) : Value :=
  .object [("role", .string m.role), ("content", .string m.content)]

def decode? (source : Source) : Option Message := do
  let fields ← source.fields? ["role", "content"]
  return {
    role := ← fields.required? "role" Source.text?
    content := ← fields.required? "content" Source.text? }

end Message

/-- Everything a model is asked with: a limit on the reply, instructions and the conversation. -/
structure Prompt where
  maxTokens : UInt32
  system : String
  messages : List Message
  deriving Repr, DecidableEq

/-- A part of a reply. Only text reaches a diagram; parts of other kinds are kept as `unknown`. -/
inductive ContentBlock
  | text (s : String)
  | unknown
  deriving Repr, DecidableEq

namespace ContentBlock

def json : ContentBlock → Value
  | text s => .object [("type", .string "text"), ("text", .string s)]
  | unknown => .object [("type", .string "Unknown")]

def text? : ContentBlock → Option String
  | text s => some s
  | unknown => none

def isText : ContentBlock → Bool
  | text _ => true
  | unknown => false

/-- Reads a block from the members of an object. The kind must be given exactly once; a text block
holds exactly one text. -/
def ofMembers? (members : List (String × Value)) : Option ContentBlock :=
  let kinds := members.filter fun member => member.1 == "type"
  let texts := members.filter fun member => member.1 == "text"
  match kinds with
  | [(_, .string kind)] =>
    if kind = "text" then
      match texts with
      | [(_, .string s)] => some (.text s)
      | _ => none
    else some .unknown
  | _ => none

/-- Reads a block from the items of an array: its kind, and for a text block its text. -/
def ofItems? (items : List Value) : Option ContentBlock :=
  match items with
  | [.string kind] => if kind = "text" then none else some .unknown
  | [.string kind, .string s] => if kind = "text" then some (.text s) else none
  | _ => none

/-- Reads a block that stands inside `level` arrays and objects. All its parts are kept, so the
limit on nesting holds for them. -/
def decode? (level : Nat) (source : Source) : Option ContentBlock :=
  match source.value? (depthLimit - level) with
  | some (.object members) => ofMembers? members
  | some (.array items) => ofItems? items
  | _ => none

end ContentBlock

/-- A complete reply of a model, with the tokens it cost. -/
structure Completion where
  content : List ContentBlock
  model : String
  stopReason : String
  inputTokens : UInt64
  outputTokens : UInt64
  deriving Repr, DecidableEq

namespace Completion

/-- The text blocks in order, joined. -/
def text (c : Completion) : String := String.join (c.content.filterMap ContentBlock.text?)

def json (c : Completion) : Value :=
  .object [
    ("content", .array (c.content.map ContentBlock.json)),
    ("model", .string c.model),
    ("stop_reason", .string c.stopReason),
    ("input_tokens", .count c.inputTokens),
    ("output_tokens", .count c.outputTokens)]

/-- Reads the blocks of a completion, which stand two levels deep. -/
def decodeContent? : Source → Option (List ContentBlock)
  | .array items => items.mapM (ContentBlock.decode? 2)
  | _ => none

def decode? (source : Source) : Option Completion := do
  let fields ← source.fields? ["content", "model", "stop_reason", "input_tokens", "output_tokens"]
  return {
    content := ← fields.required? "content" decodeContent?
    model := ← fields.required? "model" Source.text?
    stopReason := ← fields.required? "stop_reason" Source.text?
    inputTokens := ← fields.required? "input_tokens" Source.count?
    outputTokens := ← fields.required? "output_tokens" Source.count? }

end Completion

end DiagramStudio
