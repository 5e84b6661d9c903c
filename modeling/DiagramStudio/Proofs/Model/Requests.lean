import DiagramStudio.Model.Wire
import DiagramStudio.Proofs.Json.RoundTrip
import DiagramStudio.Proofs.Model.Configuration

/-!
# What requests say

The body of a request is read the way a provider does: a model, a limit on the reply, instructions
where the interface has a member for them, and messages. The three interfaces write them under
different keys and in different forms, and each gives back what it was given, whatever characters
the texts hold. Chat completions have no member for instructions; there they are the first message,
unless they are blank.

## Main definitions

- `Wire.Inquiry`: what the body of a request says
- `Wire.readBody?`: how a body is read
- `Wire.Asks`: what the request for a prompt has to say
-/

namespace DiagramStudio

open Json Text

namespace Wire

/-- What the body of a request says. -/
structure Inquiry where
  model : String
  maxTokens : UInt32
  /-- The instructions, if there is a member for them. -/
  system : Option String
  messages : List Message
  deriving Repr, DecidableEq

/-! ## Reading a body -/

/-- The key of the limit on the reply. -/
def limitKey : Wire → String
  | messages | chatCompletions => "max_tokens"
  | responses => "max_output_tokens"

/-- The key of the instructions, if the interface has one. -/
def systemKey? : Wire → Option String
  | messages => some "system"
  | chatCompletions => none
  | responses => some "instructions"

def messagesKey : Wire → String
  | messages | chatCompletions => "messages"
  | responses => "input"

def keys (wire : Wire) : List String :=
  "model" :: wire.limitKey :: wire.messagesKey :: wire.systemKey?.toList

/-- A count of 32 bits. -/
def limit? (source : Source) : Option UInt32 :=
  source.count?.bind fun n => if n.toNat < Nat.pow 2 32 then some n.toUInt32 else none

/-- The text of a part of a message. -/
def decodePart? (source : Source) : Option String := do
  let fields ← source.fields? ["type", "text"]
  let kind ← fields.required? "type" Source.text?
  if kind = "input_text" then fields.required? "text" Source.text? else none

/-- The text of a message with one part. -/
def decodeParts? : Source → Option String
  | .array [part] => decodePart? part
  | _ => none

/-- A message in the form of the responses interface. -/
def decodeItem? (source : Source) : Option Message := do
  let fields ← source.fields? ["type", "role", "content"]
  let kind ← fields.required? "type" Source.text?
  let role ← fields.required? "role" Source.text?
  let content ← fields.required? "content" decodeParts?
  if kind = "message" then some ⟨role, content⟩ else none

def decodeMessage? : Wire → Source → Option Message
  | messages | chatCompletions => Message.decode?
  | responses => decodeItem?

def decodeMessages? (wire : Wire) : Source → Option (List Message)
  | .array items => items.mapM wire.decodeMessage?
  | _ => none

def decode? (wire : Wire) (source : Source) : Option Inquiry := do
  let fields ← source.fields? wire.keys
  return {
    model := ← fields.required? "model" Source.text?
    maxTokens := ← fields.required? wire.limitKey limit?
    system := ← wire.systemKey?.mapM fun key => fields.required? key Source.text?
    messages := ← fields.required? wire.messagesKey wire.decodeMessages? }

/-- What the text of a body says. -/
def readBody? (wire : Wire) (t : Text) : Option Inquiry := (Json.read? t).bind wire.decode?

/-- What the request for a prompt has to say. -/
inductive Asks (model : String) (p : Prompt) : Wire → Inquiry → Prop
  | messages : Asks model p .messages ⟨model, p.maxTokens, some p.system, p.messages⟩
  | instructed (h : ∃ c ∈ p.system.toList, isBlank c = false) :
      Asks model p .chatCompletions ⟨model, p.maxTokens, none, ⟨"system", p.system⟩ :: p.messages⟩
  | uninstructed (h : ∀ c ∈ p.system.toList, isBlank c = true) :
      Asks model p .chatCompletions ⟨model, p.maxTokens, none, p.messages⟩
  | responses : Asks model p .responses ⟨model, p.maxTokens, some p.system, p.messages⟩

/-! ## Parts of a body -/

theorem limit?_source (p : Prompt) : limit? (limit p).source = some p.maxTokens := by
  have hlt : p.maxTokens.toUInt64.toNat < Nat.pow 2 32 := p.maxTokens.toNat_lt
  rw [limit?, limit, count?_source, Option.bind_some, if_pos hlt, UInt32.toUInt32_toUInt64]

theorem decodeItem?_inputItem (m : Message) : decodeItem? (inputItem m).source = some m := by
  have hfields : (inputItem m).source.fields? ["type", "role", "content"] = some (fieldsOf [
      ("type", .string "message"),
      ("role", .string m.role),
      ("content",
        .array [.object [("type", .string "input_text"), ("text", .string m.content)]])]) :=
    fields?_object (by simp) (by simp)
  rw [decodeItem?, hfields]
  rfl

/-! ## A body and its reading -/

def messageJson : Wire → Message → Value
  | messages | chatCompletions => Message.json
  | responses => inputItem

/-- The messages of a request. -/
def conversation (p : Prompt) : Wire → List Message
  | messages | responses => p.messages
  | chatCompletions => chatMessages p

/-- The members of a body. -/
def members (model : String) (p : Prompt) (wire : Wire) : List (String × Value) :=
  ("model", .string model) :: (wire.limitKey, limit p) ::
    (wire.systemKey?.toList.map fun key => (key, .string p.system)) ++
      [(wire.messagesKey, .array ((wire.conversation p).map wire.messageJson))]

theorem body_eq (model : String) (p : Prompt) (wire : Wire) :
    wire.body model p = .object (wire.members model p) := by
  cases wire <;> rfl

theorem decodeMessage?_messageJson (wire : Wire) (m : Message) :
    wire.decodeMessage? (wire.messageJson m).source = some m := by
  cases wire with
  | messages | chatCompletions => exact Message.lawful_codec m
  | responses => exact decodeItem?_inputItem m

theorem decodeMessages?_source (wire : Wire) (messages : List Message) :
    wire.decodeMessages? (Value.array (messages.map wire.messageJson)).source = some messages := by
  rw [Value.source, decodeMessages?]
  exact mapM_itemSources wire.decodeMessage?_messageJson messages

theorem fields?_body (model : String) (p : Prompt) (wire : Wire) :
    (wire.body model p).source.fields? wire.keys = some (fieldsOf (wire.members model p)) := by
  rw [body_eq]
  refine fields?_object ?_ ?_
  · cases wire <;> simp [members, keys, limitKey, systemKey?, messagesKey]
  · cases wire <;> simp [members, limitKey, systemKey?, messagesKey]

/-- What was put into a body is read from it. -/
theorem decode?_body (model : String) (p : Prompt) (wire : Wire) :
    wire.decode? (wire.body model p).source =
      some ⟨model, p.maxTokens, wire.systemKey?.map fun _ => p.system, wire.conversation p⟩ := by
  have hmessages := wire.decodeMessages?_source (wire.conversation p)
  rw [decode?, fields?_body]
  cases wire <;>
    simp [members, fieldsOf, Fields.required?, List.lookup_cons, limitKey, systemKey?, messagesKey,
      text?_source, limit?_source, hmessages]

theorem asks_conversation (model : String) (p : Prompt) (wire : Wire) :
    wire.Asks model p
      ⟨model, p.maxTokens, wire.systemKey?.map fun _ => p.system, wire.conversation p⟩ := by
  cases wire with
  | messages => exact .messages
  | responses => exact .responses
  | chatCompletions =>
    rw [conversation, chatMessages]
    split
    · next hblank => exact .uninstructed (List.all_eq_true.1 hblank)
    · next hink =>
      refine .instructed ?_
      simpa [blank] using hink

theorem exists_readBody? (style : Style) (model : String) (p : Prompt) (wire : Wire) :
    ∃ q, wire.readBody? ((wire.body model p).print style) = some q ∧ wire.Asks model p q := by
  refine ⟨_, ?_, asks_conversation model p wire⟩
  rw [readBody?, read?_print, Option.bind_some, decode?_body]

end Wire

/-! ## Addresses -/

/-- The addresses are the same but for slashes at their ends. -/
def DifferInSlashes (a b : String) : Prop :=
  ∃ stem m n, a.toList = stem ++ List.replicate m '/' ∧ b.toList = stem ++ List.replicate n '/'

/-- What follows the base address. -/
def OpenAiMode.path : OpenAiMode → String
  | chatCompletions => "/chat/completions"
  | responses => "/responses"

namespace Settings

theorem withoutTrailingSlashes_congr {a b : String} (h : DifferInSlashes a b) :
    withoutTrailingSlashes a = withoutTrailingSlashes b := by
  obtain ⟨stem, m, n, ha, hb⟩ := h
  have hslashes : ∀ k, ∀ c ∈ List.replicate k '/', (c == '/') = true :=
    fun k c hc => beq_iff_eq.2 (List.eq_of_mem_replicate hc)
  rw [withoutTrailingSlashes, withoutTrailingSlashes, ha, hb,
    dropTrailing_append_of_forall (hslashes m), dropTrailing_append_of_forall (hslashes n)]

theorem exists_address_eq {s : Settings} (h : s.provider = .openAi) (p : Prompt) :
    ∃ base, IsWithoutSlashes base s.baseUrl ∧ (s.request p).address = base ++ s.mode.path := by
  refine ⟨withoutTrailingSlashes s.baseUrl, withoutTrailingSlashes_eq_iff.1 rfl, ?_⟩
  rw [request, wire, h]
  cases s.mode <;> rfl

/-- Slashes at the end of the base address do not count. -/
theorem request_congr_baseUrl (s : Settings) {other : String}
    (h : DifferInSlashes s.baseUrl other) (p : Prompt) :
    { s with baseUrl := other }.request p = s.request p := by
  have haddress : ∀ wire : Wire, wire.address other = wire.address s.baseUrl := by
    intro wire
    cases wire with
    | messages => rfl
    | chatCompletions | responses =>
      rw [Wire.address, Wire.address, withoutTrailingSlashes_congr h]
  rw [request, request, haddress]
  rfl

/-- The body of a request says what it is asked to say, in either layout. A request to OpenAI goes
to the base address without the slashes at its end, followed by the path of the mode, and other
slashes make no other request. -/
theorem request_spec (s : Settings) (p : Prompt) :
    (∀ style, ∃ q, s.wire.readBody? ((s.request p).body.print style) = some q ∧
        s.wire.Asks s.model p q) ∧
      (s.provider = .openAi → ∃ base, IsWithoutSlashes base s.baseUrl ∧
        (s.request p).address = base ++ s.mode.path) ∧
      ∀ other, DifferInSlashes s.baseUrl other →
        { s with baseUrl := other }.request p = s.request p :=
  ⟨fun style => s.wire.exists_readBody? style s.model p, fun h => exists_address_eq h p,
    fun _ h => request_congr_baseUrl s h p⟩

/-- Instructions that start with a blank, and a message that claims to be of the system. -/
theorem request_spec_system : ∃ (s : Settings) (p : Prompt),
    s.provider = .openAi ∧ s.mode = .chatCompletions ∧ p.system = "\u00a0be \"terse\"\n" ∧
    p.messages = [⟨"system", "\u0000"⟩, ⟨"user", "a\\b"⟩] ∧
    (∃ q, s.wire.readBody? ((s.request p).body.print .compact) = some q ∧
      q.messages = ⟨"system", p.system⟩ :: p.messages) ∧
    (∃ base, IsWithoutSlashes base s.baseUrl ∧
      (s.request p).address = base ++ "/chat/completions") ∧
    DifferInSlashes s.baseUrl "http://h/v1" ∧ s.baseUrl ≠ "http://h/v1" ∧
    { s with baseUrl := "http://h/v1" }.request p = s.request p := by
  let s : Settings := ⟨.openAi, "key", "m", .chatCompletions, "http://h/v1//", ⟨120, 10⟩⟩
  let p : Prompt := ⟨7, "\u00a0be \"terse\"\n", [⟨"system", "\u0000"⟩, ⟨"user", "a\\b"⟩]⟩
  have hdiffer : DifferInSlashes s.baseUrl "http://h/v1" :=
    ⟨"http://h/v1".toList, 2, 0, by decide, by decide⟩
  obtain ⟨hbody, haddress, hslashes⟩ := request_spec s p
  obtain ⟨q, hq, hasks⟩ := hbody .compact
  have hmessages : q.messages = ⟨"system", p.system⟩ :: p.messages := by
    cases hasks with
    | instructed => rfl
    | uninstructed h => exact absurd (h 'b' (by decide)) (by decide)
  exact ⟨s, p, rfl, rfl, rfl, rfl, ⟨q, hq, hmessages⟩, haddress rfl, hdiffer, by decide,
    hslashes _ hdiffer⟩

end Settings

end DiagramStudio
