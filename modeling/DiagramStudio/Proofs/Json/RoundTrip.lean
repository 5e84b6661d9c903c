import DiagramStudio.Proofs.Json.Print
import DiagramStudio.Service.Result
import DiagramStudio.Model.Conversation

/-!
# Records written and read

The result of a request, messages, blocks and completions are written as JSON objects and read back
from JSON texts. Writing leaves absent parts out and reading is more liberal than writing, so that
the two are inverse has to be shown for each of the types.

## Main definitions

- `Json.Codec`: how the values of a type are written and read
- `Json.Codec.Lawful`: what is written is read back
-/

namespace DiagramStudio

namespace Json

/-- The JSON form of a type. -/
structure Codec (α : Type) where
  json : α → Value
  decode? : Source → Option α

namespace Codec

variable {α : Type}

/-- The text of a value. -/
def encode (codec : Codec α) (style : Style) (a : α) : Text := (codec.json a).print style

/-- The value that a text holds. -/
def read? (codec : Codec α) (t : Text) : Option α := (Json.read? t).bind codec.decode?

/-- The text of the value that a text holds. -/
def recode? (codec : Codec α) (style : Style) (t : Text) : Option Text :=
  (codec.read? t).map (codec.encode style)

/-- The form of every value stands for that value. -/
def Lawful (codec : Codec α) : Prop := ∀ a, codec.decode? (codec.json a).source = some a

/-- Every value is read back from its text in either layout, and a text that was written again
after reading it does not change any more. -/
structure RoundTrips (codec : Codec α) : Prop where
  read?_encode : ∀ style a, codec.read? (codec.encode style a) = some a
  recode?_recode? : ∀ style t u, codec.recode? style t = some u → codec.recode? style u = some u

/-- Blanks after the text of a value do not matter. -/
theorem Lawful.read?_encode_append {codec : Codec α} (h : codec.Lawful) (style : Style) (a : α)
    {w : Text} (hw : ∀ c ∈ w, isSpace c = true) :
    codec.read? (codec.encode style a ++ w) = some a := by
  rw [read?, encode, read?_print_append style _ hw, Option.bind_some, h]

theorem Lawful.roundTrips {codec : Codec α} (h : codec.Lawful) : codec.RoundTrips := by
  have hread : ∀ style a, codec.read? (codec.encode style a) = some a := by
    intro style a
    simpa using h.read?_encode_append style a (w := []) (by simp)
  refine ⟨hread, ?_⟩
  intro style t u htu
  obtain ⟨a, -, rfl⟩ := Option.map_eq_some_iff.1 htu
  rw [recode?, hread, Option.map_some]

end Codec

/-! ## Fields -/

theorem itemSources_eq_map (items : List Value) :
    Value.itemSources items = items.map Value.source := by
  induction items with
  | nil => rfl
  | cons item rest ih => rw [Value.itemSources, ih, List.map_cons]

/-- Items are read back in their order. -/
theorem mapM_itemSources {α : Type} {json : α → Value} {decode? : Source → Option α}
    (h : ∀ a, decode? (json a).source = some a) (items : List α) :
    (Value.itemSources (items.map json)).mapM decode? = some items := by
  rw [itemSources_eq_map, List.map_map]
  induction items with
  | nil => rfl
  | cons item rest ih =>
    rw [List.map_cons, List.mapM_cons, ih, Function.comp_apply, h]
    rfl

theorem distinctNames_of_nodup {fields : Fields} (h : (fields.map Prod.fst).Nodup) :
    Source.distinctNames fields = true := by
  induction fields with
  | nil => rfl
  | cons field rest ih =>
    obtain ⟨name, source⟩ := field
    rw [List.map_cons, List.nodup_cons] at h
    have hfresh : (rest.any fun other => other.1 == name) = false := by
      rw [List.any_eq_false]
      intro other hother heq
      have hmem : other.1 ∈ rest.map Prod.fst := List.mem_map_of_mem hother
      rw [eq_of_beq heq] at hmem
      exact h.1 hmem
    rw [Source.distinctNames, hfresh, ih h.2]
    rfl

/-- The fields that members stand for. -/
def fieldsOf (members : List (String × Value)) : Fields :=
  members.map fun member => (member.1, member.2.source)

theorem knownMembers?_memberSources {names : List String} {members : List (String × Value)}
    (h : ∀ member ∈ members, member.1 ∈ names) :
    Source.knownMembers? names (Value.memberSources members) = some (fieldsOf members) := by
  induction members with
  | nil => rfl
  | cons member rest ih =>
    obtain ⟨key, value⟩ := member
    rw [List.forall_mem_cons] at h
    rw [Value.memberSources, Value.memberSource, Source.knownMembers?, ih h.2]
    simp [fieldsOf, h.1]

/-- The members of an object are its fields if they are known and distinct. -/
theorem fields?_object {names : List String} {members : List (String × Value)}
    (hknown : ∀ member ∈ members, member.1 ∈ names) (hdistinct : (members.map Prod.fst).Nodup) :
    (Value.object members).source.fields? names = some (fieldsOf members) := by
  have hnodup : ((fieldsOf members).map Prod.fst).Nodup := by
    rw [fieldsOf, List.map_map]
    exact hdistinct
  rw [Value.source, Source.fields?, knownMembers?_memberSources hknown]
  simp only [distinctNames_of_nodup hnodup, if_true]

theorem text?_source (s : String) : (Value.string s).source.text? = some s := rfl

theorem Number.count?_whole (n : UInt64) : (whole n.toNat).count? = some n := by
  have hn : n.toNat < Nat.pow 2 64 := n.toNat_lt
  rw [count?, if_pos hn, UInt64.ofNat_toNat]

theorem count?_source (n : UInt64) : (Value.count n).source.count? = some n :=
  Number.count?_whole n

end Json

open Json

/-! ## Messages and blocks -/

namespace Message

def codec : Codec Message := ⟨json, decode?⟩

theorem lawful_codec : codec.Lawful := by
  intro m
  have hfields : m.json.source.fields? ["role", "content"] =
      some (fieldsOf [("role", .string m.role), ("content", .string m.content)]) :=
    fields?_object (by simp) (by simp)
  change decode? m.json.source = some m
  rw [decode?, hfields]
  rfl

end Message

namespace ContentBlock

/-- Blocks that stand in no array and no object. -/
def codec : Codec ContentBlock := ⟨json, decode? 0⟩

/-- A block is one level deep. -/
theorem decode?_source {level : Nat} (h : level < depthLimit) (b : ContentBlock) :
    decode? level b.json.source = some b := by
  obtain ⟨room, hroom⟩ : ∃ room, depthLimit - level = room + 1 :=
    Nat.exists_eq_add_one.2 (by omega)
  rw [decode?, hroom]
  cases b <;> rfl

theorem lawful_codec : codec.Lawful := decode?_source (by decide)

end ContentBlock

/-! ## Completions -/

namespace Completion

def codec : Codec Completion := ⟨json, decode?⟩

theorem decodeContent?_source (blocks : List ContentBlock) :
    decodeContent? (Value.array (blocks.map ContentBlock.json)).source = some blocks := by
  rw [Value.source, decodeContent?]
  exact mapM_itemSources (ContentBlock.decode?_source (by decide)) blocks

theorem lawful_codec : codec.Lawful := by
  intro c
  have hfields : c.json.source.fields?
      ["content", "model", "stop_reason", "input_tokens", "output_tokens"] =
      some (fieldsOf [
        ("content", .array (c.content.map ContentBlock.json)),
        ("model", .string c.model),
        ("stop_reason", .string c.stopReason),
        ("input_tokens", .count c.inputTokens),
        ("output_tokens", .count c.outputTokens)]) :=
    fields?_object (by simp) (by simp)
  change decode? c.json.source = some c
  rw [decode?, hfields]
  simp [fieldsOf, Fields.required?, List.lookup_cons, decodeContent?_source, text?_source,
    count?_source]

end Completion

/-! ## Results -/

namespace DiagramResult

def codec : Codec DiagramResult := ⟨json, decode?⟩

/-- Reading a result finds exactly the parts that were written. -/
theorem fields?_source (r : DiagramResult) :
    r.json.source.fields? fieldNames = some (fieldsOf ([
      ("status", .string r.status.name),
      ("diagram_code", .string r.diagramCode),
      ("diagram_type", .string r.diagramType),
      ("description", .string r.description),
      ("title", .string r.title)] ++
      optionalMember "model" r.model ++ optionalMember "platform" r.platform ++
      optionalMember "error" r.error)) := by
  obtain ⟨_, _, _, _, _, model, platform, error⟩ := r
  refine fields?_object ?_ ?_
  · cases model <;> cases platform <;> cases error <;> simp [optionalMember, fieldNames]
  · cases model <;> cases platform <;> cases error <;> simp [optionalMember]

theorem lawful_codec : codec.Lawful := by
  intro r
  change decode? r.json.source = some r
  rw [decode?, fields?_source]
  -- Which of the optional parts there are decides what a search for one of them finds.
  obtain ⟨status, _, _, _, _, model, platform, error⟩ := r
  cases status <;> cases model <;> cases platform <;> cases error <;> rfl

end DiagramResult

/-- What is written for a result, a message, a block or a completion is read back, also for a
result as the command line prints it. -/
theorem roundTrips_codecs :
    DiagramResult.codec.RoundTrips ∧ Message.codec.RoundTrips ∧ ContentBlock.codec.RoundTrips ∧
      Completion.codec.RoundTrips ∧
      ∀ r : DiagramResult, DiagramResult.codec.read? (r.print ++ ['\n']) = some r := by
  refine ⟨DiagramResult.lawful_codec.roundTrips, Message.lawful_codec.roundTrips,
    ContentBlock.lawful_codec.roundTrips, Completion.lawful_codec.roundTrips, ?_⟩
  intro r
  exact DiagramResult.lawful_codec.read?_encode_append .indented r (by simp [isSpace])

/-- Reading also takes the parts of a message in order and any way to escape a character. -/
example :
    Message.codec.recode? .compact "[\"user\", \"\\u0041\\/\"]".toList =
      some "\x7b\"role\":\"user\",\"content\":\"A/\"\x7d".toList := by
  decide +kernel

end DiagramStudio
