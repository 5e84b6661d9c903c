import DiagramStudio.Proofs.Json.Record
import DiagramStudio.Proofs.Model.Tolerance

/-!
# Texts in replies

A reply carries its texts in parts that stand among others. The messages interface has blocks of
text among blocks of other types, chat completions have one message, and responses have parts of
text within messages, among parts and items of other types. Whichever way the texts come, they are
what is read: all of them, in order, and nothing else.

## Main definitions

- `Reply.InOrder`: what the items of a list carry, put together
- `Wire.Carries`: a reply that carries texts, in the form of its interface
-/

namespace DiagramStudio

open Json

namespace Reply

/-- What the items of a list carry, put together. -/
def InOrder (carries : Value → List String → Prop) (items : List Value) (texts : List String) :
    Prop :=
  ∃ parts, List.Forall₂ carries items parts ∧ parts.flatten = texts

/-- A block of the messages interface carries a text, unless it is of another type. -/
inductive BlockCarries : Value → List String → Prop
  | text {block : Value} {s : String} (hkind : block.under "type" = [.string "text"])
      (htext : block.under "text" = [.string s]) : BlockCarries block [s]
  | other {block : Value} {kind : String} (hkind : block.under "type" = [.string kind])
      (hother : kind ≠ "text") : BlockCarries block []

/-- A reply of the messages interface with the given blocks. It may have other members besides. -/
structure IsMessagesReply (root : Value) (blocks : List Value) : Prop where
  content : root.under "content" = [.array blocks]
  model : ∃ name, root.under "model" = [.string name]
  stopReason : root.under "stop_reason" = [] ∨ root.under "stop_reason" = [.null] ∨
    ∃ reason, root.under "stop_reason" = [.string reason]
  usage : ∃ usage input output, root.under "usage" = [usage] ∧
    usage.under "input_tokens" = [.count input] ∧ usage.under "output_tokens" = [.count output]

/-- A part of a message carries a text, under one of two keys, unless it is of another type. -/
inductive PartCarries : Value → List String → Prop
  | text {part : Value} {s : String}
      (hkind : part.get? "type" = some (.string "output_text") ∨
        part.get? "type" = some (.string "text"))
      (htext : part.get? "text" = some (.string s) ∨
        part.get? "text" = none ∧ part.get? "output_text" = some (.string s)) :
      PartCarries part [s]
  | other {part : Value} (houtput : part.get? "type" ≠ some (.string "output_text"))
      (htext : part.get? "type" ≠ some (.string "text")) : PartCarries part []

/-- An item of a response carries what the parts of a message carry, unless it is no message. -/
inductive ItemCarries : Value → List String → Prop
  | message {item : Value} {parts : List Value} {texts : List String}
      (hkind : item.get? "type" = some (.string "message"))
      (hcontent : item.get? "content" = some (.array parts))
      (hparts : InOrder PartCarries parts texts) : ItemCarries item texts
  | other {item : Value} (hkind : item.get? "type" ≠ some (.string "message")) :
      ItemCarries item []

end Reply

/-- A reply that carries texts, in the form of its interface. -/
inductive Wire.Carries : Wire → Value → List String → Prop
  | messages {root : Value} {blocks : List Value} {texts : List String}
      (hreply : Reply.IsMessagesReply root blocks)
      (hblocks : Reply.InOrder Reply.BlockCarries blocks texts) : Carries .messages root texts
  | chatCompletions {root choice : Value} {s : String} (hchoice : Reply.IsFirstChoice root choice)
      (hmessage : choice.at? ["message", "content"] = some (.string s)) :
      Carries .chatCompletions root [s]
  | responses {root : Value} {items : List Value} {texts : List String}
      (houtput : root.get? "output" = some (.array items))
      (hitems : Reply.InOrder Reply.ItemCarries items texts) : Carries .responses root texts

namespace Reply

/-! ## Blocks of messages -/

theorem exists_filter_eq_of_under {members : List (String × Value)} {key : String} {v : Value}
    (h : (Value.object members).under key = [v]) :
    ∃ key', members.filter (·.1 == key) = [(key', v)] := by
  obtain ⟨member, hmember, rfl⟩ := List.map_eq_singleton_iff.1 h
  exact ⟨member.1, hmember⟩

/-- A block of text is read as its text, and any other one as a block that holds none. -/
theorem BlockCarries.exists_decode? {source : Source} {level : Nat} {block : Value}
    {texts : List String} (h : BlockCarries block texts)
    (hsource : source.value? (depthLimit - level) = some block) :
    ∃ b, ContentBlock.decode? level source = some b ∧
      [b].filter ContentBlock.isText = texts.map .text := by
  obtain ⟨members, rfl⟩ : ∃ members, block = .object members := by
    cases h with
    | text hkind | other hkind => exact Value.exists_members_of_under hkind
  rw [ContentBlock.decode?, hsource]
  dsimp only
  cases h with
  | @text s hkind htext =>
    obtain ⟨_, hkinds⟩ := exists_filter_eq_of_under hkind
    obtain ⟨_, htexts⟩ := exists_filter_eq_of_under htext
    exact ⟨.text s, by simp [ContentBlock.ofMembers?, hkinds, htexts], rfl⟩
  | other hkind hother =>
    obtain ⟨_, hkinds⟩ := exists_filter_eq_of_under hkind
    exact ⟨.unknown, by simp [ContentBlock.ofMembers?, hkinds, hother], rfl⟩

theorem exists_mapM_decode? (level : Nat) {blocks : List Value} {parts : List (List String)}
    (h : List.Forall₂ BlockCarries blocks parts) {sources : List Source}
    (hsources : List.Forall₂ (fun item v => item.value? (depthLimit - level) = some v)
      sources blocks) :
    ∃ content, sources.mapM (ContentBlock.decode? level) = some content ∧
      content.filter ContentBlock.isText = parts.flatten.map .text := by
  induction h generalizing sources with
  | nil =>
    cases hsources
    exact ⟨[], rfl, rfl⟩
  | cons hblock _ ih =>
    cases hsources with
    | cons hsource hsources =>
      obtain ⟨b, hb, htext⟩ := hblock.exists_decode? hsource
      obtain ⟨content, hcontent, hrest⟩ := ih hsources
      refine ⟨b :: content, ?_, ?_⟩
      · rw [List.mapM_cons, hb, hcontent]
        rfl
      · rw [← List.singleton_append, List.filter_append, htext, hrest, List.flatten_cons,
          List.map_append]

/-- The blocks of a completion stand two levels deep. -/
theorem exists_decodeContent? {source : Source} {blocks : List Value} {texts : List String}
    (h : InOrder BlockCarries blocks texts)
    (hsource : source.value? (depthLimit - 1) = some (.array blocks)) :
    ∃ content, Completion.decodeContent? source = some content ∧
      content.filter ContentBlock.isText = texts.map .text := by
  obtain ⟨parts, hparts, rfl⟩ := h
  obtain ⟨sources, rfl, hsources⟩ := Source.exists_array_of_value? hsource
  exact exists_mapM_decode? 2 hparts hsources

theorem decodeUsage?_eq_some {source : Source} {room : Nat} {root : Value} {input output : UInt64}
    (hsource : source.value? (room + 1) = some root)
    (hinput : root.under "input_tokens" = [.count input])
    (houtput : root.under "output_tokens" = [.count output]) :
    decodeUsage? source = some ⟨input, output⟩ := by
  obtain ⟨fields, hfields, hholds⟩ := Source.exists_fields ["input_tokens", "output_tokens"]
    hsource (Value.exists_members_of_under hinput) (by simp [hinput, houtput])
  rw [decodeUsage?, hfields]
  simp [hholds.required?_count? (by simp) hinput, hholds.required?_count? (by simp) houtput]

theorem exists_readMessages {body : Text} {root : Value} {blocks : List Value}
    {texts : List String} (hbody : TextOf body root) (hreply : IsMessagesReply root blocks)
    (h : InOrder BlockCarries blocks texts) :
    ∃ c, readMessages body = .ok c ∧ c.content = texts.map .text := by
  obtain ⟨source, hderives, hsource⟩ := hbody
  obtain ⟨name, hmodel⟩ := hreply.model
  obtain ⟨usage, input, output, husage, hinput, houtput⟩ := hreply.usage
  have hstop : (root.under "stop_reason").length ≤ 1 := by
    rcases hreply.stopReason with h | h | ⟨reason, h⟩ <;> simp [h]
  obtain ⟨fields, hfields, hholds⟩ := Source.exists_fields
    ["content", "model", "stop_reason", "usage"] hsource
    (Value.exists_members_of_under hreply.content) (by simp [hreply.content, hmodel, husage, hstop])
  obtain ⟨part, hlookup, hpart⟩ := hholds.present (by simp) hreply.content
  obtain ⟨content, hcontent, htexts⟩ := exists_decodeContent? h hpart
  obtain ⟨reason, hreason⟩ := hholds.exists_optional?_text? (by simp) hreply.stopReason
  obtain ⟨part', hlookup', hpart'⟩ := hholds.present (by simp) husage
  have hcounts := decodeUsage?_eq_some hpart' hinput houtput
  refine ⟨⟨content.filter ContentBlock.isText, name, reason.getD "", input, output⟩, ?_, htexts⟩
  have hdecode : decodeMessages? source = some
      ⟨content.filter ContentBlock.isText, name, reason.getD "", input, output⟩ := by
    rw [decodeMessages?, hfields]
    simp [Source.required?_of_lookup hlookup hcontent, hholds.required?_text? (by simp) hmodel,
      Source.required?_of_lookup hlookup' hcounts, hreason]
  rw [readMessages, read?_eq_some_iff.2 hderives, Option.bind_some, hdecode]

/-! ## Items of responses -/

theorem InOrder.flatMap_eq {carries : Value → List String → Prop} {f : Value → List ContentBlock}
    (hf : ∀ item texts, carries item texts → (∀ s ∈ texts, s ≠ "") → f item = texts.map .text)
    {items : List Value} {texts : List String} (h : InOrder carries items texts)
    (hne : ∀ s ∈ texts, s ≠ "") : items.flatMap f = texts.map .text := by
  obtain ⟨parts, hparts, rfl⟩ := h
  induction hparts with
  | nil => rfl
  | cons hitem _ ih =>
    rw [List.flatten_cons, List.forall_mem_append] at hne
    rw [List.flatMap_cons, hf _ _ hitem hne.1, ih hne.2, List.flatten_cons, List.map_append]

theorem hasKind_iff {kind : String} {v : Value} :
    hasKind kind v = true ↔ v.get? "type" = some (.string kind) := by
  rw [hasKind, beq_iff_eq, Value.bind_string?_eq_some_iff]

theorem PartCarries.partBlock?_toList {part : Value} {texts : List String}
    (h : PartCarries part texts) (hne : ∀ s ∈ texts, s ≠ "") :
    (partBlock? part).toList = texts.map .text := by
  rw [partBlock?]
  cases h with
  | @text s hkind htext =>
    have hkinds : (hasKind "output_text" part || hasKind "text" part) = true := by
      rw [Bool.or_eq_true, hasKind_iff, hasKind_iff]
      exact hkind
    have hfound : (part.get? "text").or (part.get? "output_text") = some (.string s) := by
      rcases htext with htext | ⟨habsent, htext⟩
      · rw [htext, Option.some_or]
      · rw [habsent, Option.none_or, htext]
    rw [if_pos hkinds, Value.bind_string?_eq_some_iff.2 hfound, textBlock?,
      if_neg (hne s (List.mem_singleton_self s))]
    rfl
  | other houtput htext =>
    have hkinds : ¬ (hasKind "output_text" part || hasKind "text" part) = true := by
      rw [Bool.or_eq_true, hasKind_iff, hasKind_iff, not_or]
      exact ⟨houtput, htext⟩
    rw [if_neg hkinds]
    rfl

theorem ItemCarries.itemBlocks_eq {item : Value} {texts : List String} (h : ItemCarries item texts)
    (hne : ∀ s ∈ texts, s ≠ "") : itemBlocks item = texts.map .text := by
  rw [itemBlocks]
  cases h with
  | message hkind hcontent hparts =>
    rw [if_pos (hasKind_iff.2 hkind), Value.bind_items?_eq_some_iff.2 hcontent, Option.getD_some,
      List.filterMap_eq_flatMap_toList]
    exact hparts.flatMap_eq (fun _ _ hpart => hpart.partBlock?_toList) hne
  | other hkind =>
    rw [if_neg fun h => hkind (hasKind_iff.1 h)]
    rfl

theorem responseBlocks_eq {root : Value} {items : List Value} {texts : List String}
    (houtput : root.get? "output" = some (.array items)) (h : InOrder ItemCarries items texts)
    (hne : ∀ s ∈ texts, s ≠ "") : responseBlocks root = texts.map .text := by
  rw [responseBlocks, Value.bind_items?_eq_some_iff.2 houtput]
  exact h.flatMap_eq (fun _ _ hitem => hitem.itemBlocks_eq) hne

/-! ## Replies -/

theorem content_ofChoice {root choice : Value} {s : String}
    (hmessage : choice.at? ["message", "content"] = some (.string s)) (hne : s ≠ "") :
    (ofChoice root choice).content = [.text s] := by
  rw [ofChoice, ← Value.at?_pair, Value.bind_string?_eq_some_iff.2 hmessage, textBlock?,
    if_neg hne]
  rfl

end Reply

theorem Completion.text_of_content {c : Completion} {texts : List String}
    (h : c.content = texts.map .text) : c.text = String.join texts := by
  have htexts : ContentBlock.text? ∘ ContentBlock.text = some := rfl
  rw [text, h, List.filterMap_map, htexts, List.filterMap_some]

/-- The texts that a reply carries are read, all of them and in order, and nothing else is; the
text of the completion is these texts joined. -/
theorem Wire.readReply_of_carries {wire : Wire} {body : Text} {root : Value} {texts : List String}
    (hbody : TextOf body root) (h : wire.Carries root texts) (hne : ∀ s ∈ texts, s ≠ "") :
    ∃ c, wire.readReply body = .ok c ∧ c.content = texts.map .text ∧
      c.text = String.join texts := by
  suffices hread : ∃ c, wire.readReply body = .ok c ∧ c.content = texts.map .text by
    obtain ⟨c, hc, hcontent⟩ := hread
    exact ⟨c, hc, hcontent, Completion.text_of_content hcontent⟩
  cases h with
  | messages hreply hblocks => exact Reply.exists_readMessages hbody hreply hblocks
  | chatCompletions hchoice hmessage =>
    exact ⟨_, Reply.readChatCompletions_eq_ok hbody hchoice,
      Reply.content_ofChoice hmessage (hne _ (List.mem_singleton_self _))⟩
  | responses houtput hitems =>
    exact ⟨_, Reply.readResponses_eq_ok hbody, Reply.responseBlocks_eq houtput hitems hne⟩

/-- Two texts in two messages of a response, and the same ones in two blocks. -/
theorem Wire.readReply_of_carries_split :
    (∃ body root,
      body =
        "\x7b\"output\":[\x7b\"type\":\"reasoning\"\x7d,".toList ++
        "\x7b\"type\":\"message\",\"content\":[\x7b\"type\":\"refusal\"\x7d,".toList ++
        "\x7b\"type\":\"output_text\",\"text\":\"graph\"\x7d]\x7d,".toList ++
        "\x7b\"type\":\"message\",\"content\":[".toList ++
        "\x7b\"type\":\"text\",\"output_text\":\" TD\"\x7d]\x7d]\x7d".toList ∧
      TextOf body root ∧ Wire.responses.Carries root ["graph", " TD"] ∧
      (∀ s ∈ ["graph", " TD"], s ≠ "") ∧
      ∃ c, Wire.responses.readReply body = .ok c ∧
        c.content = ["graph", " TD"].map .text ∧ c.text = String.join ["graph", " TD"]) ∧
    ∃ body root,
      body =
        "\x7b\"content\":[\x7b\"type\":\"text\",\"text\":\"graph\"\x7d,".toList ++
        "\x7b\"type\":\"thinking\"\x7d,".toList ++
        "\x7b\"text\":\" TD\",\"type\":\"text\"\x7d],\"model\":\"m\",".toList ++
        "\"usage\":\x7b\"input_tokens\":3,\"output_tokens\":5\x7d\x7d".toList ∧
      TextOf body root ∧ Wire.messages.Carries root ["graph", " TD"] ∧
      (∀ s ∈ ["graph", " TD"], s ≠ "") ∧
      ∃ c, Wire.messages.readReply body = .ok c ∧
        c.content = ["graph", " TD"].map .text ∧ c.text = String.join ["graph", " TD"] := by
  have hne : ∀ s ∈ ["graph", " TD"], s ≠ "" := by simp
  constructor
  · let first : Value := .object [("type", .string "output_text"), ("text", .string "graph")]
    let second : Value := .object [("type", .string "text"), ("output_text", .string " TD")]
    let root : Value := .object [("output", .array [
      .object [("type", .string "reasoning")],
      .object [("type", .string "message"),
        ("content", .array [.object [("type", .string "refusal")], first])],
      .object [("type", .string "message"), ("content", .array [second])]])]
    have hbody := textOf_print .compact (v := root) (Source.isSome_value?_iff.1 (by decide +kernel))
    have hfirst : Reply.PartCarries first ["graph"] := .text (.inl rfl) (.inl rfl)
    have hsecond : Reply.PartCarries second [" TD"] := .text (.inr rfl) (.inr ⟨rfl, rfl⟩)
    have hcarries : Wire.responses.Carries root ["graph", " TD"] := by
      refine .responses rfl ⟨[[], ["graph"], [" TD"]], .cons (.other (by simp [Value.get?]))
        (.cons (.message rfl rfl ⟨[[], ["graph"]], .cons (.other ?_ ?_) (.cons hfirst .nil), rfl⟩)
          (.cons (.message rfl rfl ⟨[[" TD"]], .cons hsecond .nil, rfl⟩) .nil)), rfl⟩
      · simp [Value.get?]
      · simp [Value.get?]
    exact ⟨_, root, by decide +kernel, hbody, hcarries, hne,
      Wire.readReply_of_carries hbody hcarries hne⟩
  · let first : Value := .object [("type", .string "text"), ("text", .string "graph")]
    let second : Value := .object [("text", .string " TD"), ("type", .string "text")]
    let root : Value := .object [
      ("content", .array [first, .object [("type", .string "thinking")], second]),
      ("model", .string "m"),
      ("usage", .object [("input_tokens", .count 3), ("output_tokens", .count 5)])]
    have hbody := textOf_print .compact (v := root) (Source.isSome_value?_iff.1 (by decide +kernel))
    have hreply : Reply.IsMessagesReply root
        [first, .object [("type", .string "thinking")], second] :=
      ⟨rfl, ⟨"m", rfl⟩, .inl rfl, ⟨_, 3, 5, rfl, rfl, rfl⟩⟩
    have hcarries : Wire.messages.Carries root ["graph", " TD"] :=
      .messages hreply ⟨[["graph"], [], [" TD"]], .cons (.text rfl rfl)
        (.cons (.other rfl (by decide)) (.cons (.text rfl rfl) .nil)), rfl⟩
    exact ⟨_, root, by decide +kernel, hbody, hcarries, hne,
      Wire.readReply_of_carries hbody hcarries hne⟩

end DiagramStudio
