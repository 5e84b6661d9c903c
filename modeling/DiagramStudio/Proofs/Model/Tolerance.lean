import DiagramStudio.Model.Reply
import DiagramStudio.Proofs.Json.Acceptable
import DiagramStudio.Proofs.Json.RoundTrip

/-!
# Tolerant readers

The readers of the OpenAI interfaces ask little of a reply: that it is acceptable JSON and, for chat
completions, that there is a first choice. Every other field may be missing, null, of another type
or inside of something that has no fields. None of this is an error, and none of it makes an empty
block, another reason to stop or a count that was not given.

## Main definitions

- `Json.Value.at?`: the value at the end of a path of keys
- `Reply.IsFirstChoice`: the first choice of a chat completion
- `Reply.Outline`: what holds of every completion that is read
-/

namespace DiagramStudio

open Json

namespace Json.Value

/-- The value at the end of a path of keys. -/
def at? : List String → Value → Option Value
  | [], v => some v
  | key :: path, v => (v.get? key).bind (at? path)

theorem at?_singleton (key : String) (v : Value) : v.at? [key] = v.get? key := by
  rw [at?]
  cases v.get? key <;> rfl

theorem at?_pair (key key' : String) (v : Value) :
    v.at? [key, key'] = (v.get? key).bind (get? key') := by
  rw [at?]
  congr 1
  funext v'
  exact at?_singleton key' v'

theorem bind_string?_eq_some_iff {o : Option Value} {s : String} :
    o.bind string? = some s ↔ o = some (.string s) := by
  cases o with
  | none => simp
  | some v => cases v <;> simp [string?]

theorem bind_items?_eq_some_iff {o : Option Value} {items : List Value} :
    o.bind items? = some items ↔ o = some (.array items) := by
  cases o with
  | none => simp
  | some v => cases v <;> simp [items?]

theorem count?_eq_some_iff {v : Value} {n : UInt64} : v.count? = some n ↔ v = .count n := by
  constructor
  · intro h
    cases v with
    | number number =>
      cases number with
      | whole m =>
        rw [count?, Number.count?] at h
        split at h
        · next hm =>
          rw [← Option.some.inj h, count, UInt64.toNat_ofNat_of_lt' hm]
        · simp at h
      | decimal => simp [count?, Number.count?] at h
    | null | bool | string | array | object => simp [count?] at h
  · rintro rfl
    exact Number.count?_whole n

end Json.Value

namespace Reply

/-- The first choice of a chat completion: its `choices` are an array that is not empty. -/
def IsFirstChoice (root choice : Value) : Prop :=
  ∃ members rest, root = .object members ∧ root.get? "choices" = some (.array (choice :: rest))

/-- The count that a field gives; zero, unless the field holds an integer of 64 bits. -/
def Counts (field : Option Value) (n : UInt64) : Prop :=
  field = some (.count n) ∨ n = 0 ∧ ∀ m, field ≠ some (.count m)

/-- What holds of every completion that is read, whatever else the reply says. -/
structure Outline (root : Value) (atLimit : Prop) (input output : String) (c : Completion) :
    Prop where
  content : ∀ block ∈ c.content, ∃ s, block = .text s ∧ s ≠ ""
  stopReason : c.stopReason = "max_tokens" ∨ c.stopReason = "end_turn"
  stopReason_iff : c.stopReason = "max_tokens" ↔ atLimit
  inputTokens : Counts (root.at? ["usage", input]) c.inputTokens
  outputTokens : Counts (root.at? ["usage", output]) c.outputTokens

/-! ## Fields -/

theorem firstChoice?_eq_some_iff {root choice : Value} :
    firstChoice? root = some choice ↔ IsFirstChoice root choice := by
  rw [firstChoice?]
  constructor
  · intro h
    split at h
    · next first rest hitems =>
      obtain rfl := Option.some.inj h
      rw [Value.bind_items?_eq_some_iff] at hitems
      cases root with
      | object members => exact ⟨members, rest, rfl, hitems⟩
      | null | bool | number | string | array => simp [Value.get?] at hitems
    · simp at h
  · rintro ⟨members, rest, -, hchoices⟩
    rw [Value.bind_items?_eq_some_iff.2 hchoices]

theorem counts_usage (root : Value) (key : String) :
    Counts (root.at? ["usage", key]) (usage root key) := by
  rw [usage, ← Value.at?_pair]
  cases hfield : root.at? ["usage", key] with
  | none => exact .inr ⟨rfl, by simp⟩
  | some v =>
    rw [Option.bind_some]
    cases hcount : v.count? with
    | none =>
      refine .inr ⟨rfl, ?_⟩
      rintro m hm
      rw [Option.some.inj hm, Value.count?_eq_some_iff.2 rfl] at hcount
      simp at hcount
    | some n => exact .inl (congrArg some (Value.count?_eq_some_iff.1 hcount))

theorem stopReason_cases (atLimit : Bool) :
    stopReason atLimit = "max_tokens" ∨ stopReason atLimit = "end_turn" := by
  cases atLimit <;> simp [stopReason]

theorem stopReason_eq_iff {atLimit : Bool} : stopReason atLimit = "max_tokens" ↔ atLimit = true := by
  cases atLimit <;> simp [stopReason]

/-! ## Blocks -/

theorem exists_of_textBlock? {s : Option String} {block : ContentBlock}
    (h : textBlock? s = some block) : ∃ s', block = .text s' ∧ s' ≠ "" := by
  rw [textBlock?.eq_def] at h
  split at h
  · next s' =>
    split at h
    · simp at h
    · next hne => exact ⟨s', (Option.some.inj h).symm, hne⟩
  · simp at h

theorem exists_of_mem_itemBlocks {item : Value} {block : ContentBlock}
    (h : block ∈ itemBlocks item) : ∃ s, block = .text s ∧ s ≠ "" := by
  rw [itemBlocks] at h
  split at h
  · obtain ⟨part, -, hpart⟩ := List.mem_filterMap.1 h
    rw [partBlock?] at hpart
    split at hpart
    · exact exists_of_textBlock? hpart
    · simp at hpart
  · simp at h

theorem exists_of_mem_responseBlocks {root : Value} {block : ContentBlock}
    (h : block ∈ responseBlocks root) : ∃ s, block = .text s ∧ s ≠ "" := by
  rw [responseBlocks] at h
  split at h
  · obtain ⟨item, -, hitem⟩ := List.mem_flatMap.1 h
    exact exists_of_mem_itemBlocks hitem
  · exact exists_of_textBlock? (Option.mem_toList.1 h)

/-! ## Completions -/

theorem outline_ofResponse (root : Value) :
    Outline root (root.at? ["incomplete_details", "reason"] = some (.string "max_output_tokens"))
      "input_tokens" "output_tokens" (ofResponse root) where
  content _ := exists_of_mem_responseBlocks
  stopReason := stopReason_cases _
  stopReason_iff := by
    rw [ofResponse, stopReason_eq_iff, isCutOff, beq_iff_eq, ← Value.at?_pair,
      Value.bind_string?_eq_some_iff]
  inputTokens := counts_usage root _
  outputTokens := counts_usage root _

theorem outline_ofChoice (root choice : Value) :
    Outline root (choice.at? ["finish_reason"] = some (.string "length"))
      "prompt_tokens" "completion_tokens" (ofChoice root choice) where
  content _ h := exists_of_textBlock? (Option.mem_toList.1 h)
  stopReason := stopReason_cases _
  stopReason_iff := by
    rw [ofChoice, stopReason_eq_iff, beq_iff_eq, Value.bind_string?_eq_some_iff,
      Value.at?_singleton]
  inputTokens := counts_usage root _
  outputTokens := counts_usage root _

/-- At most one block of text comes from a choice. -/
theorem length_content_ofChoice_le (root choice : Value) :
    (ofChoice root choice).content.length ≤ 1 := by
  rw [ofChoice]
  exact Option.length_toList_le

/-! ## Bodies -/

variable {body : Text} {root choice : Value}

theorem readResponses_eq_ok (h : TextOf body root) :
    readResponses body = .ok (ofResponse root) := by
  rw [readResponses, readText?_eq_some_iff.2 h]

theorem readChatCompletions_eq_ok (h : TextOf body root) (hchoice : IsFirstChoice root choice) :
    readChatCompletions body = .ok (ofChoice root choice) := by
  rw [readChatCompletions, readText?_eq_some_iff.2 h]
  dsimp only
  rw [firstChoice?_eq_some_iff.2 hchoice]

theorem readResponses_eq_error_iff :
    (∃ e, readResponses body = .error e) ↔ ¬ Acceptable body := by
  rw [← readText?_eq_none_iff, readResponses]
  cases readText? body <;> simp

theorem readChatCompletions_eq_error_iff :
    (∃ e, readChatCompletions body = .error e) ↔
      ¬ Acceptable body ∨ ∃ root, TextOf body root ∧ ∀ choice, ¬ IsFirstChoice root choice := by
  rw [← readText?_eq_none_iff]
  simp only [← readText?_eq_some_iff, ← firstChoice?_eq_some_iff]
  rw [readChatCompletions]
  cases readText? body with
  | none => simp
  | some root => cases hchoice : firstChoice? root <;> simp [hchoice]

/-- Both readers fail on nothing but what is no acceptable JSON and, for chat completions, what has
no first choice; and whatever they read has the outline of a completion. -/
theorem outline_openAi (body : Text) :
    ((∃ e, readResponses body = .error e) ↔ ¬ Acceptable body) ∧
    ((∃ e, readChatCompletions body = .error e) ↔
      ¬ Acceptable body ∨ ∃ root, TextOf body root ∧ ∀ choice, ¬ IsFirstChoice root choice) ∧
    ∀ root, TextOf body root →
      (∃ c, readResponses body = .ok c ∧
        Outline root
          (root.at? ["incomplete_details", "reason"] = some (.string "max_output_tokens"))
          "input_tokens" "output_tokens" c) ∧
      ∀ choice, IsFirstChoice root choice → ∃ c, readChatCompletions body = .ok c ∧
        c.content.length ≤ 1 ∧
        Outline root (choice.at? ["finish_reason"] = some (.string "length"))
          "prompt_tokens" "completion_tokens" c := by
  refine ⟨readResponses_eq_error_iff, readChatCompletions_eq_error_iff, ?_⟩
  intro root hbody
  refine ⟨⟨_, readResponses_eq_ok hbody, outline_ofResponse root⟩, ?_⟩
  intro choice hchoice
  exact ⟨_, readChatCompletions_eq_ok hbody hchoice, length_content_ofChoice_le root choice,
    outline_ofChoice root choice⟩

/-- A message of the wrong type and a count that is no integer are no errors. -/
theorem outline_openAi_misfit :
    ∃ body root choice,
      body =
        "\x7b\"choices\": [\x7b\"message\": [], \"finish_reason\": \"length\"\x7d, 2],\n".toList ++
        "\"usage\": \x7b\"prompt_tokens\": 1.5, \"completion_tokens\": 7\x7d\x7d".toList ∧
      TextOf body root ∧ IsFirstChoice root choice ∧
      ∃ c, readChatCompletions body = .ok c ∧ c.content.length ≤ 1 ∧
        Outline root (choice.at? ["finish_reason"] = some (.string "length"))
          "prompt_tokens" "completion_tokens" c := by
  let body : Text :=
    "\x7b\"choices\": [\x7b\"message\": [], \"finish_reason\": \"length\"\x7d, 2],\n".toList ++
      "\"usage\": \x7b\"prompt_tokens\": 1.5, \"completion_tokens\": 7\x7d\x7d".toList
  have hfirst : ((readText? body).bind firstChoice?).isSome = true := by decide +kernel
  obtain ⟨choice, hchoice⟩ := Option.isSome_iff_exists.1 hfirst
  obtain ⟨root, hbody, hchoice⟩ := Option.bind_eq_some_iff.1 hchoice
  rw [readText?_eq_some_iff] at hbody
  rw [firstChoice?_eq_some_iff] at hchoice
  exact ⟨body, root, choice, rfl, hbody, hchoice,
    ((outline_openAi body).2.2 root hbody).2 choice hchoice⟩

end Reply

end DiagramStudio
