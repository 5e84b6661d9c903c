import DiagramStudio.Model.Chat

/-!
# Outcomes of turns

What becomes of a turn with a model is settled in a fixed order: first whether a complete reply came
at all, then its status, and only then its body. All interfaces share this order, and each turn of
a conversation is settled for itself, whatever became of the turns before it.

## Main definitions

- `Http.Request.Unanswered`: the ways in which a request gets no complete reply
- `Settings.Settles`: what the outcome of a turn is, by what the other side did
- `Settings.alone`: a turn that is the only one
-/

namespace DiagramStudio

namespace Http.Request

/-- A request to which no complete reply comes: it cannot be sent, the connection fails or closes,
or the body ends early. -/
inductive Unanswered (r : Request) : Exchange → Prop
  | unsendable {reason : Unsendable} (h : r.location = .error reason) (exchange : Exchange) :
      Unanswered r exchange
  | unreachable : Unanswered r .unreachable
  | dropped : Unanswered r .dropped
  | truncated (status : UInt16) (received : List UInt8) : Unanswered r (.truncated status received)

theorem send_of_unanswered {r : Request} {exchange : Exchange} (h : r.Unanswered exchange) :
    ∃ failure, r.send exchange = .error failure := by
  cases hlocation : r.location with
  | error reason => exact ⟨.unsendable reason, by rw [send, hlocation]⟩
  | ok url =>
    cases h with
    | unsendable herror => simp [hlocation] at herror
    | unreachable => exact ⟨.unanswered url, by rw [send, hlocation]⟩
    | dropped => exact ⟨.unanswered url, by rw [send, hlocation]⟩
    | truncated => exact ⟨.incomplete, by rw [send, hlocation]⟩

/-- A complete reply is the only thing besides. -/
theorem send_of_not_unanswered {r : Request} {exchange : Exchange}
    (h : ¬ r.Unanswered exchange) : ∃ status body, exchange = .reply status body ∧
      r.send exchange = .ok ⟨status, Text.Utf8.decodeLossy body⟩ := by
  cases hlocation : r.location with
  | error reason => exact absurd (.unsendable hlocation exchange) h
  | ok url =>
    cases exchange with
    | unreachable => exact absurd .unreachable h
    | dropped => exact absurd .dropped h
    | truncated status received => exact absurd (.truncated status received) h
    | reply status body => exact ⟨status, body, rfl, by rw [send, hlocation]⟩

/-- The model that a request asks for. -/
def model? (r : Request) : Option String := (r.body.get? "model").bind Json.Value.string?

end Http.Request

open Http

/-! ## Errors -/

/-- Another attempt is worthwhile after a failure of the transport, a status that asks to slow down
and a status that reports a failure of the provider. -/
theorem ModelError.retryable_iff (e : ModelError) :
    e.retryable = true ↔ (∃ detail, e = .transport detail) ∨
      ∃ code body, e = .status code body ∧ (code = 429 ∨ 500 ≤ code ∧ code ≤ 599) := by
  cases e with
  | transport detail => simp [retryable]
  | status code body => simp [retryable]
  | configuration | missingKey | unreadable | clientSetup => simp [retryable]

/-- A body that cannot be read is reported as such, by each of the interfaces. -/
theorem Wire.eq_unreadable_of_readReply {wire : Wire} {body : Text} {e : ModelError}
    (h : wire.readReply body = .error e) : ∃ detail, e = .unreadable detail := by
  cases wire with
  | messages =>
    rw [readReply, Reply.readMessages] at h
    split at h
    · simp at h
    · exact ⟨_, (Except.error.inj h).symm⟩
  | chatCompletions =>
    rw [readReply, Reply.readChatCompletions] at h
    split at h
    · exact ⟨_, (Except.error.inj h).symm⟩
    · split at h
      · exact ⟨_, (Except.error.inj h).symm⟩
      · simp at h
  | responses =>
    rw [readReply, Reply.readResponses] at h
    split at h
    · exact ⟨_, (Except.error.inj h).symm⟩
    · simp at h

namespace Settings

/-! ## One turn -/

/-- A turn to be had: what the model is asked, and what the other side does. -/
structure Round where
  prompt : Prompt
  exchange : Exchange

/-- The turn of a round that is the only one. -/
def alone (s : Settings) (round : Round) : Turn :=
  (s.turn round.prompt ⟨[round.exchange], .unreachable, []⟩).1

theorem alone_eq (s : Settings) (round : Round) :
    s.alone round = ⟨s.sent round.prompt round.exchange, s.chat round.prompt round.exchange⟩ := rfl

/-- What the outcome of a round is, and what is sent for it. -/
structure Settles (s : Settings) (round : Round) (turn : Turn) : Prop where
  unanswered : (s.request round.prompt).Unanswered round.exchange →
    ∃ detail, turn.answer = .error (.transport detail)
  answered : ¬ (s.request round.prompt).Unanswered round.exchange →
    ∃ code body, round.exchange = .reply code body ∧
      (code ≠ 200 →
        turn.answer = .error (.status code (String.ofList (Text.Utf8.decodeLossy body)))) ∧
      (code = 200 → turn.answer = s.wire.readReply (Text.Utf8.decodeLossy body) ∧
        ((∃ c, turn.answer = .ok c) ∨ ∃ detail, turn.answer = .error (.unreadable detail)))
  retryable : ∀ e, turn.answer = .error e → (e.retryable = true ↔
    (∃ detail, e = .transport detail) ∨
      ∃ code body, e = .status code body ∧ (code = 429 ∨ 500 ≤ code ∧ code ≤ 599))
  sent : turn.sent.length ≤ 1 ∧
    ∀ r ∈ turn.sent, r = s.request round.prompt ∧ r.model? = some s.model

theorem model?_request (s : Settings) (p : Prompt) : (s.request p).model? = some s.model := by
  rw [Request.model?, request]
  cases s.wire <;> rfl

theorem settles_alone (s : Settings) (round : Round) : s.Settles round (s.alone round) where
  unanswered h := by
    obtain ⟨failure, hsend⟩ := Request.send_of_unanswered h
    exact ⟨failure.message, by rw [alone_eq, chat, hsend]⟩
  answered h := by
    obtain ⟨code, body, hexchange, hsend⟩ := Request.send_of_not_unanswered h
    have hanswer : (s.alone round).answer = s.readReply ⟨code, Text.Utf8.decodeLossy body⟩ := by
      rw [alone_eq, chat, hsend]
    refine ⟨code, body, hexchange, ?_, ?_⟩
    · intro hcode
      rw [hanswer, readReply, if_neg hcode]
    · intro hcode
      rw [hanswer, readReply, if_pos hcode]
      refine ⟨rfl, ?_⟩
      cases hread : s.wire.readReply (Text.Utf8.decodeLossy body) with
      | ok c => exact .inl ⟨c, rfl⟩
      | error e =>
        obtain ⟨detail, rfl⟩ := Wire.eq_unreadable_of_readReply hread
        exact .inr ⟨detail, rfl⟩
  retryable e _ := e.retryable_iff
  sent := by
    rw [alone_eq, sent]
    split
    · simp [model?_request]
    · simp

/-! ## Runs of turns -/

/-- Whatever state the network is in, a turn takes its next exchange and leaves the others. -/
theorem turn_cons (s : Settings) (round : Round) (upcoming : List Exchange)
    (afterwards : Exchange) (seen : List Request) :
    s.turn round.prompt ⟨round.exchange :: upcoming, afterwards, seen⟩ =
      (s.alone round, ⟨upcoming, afterwards, seen ++ (s.alone round).sent⟩) := rfl

theorem turns_rounds (s : Settings) (rounds : List Round) (upcoming : List Exchange)
    (afterwards : Exchange) (seen : List Request) :
    s.turns (rounds.map Round.prompt)
        ⟨rounds.map Round.exchange ++ upcoming, afterwards, seen⟩ =
      (rounds.map s.alone,
        ⟨upcoming, afterwards, seen ++ (rounds.map s.alone).flatMap Turn.sent⟩) := by
  induction rounds generalizing seen with
  | nil => simp [turns]
  | cons round rounds ih =>
    rw [List.map_cons, List.map_cons, List.cons_append, turns, turn_cons]
    dsimp only
    rw [ih, List.map_cons, List.flatMap_cons, List.append_assoc]

/-- In a run of any length every turn is the one that its round has alone, and its outcome is
settled by what the other side did in it. -/
theorem settles_turns (s : Settings) (rounds : List Round) (upcoming : List Exchange)
    (afterwards : Exchange) (seen : List Request) :
    s.turns (rounds.map Round.prompt)
        ⟨rounds.map Round.exchange ++ upcoming, afterwards, seen⟩ =
      (rounds.map s.alone,
        ⟨upcoming, afterwards, seen ++ (rounds.map s.alone).flatMap Turn.sent⟩) ∧
    ∀ round, s.Settles round (s.alone round) :=
  ⟨s.turns_rounds rounds upcoming afterwards seen, s.settles_alone⟩

/-- A status counts only with a complete body. -/
example :
    let s : Settings :=
      ⟨.openAi, "sk-1", "gpt-4o", .responses, "https://api.openai.com/v1", ⟨120, 10⟩⟩
    [Exchange.truncated 503 [], .reply 503 []].map (fun exchange =>
        (s.alone ⟨⟨256, "", []⟩, exchange⟩).answer) =
      [.error (.transport "error decoding response body"), .error (.status 503 "")] := by
  rfl

end Settings

end DiagramStudio
