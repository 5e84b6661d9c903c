import DiagramStudio.Proofs.Service.Outcome
import Mathlib.Data.List.Forall2

/-!
# Secrecy of the API key

The API key goes into one header and nowhere else. Two clients whose settings differ in the key
alone therefore behave alike: the other side sees the same requests but for that header, and what
it answers makes the same outcomes, errors included. The only thing ever asked of the key is whether
it can stand in a header.

Two runs are compared step by step. Between steps the two networks agree (`Network.Agree`): the same
exchanges are to come, and the requests seen so far differ in the key at most.

## Main definitions

- `Http.Request.AgreeExcept`: requests that agree in everything but the value of one header
- `Settings.Indistinguishable`: settings that give the same outcomes and, but for the header with
  the key, the same requests
-/

namespace DiagramStudio

namespace Http

/-- Two requests that agree in everything but the value of the header `name`. -/
structure Request.AgreeExcept (name : String) (r r' : Request) : Prop where
  address : r.address = r'.address
  body : r.body = r'.body
  headerNames : r.headers.map Prod.fst = r'.headers.map Prod.fst
  headers : r.headers.filter (·.1 != name) = r'.headers.filter (·.1 != name)

theorem Request.AgreeExcept.refl (name : String) (r : Request) : r.AgreeExcept name r :=
  ⟨rfl, rfl, rfl, rfl⟩

theorem isHeaderValue_append {s s' : String} (h : isHeaderValue s = true)
    (h' : isHeaderValue s' = true) : isHeaderValue (s ++ s') = true := by
  rw [isHeaderValue, String.toList_append, List.all_append, Bool.and_eq_true]
  exact ⟨h, h'⟩

/-- Of its headers only their form decides whether a request can be sent. -/
theorem Request.location_congr {r r' : Request} (haddress : r.address = r'.address)
    (hheaders : (r.headers.all fun header => isHeaderValue header.2) =
      r'.headers.all fun header => isHeaderValue header.2) : r.location = r'.location := by
  rw [location, location, haddress, hheaders]

end Http

open Http

/-- The header that carries the API key. -/
def Wire.keyHeader : Wire → String
  | messages => "x-api-key"
  | chatCompletions | responses => "authorization"

/-- The headers hold the key and fixed values. -/
theorem Wire.all_isHeaderValue {key : String} (h : isHeaderValue key = true) (wire : Wire) :
    ((wire.headers key).all fun header => isHeaderValue header.2) = true := by
  have hbearer : isHeaderValue ("Bearer " ++ key) = true := isHeaderValue_append (by decide) h
  have hversion : isHeaderValue "2023-06-01" = true := by decide
  have hcontent : isHeaderValue "application/json" = true := by decide
  cases wire <;>
    simp only [headers, List.all_cons, List.all_nil, Bool.and_true, h, hbearer, hversion, hcontent]

/-- Two networks that do the same and have seen the same requests but for one header. -/
structure Network.Agree (name : String) (n n' : Network) : Prop where
  upcoming : n.upcoming = n'.upcoming
  afterwards : n.afterwards = n'.afterwards
  seen : List.Forall₂ (Request.AgreeExcept name) n.seen n'.seen

theorem Network.Agree.refl (name : String) (n : Network) : n.Agree name n :=
  ⟨rfl, rfl, List.forall₂_same.2 fun r _ => .refl name r⟩

theorem Network.Agree.next_eq {name : String} {n n' : Network} (h : n.Agree name n') :
    n.next = n'.next := by
  rw [Network.next, Network.next, h.upcoming, h.afterwards]

namespace Settings

/-- A generator that asks the configured model. -/
def generator (s : Settings) (options : Options) : Generator Network := ⟨some s.chatModel, options⟩

/-- Settings between which neither the answers nor the results make a difference, and the requests
none but for the header with the key. -/
structure Indistinguishable (s s' : Settings) : Prop where
  answers : ∀ prompts n,
    (s.turns prompts n).1.map Turn.answer = (s'.turns prompts n).1.map Turn.answer
  sent : ∀ prompts n, List.Forall₂ (List.Forall₂ (Request.AgreeExcept s.wire.keyHeader))
    ((s.turns prompts n).1.map Turn.sent) ((s'.turns prompts n).1.map Turn.sent)
  results : ∀ options requests n, ((s.generator options).generateAll requests n).1 =
    ((s'.generator options).generateAll requests n).1
  seen : ∀ options requests n, List.Forall₂ (Request.AgreeExcept s.wire.keyHeader)
    ((s.generator options).generateAll requests n).2.seen
    ((s'.generator options).generateAll requests n).2.seen

/-- Settings that differ in the API key alone, of which both can stand in a header. -/
structure DifferInKey (s s' : Settings) : Prop where
  others : { s with apiKey := s'.apiKey } = s'
  valid : isHeaderValue s.apiKey = true
  valid' : isHeaderValue s'.apiKey = true

variable {s s' : Settings}

/-! ## One request -/

theorem DifferInKey.wire_eq (h : DifferInKey s s') : s.wire = s'.wire := by
  rw [← h.others]
  rfl

theorem DifferInKey.agree_request (h : DifferInKey s s') (p : Prompt) :
    (s.request p).AgreeExcept s.wire.keyHeader (s'.request p) := by
  rw [← h.others]
  refine ⟨rfl, rfl, ?_, ?_⟩
  · change (s.wire.headers s.apiKey).map Prod.fst = (s.wire.headers s'.apiKey).map Prod.fst
    cases s.wire <;> rfl
  · change (s.wire.headers s.apiKey).filter _ = (s.wire.headers s'.apiKey).filter _
    cases s.wire <;> rfl

theorem DifferInKey.location_eq (h : DifferInKey s s') (p : Prompt) :
    (s.request p).location = (s'.request p).location := by
  refine Request.location_congr (h.agree_request p).address ?_
  rw [request, request, Wire.all_isHeaderValue h.valid, Wire.all_isHeaderValue h.valid']

/-- The key has no part in the outcome of a request. -/
theorem DifferInKey.chat_eq (h : DifferInKey s s') (p : Prompt) (exchange : Exchange) :
    s.chat p exchange = s'.chat p exchange := by
  have hread : s.readReply = s'.readReply := by
    funext reply
    rw [readReply, readReply, h.wire_eq]
  rw [chat, chat, Request.send, Request.send, h.location_eq p, hread]

theorem DifferInKey.agree_sent (h : DifferInKey s s') (p : Prompt) (exchange : Exchange) :
    List.Forall₂ (Request.AgreeExcept s.wire.keyHeader) (s.sent p exchange)
      (s'.sent p exchange) := by
  have harrives : (s.request p).arrives exchange = (s'.request p).arrives exchange := by
    rw [Request.arrives, Request.arrives, h.location_eq p]
  rw [sent, sent, harrives]
  split
  · exact .cons (h.agree_request p) .nil
  · exact .nil

/-! ## Turns -/

theorem turn_eq (s : Settings) (p : Prompt) (n : Network) :
    s.turn p n = (⟨s.sent p n.next, s.chat p n.next⟩,
      ⟨n.upcoming.tail, n.afterwards, n.seen ++ s.sent p n.next⟩) := rfl

theorem turns_cons (s : Settings) (p : Prompt) (rest : List Prompt) (n : Network) :
    s.turns (p :: rest) n =
      ((s.turn p n).1 :: (s.turns rest (s.turn p n).2).1, (s.turns rest (s.turn p n).2).2) := rfl

theorem DifferInKey.agree_turn (h : DifferInKey s s') (p : Prompt) {n n' : Network}
    (hn : n.Agree s.wire.keyHeader n') :
    (s.turn p n).1.answer = (s'.turn p n').1.answer ∧
      List.Forall₂ (Request.AgreeExcept s.wire.keyHeader) (s.turn p n).1.sent
        (s'.turn p n').1.sent ∧
      (s.turn p n).2.Agree s.wire.keyHeader (s'.turn p n').2 := by
  have hsent := h.agree_sent p n.next
  simp only [turn_eq, ← hn.next_eq, h.chat_eq p n.next, true_and]
  refine ⟨hsent, ?_, hn.afterwards, List.rel_append hn.seen hsent⟩
  exact congrArg List.tail hn.upcoming

theorem DifferInKey.agree_turns (h : DifferInKey s s') (prompts : List Prompt) {n n' : Network}
    (hn : n.Agree s.wire.keyHeader n') :
    (s.turns prompts n).1.map Turn.answer = (s'.turns prompts n').1.map Turn.answer ∧
      List.Forall₂ (List.Forall₂ (Request.AgreeExcept s.wire.keyHeader))
        ((s.turns prompts n).1.map Turn.sent) ((s'.turns prompts n').1.map Turn.sent) := by
  induction prompts generalizing n n' with
  | nil => exact ⟨rfl, .nil⟩
  | cons p rest ih =>
    obtain ⟨hanswer, hsent, hnext⟩ := h.agree_turn p hn
    obtain ⟨hanswers, hrequests⟩ := ih hnext
    simp only [turns_cons, List.map_cons, hanswer, hanswers, true_and]
    exact .cons hsent hrequests

/-! ## Requests for diagrams -/

theorem DifferInKey.agree_generate (h : DifferInKey s s') (options : Options)
    (r : DiagramRequest) {n n' : Network} (hn : n.Agree s.wire.keyHeader n') :
    ((s.generator options).generate r n).1 = ((s'.generator options).generate r n').1 ∧
      ((s.generator options).generate r n).2.Agree s.wire.keyHeader
        ((s'.generator options).generate r n').2 := by
  cases hblank : Text.blank r.description.toList with
  | true =>
    rw [Generator.generate_of_blank _ _ _ hblank, Generator.generate_of_blank _ _ _ hblank]
    exact ⟨rfl, hn⟩
  | false =>
    obtain ⟨hanswer, -, hnext⟩ := h.agree_turn (r.prompt options) hn
    rw [Generator.generate_of_some _ _ _ hblank (m := s.chatModel) rfl,
      Generator.generate_of_some _ _ _ hblank (m := s'.chatModel) rfl]
    refine ⟨?_, hnext⟩
    exact congrArg (fun answer : Answer =>
      r.conclude options (answer.mapError DiagramError.model)) hanswer

theorem DifferInKey.agree_generateAll (h : DifferInKey s s') (options : Options)
    (requests : List DiagramRequest) {n n' : Network} (hn : n.Agree s.wire.keyHeader n') :
    ((s.generator options).generateAll requests n).1 =
        ((s'.generator options).generateAll requests n').1 ∧
      ((s.generator options).generateAll requests n).2.Agree s.wire.keyHeader
        ((s'.generator options).generateAll requests n').2 := by
  induction requests generalizing n n' with
  | nil => exact ⟨rfl, hn⟩
  | cons r rest ih =>
    obtain ⟨hresult, hnext⟩ := h.agree_generate options r hn
    obtain ⟨hresults, hlast⟩ := ih hnext
    simp only [Generator.generateAll_cons, hresult, hresults, true_and]
    exact hlast

/-- Nothing but its own header tells one API key from another. -/
theorem indistinguishable_of_differInKey (h : DifferInKey s s') : Indistinguishable s s' where
  answers prompts n := (h.agree_turns prompts (.refl _ n)).1
  sent prompts n := (h.agree_turns prompts (.refl _ n)).2
  results options requests n := (h.agree_generateAll options requests (.refl _ n)).1
  seen options requests n := (h.agree_generateAll options requests (.refl _ n)).2.seen

theorem indistinguishable_responses :
    DifferInKey
        ⟨.openAi, "sk-1", "gpt-4o", .responses, "https://api.openai.com/v1/", ⟨120, 10⟩⟩
        ⟨.openAi, "sk-2\t#", "gpt-4o", .responses, "https://api.openai.com/v1/", ⟨120, 10⟩⟩ ∧
      Indistinguishable
        ⟨.openAi, "sk-1", "gpt-4o", .responses, "https://api.openai.com/v1/", ⟨120, 10⟩⟩
        ⟨.openAi, "sk-2\t#", "gpt-4o", .responses, "https://api.openai.com/v1/", ⟨120, 10⟩⟩ := by
  have h : DifferInKey
      ⟨.openAi, "sk-1", "gpt-4o", .responses, "https://api.openai.com/v1/", ⟨120, 10⟩⟩
      ⟨.openAi, "sk-2\t#", "gpt-4o", .responses, "https://api.openai.com/v1/", ⟨120, 10⟩⟩ :=
    ⟨rfl, by decide, by decide⟩
  exact ⟨h, indistinguishable_of_differInKey h⟩

end Settings

end DiagramStudio
