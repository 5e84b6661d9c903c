import DiagramStudio.Http.Exchange
import DiagramStudio.Model.Reply

/-!
# Asking a model

A chat model answers a prompt and may keep state between prompts. The configured provider is one
such model, whose state is the network; a script of answers is another.
-/

namespace DiagramStudio

/-- The outcome of asking a model. -/
abbrev Answer := Except ModelError Completion

/-- A model that can be asked, with state `σ`. -/
structure ChatModel (σ : Type) where
  ask : Prompt → σ → Answer × σ

namespace Settings

/-- The outcome of a reply: anything but status 200 is an error of the provider. -/
def readReply (s : Settings) (reply : Http.Reply) : Answer :=
  if reply.status = 200 then s.wire.readReply reply.body
  else .error (.status reply.status (String.ofList reply.body))

/-- The outcome of one request, given what the other side does. -/
def chat (s : Settings) (p : Prompt) (exchange : Http.Exchange) : Answer :=
  match (s.request p).send exchange with
  | .error failure => .error (.transport failure.message)
  | .ok reply => s.readReply reply

/-- The requests that the other side sees: one, or none if the request never arrives. -/
def sent (s : Settings) (p : Prompt) (exchange : Http.Exchange) : List Http.Request :=
  if (s.request p).arrives exchange then [s.request p] else []

end Settings

/-- What the other side does with the requests still to come, and the requests seen so far. -/
structure Network where
  /-- One exchange per request, in order. -/
  upcoming : List Http.Exchange
  /-- What happens once these run out. -/
  afterwards : Http.Exchange
  /-- The requests seen, in order. -/
  seen : List Http.Request

namespace Network

def next (n : Network) : Http.Exchange := n.upcoming.head?.getD n.afterwards

end Network

/-- One turn of a conversation: the requests that the other side saw, and the outcome. -/
structure Turn where
  sent : List Http.Request
  answer : Answer

namespace Settings

/-- One turn, which takes one exchange. -/
def turn (s : Settings) (p : Prompt) (n : Network) : Turn × Network :=
  let sent := s.sent p n.next
  (⟨sent, s.chat p n.next⟩, { n with upcoming := n.upcoming.tail, seen := n.seen ++ sent })

def turns (s : Settings) : List Prompt → Network → List Turn × Network
  | [], n => ([], n)
  | p :: rest, n =>
    let (turn, n) := s.turn p n
    let (later, n) := s.turns rest n
    (turn :: later, n)

/-- The configured provider as a model. -/
def chatModel (s : Settings) : ChatModel Network where
  ask p n :=
    let (turn, n) := s.turn p n
    (turn.answer, n)

end Settings

/-- The answers that a scripted model has left, and the prompts it was given. -/
structure Script where
  answers : List Answer
  prompts : List Prompt

namespace Script

/-- The reply of a script that has run out: no content from an unnamed model. -/
def empty : Completion := ⟨[], "", "", 0, 0⟩

/-- A model that gives its answers in order, one per prompt. -/
def chatModel : ChatModel Script where
  ask p script :=
    match script.answers with
    | [] => (.ok empty, { script with prompts := script.prompts ++ [p] })
    | answer :: rest => (answer, ⟨rest, script.prompts ++ [p]⟩)

end Script

end DiagramStudio
