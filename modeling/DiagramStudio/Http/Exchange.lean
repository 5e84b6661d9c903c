import DiagramStudio.Http.Request
import DiagramStudio.Text.Utf8

/-!
# Exchanges

What becomes of a request that was sent, and what its sender learns of it.
-/

namespace DiagramStudio.Http

/-- What the other side does when a request is sent to it. -/
inductive Exchange
  /-- No connection is made, so the request is never seen. -/
  | unreachable
  /-- The connection closes without a reply. -/
  | dropped
  /-- The reply ends before its body does: its status, and the part of the body that came. -/
  | truncated (status : UInt16 := 200) (received : List UInt8 := [])
  /-- A complete reply. -/
  | reply (status : UInt16) (body : List UInt8)
  deriving Repr, DecidableEq

/-- Why there is no complete reply. -/
inductive Failure
  | unsendable (reason : Unsendable)
  | unanswered (url : Url)
  | incomplete
  deriving Repr, DecidableEq

namespace Failure

/-- What is reported of a request without a complete reply. -/
def message : Failure → String
  | unsendable reason => reason.message
  | unanswered url =>
    "error sending request for url (" ++ String.ofList url.render ++ ")"
  | incomplete => "error decoding response body"

end Failure

/-- A reply: its status and its body, decoded. -/
structure Reply where
  status : UInt16
  body : Text
  deriving Repr, DecidableEq

namespace Request

/-- What the sender of a request learns. Without its whole body a reply counts for nothing,
whatever its status. -/
def send (r : Request) (exchange : Exchange) : Except Failure Reply :=
  match r.location with
  | .error reason => .error (.unsendable reason)
  | .ok url =>
    match exchange with
    | .unreachable => .error (.unanswered url)
    | .dropped => .error (.unanswered url)
    | .truncated _ _ => .error .incomplete
    | .reply status body => .ok ⟨status, Text.Utf8.decodeLossy body⟩

/-- True if the other side sees the request. -/
def arrives (r : Request) (exchange : Exchange) : Bool :=
  match r.location with
  | .error _ => false
  | .ok _ => exchange != .unreachable

end Request

end DiagramStudio.Http
