import DiagramStudio.Http.Host
import DiagramStudio.Http.Path

/-!
# Authorities

The authority of an address says whom to ask: credentials before an at sign, a host, and the number
of the listener after a colon. Credentials are kept in percent-encoded form. An empty host is
possible where the scheme does not need one, but then there is nothing else.
-/

namespace DiagramStudio.Http

open Text

/-- A user and a secret, percent-encoded. -/
structure Credentials where
  user : Text
  secret : Text
  deriving Repr, DecidableEq

namespace Credentials

/-- What credentials cannot hold as it is. -/
def set : List Char :=
  Path.set ++ ['/', ':', ';', '=', '@', '[', '\x5c', ']', '^', '|']

def absent : Credentials := ⟨[], []⟩

/-- Reads what stands before the at sign. The first colon ends the user. -/
def ofText (t : Text) : Credentials :=
  let (user, secret) := (cut? [':'] t).getD (t, [])
  ⟨Percent.encode set user, Percent.encode set secret⟩

/-- The credentials before the last at sign of a text, and what follows it. -/
def split (t : Text) : Credentials × Text :=
  match cutLast? '@' t with
  | some (before, after) => (ofText before, after)
  | none => (absent, t)

/-- Credentials with a user or a secret that can be read. -/
def areUsable (c : Credentials) : Bool :=
  match Percent.decode? c.user with
  | none => false
  | some user => !user.isEmpty || (!c.secret.isEmpty && (Percent.decode? c.secret).isSome)

/-- The credentials as they are shown, with the at sign. -/
def render (c : Credentials) : Text :=
  if c = absent then []
  else c.user ++ (if c.secret.isEmpty then [] else ':' :: c.secret) ++ ['@']

end Credentials

/-- Whom an address asks. The listener is the number after the host, unless it is the one that the
scheme implies. -/
structure Authority where
  credentials : Credentials
  host : Option Host
  listener : Option Nat
  deriving Repr, DecidableEq

namespace Authority

/-- The authority without a host. -/
def empty : Authority := ⟨.absent, none, none⟩

/-- The host of a text, and what follows it. A colon between brackets belongs to the host. -/
def splitHost (inBrackets : Bool) : Text → Text × Text
  | [] => ([], [])
  | c :: t =>
    if c = ':' && !inBrackets then ([], c :: t)
    else
      let rest := splitHost (c = '[' || (inBrackets && c != ']')) t
      (c :: rest.1, rest.2)

/-- The number after a host, which may be left out. -/
def listener? (t : Text) : Option (Option Nat) :=
  if t.isEmpty then some none
  else ((digits? t).filter (· < Nat.pow 2 16)).map some

/-- Reads an authority of a scheme that needs a host and implies a listener. -/
def ofText? (standard : Nat) (t : Text) : Option Authority :=
  let (credentials, place) := Credentials.split t
  let (name, rest) := splitHost false place
  match Host.ofText? name, listener? (rest.drop 1) with
  | some host, some listener => some ⟨credentials, some host, listener.filter (· != standard)⟩
  | _, _ => none

/-- Reads an authority of a scheme that is not known, and what follows the number of its listener
after a backslash. `isLast` is true if nothing follows the text. -/
def ofForeignText? (isLast : Bool) (t : Text) : Option (Authority × Text) :=
  let (credentials, place) := Credentials.split t
  let (name, rest) := splitHost false place
  let (number, more) := breakAt (· == '\x5c') (rest.drop 1)
  if name.isEmpty then
    if rest.isEmpty && credentials == .absent && (isLast || t != ['@']) then
      some (empty, [])
    else none
  else
    match Host.ofForeignText? name, listener? number with
    | some host, some listener => some (⟨credentials, some host, listener⟩, more)
    | _, _ => none

def render (a : Authority) : Text :=
  let host :=
    match a.host with
    | some host => host.render
    | none => []
  let listener :=
    match a.listener with
    | some number => ':' :: decimal number
    | none => []
  a.credentials.render ++ host ++ listener

end Authority

end DiagramStudio.Http
