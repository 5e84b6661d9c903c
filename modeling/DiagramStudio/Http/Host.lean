import DiagramStudio.Hostname.Name
import DiagramStudio.Http.Host.Ipv4
import DiagramStudio.Http.Host.Ipv6
import DiagramStudio.Http.Percent

/-!
# Hosts

A host is a name or a numeric address. Where the scheme knows its hosts, a name is decoded and
written in ASCII, and a name that ends in a number is an address. Elsewhere a name is only encoded.
Brackets hold an address of 128 bits everywhere.
-/

namespace DiagramStudio.Http

open Text

inductive Host
  | name (t : Text)
  | ipv4 (address : Ipv4)
  | ipv6 (address : Ipv6)
  deriving Repr, DecidableEq

namespace Host

/-- The host in brackets, if the text starts with one. -/
def bracketed? : Text → Option (Option Host)
  | '[' :: rest =>
    some (((stripEnd? [']'] rest).bind Ipv6.ofText?).map Host.ipv6)
  | _ => none

/-- The host of a name in ASCII. -/
def ofName? (name : Text) : Option Host :=
  if name.isEmpty then none
  else if Ipv4.isMeant name then (Ipv4.ofHost? name).map Host.ipv4
  else some (.name name)

/-- Reads a host where the scheme knows its hosts. -/
def ofText? (t : Text) : Option Host :=
  match bracketed? t with
  | some host => host
  | none => ((Percent.decode? t).bind Hostname.write?).bind ofName?

/-- The characters that no host holds. -/
def isForbidden (c : Char) : Bool :=
  ['\x00', '\t', '\n', '\r', ' ', '#', '/', ':', '<', '>', '?', '@', '[', '\x5c', ']', '^',
    '|'].contains c

/-- Reads a host of a scheme that is not known. -/
def ofForeignText? (t : Text) : Option Host :=
  match bracketed? t with
  | some host => host
  | none => if t.any isForbidden then none else some (.name (Percent.encode [] t))

def render : Host → Text
  | name t => t
  | ipv4 address => address.render
  | ipv6 address => '[' :: address.render ++ [']']

end Host

end DiagramStudio.Http
