import DiagramStudio.Http.Url
import DiagramStudio.Json.Value

/-!
# Requests

A request posts a JSON body to an address. It can be sent if the address is absolute and names a
host of the web, and if every header value is printable. Credentials in the address are not sent
as part of it.
-/

namespace DiagramStudio.Http

open Text

/-- A request that posts JSON. -/
structure Request where
  address : String
  headers : List (String × String)
  body : Json.Value
  deriving Repr, BEq

/-- Why a request cannot be sent. -/
inductive Unsendable
  /-- The address is not absolute. -/
  | relativeAddress
  /-- The address names no host, is not one of the web or cannot be written in a request. -/
  | foreignAddress (url : Url)
  /-- A header value holds a control character. -/
  | unprintableHeader
  deriving Repr, DecidableEq

namespace Unsendable

def message : Unsendable → String
  | relativeAddress => "builder error"
  | foreignAddress url => "builder error for url (" ++ String.ofList url.render ++ ")"
  | unprintableHeader => "builder error"

end Unsendable

/-- A header value holds no control character but the tab. -/
def isHeaderValue (value : String) : Bool :=
  value.toList.all fun c => c == '\t' || (0x20 ≤ c.toNat && c.toNat != 0x7F)

namespace Request

/-- The address in parts, if the request can be sent. -/
def location (r : Request) : Except Unsendable Url :=
  match Url.parse? r.address.toList with
  | none => .error .relativeAddress
  | some given =>
    let url := given.withoutCredentials
    if url.host.isNone then .error (.foreignAddress url)
    else if !r.headers.all fun header => isHeaderValue header.2 then .error .unprintableHeader
    else if !url.isWeb || !url.isRequestable then .error (.foreignAddress url)
    else .ok url

end Request

end DiagramStudio.Http
