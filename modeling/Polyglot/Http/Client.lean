import Polyglot.Http.Address
import Polyglot.Source.Basic

/-!
# HTTP client

Sends requests over a connection that is given from outside. Every request says that it wants
JSON, unless the client is given another header for that. A URL that is no address is refused at
once; a path alone is refused when the response is there, because its cookies have no owner.
-/
namespace Polyglot.Http

/-- Performs one exchange: a method and an address are sent, a response comes back. -/
abbrev Exchange (σ : Type) := σ → String → String → σ × Except Failure Response

/-- Why a default header is none. -/
inductive HeaderFault
  /-- a name or a value has a character beyond ASCII -/
  | beyondAscii
  /-- a value is no text -/
  | notText
  deriving DecidableEq, Repr

/-- A default header; its name and its value are texts of ASCII characters. -/
def header (name : String) (value : Value) : Except HeaderFault (String × String) :=
  let isAscii (s : String) : Bool := s.toList.all fun c => c.toNat < 128
  match value with
  | .text s => if isAscii name && isAscii s then .ok (name, s) else .error .beyondAscii
  | _ => .error (if isAscii name then .notText else .beyondAscii)

/-- The accept header of a client with further default headers. -/
def accept (headers : Bundle) : Except HeaderFault String := do
  let all := Entries.update [(.text "Accept", .text "application/json")] headers
  let sent ← all.mapM fun h => header h.1.display h.2
  return String.intercalate ", " ((sent.filter fun h => Text.lower h.1 = "accept").map (·.2))

/-- The accept header of a client without further headers. -/
def usualAccept : String := "application/json"

/-- The failure of a request to a URL that is no address. -/
def refused (fault : AddressFault) : Failure := .plain .badAddress fault.text

/-- The failure of a request to a path alone. -/
def unknownAddress (address : String) : Failure :=
  .plain .badValue ("unknown url type: " ++ Text.quotedString address)

/-- The failure of a request over a client that was closed. -/
def closed : Failure :=
  .plain .unexpected "Cannot send a request, as the client has been closed."

/-- Sends a request, unless the client was closed; the method is sent in upper case. -/
def send {σ : Type} (exchange : Exchange σ) (isClosed : Bool) (method url : String)
    (params : Option Bundle) (world : σ) : σ × Except Failure Response :=
  match address url params with
  | .error fault => (world, .error (refused fault))
  | .ok a =>
      if isClosed then (world, .error closed)
      else
        let (world, reply) := exchange world (Text.upper method) a.text
        if a.isAbsolute then (world, reply)
        else (world, reply.bind fun _ => .error (unknownAddress a.text))

end Polyglot.Http
