/-
  Server addresses — a host and a port.

  An address is written `host:port`; `Address.parse` reads that form, splitting
  at the last colon, and takes a text without colon for a host with the usual
  port.
-/
import DocumentClient.Invalid
import DocumentClient.Text.Split

namespace DocumentClient

/-- The network address of a server. -/
structure Address where
  host : String := "127.0.0.1"
  port : Int := 27017
  deriving DecidableEq

namespace Address

/-- An address as `host:port`. -/
def text (a : Address) : String := a.host ++ ":" ++ toString a.port

/-- Reads `host:port`, or a host alone. -/
def parse (s : String) : Except Invalid Address :=
  match Text.splitLast ':' s.toList with
  | none => .ok { host := s }
  | some (host, port) =>
    (readWhole (String.ofList port)).map fun n => ⟨String.ofList host, n⟩

end Address

end DocumentClient
