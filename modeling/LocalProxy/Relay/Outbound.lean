import LocalProxy.Log.Record
import LocalProxy.Traffic.Metadata

/-! Where accepted traffic leaves. A tunnel may name an outbound; all else goes out directly. -/
namespace LocalProxy

inductive Outbound
  | direct
  | reject
  | unknown (name : String)
deriving DecidableEq, Repr

namespace Outbound

def directName : String := "DIRECT"

def rejectName : String := "REJECT"

def ofName (s : String) : Outbound :=
  if s = directName then direct else if s = rejectName then reject else unknown s

end Outbound

namespace Metadata

def outbound (m : Metadata) : Outbound := .ofName (m.specialProxy.getD Outbound.directName)

/-- The destination to dial, or the record of why a connection is dropped at once. -/
def verdict (m : Metadata) : Except Record Target :=
  match m.destination with
  | none => .error (.of .debug "Relay ended with error"
      [("error", .text "connection has no destination")])
  | some target =>
    match m.outbound with
    | .direct => .ok target
    | .reject => .error (.of .debug "Connection rejected" [("destination", .text target.text)])
    | .unknown name => .error (.of .warn "Unknown outbound, connection dropped"
        [("outbound", .text name), ("destination", .text target.text)])

end Metadata

/-- The rule shown for traffic that no other rule was asked about. -/
def fallbackRule : String := "MATCH"

/-- How many accepted connections, and how many datagrams, may wait to be relayed. -/
def ingressCapacity : Nat := 256

end LocalProxy
