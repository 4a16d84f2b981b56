import LocalProxy.Config.Document
import LocalProxy.Files

/-! The checks that make a document a configuration. -/
namespace LocalProxy

/-- The inbound of a form; it is never a legacy one. -/
def InboundForm.check (form : InboundForm) : Except Defect InboundSpec := do
  let (scheme, address) ← match form with
    | .url s => (Text.splitOnce "://" s).elim (.error (.inboundUrl s)) .ok
    | .table type address => .ok (type, address)
  match InboundType.parse scheme with
  | .ok type => return ⟨type, address, false⟩
  | .error name => throw (.inboundType name)

namespace TunnelForm

/-- The fields of a tunnel: its networks, address, target and proxy. -/
def split : TunnelForm → Except Defect (List String × String × String × String)
  | line s =>
    match (Text.fields ',' s).map Text.trim with
    | [networks, address, target, proxy] =>
      .ok (Text.fields '/' networks, address, target, proxy)
    | _ => .error (.tunnelLine s)
  | table networks address target proxy => .ok (networks, address, target, proxy)

def network (name : String) : Except Defect Network :=
  (Network.parse name).mapError fun _ => .tunnelNetwork name

def check (form : TunnelForm) : Except Defect TunnelSpec := do
  let (networks, address, target, proxy) ← form.split
  let networks ← networks.mapM network
  if networks = [] then throw (.tunnelWithoutNetwork address)
  if address = "" ∨ target = "" ∨ proxy = "" then throw .tunnelEmptyField
  return ⟨networks, address, target, proxy⟩

end TunnelForm

/-- A nameserver: an address with the port 53, or an endpoint. -/
def checkNameserver (s : String) : Except Defect Endpoint :=
  let address := (Text.stripStart "udp://" s).getD s
  if (Text.splitOnce "://" address).isSome then .error (.nameserverScheme s)
  else match IpAddress.parse? address with
    | some ip => .ok (.ofIp ip 53)
    | none => (Endpoint.parse? address).elim (.error (.nameserver s)) .ok

def DnsForm.check (form : DnsForm) : Except Defect DnsSettings := do
  let nameservers ← form.nameserver.mapM checkNameserver
  if form.enable ∧ nameservers = [] then throw .noNameserver
  return ⟨form.enable, nameservers, form.timeoutMs.getD defaultDnsTimeoutMs⟩

namespace Document

def logLevel? (d : Document) : Except Defect Level :=
  (Level.parse d.logLevel).mapError .logLevel

/-- The configuration of a document. Of several defects the first counts, in the order log
level, inbounds, tunnels, rules, resolver. -/
def check (d : Document) : Except Defect Config := do
  let level ← d.logLevel?
  let inbounds ← d.inbounds.mapM InboundForm.check
  let tunnels ← d.tunnels.mapM TunnelForm.check
  let rules ← d.rules.mapM fun line => (Rule.parse line).mapError .rule
  let dns ← d.dns.check
  return {
    general := {
      ports := d.ports
      allowLan := d.allowLan
      bindAddress := d.bindAddress
      mode := d.mode
      logLevel := level
      externalController := d.externalController.filter (· ≠ "")
      secret := d.secret }
    inbounds := inbounds
    tunnels := tunnels
    rules := rules
    dns := dns }

end Document

namespace Config

def parse (s : String) : Except ConfigFault Config :=
  match Document.parse s with
  | .error fault => .error (.unparsable fault.message)
  | .ok d => d.check.mapError .invalid

/-- The configuration in a file that was read, whose octets are text. -/
def load (path : String) (file : Except FileFault Bytes) : Except ConfigFault Config :=
  match file with
  | .error fault => .error (.unreadable path fault.message)
  | .ok bytes =>
    match Text.ofUtf8? bytes with
    | none => .error (.unreadable path "stream did not contain valid UTF-8")
    | some s => if s = "" then .error (.emptyFile path) else parse s

end Config

end LocalProxy
