import LocalProxy.Events.Level
import LocalProxy.Inbound
import LocalProxy.Json
import LocalProxy.Rule
import LocalProxy.Tunnel

/-! A validated configuration, and what may be wrong with one. -/
namespace LocalProxy

inductive Mode
  | rule
  | global
  | direct
deriving DecidableEq, Repr, Inhabited

namespace Mode

def name : Mode → String
  | rule => "rule"
  | global => "global"
  | direct => "direct"

def words : List (String × Mode) := [("rule", rule), ("global", global), ("direct", direct)]

end Mode

/-- The general settings. An empty secret asks for no authentication. -/
structure General where
  ports : Ports := {}
  allowLan : Bool := false
  bindAddress : String := wildcardHost
  mode : Mode := .rule
  logLevel : Level := .info
  externalController : Option String := none
  secret : String := ""
deriving DecidableEq, Repr, Inhabited

namespace Ports

def members (p : Ports) : List (String × Json) :=
  p.entries.map fun (type, port) => (key type, .nat port.toNat)

end Ports

/-- The settings as listings show them: without the secret, and with the controller only
where one is set. -/
def General.json (g : General) : Json :=
  .obj (g.ports.members ++
    [("allow-lan", .bool g.allowLan), ("bind-address", .str g.bindAddress),
     ("mode", .str g.mode.name), ("log-level", .str g.logLevel.name)] ++
    match g.externalController with
    | some address => [("external-controller", .str address)]
    | none => [])

/-- How long a nameserver is waited for unless the document says otherwise, in milliseconds. -/
def defaultDnsTimeoutMs : Nat := 5000

/-- The settings of the resolver; a disabled one is not installed. -/
structure DnsSettings where
  enable : Bool := false
  nameservers : List Endpoint := []
  timeoutMs : Nat := defaultDnsTimeoutMs
deriving DecidableEq, Repr

structure Config where
  general : General := {}
  inbounds : List InboundSpec := []
  tunnels : List TunnelSpec := []
  rules : List Rule := []
  dns : DnsSettings := {}
deriving DecidableEq, Repr

/-- A value that reads well and means nothing valid. -/
inductive Defect
  | logLevel (name : String)
  | inboundUrl (url : String)
  | inboundType (name : String)
  | tunnelLine (line : String)
  | tunnelNetwork (name : String)
  | tunnelWithoutNetwork (address : String)
  | tunnelEmptyField
  | rule (fault : RuleFault)
  | nameserverScheme (text : String)
  | nameserver (text : String)
  | noNameserver
deriving DecidableEq, Repr

def Defect.message : Defect → String
  | logLevel name => "log-level: " ++ Level.unknownMessage name
  | inboundUrl url => "inbound `" ++ url ++ "` is not of the form type://address"
  | inboundType name => "inbound: " ++ InboundType.unknownMessage name
  | tunnelLine line => "tunnel `" ++ line ++ "` needs network,address,target,proxy"
  | tunnelNetwork name => "tunnel network `" ++ name ++ "`"
  | tunnelWithoutNetwork address => "tunnel " ++ address ++ " has no network"
  | tunnelEmptyField => "tunnel fields must not be empty"
  | rule fault => fault.message
  | nameserverScheme s => "nameserver `" ++ s ++ "`: only plain UDP is supported"
  | nameserver s => "nameserver `" ++ s ++ "`"
  | noNameserver => "dns is enabled but no nameserver is set"

inductive ConfigFault
  | unreadable (path reason : String)
  | emptyFile (path : String)
  | unparsable (reason : String)
  | invalid (defect : Defect)
deriving DecidableEq, Repr

def ConfigFault.message : ConfigFault → String
  | unreadable path reason => "failed to read " ++ path ++ ": " ++ reason
  | emptyFile path => "configuration file " ++ path ++ " is empty"
  | unparsable reason => "failed to parse configuration: " ++ reason
  | invalid defect => "invalid configuration: " ++ defect.message

/-- The fault and what is behind it. -/
def ConfigFault.causes (fault : ConfigFault) : List String :=
  match fault with
  | unreadable _ reason | unparsable reason => [fault.message, reason]
  | emptyFile _ | invalid _ => [fault.message]

end LocalProxy
