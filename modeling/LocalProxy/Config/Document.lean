import LocalProxy.Config
import LocalProxy.Yaml.Decode

/-! A configuration as its document spells it, before its values are checked. -/
namespace LocalProxy

open Yaml

/-- An inbound as `type://address` or as a table. -/
inductive InboundForm
  | url (text : String)
  | table (type bindAddress : String)
deriving DecidableEq, Repr

/-- A tunnel as a line of four fields or as a table. -/
inductive TunnelForm
  | line (text : String)
  | table (networks : List String) (address target proxy : String)
deriving DecidableEq, Repr

structure DnsForm where
  enable : Bool := false
  nameserver : List String := []
  timeoutMs : Option Nat := none
deriving DecidableEq, Repr

structure Document where
  ports : Ports := {}
  allowLan : Bool := false
  bindAddress : String := wildcardHost
  mode : Mode := .rule
  logLevel : String := "info"
  externalController : Option String := none
  secret : String := ""
  inbounds : List InboundForm := []
  tunnels : List TunnelForm := []
  rules : List String := []
  dns : DnsForm := {}
deriving DecidableEq, Repr

/-- A value that is a text or a record, and nothing else. -/
def untagged {α : Type} (type : String) (ofText : String → α) (names : List String)
    (ofFields : List (String × Value) → Option α) (path : String) (n : Node) : Result α := do
  let fault := mismatch ("data did not match any variant of untagged enum " ++ type)
  match ← Value.ofNode (Value.maxDepth - 2) path n with
  | .scalar (.text s) => return ofText s
  | .map entries =>
    match (Value.fieldsOf? names entries).bind ofFields with
    | some a => return a
    | none => fault
  | _ => fault

def InboundForm.ofNode : String → Node → Result InboundForm :=
  untagged "RawInbound" .url ["type", "bind-address"] fun fields => do
    return .table (← (← fields.lookup "type").asText?) (← (← fields.lookup "bind-address").asText?)

def TunnelForm.ofNode : String → Node → Result TunnelForm :=
  untagged "RawTunnel" .line ["network", "address", "target", "proxy"] fun fields => do
    return .table (← (← fields.lookup "network").asTexts?)
      (← (← fields.lookup "address").asText?) (← (← fields.lookup "target").asText?)
      (← (← fields.lookup "proxy").asText?)

/-- The members of a mapping, one after the other. -/
def foldEntries {σ : Type} (step : σ → String → Node → Result σ) :
    σ → String → List (Node × Node) → Result σ
  | record, _, [] => .ok record
  | record, path, (k, v) :: es => do
    let key ← match k with
      | .scalar _ _ _ s => pure s
      | k => k.wrong "field identifier" path
    let record ← step record key v
    foldEntries step record path es

def duplicate {α : Type} (key : String) : Result α := mismatch ("duplicate field `" ++ key ++ "`")

namespace DnsForm

/-- Takes one member; `seen` holds the names taken before. -/
def member (path : String) (acc : DnsForm × List String) (key : String) (v : Node) :
    Result (DnsForm × List String) := do
  let (d, seen) := acc
  let inner := memberPath path key
  if key ∈ seen then duplicate key
  else match key with
    | "enable" => return ({ d with enable := ← v.asBool inner }, key :: seen)
    | "nameserver" => return ({ d with nameserver := ← v.listOf Node.text inner }, key :: seen)
    | "timeout-ms" => return ({ d with timeoutMs := ← v.optional Node.asNat inner }, key :: seen)
    | _ =>
      v.sound
      return (d, seen)

def ofNode (path : String) (n : Node) : Result DnsForm :=
  match n with
  | .mapping p _ entries =>
    locate p path ((foldEntries (member path) ({}, []) path entries).map (·.1))
  | n => if n.isEmptyPlain then .ok {} else n.wrong "struct RawDns" path

end DnsForm

namespace Document

/-- A document in the making: the names taken, and the members it does not know yet. -/
structure Draft where
  document : Document := {}
  seen : List String := []
  others : List (String × Value) := []

def member (d : Draft) (key : String) (v : Node) : Result Draft := do
  let doc := d.document
  let taken := fun (doc : Document) => { d with document := doc, seen := key :: d.seen }
  if key ∈ d.seen then duplicate key
  else match key with
    | "allow-lan" => return taken { doc with allowLan := ← v.asBool key }
    | "bind-address" => return taken { doc with bindAddress := ← v.text key }
    | "mode" => return taken { doc with mode := ← v.choice Mode.words key }
    | "log-level" => return taken { doc with logLevel := ← v.text key }
    | "external-controller" =>
      return taken { doc with externalController := ← v.optional Node.text key }
    | "secret" => return taken { doc with secret := ← v.text key }
    | "inbounds" => return taken { doc with inbounds := ← v.listOf InboundForm.ofNode key }
    | "tunnels" => return taken { doc with tunnels := ← v.listOf TunnelForm.ofNode key }
    | "rules" => return taken { doc with rules := ← v.listOf Node.text key }
    | "dns" => return taken { doc with dns := ← DnsForm.ofNode key v }
    | _ =>
      let value ← Value.ofNode (Value.maxDepth - 1) key v
      return { d with others := (key, value) :: d.others }

/-- The ports among the other members, in the document's order. -/
def collectPorts : Ports → List String → List (String × Value) → Result Ports
  | p, _, [] => .ok p
  | p, seen, (key, v) :: rest =>
    if key ∈ InboundType.all.map Ports.key then
      if key ∈ seen then duplicate key
      else do
        let port ← v.asPort
        let p := match key with
          | "port" => { p with http := port }
          | "socks-port" => { p with socks := port }
          | "redir-port" => { p with redir := port }
          | "tproxy-port" => { p with tproxy := port }
          | _ => { p with mixed := port }
        collectPorts p (key :: seen) rest
    else collectPorts p seen rest

def ofEntries (entries : List (Node × Node)) : Result Document := do
  let draft ← foldEntries member {} "" entries
  let ports ← collectPorts {} [] draft.others.reverse
  return { draft.document with ports := ports }

def ofRoot (n : Node) : Result Document :=
  match n with
  | .mapping p _ entries => locate p "" (ofEntries entries)
  | n => if n.isEmptyPlain then .ok {} else n.wrong "struct RawConfig" ""

/-- The document of a text, which an empty text leaves at the defaults. -/
def parse (s : String) : Result Document :=
  match Content.ofText s with
  | .nothing => .ok {}
  | .document root ending => do
    let doc ← ofRoot root
    match ending with
    | .nothing => return doc
    | .broken p => throw (.broken p)
    | .another => throw .anotherDocument

end Document

end LocalProxy
