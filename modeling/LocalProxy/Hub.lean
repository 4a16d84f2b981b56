import LocalProxy.Config.Check
import LocalProxy.Dns.Resolver
import LocalProxy.Listening.Inbounds
import LocalProxy.Listening.Tunnels
import LocalProxy.Traffic.Statistics

/-! The running state, and the operations that change it: applying a configuration, reading it
anew from its file, patching the general settings, replacing the inbounds, shutting down. -/
namespace LocalProxy

/-- Settings of the command line and the environment. They win over the configuration. -/
structure Overrides where
  externalController : Option String := none
  secret : Option String := none
deriving DecidableEq, Repr

def Overrides.apply (o : Overrides) (g : General) : General :=
  { g with
    externalController := o.externalController.or g.externalController
    secret := o.secret.getD g.secret }

/-- A partial update of the general settings. -/
structure GeneralPatch where
  http : Option UInt16 := none
  socks : Option UInt16 := none
  redir : Option UInt16 := none
  tproxy : Option UInt16 := none
  mixed : Option UInt16 := none
  allowLan : Option Bool := none
  bindAddress : Option String := none
  mode : Option Mode := none
  logLevel : Option Level := none
deriving DecidableEq, Repr

namespace GeneralPatch

/-- What the patch leaves out stays. -/
def merge (p : GeneralPatch) (g : General) : General :=
  { g with
    ports := {
      http := p.http.getD g.ports.http
      socks := p.socks.getD g.ports.socks
      redir := p.redir.getD g.ports.redir
      tproxy := p.tproxy.getD g.ports.tproxy
      mixed := p.mixed.getD g.ports.mixed }
    allowLan := p.allowLan.getD g.allowLan
    bindAddress := p.bindAddress.getD g.bindAddress
    mode := p.mode.getD g.mode
    logLevel := p.logLevel.getD g.logLevel }

def levelWords : List (String × Level) :=
  [Level.debug, .info, .warning, .error, .silent].map fun l => (l.name, l)

def portMember (set : GeneralPatch → Option UInt16 → GeneralPatch) (p : GeneralPatch) :
    Json.Reader GeneralPatch := fun s => do
  let (port, s) ← Json.nullable Json.readPort s
  return (set p port, s)

/-- The members of a patch in JSON; each may be left out or `null`. -/
def members : Json.Fields GeneralPatch :=
  [("port", portMember fun p v => { p with http := v }),
   ("socks-port", portMember fun p v => { p with socks := v }),
   ("redir-port", portMember fun p v => { p with redir := v }),
   ("tproxy-port", portMember fun p v => { p with tproxy := v }),
   ("mixed-port", portMember fun p v => { p with mixed := v }),
   ("allow-lan", fun p s => do
      let (v, s) ← Json.nullable Json.readBool s
      return ({ p with allowLan := v }, s)),
   ("bind-address", fun p s => do
      let (v, s) ← Json.nullable Json.readString s
      return ({ p with bindAddress := v }, s)),
   ("mode", fun p s => do
      let (v, s) ← Json.nullable (Json.readChoice (Mode.words.lookup ·)) s
      return ({ p with mode := v }, s)),
   ("log-level", fun p s => do
      let (v, s) ← Json.nullable (Json.readChoice (levelWords.lookup ·)) s
      return ({ p with logLevel := v }, s))]

def reader : Json.Reader GeneralPatch := Json.readRecord members [] {}

end GeneralPatch

/-- A log record on the log bus. -/
structure LogEvent where
  level : Level
  payload : String
  time : String
deriving DecidableEq, Repr

/-- The outside of a hub: its listeners, its configuration file, and the nameservers. Those that
fail in an exchange are told apart from its outcome, each with its fault, as they are asked. -/
structure Outside (σ : Type) extends Drivers σ where
  configFile : σ → Except FileFault Bytes
  exchange : Dns.Resolver → Dns.Query → σ → Except Dns.ResolveFault Dns.Message × σ
  failures : Dns.Resolver → Dns.Query → σ → List (Endpoint × Dns.ResolveFault) := fun _ _ _ => []

structure Hub (σ : Type) where
  manager : Manager σ
  statistics : Statistics
  logs : Bus LogEvent
  configPath : String
  overrides : Overrides := {}
  general : General := {}
  rules : List Rule := []
  resolver : Option Dns.Resolver := none

def General.binding (g : General) : Binding := ⟨g.allowLan, g.bindAddress⟩

def DnsSettings.resolver? (s : DnsSettings) : Option Dns.Resolver :=
  if s.enable then some ⟨s.nameservers, s.timeoutMs⟩ else none

/-- A configuration on its way into a hub, with what it did so far. -/
structure Application where
  config : Config
  ports : Report InboundSpec := .empty
  inbounds : Report InboundSpec := .empty
  tunnels : Report TunnelEntry := .empty

/-- The parts of an application, in which other tasks see the hub half changed. -/
inductive Stage
  | binding
  | ports
  | inbounds
  | tunnels
  | rules
  | resolver
  | general
  | report
deriving DecidableEq, Repr

namespace Hub

variable {σ : Type}

def create (outside : σ) (configPath : String) (overrides : Overrides) (logBuffer : Nat) :
    Hub σ where
  manager := { outside := outside }
  statistics := .empty
  logs := .create logBuffer
  configPath := configPath
  overrides := overrides

def log (h : Hub σ) (r : Record) : Hub σ := { h with manager := h.manager.log r }

def applied (a : Application) : Record :=
  .of .info "Configuration applied"
    [("ports_created", .int a.ports.created.length),
     ("inbounds_created", .int a.inbounds.created.length),
     ("tunnels_created", .int a.tunnels.created.length),
     ("failed",
       .int (a.ports.failed.length + a.inbounds.failed.length + a.tunnels.failed.length))]

def runStage (d : Drivers σ) (acc : Hub σ × Application) (stage : Stage) : Hub σ × Application :=
  let (h, a) := acc
  match stage with
  | .binding =>
    ({ h with manager := { h.manager with binding := a.config.general.binding } }, a)
  | .ports =>
    let (m, report) := h.manager.replacePorts d a.config.general.ports
    ({ h with manager := m }, { a with ports := report })
  | .inbounds =>
    let (m, report) := h.manager.replaceInbounds d a.config.inbounds
    ({ h with manager := m }, { a with inbounds := report })
  | .tunnels =>
    let (m, report) := h.manager.replaceTunnels d a.config.tunnels
    ({ h with manager := m }, { a with tunnels := report })
  | .rules => ({ h with rules := a.config.rules }, a)
  | .resolver => ({ h with resolver := a.config.dns.resolver? }, a)
  | .general => ({ h with general := a.config.general }, a)
  | .report => (h.log (applied a), a)

def runStages (d : Drivers σ) (h : Hub σ) (a : Application) (stages : List Stage) :
    Hub σ × Application :=
  stages.foldl (runStage d) (h, a)

/-- The stages of a whole configuration. -/
def applyStages : List Stage :=
  [.binding, .ports, .inbounds, .tunnels, .rules, .resolver, .general, .report]

/-- The stages of a change to the general settings. -/
def patchStages : List Stage := [.binding, .ports, .general]

/-- What is applied for a configuration. -/
def application (h : Hub σ) (c : Config) : Application :=
  ⟨{ c with general := h.overrides.apply c.general }, .empty, .empty, .empty⟩

/-- What is applied for a patch. -/
def patching (h : Hub σ) (p : GeneralPatch) : Application :=
  ⟨{ general := p.merge h.general }, .empty, .empty, .empty⟩

def apply (d : Drivers σ) (h : Hub σ) (c : Config) : Hub σ :=
  (runStages d h (h.application c) applyStages).1

/-- Reads the configuration file. A file that is no configuration changes nothing. -/
def readConfig (d : Outside σ) (h : Hub σ) : Except ConfigFault Config :=
  Config.load h.configPath (d.configFile h.manager.outside)

def reload (d : Outside σ) (h : Hub σ) : Except ConfigFault Unit × Hub σ :=
  match h.readConfig d with
  | .error fault => (.error fault, h)
  | .ok c => (.ok (), h.apply d.toDrivers c)

/-- Merges a patch into the general settings and rebuilds the legacy inbounds. -/
def patch (d : Drivers σ) (h : Hub σ) (p : GeneralPatch) : Hub σ :=
  (runStages d h (h.patching p) patchStages).1

/-- Replaces the explicit inbounds. -/
def updateInbounds (d : Drivers σ) (h : Hub σ) (specs : List InboundSpec) :
    Hub σ × Report InboundSpec :=
  let (m, report) := h.manager.replaceInbounds d specs
  ({ h with manager := m }, report)

/-- Closes every listener and asks every connection to close. -/
def shutdown (d : Drivers σ) (h : Hub σ) : Hub σ :=
  let (count, statistics) := h.statistics.closeAll
  { h with manager := h.manager.closeAll d, statistics := statistics }.log
    (.of .info "Listeners closed" [("connections", .int count)])

end Hub

end LocalProxy
