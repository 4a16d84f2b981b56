import LocalProxy.Listening.Manager

/-! The inbound listeners: what runs, and how it is turned into what is wanted. -/
namespace LocalProxy

open Manager

namespace InboundSpec

def logName (s : InboundSpec) : String × FieldValue := ("inbound", .text s.label)

end InboundSpec

namespace Manager

variable {σ : Type}

def specOf (h : Handle) : Option InboundSpec :=
  match h.service with
  | .inbound spec => some spec
  | .tunnel _ => none

/-- Every running inbound once, sorted. -/
def inbounds (m : Manager σ) : List InboundSpec :=
  InboundSpec.sort (m.handles.filterMap specOf).eraseDups

def explicitInbounds (m : Manager σ) : List InboundSpec := m.inbounds.filter (!·.legacy)

def legacyInbounds (m : Manager σ) : List InboundSpec := m.inbounds.filter (·.legacy)

def boundOf (m : Manager σ) (network : Network) (spec : InboundSpec) : Option Endpoint :=
  (m.handle? network (.inbound spec)).map (·.bound)

/-- Closes both listeners of an inbound, TCP first. -/
def closeSpec (d : Drivers σ) (m : Manager σ) (spec : InboundSpec) : Manager σ :=
  [Network.tcp, Network.udp].foldl (fun m network =>
    match m.release d network (.inbound spec) with
    | (none, m) => m
    | (some reason, m) => m.log (.of .warn "Inbound close failed"
        [spec.logName, ("network", .text network.name), ("error", .text reason)])) m

/-- The listeners of one inbound. -/
structure Pair where
  tcp : Option Handle
  udp : Option Handle
deriving DecidableEq, Repr

/-- The endpoint that stands for the inbound, TCP before UDP. -/
def Pair.bound (p : Pair) : String :=
  ((p.tcp.map (·.bound.text)).or (p.udp.map (·.bound.text))).getD ""

/-- Asks for a listener on a network where the type has one. -/
def listenIfServed (d : Drivers σ) (m : Manager σ) (network : Network) (spec : InboundSpec) :
    Except OpenFault (Option Handle) × Manager σ :=
  if d.serves network spec.type then
    match m.listen d network (.inbound spec) with
    | (.ok h, m) => (.ok (some h), m)
    | (.error e, m) => (.error e, m)
  else (.ok none, m)

/-- Closes the TCP listener of an inbound whose UDP listener failed. -/
def rollBack (d : Drivers σ) (m : Manager σ) (spec : InboundSpec) : Option Handle → Manager σ
  | none => m
  | some h =>
    match m.close d h with
    | (none, m) => m
    | (some reason, m) => m.log (.of .warn "Failed to roll back tcp listener"
        [spec.logName, ("error", .text reason)])

/-- Opens the listeners of an inbound, both or none. -/
def openSpec (d : Drivers σ) (m : Manager σ) (spec : InboundSpec) :
    Except OpenFault Pair × Manager σ :=
  if spec.port? = none then (.error (.port spec.bindAddress), m)
  else if !d.serves .tcp spec.type && !d.serves .udp spec.type then
    (.error (.unsupported spec.type), m)
  else match listenIfServed d m .tcp spec with
    | (.error e, m) => (.error e, m)
    | (.ok tcp, m) =>
      match listenIfServed d m .udp spec with
      | (.error e, m) => (.error e, rollBack d m spec tcp)
      | (.ok udp, m) => (.ok ⟨tcp, udp⟩, m)

def keepPair (m : Manager σ) (p : Pair) : Manager σ :=
  (p.tcp.toList ++ p.udp.toList).foldl keep m

def closeInbound (d : Drivers σ) (acc : Manager σ × Report InboundSpec) (spec : InboundSpec) :
    Manager σ × Report InboundSpec :=
  let (m, report) := acc
  ((closeSpec d m spec).log (.of .info "Inbound closed"
      [spec.logName, ("legacy", .flag spec.legacy)]),
    { report with closed := report.closed ++ [spec] })

def createInbound (d : Drivers σ) (acc : Manager σ × Report InboundSpec) (spec : InboundSpec) :
    Manager σ × Report InboundSpec :=
  let (m, report) := acc
  match openSpec d m spec with
  | (.ok p, m) =>
    ((m.keepPair p).log (.of .info "Inbound created"
        [spec.logName, ("bound", .text p.bound), ("legacy", .flag spec.legacy)]),
      { report with created := report.created ++ [spec] })
  | (.error e, m) =>
    (m.log (.of .error "Inbound create failed" [spec.logName, ("error", .text e.message)]),
      { report with failed := report.failed ++ [(spec, e.message)] })

/-- Turns the running inbounds into the wanted ones. Every close comes before the first
open. -/
def reconcileInbounds (d : Drivers σ) (m : Manager σ) (wanted : List InboundSpec) :
    Manager σ × Report InboundSpec :=
  let plan := Plan.between m.inbounds wanted
  plan.create.foldl (createInbound d) (plan.close.foldl (closeInbound d) (m, .empty))

/-- Replaces the explicit inbounds. What runs for a port setting stays. -/
def replaceInbounds (d : Drivers σ) (m : Manager σ) (wanted : List InboundSpec) :
    Manager σ × Report InboundSpec :=
  m.reconcileInbounds d (wanted ++ m.legacyInbounds)

/-- Replaces the legacy inbounds by those of the ports, under the current binding. -/
def replacePorts (d : Drivers σ) (m : Manager σ) (ports : Ports) :
    Manager σ × Report InboundSpec :=
  m.reconcileInbounds d
    (m.explicitInbounds ++ ports.toInbounds m.binding.bindHost m.binding.allowLan)

end Manager

end LocalProxy
