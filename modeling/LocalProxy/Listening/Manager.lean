import LocalProxy.Listening.Handle
import LocalProxy.Log.Record
import LocalProxy.Reconcile

/-! The owner of every listener. It keeps the open handles, one per network and service, and
journals each call to the outside and each log record. -/
namespace LocalProxy

/-- Host and LAN policy of the legacy listeners. -/
structure Binding where
  allowLan : Bool := false
  bindHost : String := wildcardHost
deriving DecidableEq, Repr, Inhabited

structure Manager (σ : Type) where
  outside : σ
  serial : Nat := 0
  handles : List Handle := []
  binding : Binding := {}
  calls : List Call := []
  records : List Record := []

namespace Manager

variable {σ : Type}

def log (m : Manager σ) (r : Record) : Manager σ := { m with records := m.records ++ [r] }

def handle? (m : Manager σ) (network : Network) (service : Service) : Option Handle :=
  m.handles.find? fun h => h.network == network && h.service == service

/-- Keeps a handle under its network and service. -/
def keep (m : Manager σ) (h : Handle) : Manager σ :=
  { m with handles :=
      m.handles.filter (fun x => !(x.network == h.network && x.service == h.service)) ++ [h] }

/-- Asks for a listener, whose handle is not kept yet. -/
def listen (d : Drivers σ) (m : Manager σ) (network : Network) (service : Service) :
    Except OpenFault Handle × Manager σ :=
  match d.listen network service m.outside with
  | (.ok bound, outside) =>
    let h : Handle := ⟨m.serial, network, service, bound⟩
    (.ok h, { m with
      outside := outside
      serial := m.serial + 1
      calls := m.calls ++ [.listen network service (.ok h)] })
  | (.error e, outside) =>
    (.error e, { m with
      outside := outside
      calls := m.calls ++ [.listen network service (.error e)] })

/-- Closes a handle, kept or not. -/
def close (d : Drivers σ) (m : Manager σ) (h : Handle) : Option String × Manager σ :=
  let (failure, outside) := d.close h m.outside
  (failure, { m with outside := outside, calls := m.calls ++ [.close h failure] })

/-- Gives up the handle of a network and service, if there is one: it is no longer kept,
whatever its closing says. -/
def release (d : Drivers σ) (m : Manager σ) (network : Network) (service : Service) :
    Option String × Manager σ :=
  match m.handle? network service with
  | none => (none, m)
  | some h =>
    close d { m with handles :=
      m.handles.filter fun x => !(x.network == network && x.service == service) } h

end Manager

end LocalProxy
