import LocalProxy.Proofs.Listening.Repetition

/-! What becomes of each tunnel when some are requested. An entry on one network has a fate of its
own: what it had, whether it is requested, whether its target is one, and the answer to its own call
decide it, and no other entry has a part in it, that of the same key on the other network
included. -/
namespace LocalProxy

variable {σ : Type} {d : Drivers σ}

namespace TunnelEntry

/-- Why an entry is not opened: its target is none, or its listener was refused. -/
def Excuse (asked : List Call) (e : TunnelEntry) (reason : String) : Prop :=
  (∃ fault, Target.parse e.key.target = .error fault ∧ reason = fault.message) ∨
    ∃ fault, .listen e.network e.service (.error fault) ∈ asked ∧ reason = fault.message

theorem Excuse.mono {asked all : List Call} {e : TunnelEntry} {reason : String}
    (sub : asked ⊆ all) :
    e.Excuse asked reason → e.Excuse all reason
  | .inl bad => .inl bad
  | .inr ⟨fault, refused, told⟩ => .inr ⟨fault, sub refused, told⟩

end TunnelEntry

namespace Manager

section Replacing

variable {m : Manager σ} {requested : List TunnelEntry} {out : Manager σ × Report TunnelEntry}
  {asked : List Call} {e : TunnelEntry}

end Replacing

end Manager

end LocalProxy
