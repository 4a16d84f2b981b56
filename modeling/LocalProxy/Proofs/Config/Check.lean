import LocalProxy.Config.Check

/-! What the check of a document lets through. -/
namespace LocalProxy

/-- A bind that gives a value has a first part that does. -/
theorem Except.bind_ok {ε α β : Type} {x : Except ε α} {f : α → Except ε β} {b : β}
    (given : (x >>= f) = .ok b) : ∃ a, x = .ok a ∧ f a = .ok b := by
  cases x with
  | error e => cases given
  | ok a => exact ⟨a, rfl, given⟩

theorem map_of_mapM {ε α β : Type} {f : α → Except ε β} {as : List α} {bs : List β}
    (all : as.mapM f = .ok bs) : as.map f = bs.map .ok := by
  induction as generalizing bs with
  | nil =>
    cases all
    rfl
  | cons a as ih =>
    rw [List.mapM_cons] at all
    obtain ⟨first, checked, all⟩ := Except.bind_ok all
    obtain ⟨rest, others, all⟩ := Except.bind_ok all
    cases all
    rw [List.map_cons, List.map_cons, checked, ih others]

theorem mem_of_mapM {ε α β : Type} {f : α → Except ε β} {as : List α} {bs : List β}
    (all : as.mapM f = .ok bs) {b : β} (member : b ∈ bs) : ∃ a ∈ as, f a = .ok b := by
  have listed : .ok b ∈ as.map f := map_of_mapM all ▸ List.mem_map_of_mem member
  exact List.mem_map.mp listed

theorem InboundForm.check_legacy {form : InboundForm} {spec : InboundSpec}
    (checked : form.check = .ok spec) : spec.legacy = false := by
  cases form with
  | url s =>
    obtain ⟨⟨scheme, address⟩, _, typed⟩ := Except.bind_ok checked
    dsimp only at typed
    split at typed
    · cases typed
      rfl
    · cases typed
  | table type address =>
    obtain ⟨⟨scheme, address⟩, _, typed⟩ := Except.bind_ok checked
    dsimp only at typed
    split at typed
    · cases typed
      rfl
    · cases typed

/-- None of the inbounds of a configuration stands for a port. -/
def Config.Explicit (c : Config) : Prop := ∀ spec ∈ c.inbounds, spec.legacy = false

theorem Document.check_explicit {document : Document} {c : Config}
    (checked : document.check = .ok c) : c.Explicit := by
  obtain ⟨_, _, checked⟩ := Except.bind_ok checked
  obtain ⟨inbounds, forms, checked⟩ := Except.bind_ok checked
  obtain ⟨_, _, checked⟩ := Except.bind_ok checked
  obtain ⟨_, _, checked⟩ := Except.bind_ok checked
  obtain ⟨_, _, checked⟩ := Except.bind_ok checked
  cases checked
  intro spec member
  obtain ⟨form, _, valid⟩ := mem_of_mapM forms member
  exact form.check_legacy valid

/-- What a file says was checked. -/
theorem Config.load_explicit {path : String} {file : Except FileFault Bytes} {c : Config}
    (loaded : Config.load path file = .ok c) : c.Explicit := by
  have parsed : ∀ s, Config.parse s = .ok c → c.Explicit := by
    intro s parsed
    unfold Config.parse at parsed
    split at parsed
    · cases parsed
    · rename_i document _
      cases checked : document.check with
      | error defect =>
        rw [checked] at parsed
        cases parsed
      | ok other =>
        rw [checked] at parsed
        exact Except.ok.inj parsed ▸ document.check_explicit checked
  unfold Config.load at loaded
  split at loaded
  · cases loaded
  · split at loaded
    · cases loaded
    · split at loaded
      · cases loaded
      · exact parsed _ loaded

end LocalProxy
