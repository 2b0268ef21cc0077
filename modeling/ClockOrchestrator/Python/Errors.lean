import Mathlib.Tactic.Common

namespace Python

inductive PyError where
  | valueError (message : String)
  | unicodeDecodeError
  | overflowError (message : String)
  | integrityError (constraint : String)
  deriving DecidableEq, Repr

def PyError.isValueError : PyError → Bool
  | .valueError _ => true
  | .unicodeDecodeError => true
  | .overflowError _ => false
  | .integrityError _ => false

def PyError.text : PyError → String
  | .valueError message => message
  | .unicodeDecodeError => "'utf-8' codec can't decode the payload"
  | .overflowError message => message
  | .integrityError constraint => constraint

theorem bind_ok {α β : Type} {x : Except PyError α} {f : α → Except PyError β} {r : β}
    (h : x >>= f = .ok r) : ∃ a, x = .ok a ∧ f a = .ok r := by
  cases x with
  | error e => cases h
  | ok a => exact ⟨a, rfl, h⟩

theorem exists_bind_ok {α β : Type} {x : Except PyError α} {f : α → Except PyError β} :
    (∃ r, x >>= f = .ok r) ↔ ∃ a, x = .ok a ∧ ∃ r, f a = .ok r := by
  cases x with
  | error e => simp [bind, Except.bind]
  | ok a => simp [bind, Except.bind]

theorem toOption_eq_some {ε α : Type} {x : Except ε α} {a : α} :
    x.toOption = some a ↔ x = .ok a := by
  cases x <;> simp [Except.toOption]

theorem map_ok {α β : Type} {x : Except PyError α} {f : α → β} {r : β}
    (h : x.map f = .ok r) : ∃ a, x = .ok a ∧ f a = r := by
  cases x with
  | error e => cases h
  | ok a => exact ⟨a, rfl, Except.ok.inj h⟩

variable {S ι : Type} {f : S → ι → Except PyError S}

theorem foldlM_rest {P : List ι → S → Prop}
    (hstep : ∀ x rest s s', f s x = .ok s' → P (x :: rest) s → P rest s')
    {items : List ι} {s t : S} (h : items.foldlM f s = .ok t) (hs : P items s) : P [] t := by
  induction items generalizing s with
  | nil =>
      cases h
      exact hs
  | cons x rest ih =>
      rw [List.foldlM_cons] at h
      obtain ⟨m, hm, hrest⟩ := bind_ok h
      exact ih hrest (hstep x rest s m hm hs)

theorem foldlM_invariant {I : S → Prop} {items : List ι}
    (hstep : ∀ x ∈ items, ∀ s s', f s x = .ok s' → I s → I s')
    {s t : S} (h : items.foldlM f s = .ok t) (hs : I s) : I t := by
  have hrun := foldlM_rest (P := fun rest s => (∀ x ∈ rest, x ∈ items) ∧ I s)
    (fun x rest s s' hx ⟨hm, hi⟩ =>
      ⟨fun y hy => hm y (List.mem_cons_of_mem x hy), hstep x (hm x List.mem_cons_self) s s' hx hi⟩)
    h ⟨fun _ hx => hx, hs⟩
  exact hrun.2

end Python
