import Mathlib.Tactic.Common
import Mathlib.Order.Defs.Unbundled

-- Procedures that may raise and keep what they did to the state until then.
namespace Procedure

variable {ε σ α β : Type}

def outcome (x : EStateM ε σ α) (s : σ) : Except ε α × σ :=
  match x s with
  | .ok a t => (.ok a, t)
  | .error e t => (.error e, t)

def trying (x : EStateM ε σ α) : EStateM ε σ (Except ε α) := fun s =>
  .ok (outcome x s).1 (outcome x s).2

def Ends (x : EStateM ε σ α) (s : σ) (r : Except ε α) (t : σ) : Prop := outcome x s = (r, t)

variable {x : EStateM ε σ α} {f : α → EStateM ε σ β} {s t : σ} {r : Except ε α}

theorem ends_outcome (x : EStateM ε σ α) (s : σ) : Ends x s (outcome x s).1 (outcome x s).2 := rfl

@[simp] theorem ends_pure {a : α} : Ends (pure a) s r t ↔ r = .ok a ∧ t = s := by
  change (Except.ok a, s) = (r, t) ↔ _
  rw [Prod.mk.injEq, eq_comm, @eq_comm _ s]

@[simp] theorem ends_throw {e : ε} :
    Ends (throw e : EStateM ε σ α) s r t ↔ r = .error e ∧ t = s := by
  change (Except.error e, s) = (r, t) ↔ _
  rw [Prod.mk.injEq, eq_comm, @eq_comm _ s]

@[simp] theorem ends_get {r : Except ε σ} :
    Ends (get : EStateM ε σ σ) s r t ↔ r = .ok s ∧ t = s := by
  change (Except.ok s, s) = (r, t) ↔ _
  rw [Prod.mk.injEq, eq_comm, @eq_comm _ s]

@[simp] theorem ends_modify {g : σ → σ} {r : Except ε Unit} :
    Ends (modify g : EStateM ε σ Unit) s r t ↔ r = .ok () ∧ t = g s := by
  change (Except.ok (), g s) = (r, t) ↔ _
  rw [Prod.mk.injEq, eq_comm, @eq_comm _ (g s)]

@[simp] theorem ends_trying {r : Except ε (Except ε α)} :
    Ends (trying x) s r t ↔ ∃ q, Ends x s q t ∧ r = .ok q := by
  change (Except.ok (outcome x s).1, (outcome x s).2) = (r, t) ↔ _
  unfold Ends
  constructor
  · intro h
    cases h
    exact ⟨_, rfl, rfl⟩
  · rintro ⟨q, hq, rfl⟩
    rw [hq]

theorem ends_bind {r : Except ε β} :
    Ends (x >>= f) s r t ↔
      (∃ a m, Ends x s (.ok a) m ∧ Ends (f a) m r t) ∨ ∃ e, Ends x s (.error e) t ∧ r = .error e := by
  unfold Ends outcome
  change (match EStateM.bind x f s with | .ok a t => (Except.ok a, t) | .error e t => (.error e, t)) =
    (r, t) ↔ _
  unfold EStateM.bind
  cases x s with
  | ok a m => simp
  | error e m =>
      simp only [Prod.mk.injEq, reduceCtorEq, false_and, exists_false, false_or]
      constructor
      · rintro ⟨rfl, rfl⟩
        exact ⟨e, ⟨rfl, rfl⟩, rfl⟩
      · rintro ⟨e', ⟨he, rfl⟩, rfl⟩
        cases he
        exact ⟨rfl, rfl⟩

theorem ends_bind_ok {a : α} {m : σ} (h : Ends x s (.ok a) m) {r : Except ε β} :
    Ends (x >>= f) s r t ↔ Ends (f a) m r t := by
  rw [ends_bind]
  unfold Ends at h ⊢
  rw [h]
  simp

@[simp] theorem ends_modify_bind {g : σ → σ} {f : Unit → EStateM ε σ β} {r : Except ε β} :
    Ends (modify g >>= f) s r t ↔ Ends (f ()) (g s) r t :=
  ends_bind_ok (by simp)

@[simp] theorem ends_get_bind {f : σ → EStateM ε σ β} {r : Except ε β} :
    Ends (get >>= f) s r t ↔ Ends (f s) s r t :=
  ends_bind_ok (by simp)

@[simp] theorem ends_trying_bind {f : Except ε α → EStateM ε σ β} {r : Except ε β} :
    Ends (trying x >>= f) s r t ↔ ∃ q m, Ends x s q m ∧ Ends (f q) m r t := by
  rw [ends_bind]
  simp only [ends_trying, Except.ok.injEq, reduceCtorEq, and_false, exists_false, false_and,
    or_false]
  constructor
  · rintro ⟨q, m, ⟨q', hx, rfl⟩, hf⟩
    exact ⟨q, m, hx, hf⟩
  · rintro ⟨q, m, hx, hf⟩
    exact ⟨q, m, ⟨q, hx, rfl⟩, hf⟩

def Guarantees (R : σ → σ → Prop) (x : EStateM ε σ α) : Prop := ∀ s r t, Ends x s r t → R s t

section Guarantees

variable {R : σ → σ → Prop}

theorem Guarantees.pure [Std.Refl R] (a : α) : Guarantees R (pure a : EStateM ε σ α) := by
  intro s r t h
  obtain ⟨-, rfl⟩ := ends_pure.mp h
  exact Std.Refl.refl t

theorem Guarantees.throw [Std.Refl R] (e : ε) : Guarantees R (throw e : EStateM ε σ α) := by
  intro s r t h
  obtain ⟨-, rfl⟩ := ends_throw.mp h
  exact Std.Refl.refl t

theorem Guarantees.get [Std.Refl R] : Guarantees R (get : EStateM ε σ σ) := by
  intro s r t h
  obtain ⟨-, rfl⟩ := ends_get.mp h
  exact Std.Refl.refl t

theorem Guarantees.modify {g : σ → σ} (hg : ∀ s, R s (g s)) :
    Guarantees R (modify g : EStateM ε σ Unit) := by
  intro s r t h
  obtain ⟨-, rfl⟩ := ends_modify.mp h
  exact hg s

theorem Guarantees.trying (hx : Guarantees R x) : Guarantees R (trying x) := by
  intro s r t h
  obtain ⟨q, hq, -⟩ := ends_trying.mp h
  exact hx s q t hq

theorem Guarantees.bind [IsTrans σ R] (hx : Guarantees R x) (hf : ∀ a, Guarantees R (f a)) :
    Guarantees R (x >>= f) := by
  intro s r t h
  rcases ends_bind.mp h with ⟨a, m, hm, hrest⟩ | ⟨e, he, -⟩
  · exact IsTrans.trans s m t (hx s _ m hm) (hf a m r t hrest)
  · exact hx s _ t he

end Guarantees

end Procedure
