import ClockOrchestrator.Support.Procedure

namespace Procedure

variable {ε σ σ' α β : Type} {R : σ → σ' → Prop} {post : α → Prop} {post' : β → Prop}
  {x : EStateM ε σ α} {y : EStateM ε σ' α} {f : α → EStateM ε σ β} {g : α → EStateM ε σ' β}

def Simulates (R : σ → σ' → Prop) (post : α → Prop) (x : EStateM ε σ α) (y : EStateM ε σ' α) :
    Prop :=
  ∀ ⦃s s' r t⦄, R s s' → Ends x s r t →
    ∃ t', Ends y s' r t' ∧ R t t' ∧ ∀ a, r = .ok a → post a

theorem Simulates.pure {a : α} (ha : post a) :
    Simulates R post (pure a : EStateM ε σ α) (pure a : EStateM ε σ' α) := by
  intro s s' r t hs hx
  obtain ⟨rfl, rfl⟩ := ends_pure.mp hx
  refine ⟨s', ends_pure.mpr ⟨rfl, rfl⟩, hs, ?_⟩
  rintro b ⟨⟩
  exact ha

theorem Simulates.throw (e : ε) :
    Simulates R post (throw e : EStateM ε σ α) (throw e : EStateM ε σ' α) := by
  intro s s' r t hs hx
  obtain ⟨rfl, rfl⟩ := ends_throw.mp hx
  exact ⟨s', ends_throw.mpr ⟨rfl, rfl⟩, hs, nofun⟩

theorem Simulates.modify {g : σ → σ} {g' : σ' → σ'} (hg : ∀ s s', R s s' → R (g s) (g' s')) :
    Simulates R (fun _ => True) (modify g : EStateM ε σ Unit) (modify g' : EStateM ε σ' Unit) := by
  intro s s' r t hs hx
  obtain ⟨rfl, rfl⟩ := ends_modify.mp hx
  exact ⟨g' s', ends_modify.mpr ⟨rfl, rfl⟩, hg s s' hs, fun _ _ => trivial⟩

theorem Simulates.get_bind {f : σ → EStateM ε σ β} {g : σ' → EStateM ε σ' β}
    (hf : ∀ s s', R s s' → Simulates R post' (f s) (g s')) :
    Simulates R post' (get >>= f) (get >>= g) := by
  intro s s' r t hs hx
  rw [ends_get_bind] at hx
  obtain ⟨t', hy, ht⟩ := hf s s' hs hs hx
  exact ⟨t', ends_get_bind.mpr hy, ht⟩

theorem Simulates.trying (h : Simulates R post x y) :
    Simulates R (fun q => ∀ a, q = .ok a → post a) (trying x) (trying y) := by
  intro s s' r t hs hx
  obtain ⟨q, hq, rfl⟩ := ends_trying.mp hx
  obtain ⟨t', hy, ht, hvalue⟩ := h hs hq
  refine ⟨t', ends_trying.mpr ⟨q, hy, rfl⟩, ht, ?_⟩
  rintro _ ⟨⟩
  exact hvalue

theorem Simulates.bind (h : Simulates R post x y)
    (hf : ∀ a, post a → Simulates R post' (f a) (g a)) :
    Simulates R post' (x >>= f) (y >>= g) := by
  intro s s' r t hs hx
  rcases ends_bind.mp hx with ⟨a, m, hm, hrest⟩ | ⟨e, he, rfl⟩
  · obtain ⟨m', hm', hmid, hvalue⟩ := h hs hm
    obtain ⟨t', ht', hlast⟩ := hf a (hvalue a rfl) hmid hrest
    exact ⟨t', (ends_bind_ok hm').mpr ht', hlast⟩
  · obtain ⟨t', ht', hlast, -⟩ := h hs he
    exact ⟨t', ends_bind.mpr (.inr ⟨e, ht', rfl⟩), hlast, nofun⟩

theorem Simulates.then {z : EStateM ε σ β} {z' : EStateM ε σ' β}
    (h : Simulates R (fun _ => True) x y) (hz : Simulates R post' z z') :
    Simulates R post' (x >>= fun _ => z) (y >>= fun _ => z') :=
  h.bind fun _ _ => hz

theorem Simulates.ite {p : Prop} [Decidable p] {other : EStateM ε σ α} {other' : EStateM ε σ' α}
    (h : Simulates R post x y) (hother : Simulates R post other other') :
    Simulates R post (if p then x else other) (if p then y else other') := by
  by_cases hp : p
  · rw [if_pos hp, if_pos hp]
    exact h
  · rw [if_neg hp, if_neg hp]
    exact hother

end Procedure
