import ClockOrchestrator.Support.Procedure

namespace Procedure

structure Contract (ε σ : Type) where
  holds : σ → Prop
  frame : σ → σ → Prop
  raises : ε → Prop
  frame_refl : ∀ s, frame s s
  frame_trans : ∀ {s m t}, frame s m → frame m t → frame s t

variable {ε σ α β : Type} {c : Contract ε σ} {post : α → Prop} {post' : β → Prop}
  {x : EStateM ε σ α} {f : α → EStateM ε σ β}

def Meets (c : Contract ε σ) (post : α → Prop) (x : EStateM ε σ α) : Prop :=
  ∀ ⦃s r t⦄, c.holds s → Ends x s r t →
    c.holds t ∧ c.frame s t ∧ (∀ e, r = .error e → c.raises e) ∧ ∀ a, r = .ok a → post a

theorem Meets.pure {a : α} (ha : post a) : Meets c post (pure a : EStateM ε σ α) := by
  intro s r t hs h
  obtain ⟨rfl, rfl⟩ := ends_pure.mp h
  refine ⟨hs, c.frame_refl _, nofun, ?_⟩
  rintro _ ⟨⟩
  exact ha

theorem Meets.throw {e : ε} (he : c.raises e) : Meets c post (throw e : EStateM ε σ α) := by
  intro s r t hs h
  obtain ⟨rfl, rfl⟩ := ends_throw.mp h
  refine ⟨hs, c.frame_refl _, ?_, nofun⟩
  rintro _ ⟨⟩
  exact he

theorem Meets.modify {g : σ → σ} (hg : ∀ s, c.holds s → c.holds (g s) ∧ c.frame s (g s)) :
    Meets c (fun _ => True) (modify g : EStateM ε σ Unit) := by
  intro s r t hs h
  obtain ⟨rfl, rfl⟩ := ends_modify.mp h
  exact ⟨(hg s hs).1, (hg s hs).2, nofun, fun _ _ => trivial⟩

theorem Meets.get_bind {f : σ → EStateM ε σ β} (hf : ∀ s, c.holds s → Meets c post' (f s)) :
    Meets c post' (get >>= f) := by
  intro s r t hs h
  exact hf s hs hs (ends_get_bind.mp h)

theorem Meets.trying (h : Meets c post x) :
    Meets c (fun q => (∀ e, q = .error e → c.raises e) ∧ ∀ a, q = .ok a → post a) (trying x) := by
  intro s r t hs hx
  obtain ⟨q, hq, rfl⟩ := ends_trying.mp hx
  obtain ⟨ht, hframe, hraised, hvalue⟩ := h hs hq
  refine ⟨ht, hframe, nofun, ?_⟩
  rintro _ ⟨⟩
  exact ⟨hraised, hvalue⟩

theorem Meets.bind (h : Meets c post x) (hf : ∀ a, post a → Meets c post' (f a)) :
    Meets c post' (x >>= f) := by
  intro s r t hs hx
  rcases ends_bind.mp hx with ⟨a, m, hm, hrest⟩ | ⟨e, he, rfl⟩
  · obtain ⟨hmid, hframe, -, hvalue⟩ := h hs hm
    obtain ⟨ht, hframe', hlast⟩ := hf a (hvalue a rfl) hmid hrest
    exact ⟨ht, c.frame_trans hframe hframe', hlast⟩
  · obtain ⟨ht, hframe, hraised, -⟩ := h hs he
    refine ⟨ht, hframe, ?_, nofun⟩
    rintro _ ⟨⟩
    exact hraised e rfl

theorem Meets.then {y : EStateM ε σ β} (h : Meets c (fun _ => True) x) (hy : Meets c post' y) :
    Meets c post' (x >>= fun _ => y) :=
  h.bind fun _ _ => hy

theorem Meets.ite {p : Prop} [Decidable p] {y : EStateM ε σ α} (h : Meets c post x)
    (hy : Meets c post y) : Meets c post (if p then x else y) := by
  split
  · exact h
  · exact hy

end Procedure
