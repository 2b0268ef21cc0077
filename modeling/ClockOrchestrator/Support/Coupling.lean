import ClockOrchestrator.Support.Procedure
import Mathlib.Data.List.Infix

namespace Procedure

structure Coupling (σ ω : Type) where
  agree : σ → σ → Prop
  frame : σ → σ → Prop
  seen : σ → List ω
  left : ∀ {s s'}, agree s s' → agree s s
  right : ∀ {s s'}, agree s s' → agree s' s'
  frame_refl : ∀ s, frame s s
  frame_trans : ∀ {s m t}, frame s m → frame m t → frame s t
  grows : ∀ {s t}, frame s t → seen s <+: seen t

variable {ε σ ω α β : Type} {c : Coupling σ ω} {post : α → Prop} {post' : β → Prop}
  {x : EStateM ε σ α} {f : α → EStateM ε σ β} {s t : σ} {r : Except ε α}

def Lockstep (c : Coupling σ ω) (post : α → Prop) (x : EStateM ε σ α) : Prop :=
  ∀ ⦃s s' r r' t t' future⦄, c.agree s s' → Ends x s r t → Ends x s' r' t' →
    c.seen t <+: future → c.seen t' <+: future →
      r = r' ∧ c.agree t t' ∧ c.frame s t ∧ ∀ a, r = .ok a → post a

theorem Lockstep.alone (hx : Lockstep c post x) (hs : c.agree s s) (h : Ends x s r t) :
    c.agree t t ∧ c.frame s t ∧ ∀ a, r = .ok a → post a :=
  (hx hs h h List.prefix_rfl List.prefix_rfl).2

theorem Lockstep.pure {a : α} (ha : post a) : Lockstep c post (pure a : EStateM ε σ α) := by
  intro s s' r r' t t' future hs h h' _ _
  obtain ⟨rfl, rfl⟩ := ends_pure.mp h
  obtain ⟨rfl, rfl⟩ := ends_pure.mp h'
  refine ⟨rfl, hs, c.frame_refl _, ?_⟩
  rintro b ⟨⟩
  exact ha

theorem Lockstep.throw (e : ε) : Lockstep c post (throw e : EStateM ε σ α) := by
  intro s s' r r' t t' future hs h h' _ _
  obtain ⟨rfl, rfl⟩ := ends_throw.mp h
  obtain ⟨rfl, rfl⟩ := ends_throw.mp h'
  exact ⟨rfl, hs, c.frame_refl _, nofun⟩

theorem Lockstep.modify {g : σ → σ} (hg : ∀ s s', c.agree s s' → c.agree (g s) (g s') ∧ c.frame s (g s)) :
    Lockstep c (fun _ => True) (modify g : EStateM ε σ Unit) := by
  intro s s' r r' t t' future hs h h' _ _
  obtain ⟨rfl, rfl⟩ := ends_modify.mp h
  obtain ⟨rfl, rfl⟩ := ends_modify.mp h'
  obtain ⟨hagree, hframe⟩ := hg s s' hs
  exact ⟨rfl, hagree, hframe, fun _ _ => trivial⟩

theorem Lockstep.get_bind {f : σ → EStateM ε σ β} (hsame : ∀ s s', c.agree s s' → f s = f s')
    (hf : ∀ s, c.agree s s → Lockstep c post' (f s)) : Lockstep c post' (get >>= f) := by
  intro s s' r r' t t' future hs h h' hfuture hfuture'
  rw [ends_get_bind] at h h'
  rw [← hsame s s' hs] at h'
  exact hf s (c.left hs) hs h h' hfuture hfuture'

theorem Lockstep.trying (hx : Lockstep c post x) :
    Lockstep c (fun q => ∀ a, q = .ok a → post a) (trying x) := by
  intro s s' r r' t t' future hs h h' hfuture hfuture'
  obtain ⟨q, hq, rfl⟩ := ends_trying.mp h
  obtain ⟨q', hq', rfl⟩ := ends_trying.mp h'
  obtain ⟨rfl, ht, hframe, hvalue⟩ := hx hs hq hq' hfuture hfuture'
  refine ⟨rfl, ht, hframe, ?_⟩
  rintro _ ⟨⟩
  exact hvalue

theorem Lockstep.bind (hx : Lockstep c post x) (hf : ∀ a, post a → Lockstep c post' (f a)) :
    Lockstep c post' (x >>= f) := by
  have hseen : ∀ {s m t a} {r : Except ε β}, c.agree s s → Ends x s (.ok a) m → Ends (f a) m r t →
      c.seen m <+: c.seen t := by
    intro s m t a r hs hm ht
    obtain ⟨hagree, -, hvalue⟩ := hx.alone hs hm
    exact c.grows ((hf a (hvalue a rfl)).alone hagree ht).2.1
  intro s s' r r' t t' future hs h h' hfuture hfuture'
  rcases ends_bind.mp h with ⟨a, m, hm, ht⟩ | ⟨e, he, rfl⟩
  · have hmid := (hseen (c.left hs) hm ht).trans hfuture
    rcases ends_bind.mp h' with ⟨a', m', hm', ht'⟩ | ⟨e', he', rfl⟩
    · have hmid' := (hseen (c.right hs) hm' ht').trans hfuture'
      obtain ⟨ha, hagree, hframe, hvalue⟩ := hx hs hm hm' hmid hmid'
      cases ha
      obtain ⟨hr, hagree', hframe', hvalue'⟩ := hf a (hvalue a rfl) hagree ht ht' hfuture hfuture'
      exact ⟨hr, hagree', c.frame_trans hframe hframe', hvalue'⟩
    · cases (hx hs hm he' hmid hfuture').1
  · rcases ends_bind.mp h' with ⟨a', m', hm', ht'⟩ | ⟨e', he', rfl⟩
    · cases (hx hs he hm' hfuture ((hseen (c.right hs) hm' ht').trans hfuture')).1
    · obtain ⟨hr, hagree, hframe, -⟩ := hx hs he he' hfuture hfuture'
      cases hr
      exact ⟨rfl, hagree, hframe, nofun⟩

theorem Lockstep.then {y : EStateM ε σ β} (hx : Lockstep c (fun _ => True) x)
    (hy : Lockstep c post' y) : Lockstep c post' (x >>= fun _ => y) :=
  hx.bind fun _ _ => hy

end Procedure
