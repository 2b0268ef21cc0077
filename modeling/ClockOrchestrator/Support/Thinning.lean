import Mathlib.Data.List.Basic
import Mathlib.Tactic.Common

namespace Thinning

variable {α : Type}

structure Thins (q : α → Bool) (kept list : List α) : Prop where
  sublist : kept.Sublist list
  same : kept.filter q = list.filter q

variable {q : α → Bool} {kept list : List α}

theorem Thins.of_filter (q : α → Bool) (list : List α) : Thins q (list.filter q) list :=
  ⟨List.filter_sublist, by simp⟩

theorem not_thins_of_dropped {x : α} (hs : kept.Sublist list) (hq : q x = true) :
    kept.filter q ≠ (x :: list).filter q := by
  intro he
  have hl : (kept.filter q).length ≤ (list.filter q).length := (hs.filter q).length_le
  rw [he, List.filter_cons_of_pos hq, List.length_cons] at hl
  omega

theorem Thins.filter_eq (h : Thins q kept list) {p : α → Bool}
    (hp : ∀ x, p x = true → q x = true) : kept.filter p = list.filter p := by
  have hsplit : ∀ l : List α, l.filter p = (l.filter q).filter p := by
    intro l
    rw [List.filter_filter]
    refine List.filter_congr fun x _ => ?_
    cases hx : p x
    · simp
    · simp [hp x hx]
  rw [hsplit kept, h.same, ← hsplit list]

theorem Thins.find?_eq (h : Thins q kept list) {p : α → Bool}
    (hp : ∀ x, list.find? p = some x → q x = true) : kept.find? p = list.find? p := by
  obtain ⟨hs, he⟩ := h
  induction hs with
  | slnil => rfl
  | @cons kept list x hs ih =>
      have hx : q x = false := by
        cases hq : q x with
        | false => rfl
        | true => exact absurd he (not_thins_of_dropped hs hq)
      have hpx : p x = false := by
        cases hpx : p x with
        | false => rfl
        | true =>
            have := hp x (List.find?_cons_of_pos hpx)
            rw [hx] at this
            cases this
      rw [List.find?_cons_of_neg (by simp [hpx])] at hp ⊢
      exact ih hp (by simpa [hx] using he)
  | @cons_cons kept list x hs ih =>
      cases hpx : p x with
      | true => rw [List.find?_cons_of_pos hpx, List.find?_cons_of_pos hpx]
      | false =>
          rw [List.find?_cons_of_neg (by simp [hpx]), List.find?_cons_of_neg (by simp [hpx])]
          refine ih ?_ ?_
          · intro y hy
            exact hp y (by rwa [List.find?_cons_of_neg (by simp [hpx])])
          · cases hq : q x <;> simpa [hq] using he

section View

variable {β γ : Type} (view : α → β)

def visible (q : α → Bool) (list : List α) : List β := (list.filter q).map view

def Alike (q : α → Bool) (x y : α) : Prop :=
  (q x = false ∧ q y = false) ∨ (q x = q y ∧ view x = view y)

variable {view}

theorem Alike.refl (x : α) : Alike view q x x := .inr ⟨rfl, rfl⟩

theorem Alike.symm {x y : α} (h : Alike view q x y) : Alike view q y x := by
  rcases h with ⟨hx, hy⟩ | ⟨hq, hv⟩
  · exact .inl ⟨hy, hx⟩
  · exact .inr ⟨hq.symm, hv.symm⟩

theorem visible_append (xs ys : List α) :
    visible view q (xs ++ ys) = visible view q xs ++ visible view q ys := by
  simp [visible]

theorem visible_map_congr {f g : γ → α} {rows : List γ}
    (h : ∀ r ∈ rows, Alike view q (f r) (g r)) :
    visible view q (rows.map f) = visible view q (rows.map g) := by
  induction rows with
  | nil => rfl
  | cons r rest ih =>
      have hrest := ih fun r hr => h r (List.mem_cons_of_mem _ hr)
      unfold visible at hrest ⊢
      rcases h r (List.mem_cons_self ..) with ⟨hf, hg⟩ | ⟨hq, hv⟩
      · simp [hf, hg, hrest]
      · cases hfr : q (f r) with
        | false => simp [hfr, hq ▸ hfr, hrest]
        | true => simp [hfr, hq ▸ hfr, hv, hrest]

end View

end Thinning
