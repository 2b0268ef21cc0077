import Mathlib.Data.List.Forall2

namespace PairedLogs

variable {α β : Type} {R : α → β → Prop} {xs : List α} {ys : List β}

theorem concat (h : List.Forall₂ R xs ys) {x : α} {y : β} (hxy : R x y) :
    List.Forall₂ R (xs ++ [x]) (ys ++ [y]) :=
  List.rel_append h (.cons hxy .nil)

theorem last (h : List.Forall₂ R xs ys) {x : α} (hx : xs.getLast? = some x) :
    ∃ y, ys.getLast? = some y ∧ R x y := by
  induction h with
  | nil => cases hx
  | @cons a b rest others hab hrest ih =>
      rw [List.getLast?_cons] at hx ⊢
      cases hl : rest.getLast? with
      | none =>
          rw [List.getLast?_eq_none_iff] at hl
          subst hl
          cases hrest
          cases hx
          exact ⟨b, rfl, hab⟩
      | some last =>
          rw [hl, Option.getD_some] at hx
          obtain ⟨y, hy, hr⟩ := ih (hl.trans hx)
          exact ⟨y, by rw [hy, Option.getD_some], hr⟩

theorem last_none (h : List.Forall₂ R xs ys) (hx : xs.getLast? = none) : ys.getLast? = none := by
  rw [List.getLast?_eq_none_iff] at hx ⊢
  subst hx
  cases h
  rfl

theorem mem_right (h : List.Forall₂ R xs ys) {y : β} (hy : y ∈ ys) : ∃ x ∈ xs, R x y := by
  induction h with
  | nil => cases hy
  | cons hab _ ih =>
      rcases List.mem_cons.mp hy with rfl | hy
      · exact ⟨_, List.mem_cons_self, hab⟩
      · obtain ⟨x, hx, hxy⟩ := ih hy
        exact ⟨x, List.mem_cons_of_mem _ hx, hxy⟩

end PairedLogs
