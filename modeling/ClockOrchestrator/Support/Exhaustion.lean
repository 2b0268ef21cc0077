import Mathlib.Data.Fintype.Pigeonhole
import Mathlib.Data.Set.Finite.Basic
import Mathlib.Order.Interval.Set.Nat

-- A source that hands out one value after the other until it has none left.
namespace Exhaustion

variable {α : Type} {s : ℕ → Option α} {m n : ℕ}

def Stops (s : ℕ → Option α) : Prop := ∀ n, s n = none → s (n + 1) = none

theorem Stops.none_of_le (h : Stops s) (hn : s n = none) (hle : n ≤ m) : s m = none := by
  induction m, hle using Nat.le_induction with
  | base => exact hn
  | succ m hle ih => exact h m ih

theorem Stops.exists_none_iff (h : Stops s) {values : Set α} (hfinite : values.Finite)
    (hvalues : ∀ n a, s n = some a → a ∈ values) :
    (∃ n, s n = none) ↔ ∀ a, {n | s n = some a}.Finite := by
  constructor
  · rintro ⟨n, hn⟩ a
    apply (Set.finite_Iio n).subset
    intro m hm
    by_contra hlate
    rw [Set.mem_ofPred_eq, h.none_of_le hn (not_lt.mp hlate)] at hm
    cases hm
  · intro hrare
    by_contra hendless
    have hsome : ∀ n, ∃ a, s n = some a := by
      intro n
      exact Option.ne_none_iff_exists'.mp fun hn => hendless ⟨n, hn⟩
    choose value hvalue using hsome
    have : Finite values := hfinite
    obtain ⟨a, ha⟩ := Finite.exists_infinite_fiber fun n =>
      (⟨value n, hvalues n _ (hvalue n)⟩ : values)
    rw [Set.infinite_coe_iff] at ha
    apply ha
    apply (hrare a).subset
    intro n hn
    rw [Set.mem_ofPred_eq, hvalue n]
    exact congrArg (fun v : values => some v.val) hn

end Exhaustion
