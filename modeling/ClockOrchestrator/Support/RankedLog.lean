import Mathlib.Data.List.MinMax
import Mathlib.Tactic.Common

namespace RankedLog

variable {ρ β : Type} [LinearOrder β]

-- ORDER BY rank DESC LIMIT 1.
def latest (rank : ρ → β) (rows : List ρ) : Option ρ := rows.argmax rank

variable {rank : ρ → β} {rows : List ρ} {row : ρ}

def Outranks (rank : ρ → β) (row : ρ) (rows : List ρ) : Prop := ∀ old ∈ rows, rank old < rank row

theorem latest_mem (h : latest rank rows = some row) : row ∈ rows := List.argmax_mem h

theorem le_latest (h : latest rank rows = some row) {other : ρ} (ho : other ∈ rows) :
    rank other ≤ rank row := List.le_of_mem_argmax ho h

theorem latest_append_of_outranks (h : Outranks rank row rows) :
    latest rank (rows ++ [row]) = some row := by
  unfold latest
  rw [List.argmax_concat]
  cases hl : rows.argmax rank with
  | none => rfl
  | some top => simp [h top (List.argmax_mem hl)]

theorem latest_concat {top : ρ} (h : latest rank rows = some top) :
    latest rank (rows ++ [row]) = some (if rank top < rank row then row else top) := by
  unfold latest at h ⊢
  rw [List.argmax_concat, h]
  dsimp only
  split <;> rfl

theorem latest_eq_getLast? (h : rows.Pairwise (rank · < rank ·)) :
    latest rank rows = rows.getLast? := by
  rcases List.eq_nil_or_concat rows with rfl | ⟨old, last, rfl⟩
  · rfl
  · rw [List.concat_eq_append] at h ⊢
    obtain ⟨-, -, habove⟩ := List.pairwise_append.mp h
    rw [latest_append_of_outranks fun r hr => habove r hr last (List.mem_singleton_self last),
      List.getLast?_append_of_ne_nil _ (List.cons_ne_nil _ _)]
    rfl

theorem latest_ne_of_lt {low high : ρ} (hh : high ∈ rows) (hlt : rank low < rank high) :
    latest rank rows ≠ some low :=
  fun h => absurd (le_latest h hh) (not_le_of_gt hlt)

end RankedLog
