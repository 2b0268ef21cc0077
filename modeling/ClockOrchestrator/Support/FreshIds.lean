import Mathlib.Data.List.Nodup
import Mathlib.Tactic.Common

namespace FreshIds

structure Drawn (stream : ℕ → ℕ) (count : ℕ) (ids : List ℕ) : Prop where
  nodup : ids.Nodup
  drawn : ∀ i ∈ ids, ∃ k < count, i = stream k

variable {stream : ℕ → ℕ} {count : ℕ} {ids : List ℕ}

theorem Drawn.nil : Drawn stream count [] := ⟨.nil, by simp⟩

theorem Drawn.mono (h : Drawn stream count ids) {count' : ℕ} (hc : count ≤ count') :
    Drawn stream count' ids :=
  ⟨h.nodup, fun i hi => let ⟨k, hk, he⟩ := h.drawn i hi; ⟨k, Nat.lt_of_lt_of_le hk hc, he⟩⟩

theorem Drawn.notMem (h : Drawn stream count ids) (hs : stream.Injective) {k : ℕ}
    (hk : count ≤ k) : stream k ∉ ids := by
  intro hm
  obtain ⟨j, hj, he⟩ := h.drawn _ hm
  have : k = j := hs he
  omega

theorem Drawn.append (h : Drawn stream count ids) (hs : stream.Injective) :
    Drawn stream (count + 1) (ids ++ [stream count]) := by
  refine ⟨?_, ?_⟩
  · rw [List.nodup_append]
    refine ⟨h.nodup, by simp, ?_⟩
    intro i hi j hj he
    simp only [List.mem_singleton] at hj
    exact h.notMem hs (Nat.le_refl _) (hj ▸ he ▸ hi)
  · intro i hi
    rcases List.mem_append.mp hi with hi | hi
    · exact (h.mono (Nat.le_succ _)).drawn i hi
    · exact ⟨count, Nat.lt_succ_self _, List.mem_singleton.mp hi⟩

theorem Drawn.perm (h : Drawn stream count ids) {ids' : List ℕ} (hperm : ids'.Perm ids) :
    Drawn stream count ids' :=
  ⟨hperm.nodup_iff.mpr h.nodup, fun i hi => h.drawn i (hperm.subset hi)⟩

end FreshIds
