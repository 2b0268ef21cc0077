import Mathlib.Data.List.Basic
import Mathlib.Tactic.Common

namespace OrderedDelivery

variable {μ : Type} {before before' : μ → μ → Prop} {waiting waiting' log : List μ}

structure InOrder (before : μ → μ → Prop) (waiting log : List μ) : Prop where
  arrived : log.Pairwise fun earlier later => ¬ before later earlier
  notOvertaken : ∀ w ∈ waiting, ∀ a ∈ log, ¬ before w a

namespace InOrder

theorem start (before : μ → μ → Prop) (waiting : List μ) : InOrder before waiting [] :=
  ⟨.nil, by simp⟩

theorem mono (h : InOrder before waiting log) (hsub : waiting' ⊆ waiting) :
    InOrder before waiting' log :=
  ⟨h.arrived, fun w hw => h.notOvertaken w (hsub hw)⟩

theorem take (h : InOrder before waiting log) {taken : List μ}
    (htaken : ∀ m ∈ taken, ∀ a ∈ log, ¬ before m a) : InOrder before (waiting ++ taken) log := by
  refine ⟨h.arrived, ?_⟩
  intro w hw
  rcases List.mem_append.mp hw with hw | hw
  · exact h.notOvertaken w hw
  · exact htaken w hw

theorem arrive (h : InOrder before waiting log) {m : μ} (hm : m ∈ waiting)
    (hnext : ∀ w ∈ waiting, ¬ before w m) : InOrder before waiting (log ++ [m]) := by
  constructor
  · rw [List.pairwise_append]
    refine ⟨h.arrived, List.pairwise_singleton _ _, ?_⟩
    intro a ha b hb
    rw [List.mem_singleton.mp hb]
    exact h.notOvertaken m hm a ha
  · intro w hw a ha
    rcases List.mem_append.mp ha with ha | ha
    · exact h.notOvertaken w hw a ha
    · rw [List.mem_singleton.mp ha]
      exact hnext w hw

theorem congr (h : InOrder before waiting log) {known : μ → Prop}
    (hw : ∀ m ∈ waiting, known m) (hl : ∀ m ∈ log, known m)
    (hsame : ∀ m m', known m → known m' → (before' m m' → before m m')) :
    InOrder before' waiting log := by
  constructor
  · refine h.arrived.imp_of_mem fun {a b} ha hb hab hba => ?_
    exact hab (hsame b a (hl b hb) (hl a ha) hba)
  · intro w hwait a ha hwa
    exact h.notOvertaken w hwait a ha (hsame w a (hw w hwait) (hl a ha) hwa)

end InOrder

theorem pair_sublist {m m' : μ} (hm : m ∈ log) (hm' : m' ∈ log) :
    m = m' ∨ [m, m'].Sublist log ∨ [m', m].Sublist log := by
  induction log with
  | nil => cases hm
  | cons x log ih =>
      rcases List.mem_cons.mp hm with rfl | hrest
      · rcases List.mem_cons.mp hm' with rfl | hrest'
        · exact .inl rfl
        · exact .inr (.inl ((List.singleton_sublist.mpr hrest').cons_cons m))
      · rcases List.mem_cons.mp hm' with rfl | hrest'
        · exact .inr (.inr ((List.singleton_sublist.mpr hrest).cons_cons m'))
        · rcases ih hrest hrest' with hsame | hbefore | hafter
          · exact .inl hsame
          · exact .inr (.inl (hbefore.cons x))
          · exact .inr (.inr (hafter.cons x))

theorem last_arrived {newest : μ} (h : log.Pairwise fun earlier later => ¬ before later earlier)
    (hmem : newest ∈ log) (hnewest : ∀ m ∈ log, m = newest ∨ before m newest) :
    log.getLast? = some newest := by
  obtain rfl | ⟨init, last, rfl⟩ := List.eq_nil_or_concat log
  · cases hmem
  rw [List.concat_eq_append] at h hmem hnewest ⊢
  rw [List.getLast?_concat]
  rcases hnewest last (by simp) with rfl | hlast
  · rfl
  · rcases List.mem_append.mp hmem with hinit | hend
    · have hpair := (List.pairwise_append.mp h).2.2 newest hinit last (by simp)
      exact absurd hlast hpair
    · rw [List.mem_singleton.mp hend]

end OrderedDelivery
