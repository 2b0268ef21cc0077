import Mathlib.Data.List.Perm.Basic
import Mathlib.Data.List.Sort

namespace Choice

variable {α β : Type}

structure Picks (choose : List α → Option α) (eligible : List α → α → Prop) : Prop where
  mem : ∀ {l a}, eligible l a → a ∈ l
  perm : ∀ {l l' a}, l'.Perm l → eligible l' a → eligible l a
  sound : ∀ {l a}, choose l = some a → eligible l a
  exhaustive : ∀ {l a}, eligible l a → choose l ≠ none
  first : ∀ {l a}, eligible (a :: l) a → choose (a :: l) = some a

namespace Picks

variable {choose other : List α → Option α} {eligible eligible' : List α → α → Prop}

theorem none_of_perm (h : Picks choose eligible) {l l' : List α} (hperm : l'.Perm l)
    (hnone : choose l = none) : choose l' = none := by
  cases hc : choose l' with
  | none => rfl
  | some a => exact absurd hnone (h.exhaustive (h.perm hperm (h.sound hc)))

theorem realized [DecidableEq α] (h : Picks choose eligible) {l : List α} {a : α} (ha : eligible l a) :
    ∃ l', l'.Perm l ∧ choose l' = some a := by
  have hperm : (a :: l.erase a).Perm l := (List.perm_cons_erase (h.mem ha)).symm
  exact ⟨_, hperm, h.first (h.perm hperm.symm ha)⟩

theorem invariant_iff [DecidableEq α] (h : Picks choose eligible) {l : List α}
    {f : Option α → β} {run : List α → β} (hrun : ∀ l', l'.Perm l → run l' = f (choose l')) :
    (∀ l', l'.Perm l → run l' = run l) ↔
      ∀ a b, eligible l a → eligible l b → f (some a) = f (some b) := by
  constructor
  · intro hall a b ha hb
    obtain ⟨la, hla, hca⟩ := h.realized ha
    obtain ⟨lb, hlb, hcb⟩ := h.realized hb
    rw [← hca, ← hcb, ← hrun la hla, ← hrun lb hlb, hall la hla, hall lb hlb]
  · intro hall l' hperm
    rw [hrun l' hperm, hrun l (.refl l)]
    cases hc : choose l with
    | none => rw [h.none_of_perm hperm hc]
    | some a =>
        cases hc' : choose l' with
        | none =>
            rw [h.none_of_perm hperm.symm hc'] at hc
            cases hc
        | some b => exact hall b a (h.perm hperm (h.sound hc')) (h.sound hc)

theorem congr (h : Picks choose eligible) (he : ∀ l a, eligible l a ↔ eligible' l a) :
    Picks choose eligible' := by
  have heq : eligible = eligible' := by
    funext l a
    exact propext (he l a)
  exact heq ▸ h

theorem filter (h : Picks choose eligible) (p : α → Bool) :
    Picks (fun l => choose (l.filter p)) (fun l a => eligible (l.filter p) a) where
  mem ha := List.mem_of_mem_filter (h.mem ha)
  perm hperm ha := h.perm (hperm.filter p) ha
  sound hc := h.sound hc
  exhaustive ha := h.exhaustive ha
  first {l a} ha := by
    have hp : p a = true := (List.mem_filter.mp (h.mem ha)).2
    rw [List.filter_cons_of_pos hp] at ha ⊢
    exact h.first ha

theorem prefer (h : Picks choose eligible) (h' : Picks other eligible') (p : α → Bool) :
    Picks (fun l => if l.filter p ≠ [] then choose (l.filter p) else other l)
      (fun l a => if l.filter p ≠ [] then eligible (l.filter p) a else eligible' l a) := by
  have hsame : ∀ {l l' : List α}, l'.Perm l → (l'.filter p ≠ [] ↔ l.filter p ≠ []) := by
    intro l l' hperm
    exact not_congr ⟨fun hn => (hn ▸ (hperm.filter p).symm).eq_nil,
      fun hn => (hn ▸ hperm.filter p).eq_nil⟩
  constructor
  · intro l a ha
    split at ha
    · exact (h.filter p).mem ha
    · exact h'.mem ha
  · intro l l' a hperm ha
    simp only [hsame hperm] at ha
    split at ha
    · next hp =>
        rw [if_pos hp]
        exact (h.filter p).perm hperm ha
    · next hp =>
        rw [if_neg hp]
        exact h'.perm hperm ha
  · intro l a hc
    split at hc
    · next hp =>
        rw [if_pos hp]
        exact h.sound hc
    · next hp =>
        rw [if_neg hp]
        exact h'.sound hc
  · intro l a ha
    split at ha
    · next hp =>
        rw [if_pos hp]
        exact h.exhaustive ha
    · next hp =>
        rw [if_neg hp]
        exact h'.exhaustive ha
  · intro l a ha
    split at ha
    · next hp =>
        rw [if_pos hp]
        exact (h.filter p).first ha
    · next hp =>
        rw [if_neg hp]
        exact h'.first ha

end Picks

theorem picks_find? (p : α → Bool) :
    Picks (List.find? p) (fun l a => a ∈ l ∧ p a = true) where
  mem ha := ha.1
  perm hperm ha := ⟨hperm.subset ha.1, ha.2⟩
  sound hc := ⟨List.mem_of_find?_eq_some hc, List.find?_some hc⟩
  exhaustive ha hnone := by
    rw [List.find?_eq_none] at hnone
    exact hnone _ ha.1 ha.2
  first ha := by rw [List.find?_cons_of_pos ha.2]

theorem picks_least (r : α → α → Prop) [DecidableRel r] [Std.Total r] [IsTrans α r] :
    Picks (fun l => (l.insertionSort r).head?) (fun l a => a ∈ l ∧ ∀ b ∈ l, r a b) where
  mem ha := ha.1
  perm hperm ha := ⟨hperm.subset ha.1, fun b hb => ha.2 b (hperm.symm.subset hb)⟩
  sound {l a} hc := by
    obtain ⟨rest, hsorted⟩ := List.head?_eq_some_iff.mp hc
    have hpairwise := List.pairwise_insertionSort r l
    rw [hsorted, List.pairwise_cons] at hpairwise
    have hmem : ∀ b, b ∈ a :: rest ↔ b ∈ l := by
      intro b
      rw [← hsorted]
      exact List.mem_insertionSort r
    refine ⟨(hmem a).mp List.mem_cons_self, fun b hb => ?_⟩
    rcases List.mem_cons.mp ((hmem b).mpr hb) with rfl | hrest
    · exact (Std.Total.total (r := r) b b).elim id id
    · exact hpairwise.1 b hrest
  exhaustive {l a} ha hnone := by
    rw [List.head?_eq_none_iff, ← List.length_eq_zero_iff, List.length_insertionSort,
      List.length_eq_zero_iff] at hnone
    rw [hnone] at ha
    exact List.not_mem_nil ha.1
  first {l a} ha := by
    rw [List.insertionSort_cons_of_forall_rel r fun b hb => ha.2 b (List.mem_cons_of_mem a hb)]
    rfl

end Choice
