import Mathlib.Data.List.Sort

namespace RankedQueue

variable {α : Type} {r : α → α → Prop}

theorem filter_initial {p : α → Bool} {l : List α} (hl : l.Pairwise r)
    (hp : ∀ a ∈ l, ∀ b ∈ l, r a b → p b = true → p a = true) : l.filter p <+: l := by
  induction l with
  | nil => exact List.prefix_rfl
  | cons a l ih =>
      rw [List.pairwise_cons] at hl
      by_cases ha : p a
      · rw [List.filter_cons_of_pos ha, List.prefix_cons_inj]
        exact ih hl.2 fun b hb c hc => hp b (List.mem_cons_of_mem a hb) c (List.mem_cons_of_mem a hc)
      · have hnone : (a :: l).filter p = [] := by
          refine List.filter_eq_nil_iff.mpr fun b hb hpb => ha ?_
          rcases List.mem_cons.mp hb with rfl | hb
          · exact hpb
          · exact hp a List.mem_cons_self b (List.mem_cons_of_mem a hb) (hl.1 b hb) hpb
        rw [hnone]
        exact List.nil_prefix

variable [DecidableRel r]

theorem orderedInsert_of_forall {a : α} {l : List α} (h : ∀ b ∈ l, r a b) :
    l.orderedInsert r a = a :: l := by
  cases l with
  | nil => rfl
  | cons b rest => exact List.orderedInsert_cons_of_le r rest (h b List.mem_cons_self)

theorem orderedInsert_append {a : α} {xs ys : List α} (h : ∀ y ∈ ys, r a y) :
    (xs ++ ys).orderedInsert r a = xs.orderedInsert r a ++ ys := by
  induction xs with
  | nil => exact orderedInsert_of_forall h
  | cons x xs ih =>
      by_cases hx : r a x
      · simp [hx]
      · simp [hx, ih]

theorem insertionSort_append {xs ys : List α} (h : ∀ x ∈ xs, ∀ y ∈ ys, r x y) :
    (xs ++ ys).insertionSort r = xs.insertionSort r ++ ys.insertionSort r := by
  induction xs with
  | nil => rfl
  | cons x xs ih =>
      rw [List.forall_mem_cons] at h
      rw [List.cons_append, List.insertionSort_cons, List.insertionSort_cons, ih h.2,
        orderedInsert_append]
      intro y hy
      exact h.1 y ((List.mem_insertionSort r).mp hy)

theorem filter_orderedInsert_neg {p : α → Bool} {a : α} (ha : ¬ p a = true) (l : List α) :
    (l.orderedInsert r a).filter p = l.filter p := by
  induction l with
  | nil => simp [ha]
  | cons b l ih =>
      by_cases hb : r a b
      · simp [hb, ha]
      · simp [hb, List.filter_cons, ih]

variable [IsTrans α r]

theorem filter_orderedInsert {p : α → Bool} {a : α} (ha : p a = true) {l : List α}
    (hl : l.Pairwise r) : (l.orderedInsert r a).filter p = (l.filter p).orderedInsert r a := by
  induction l with
  | nil => simp [ha]
  | cons b l ih =>
      rw [List.pairwise_cons] at hl
      by_cases hb : r a b
      · have hall : ∀ c ∈ (b :: l).filter p, r a c := by
          intro c hc
          rcases List.mem_cons.mp (List.mem_filter.mp hc).1 with rfl | hc
          · exact hb
          · exact IsTrans.trans a b c hb (hl.1 c hc)
        rw [List.orderedInsert_cons_of_le r l hb, List.filter_cons_of_pos ha,
          orderedInsert_of_forall hall]
      · by_cases hp : p b
        · simp [hb, hp, ih hl.2]
        · simp [hb, hp, ih hl.2]

theorem insertionSort_filter [Std.Total r] (p : α → Bool) (l : List α) :
    (l.filter p).insertionSort r = (l.insertionSort r).filter p := by
  induction l with
  | nil => rfl
  | cons a l ih =>
      by_cases ha : p a
      · rw [List.filter_cons_of_pos ha, List.insertionSort_cons, List.insertionSort_cons, ih,
          filter_orderedInsert ha (List.pairwise_insertionSort r l)]
      · rw [List.filter_cons_of_neg ha, List.insertionSort_cons, ih, filter_orderedInsert_neg ha]

end RankedQueue
