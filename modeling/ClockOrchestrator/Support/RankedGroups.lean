import ClockOrchestrator.Support.KeyedTable
import ClockOrchestrator.Support.RankedLog
import Mathlib.Data.List.Perm.Basic

namespace RankedGroups

open RankedLog

variable {ρ κ β : Type} [DecidableEq κ] [LinearOrder β] {key : ρ → κ} {rank : ρ → β}
  {rows : List ρ} {row : ρ}

-- ROW_NUMBER() OVER (PARTITION BY key ORDER BY rank DESC), for ranks that differ.
def rowNumber (key : ρ → κ) (rank : ρ → β) (rows : List ρ) (row : ρ) : ℕ :=
  (rows.filter fun other => key other = key row ∧ rank row < rank other).length + 1

def firsts (key : ρ → κ) (rank : ρ → β) (rows : List ρ) : List ρ :=
  rows.filter fun row => rowNumber key rank rows row = 1

def group (key : ρ → κ) (k : κ) (rows : List ρ) : List ρ := rows.filter (key · = k)

@[simp] theorem mem_group {k : κ} : row ∈ group key k rows ↔ row ∈ rows ∧ key row = k := by
  simp [group]

theorem group_filter_ne {k k' : κ} (hne : k' ≠ k) :
    group key k' (rows.filter fun row => !decide (key row = k)) = group key k' rows := by
  rw [group, group, List.filter_filter]
  refine List.filter_congr fun row _ => ?_
  by_cases hk : key row = k'
  · simp [hk, hne]
  · simp [hk]

theorem flatMap_group_perm {keys : List κ} (hkeys : keys.Nodup)
    (hall : ∀ row ∈ rows, key row ∈ keys) : (keys.flatMap (group key · rows)).Perm rows := by
  induction keys generalizing rows with
  | nil =>
      have hnone : rows = [] := List.eq_nil_iff_forall_not_mem.mpr fun row hrow => by
        simpa using hall row hrow
      simp [hnone]
  | cons k keys ih =>
      obtain ⟨hfresh, hkeys⟩ := List.nodup_cons.mp hkeys
      have hothers : keys.flatMap (group key · rows) =
          keys.flatMap (group key · (rows.filter fun row => !decide (key row = k))) := by
        exact List.flatMap_congr fun k' hk' =>
          (group_filter_ne (ne_of_mem_of_not_mem hk' hfresh)).symm
      rw [List.flatMap_cons, hothers]
      refine ((ih hkeys fun row hrow => ?_).append_left _).trans
        (List.filter_append_perm (fun row => decide (key row = k)) rows)
      obtain ⟨hrow, hother⟩ := List.mem_filter.mp hrow
      refine (List.mem_cons.mp (hall row hrow)).resolve_left fun heq => ?_
      simp [heq] at hother

theorem mem_firsts : row ∈ firsts key rank rows ↔
    row ∈ rows ∧ ∀ other ∈ group key (key row) rows, rank other ≤ rank row := by
  simp [firsts, rowNumber, List.filter_eq_nil_iff]

theorem mem_firsts_iff_latest (hranks : (rows.map rank).Nodup) :
    row ∈ firsts key rank rows ↔ latest rank (group key (key row) rows) = some row := by
  rw [mem_firsts]
  constructor
  · intro ⟨hrow, hmax⟩
    have hown : row ∈ group key (key row) rows := mem_group.mpr ⟨hrow, rfl⟩
    cases hlatest : latest rank (group key (key row) rows) with
    | none =>
        rw [List.argmax_eq_none.mp hlatest] at hown
        cases hown
    | some top =>
        have htop := latest_mem hlatest
        have hrank : rank top = rank row := le_antisymm (hmax top htop) (le_latest hlatest hown)
        rw [KeyedTable.eq_of_key hranks (mem_group.mp htop).1 hrow hrank]
  · intro hlatest
    exact ⟨(mem_group.mp (latest_mem hlatest)).1, fun other hother => le_latest hlatest hother⟩

theorem firsts_perm (hranks : (rows.map rank).Nodup) {keys : List κ} (hkeys : keys.Nodup)
    (hall : ∀ row ∈ rows, key row ∈ keys) :
    (firsts key rank rows).Perm (keys.filterMap fun k => latest rank (group key k rows)) := by
  have hgroup : ∀ {k : κ} {row : ρ}, latest rank (group key k rows) = some row → key row = k :=
    fun hlatest => (mem_group.mp (latest_mem hlatest)).2
  have hrows : (firsts key rank rows).Nodup := (List.Nodup.of_map rank hranks).filter _
  have hlatests : (keys.filterMap fun k => latest rank (group key k rows)).Nodup := by
    refine hkeys.filterMap fun k k' row hk hk' => ?_
    exact (hgroup hk).symm.trans (hgroup hk')
  refine (List.perm_ext_iff_of_nodup hrows hlatests).mpr fun row => ?_
  rw [mem_firsts_iff_latest hranks, List.mem_filterMap]
  constructor
  · intro hlatest
    exact ⟨key row, hall row (mem_group.mp (latest_mem hlatest)).1, hlatest⟩
  · rintro ⟨k, -, hlatest⟩
    rw [hgroup hlatest]
    exact hlatest

theorem length_filter_filterMap {κ' : Type} (f : κ' → Option ρ) (p : ρ → Bool) (keys : List κ') :
    ((keys.filterMap f).filter p).length = (keys.filter fun k => (f k).any p).length := by
  induction keys with
  | nil => rfl
  | cons k keys ih =>
      cases hk : f k with
      | none => simp [hk, ih]
      | some row => by_cases hp : p row <;> simp [hk, hp, ih]

theorem length_filter_firsts (hranks : (rows.map rank).Nodup) (keys : List κ) (hkeys : keys.Nodup)
    (hall : ∀ row ∈ rows, key row ∈ keys) (p : ρ → Bool) :
    ((firsts key rank rows).filter p).length =
      (keys.filter fun k => (latest rank (group key k rows)).any p).length := by
  rw [((firsts_perm hranks hkeys hall).filter p).length_eq, length_filter_filterMap]

end RankedGroups
