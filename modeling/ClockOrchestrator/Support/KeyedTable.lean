import Mathlib.Data.List.Find
import Mathlib.Data.List.Nodup
import Mathlib.Tactic.Common

namespace KeyedTable

variable {ρ κ γ : Type} {key : ρ → κ} {rows : List ρ} {row : ρ}

theorem eq_of_key (hn : (rows.map key).Nodup) {x y : ρ} (hx : x ∈ rows) (hy : y ∈ rows)
    (h : key x = key y) : x = y :=
  List.inj_on_of_nodup_map hn hx hy h

theorem eq_of_filterMap {f : ρ → Option κ} (hn : (rows.filterMap f).Nodup) {x y : ρ}
    (hx : x ∈ rows) (hy : y ∈ rows) {k : κ} (hfx : f x = some k) (hfy : f y = some k) : x = y := by
  induction rows with
  | nil => cases hx
  | cons r rest ih =>
      have hhead : f r = some k → k ∉ rest.filterMap f := by
        intro hr
        rw [List.filterMap_cons_some hr] at hn
        exact (List.nodup_cons.mp hn).1
      have htail : (rest.filterMap f).Nodup :=
        hn.sublist ((List.sublist_cons_self r rest).filterMap f)
      rcases List.mem_cons.mp hx with rfl | hx' <;> rcases List.mem_cons.mp hy with rfl | hy'
      · rfl
      · exact absurd (List.mem_filterMap.mpr ⟨y, hy', hfy⟩) (hhead hfx)
      · exact absurd (List.mem_filterMap.mpr ⟨x, hx', hfx⟩) (hhead hfy)
      · exact ih htail hx' hy'

theorem find?_eq_some_of_unique {p : ρ → Bool}
    (hu : ∀ x ∈ rows, ∀ y ∈ rows, p x = true → p y = true → x = y) {x : ρ} :
    rows.find? p = some x ↔ x ∈ rows ∧ p x = true := by
  constructor
  · intro h
    exact ⟨List.mem_of_find?_eq_some h, List.find?_some h⟩
  · rintro ⟨hx, hp⟩
    cases hf : rows.find? p with
    | none => exact absurd hp (List.find?_eq_none.mp hf x hx)
    | some y =>
        rw [hu y (List.mem_of_find?_eq_some hf) x hx (List.find?_some hf) hp]

theorem filter_eq_toList (hn : rows.Nodup) {p : ρ → Bool}
    (hu : ∀ x ∈ rows, ∀ y ∈ rows, p x = true → p y = true → x = y) :
    rows.filter p = (rows.find? p).toList := by
  cases hf : rows.find? p with
  | none => exact List.filter_eq_nil_iff.mpr (List.find?_eq_none.mp hf)
  | some x =>
      have hx := (find?_eq_some_of_unique hu).mp hf
      refine List.perm_singleton.mp ((List.perm_ext_iff_of_nodup (hn.filter p) (by simp)).mpr ?_)
      intro y
      rw [List.mem_filter, List.mem_singleton]
      constructor
      · rintro ⟨hy, hpy⟩
        exact hu y hy x hx.1 hpy hx.2
      · rintro rfl
        exact hx

variable [DecidableEq κ]

def put (key : ρ → κ) (row : ρ) (rows : List ρ) : List ρ :=
  rows.map fun r => if key r = key row then row else r

theorem mem_put {x : ρ} :
    x ∈ put key row rows ↔
      (x = row ∧ key row ∈ rows.map key) ∨ (x ∈ rows ∧ key x ≠ key row) := by
  simp only [put, List.mem_map]
  constructor
  · rintro ⟨r, hr, rfl⟩
    by_cases h : key r = key row
    · rw [if_pos h]
      exact .inl ⟨rfl, r, hr, h⟩
    · rw [if_neg h]
      exact .inr ⟨hr, h⟩
  · rintro (⟨rfl, r, hr, hk⟩ | ⟨hx, hk⟩)
    · exact ⟨r, hr, if_pos hk⟩
    · exact ⟨x, hx, if_neg hk⟩

theorem forall_mem_put {P : ρ → Prop} (hrows : ∀ r ∈ rows, P r) (hrow : P row) :
    ∀ r ∈ put key row rows, P r := by
  intro r hr
  rcases mem_put.mp hr with ⟨rfl, -⟩ | ⟨hr, -⟩
  · exact hrow
  · exact hrows r hr

theorem map_put (hn : (rows.map key).Nodup) {old : ρ} (ho : old ∈ rows) (hk : key row = key old)
    {column : ρ → γ} (hc : column row = column old) :
    (put key row rows).map column = rows.map column := by
  rw [put, List.map_map]
  refine List.map_congr_left fun r hr => ?_
  simp only [Function.comp_apply]
  split
  · next h => rw [hc, eq_of_key hn hr ho (h.trans hk)]
  · rfl

theorem map_key_put : (put key row rows).map key = rows.map key := by
  rw [put, List.map_map]
  refine List.map_congr_left fun r _ => ?_
  simp only [Function.comp_apply]
  split
  · next h => exact h.symm
  · rfl

theorem map_put_of_key {f : ρ → γ} {key' : γ → κ} (hf : ∀ r, key' (f r) = key r) :
    (put key row rows).map f = put key' (f row) (rows.map f) := by
  unfold put
  rw [List.map_map, List.map_map]
  refine List.map_congr_left fun r _ => ?_
  simp only [Function.comp_apply, hf]
  split <;> rfl

theorem find?_put (hn : (rows.map key).Nodup) {old : ρ} (ho : old ∈ rows)
    (hk : key row = key old) {p : ρ → Bool} (hp : p row = p old) :
    (put key row rows).find? p =
      (rows.find? p).map fun r => if key r = key row then row else r := by
  rw [put, List.find?_map]
  congr 1
  refine List.find?_congr fun r hr => ?_
  simp only [Function.comp_apply]
  split
  · next h => rw [hp, eq_of_key hn hr ho (h.trans hk)]
  · rfl

def upsert (key : ρ → κ) (row : ρ) (rows : List ρ) : List ρ :=
  if key row ∈ rows.map key then put key row rows else rows ++ [row]

theorem upsert_of_notMem (h : key row ∉ rows.map key) : upsert key row rows = rows ++ [row] :=
  if_neg h

end KeyedTable
