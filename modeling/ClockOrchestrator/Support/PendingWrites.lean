import ClockOrchestrator.Support.KeyedTable
import Mathlib.Data.List.Sort

namespace PendingWrites

open KeyedTable

variable {ρ κ : Type} [LinearOrder κ] (key : ρ → κ) (clash : ρ → ρ → Bool)

def blocked (table : List ρ) (row : ρ) : Bool :=
  table.any fun r => key r ≠ key row && clash row r

def updateRow (table : List ρ) (row : ρ) : Option (List ρ) :=
  if blocked key clash table row then none else some (put key row table)

def insertRow (table : List ρ) (row : ρ) : Option (List ρ) :=
  if blocked key clash table row then none else some (table ++ [row])

section Write

variable [DecidableEq ρ]

def changed (pairs : List (ρ × ρ)) : List ρ :=
  ((pairs.filter fun p => p.1 ≠ p.2).map Prod.snd).insertionSort (key · ≤ key ·)

def write (stored live : List ρ) : Option (List ρ) := do
  let updated ← (changed key (stored.zip live)).foldlM (updateRow key clash) stored
  (live.drop stored.length).foldlM (insertRow key clash) updated

end Write

variable {key clash} {table written : List ρ} {row : ρ}

theorem eq_append_of_inserted {rows : List ρ}
    (h : rows.foldlM (insertRow key clash) table = some written) : written = table ++ rows := by
  induction rows generalizing table with
  | nil =>
      cases h
      exact (List.append_nil _).symm
  | cons row rest ih =>
      rw [List.foldlM_cons] at h
      obtain ⟨next, hnext, hrest⟩ := Option.bind_eq_some_iff.mp h
      unfold insertRow at hnext
      split at hnext
      · cases hnext
      · cases hnext
        rw [ih hrest, List.append_assoc, List.singleton_append]

theorem blocked_eq_false :
    blocked key clash table row = false ↔ ∀ r ∈ table, key r ≠ key row → clash row r = false := by
  simp [blocked]

section Apart

variable (key clash) in
def Apart (table : List ρ) : Prop :=
  ∀ x ∈ table, ∀ y ∈ table, key x ≠ key y → clash x y = false

variable (hsymm : ∀ x y, clash x y = clash y x)
include hsymm

theorem apart_of_mem (h : Apart key clash table) (hfree : blocked key clash table row = false)
    (hmem : ∀ x ∈ written, x = row ∨ x ∈ table) : Apart key clash written := by
  have hrow := blocked_eq_false.mp hfree
  intro x hx y hy hne
  rcases hmem x hx with rfl | hx' <;> rcases hmem y hy with rfl | hy'
  · exact absurd rfl hne
  · exact hrow y hy' hne.symm
  · rw [hsymm]
    exact hrow x hx' hne
  · exact h x hx' y hy' hne

theorem updateRow_apart (h : Apart key clash table)
    (hwrite : updateRow key clash table row = some written) : Apart key clash written := by
  unfold updateRow at hwrite
  split at hwrite
  · cases hwrite
  · next hfree =>
      cases hwrite
      refine apart_of_mem hsymm h (Bool.eq_false_of_not_eq_true hfree) fun x hx => ?_
      exact (mem_put.mp hx).imp And.left And.left

theorem insertRow_apart (h : Apart key clash table)
    (hwrite : insertRow key clash table row = some written) : Apart key clash written := by
  unfold insertRow at hwrite
  split at hwrite
  · cases hwrite
  · next hfree =>
      cases hwrite
      refine apart_of_mem hsymm h (Bool.eq_false_of_not_eq_true hfree) fun x hx => ?_
      rw [List.mem_append, List.mem_singleton] at hx
      exact hx.symm

omit [LinearOrder κ] hsymm in
theorem foldlM_apart {step : List ρ → ρ → Option (List ρ)}
    (hstep : ∀ table row written, Apart key clash table → step table row = some written →
      Apart key clash written) {rows : List ρ} (h : Apart key clash table)
    (hwrite : rows.foldlM step table = some written) : Apart key clash written := by
  induction rows generalizing table with
  | nil =>
      cases hwrite
      exact h
  | cons row rest ih =>
      rw [List.foldlM_cons] at hwrite
      obtain ⟨next, hnext, hrest⟩ := Option.bind_eq_some_iff.mp hwrite
      exact ih (hstep table row next h hnext) hrest

theorem write_apart [DecidableEq ρ] {stored live : List ρ} (h : Apart key clash stored)
    (hwrite : write key clash stored live = some written) : Apart key clash written := by
  obtain ⟨updated, hupdated, hinserted⟩ := Option.bind_eq_some_iff.mp hwrite
  refine foldlM_apart (fun _ _ _ ht hw => insertRow_apart hsymm ht hw) ?_ hinserted
  exact foldlM_apart (fun _ _ _ ht hw => updateRow_apart hsymm ht hw) h hupdated

end Apart

variable [DecidableEq ρ] {pairs : List (ρ × ρ)} {pending : List ρ}

def versions (pending : List ρ) (pairs : List (ρ × ρ)) : List ρ :=
  pairs.map fun p => if p.2 ∈ pending then p.1 else p.2

variable (key) in
structure Versioned (pairs : List (ρ × ρ)) : Prop where
  keys : ∀ p ∈ pairs, key p.1 = key p.2
  unique : ((pairs.map Prod.snd).map key).Nodup

omit [LinearOrder κ] in
theorem Versioned.key_version (h : Versioned key pairs) {p : ρ × ρ} (hp : p ∈ pairs) :
    key (if p.2 ∈ pending then p.1 else p.2) = key p.2 := by
  split
  · exact h.keys p hp
  · rfl

theorem put_versions (h : Versioned key pairs) (hrow : row ∈ pairs.map Prod.snd)
    (hpending : row ∉ pending) :
    put key row (versions (row :: pending) pairs) = versions pending pairs := by
  unfold put versions
  rw [List.map_map]
  refine List.map_congr_left fun p hp => ?_
  have hmem : p.2 ∈ pairs.map Prod.snd := List.mem_map_of_mem hp
  simp only [Function.comp_apply]
  rw [h.key_version hp]
  by_cases hkey : key p.2 = key row
  · have hsame : p.2 = row := eq_of_key h.unique hmem hrow hkey
    rw [if_pos hkey, hsame, if_neg hpending]
  · have hother : p.2 ≠ row := fun hsame => hkey (hsame ▸ rfl)
    rw [if_neg hkey]
    simp [hother]

def Unblocked (key : ρ → κ) (clash : ρ → ρ → Bool) (pairs : List (ρ × ρ)) (row : ρ) : Prop :=
  ∀ p ∈ pairs, key p.2 ≠ key row → clash row (if key p.2 < key row then p.2 else p.1) = false

variable (key) in
structure Pending (pairs : List (ρ × ρ)) (pending : List ρ) : Prop where
  sorted : pending.Pairwise fun x y => key x < key y
  rows : ∀ row ∈ pending, row ∈ pairs.map Prod.snd
  complete : ∀ p ∈ pairs, p.1 ≠ p.2 → p.2 ∈ pending ∨ ∀ row ∈ pending, key p.2 < key row

omit [DecidableEq ρ] in
theorem Pending.tail (h : Pending key pairs (row :: pending)) : Pending key pairs pending := by
  obtain ⟨hfirst, hsorted⟩ := List.pairwise_cons.mp h.sorted
  refine ⟨hsorted, fun r hr => h.rows r (List.mem_cons_of_mem row hr), fun p hp hne => ?_⟩
  rcases h.complete p hp hne with hmem | hbefore
  · rcases List.mem_cons.mp hmem with heq | hmem
    · exact .inr fun r hr => heq ▸ hfirst r hr
    · exact .inl hmem
  · exact .inr fun r hr => hbefore r (List.mem_cons_of_mem row hr)

theorem Pending.blocked_iff (h : Pending key pairs (row :: pending)) (hv : Versioned key pairs) :
    blocked key clash (versions (row :: pending) pairs) row = false ↔
      Unblocked key clash pairs row := by
  rw [blocked_eq_false]
  unfold versions
  rw [List.forall_mem_map]
  refine forall_congr' fun p => forall_congr' fun hp => ?_
  rw [hv.key_version hp]
  refine forall_congr' fun hne => ?_
  have hfirst := (List.pairwise_cons.mp h.sorted).1
  have hversion : (if p.2 ∈ row :: pending then p.1 else p.2) =
      if key p.2 < key row then p.2 else p.1 := by
    by_cases hlt : key p.2 < key row
    · have hdone : p.2 ∉ row :: pending := by
        intro hmem
        rcases List.mem_cons.mp hmem with heq | hmem
        · exact hne (heq ▸ rfl)
        · exact absurd (hfirst p.2 hmem) (lt_asymm hlt)
      rw [if_pos hlt, if_neg hdone]
    · rw [if_neg hlt]
      split
      · rfl
      · next hdone =>
          by_contra hchanged
          rcases h.complete p hp (Ne.symm hchanged) with hmem | hbefore
          · exact hdone hmem
          · exact hlt (hbefore row List.mem_cons_self)
  rw [hversion]

theorem foldlM_updateRow (hv : Versioned key pairs) (h : Pending key pairs pending) :
    pending.foldlM (updateRow key clash) (versions pending pairs) = some written ↔
      written = pairs.map Prod.snd ∧ ∀ row ∈ pending, Unblocked key clash pairs row := by
  induction pending with
  | nil =>
      have hdone : versions [] pairs = pairs.map Prod.snd := by simp [versions]
      rw [List.foldlM_nil, hdone]
      simp [eq_comm]
  | cons row rest ih =>
      have hnext : put key row (versions (row :: rest) pairs) = versions rest pairs := by
        refine put_versions hv (h.rows row List.mem_cons_self) fun hmem => ?_
        exact lt_irrefl _ ((List.pairwise_cons.mp h.sorted).1 row hmem)
      have hfree : blocked key clash (versions (row :: rest) pairs) row = false ↔
          Unblocked key clash pairs row := h.blocked_iff hv
      rw [List.foldlM_cons, updateRow, hnext, List.forall_mem_cons]
      by_cases hblocked : blocked key clash (versions (row :: rest) pairs) row = true
      · rw [if_pos hblocked]
        have hnot : ¬ Unblocked key clash pairs row := by
          rw [← hfree, hblocked]
          exact Bool.noConfusion
        simp [hnot]
      · rw [if_neg hblocked]
        have hrow := hfree.mp (Bool.eq_false_of_not_eq_true hblocked)
        simpa [hrow] using ih h.tail

theorem mem_changed : row ∈ changed key pairs ↔ ∃ p ∈ pairs, p.1 ≠ p.2 ∧ p.2 = row := by
  simp [changed, List.mem_insertionSort]

theorem pending_changed (hv : Versioned key pairs) : Pending key pairs (changed key pairs) := by
  refine ⟨?_, fun row hrow => ?_, fun p hp hne => .inl (mem_changed.mpr ⟨p, hp, hne, rfl⟩)⟩
  · have : Std.Total fun x y : ρ => key x ≤ key y := ⟨fun x y => le_total (key x) (key y)⟩
    have : IsTrans ρ fun x y => key x ≤ key y := ⟨fun _ _ _ => le_trans⟩
    have hkept : ((pairs.filter fun p => p.1 ≠ p.2).map Prod.snd).Sublist (pairs.map Prod.snd) :=
      List.filter_sublist.map Prod.snd
    have hkeys : ((changed key pairs).map key).Nodup := by
      refine (((List.perm_insertionSort _ _).map key).nodup_iff).mpr ?_
      exact hv.unique.sublist (hkept.map key)
    have hdistinct := List.pairwise_map.mp hkeys
    have hordered : (changed key pairs).Pairwise fun x y => key x ≤ key y :=
      List.pairwise_insertionSort _ _
    exact (hordered.and hdistinct).imp fun h => lt_of_le_of_ne h.1 h.2
  · obtain ⟨p, hp, -, rfl⟩ := mem_changed.mp hrow
    exact List.mem_map_of_mem hp

theorem foldlM_changed (hv : Versioned key pairs) :
    (changed key pairs).foldlM (updateRow key clash) (pairs.map Prod.fst) = some written ↔
      written = pairs.map Prod.snd ∧
        ∀ p ∈ pairs, p.1 ≠ p.2 → Unblocked key clash pairs p.2 := by
  have hstored : versions (changed key pairs) pairs = pairs.map Prod.fst := by
    refine List.map_congr_left fun p hp => ?_
    split
    · rfl
    · next hsame =>
        by_contra hne
        exact hsame (mem_changed.mpr ⟨p, hp, fun heq => hne heq.symm, rfl⟩)
  rw [← hstored, foldlM_updateRow hv (pending_changed hv)]
  refine and_congr_right fun _ => ?_
  simp only [mem_changed]
  constructor
  · intro h p hp hne
    exact h p.2 ⟨p, hp, hne, rfl⟩
  · rintro h _ ⟨p, hp, hne, rfl⟩
    exact h p hp hne

omit [LinearOrder κ] [DecidableEq ρ] in
theorem versioned_zip {stored kept : List ρ} (hkeys : stored.map key = kept.map key)
    (hn : (kept.map key).Nodup) : Versioned key (stored.zip kept) := by
  have hlength : stored.length = kept.length := by simpa using congrArg List.length hkeys
  refine ⟨fun p hp => ?_, ?_⟩
  · obtain ⟨n, hn, rfl⟩ := List.mem_iff_getElem.mp hp
    have hget := congrArg (·[n]?) hkeys
    rw [List.length_zip] at hn
    simpa [List.getElem?_map, List.getElem?_eq_getElem (show n < stored.length by omega),
      List.getElem?_eq_getElem (show n < kept.length by omega)] using hget
  · rwa [List.map_snd_zip hlength.ge]

theorem write_append_iff {stored kept rows : List ρ} (hkeys : stored.map key = kept.map key)
    (hn : (kept.map key).Nodup) :
    write key clash stored (kept ++ rows) = some written ↔
      (∀ p ∈ stored.zip kept, p.1 ≠ p.2 → Unblocked key clash (stored.zip kept) p.2) ∧
        rows.foldlM (insertRow key clash) kept = some written := by
  have hlength : stored.length = kept.length := by simpa using congrArg List.length hkeys
  have hzip : stored.zip (kept ++ rows) = stored.zip kept := by
    have happend : (stored ++ []).zip (kept ++ rows) = stored.zip kept ++ [].zip rows :=
      List.zip_append hlength
    simpa using happend
  have hrows : (kept ++ rows).drop stored.length = rows := by
    rw [hlength, List.drop_left]
  have hupdates : ∀ updated, (changed key (stored.zip kept)).foldlM (updateRow key clash) stored =
      some updated ↔ updated = kept ∧
        ∀ p ∈ stored.zip kept, p.1 ≠ p.2 → Unblocked key clash (stored.zip kept) p.2 := by
    intro updated
    have hchanged : (changed key (stored.zip kept)).foldlM (updateRow key clash)
        ((stored.zip kept).map Prod.fst) = some updated ↔ _ :=
      foldlM_changed (versioned_zip hkeys hn)
    rwa [List.map_fst_zip hlength.le, List.map_snd_zip hlength.ge] at hchanged
  unfold write
  rw [hzip, hrows]
  constructor
  · intro h
    obtain ⟨updated, hupdated, hinserted⟩ := Option.bind_eq_some_iff.mp h
    obtain ⟨rfl, hfree⟩ := (hupdates updated).mp hupdated
    exact ⟨hfree, hinserted⟩
  · rintro ⟨hfree, hinserted⟩
    exact Option.bind_eq_some_iff.mpr ⟨kept, (hupdates kept).mpr ⟨rfl, hfree⟩, hinserted⟩

theorem write_kept_iff {stored kept : List ρ} (hkeys : stored.map key = kept.map key)
    (hn : (kept.map key).Nodup) :
    (∃ written, write key clash stored kept = some written) ↔
      ∀ p ∈ stored.zip kept, p.1 ≠ p.2 → Unblocked key clash (stored.zip kept) p.2 := by
  have hwrite : ∀ written, write key clash stored (kept ++ []) = some written ↔ _ :=
    fun written => write_append_iff hkeys hn
  simp only [List.append_nil] at hwrite
  simp [hwrite]

theorem write_inserted_iff {stored kept : List ρ} (hkeys : stored.map key = kept.map key)
    (hn : (kept.map key).Nodup) :
    (∃ written, write key clash stored (kept ++ [row]) = some written) ↔
      (∀ p ∈ stored.zip kept, p.1 ≠ p.2 → Unblocked key clash (stored.zip kept) p.2) ∧
        blocked key clash kept row = false := by
  simp only [write_append_iff hkeys hn, exists_and_left]
  refine and_congr_right fun _ => ?_
  cases hrow : blocked key clash kept row <;> simp [insertRow, hrow]

theorem write_eq {stored live : List ρ} (hkeys : stored.map key <+: live.map key)
    (hn : (live.map key).Nodup) (h : write key clash stored live = some written) :
    written = live := by
  obtain ⟨keys, hkeys⟩ := hkeys
  obtain ⟨kept, rows, rfl, hkept, -⟩ := List.map_eq_append_iff.mp hkeys.symm
  rw [List.map_append] at hn
  obtain ⟨-, hrows⟩ := (write_append_iff hkept.symm (List.nodup_append.mp hn).1).mp h
  exact eq_append_of_inserted hrows

end PendingWrites
