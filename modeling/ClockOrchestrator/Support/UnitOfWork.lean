import Mathlib.Data.List.Basic
import Mathlib.Tactic.Common

namespace UnitOfWork

variable {σ ρ κ α : Type}

-- A unit of work over an append-and-update store: flushed is what the database has been
-- told, live is what the objects of the session say. Rows keep their positions.
structure Session (σ : Type) where
  autoflush : Bool
  flushed : σ
  live : σ

-- A query tests its condition on the flushed row and hands out the live object.
def selectRows (p : ρ → Bool) (flushed live : List ρ) : List ρ :=
  ((flushed.zip live).filter fun r => p r.1).map Prod.snd

namespace Session

def start (autoflush : Bool) (store : σ) : Session σ := ⟨autoflush, store, store⟩

def flush (s : Session σ) : Session σ := { s with flushed := s.live }

def modify (s : Session σ) (f : σ → σ) : Session σ := { s with live := f s.live }

def select (s : Session σ) (table : σ → List ρ) (p : ρ → Bool) : List ρ :=
  if s.autoflush then selectRows p (table s.live) (table s.live)
  else selectRows p (table s.flushed) (table s.live)

def commit (s : Session σ) : σ := s.live

@[simp] theorem live_start (a : Bool) (store : σ) : (start a store).live = store := rfl
@[simp] theorem flushed_start (a : Bool) (store : σ) : (start a store).flushed = store := rfl
@[simp] theorem autoflush_start (a : Bool) (store : σ) : (start a store).autoflush = a := rfl
@[simp] theorem live_flush (s : Session σ) : s.flush.live = s.live := rfl
@[simp] theorem flushed_flush (s : Session σ) : s.flush.flushed = s.live := rfl
@[simp] theorem autoflush_flush (s : Session σ) : s.flush.autoflush = s.autoflush := rfl
@[simp] theorem live_modify (s : Session σ) (f : σ → σ) : (s.modify f).live = f s.live := rfl
@[simp] theorem flushed_modify (s : Session σ) (f : σ → σ) :
    (s.modify f).flushed = s.flushed := rfl
@[simp] theorem autoflush_modify (s : Session σ) (f : σ → σ) :
    (s.modify f).autoflush = s.autoflush := rfl
@[simp] theorem commit_eq (s : Session σ) : s.commit = s.live := rfl

end Session

theorem selectRows_append (p : ρ → Bool) (xs ys : List ρ) :
    selectRows p xs (xs ++ ys) = xs.filter p := by
  induction xs with
  | nil => simp [selectRows]
  | cons x xs ih =>
      simp only [selectRows] at ih ⊢
      by_cases hx : p x <;> simp [hx, ih]

theorem selectRows_self (p : ρ → Bool) (xs : List ρ) : selectRows p xs xs = xs.filter p := by
  simpa using selectRows_append p xs []

theorem Session.mem_of_select {s : Session σ} {table : σ → List ρ} {p : ρ → Bool} {row : ρ}
    (h : row ∈ s.select table p) : row ∈ table s.live := by
  have hlive : ∀ flushed : List ρ, row ∈ selectRows p flushed (table s.live) → row ∈ table s.live := by
    intro flushed hrow
    obtain ⟨pair, hpair, rfl⟩ := List.mem_map.mp hrow
    exact (List.of_mem_zip (List.mem_of_mem_filter hpair)).2
  unfold Session.select at h
  split at h
  · exact hlive _ h
  · exact hlive _ h

structure Session.Shows (s : Session σ) (f : σ → α) (x : α) : Prop where
  flushed : f s.flushed = x
  live : f s.live = x

namespace Session.Shows

variable {s : Session σ} {f : σ → α} {x : α}

theorem of_start (a : Bool) (store : σ) (f : σ → α) : (start a store).Shows f (f store) :=
  ⟨rfl, rfl⟩

theorem flush (h : s.Shows f x) : s.flush.Shows f x := ⟨h.live, h.live⟩

theorem of_flush (s : Session σ) (f : σ → α) : s.flush.Shows f (f s.live) := ⟨rfl, rfl⟩

theorem modify (h : s.Shows f x) {g : σ → σ} (hg : f (g s.live) = f s.live) :
    (s.modify g).Shows f x := ⟨h.flushed, hg.trans h.live⟩

theorem self (h : s.Shows f x) : s.Shows f (f s.live) := ⟨h.flushed.trans h.live.symm, rfl⟩

theorem map {β : Type} (h : s.Shows f x) (g : α → β) : s.Shows (fun db => g (f db)) (g x) :=
  ⟨congrArg g h.flushed, congrArg g h.live⟩

end Session.Shows

theorem Session.select_of_shows {s : Session σ} {table : σ → List ρ} {rows : List ρ}
    (h : s.Shows table rows) (p : ρ → Bool) : s.select table p = rows.filter p := by
  unfold Session.select
  rw [h.live, h.flushed, selectRows_self, ite_self]

theorem selectRows_of_columns {column : ρ → κ} {p : ρ → Bool}
    (hp : ∀ x y, column x = column y → p x = p y) {flushed live : List ρ}
    (h : flushed.map column = live.map column) : selectRows p flushed live = live.filter p := by
  induction flushed generalizing live with
  | nil =>
      cases live with
      | nil => rfl
      | cons y ys => cases h
  | cons x xs ih =>
      cases live with
      | nil => cases h
      | cons y ys =>
          simp only [List.map_cons, List.cons.injEq] at h
          have hrest := ih h.2
          have hhead := hp x y h.1
          unfold selectRows at hrest ⊢
          cases hy : p y <;> simp [hhead, hy, hrest]

theorem selectRows_map_of_columns {column : ρ → κ} (p : ρ → Bool) {flushed live : List ρ}
    {pending : List κ} (h : live.map column = flushed.map column ++ pending) :
    (selectRows p flushed live).map column = (flushed.filter p).map column := by
  induction flushed generalizing live with
  | nil => rfl
  | cons x xs ih =>
      cases live with
      | nil => cases h
      | cons y ys =>
          simp only [List.map_cons, List.cons_append, List.cons.injEq] at h
          have hrest := ih h.2
          unfold selectRows at hrest ⊢
          cases hx : p x <;> simp [hx, h.1, hrest]

theorem Session.select_of_columns {s : Session σ} {table : σ → List ρ} {column : ρ → κ}
    {columns : List κ} (h : s.Shows (fun db => (table db).map column) columns) {p : ρ → Bool}
    (hp : ∀ x y, column x = column y → p x = p y) :
    s.select table p = (table s.live).filter p := by
  unfold Session.select
  rw [selectRows_self, selectRows_of_columns hp h.self.flushed, ite_self]

theorem Session.select_of_pending {s : Session σ} {table : σ → List ρ} {pending : List ρ}
    (h : table s.live = table s.flushed ++ pending) {p : ρ → Bool}
    (hp : ∀ r ∈ pending, p r = false) : s.select table p = (table s.live).filter p := by
  have hf : pending.filter p = [] := by simpa [List.filter_eq_nil_iff] using hp
  unfold Session.select
  split
  · exact selectRows_self p _
  · rw [h, selectRows_append, List.filter_append, hf, List.append_nil]

end UnitOfWork
