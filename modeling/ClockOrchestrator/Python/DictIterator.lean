import Mathlib.Tactic.Common

namespace Python

-- The iterator of a dict that only ever grows: it keeps the number of entries that it began with.
structure DictIterator where
  position : Nat
  size : Nat
  deriving DecidableEq

inductive DictNext (α : Type) where
  | changed
  | exhausted
  | entry (entry : α) (iterator : DictIterator)

namespace DictIterator

variable {α β : Type}

def iter (entries : List α) : DictIterator := ⟨0, entries.length⟩

-- The size is compared first, so a dict that grew after the last entry is an error too.
def next (entries : List α) (iterator : DictIterator) : DictNext α :=
  if entries.length = iterator.size then
    match entries[iterator.position]? with
    | none => .exhausted
    | some entry => .entry entry ⟨iterator.position + 1, iterator.size⟩
  else .changed

def rest (iterator : DictIterator) (entries : List α) : List α :=
  (entries.take iterator.size).drop iterator.position

theorem rest_iter (entries : List α) : (iter entries).rest entries = entries := by
  simp [rest, iter]

theorem rest_map (f : α → β) (iterator : DictIterator) (entries : List α) :
    iterator.rest (entries.map f) = (iterator.rest entries).map f := by
  simp [rest]

theorem mem_rest_append {iterator : DictIterator} {entries : List α} {entry : α}
    (h : entry ∈ iterator.rest entries) (more : List α) :
    entry ∈ iterator.rest (entries ++ more) := by
  rw [rest, List.take_append, List.drop_append]
  exact List.mem_append_left _ h

variable {iterator iterator' : DictIterator} {entries : List α} {entry : α}

theorem next_eq_exhausted (h : iterator.next entries = .exhausted) : iterator.rest entries = [] := by
  unfold next at h
  split at h
  · next hsize =>
    split at h
    · next hend =>
      have hlast : entries.length ≤ iterator.position := List.getElem?_eq_none_iff.mp hend
      rw [rest, ← hsize, List.take_length, List.drop_eq_nil_of_le hlast]
    · cases h
  · cases h

theorem next_eq_entry (h : iterator.next entries = .entry entry iterator') :
    iterator.rest entries = entry :: iterator'.rest entries ∧ iterator'.size = iterator.size := by
  unfold next at h
  split at h
  · next hsize =>
    split at h
    · cases h
    · next hentry =>
      cases h
      obtain ⟨hlt, hget⟩ := List.getElem?_eq_some_iff.mp hentry
      refine ⟨?_, rfl⟩
      rw [rest, rest, ← hsize, List.take_length, List.drop_eq_getElem_cons hlt, hget]
  · cases h

theorem next_ne_changed (h : entries.length = iterator.size) : iterator.next entries ≠ .changed := by
  rw [next, if_pos h]
  split <;> simp

end DictIterator

end Python
