import ClockOrchestrator.Clock.Normalizer
import ClockOrchestrator.Support.KeyedTable

namespace ClockOrchestrator

open Python JsonValue

namespace ClockPayload

variable {p q : ClockPayload} {key : String} {v : JsonValue}

theorem find_eq_some : p.find key = some v ↔ (key, v) ∈ p.entries := by
  have hunique : ∀ x ∈ p.entries, ∀ y ∈ p.entries, decide (x.1 = key) = true →
      decide (y.1 = key) = true → x = y := by
    intro x hx y hy hxkey hykey
    exact KeyedTable.eq_of_key p.distinct hx hy
      ((of_decide_eq_true hxkey).trans (of_decide_eq_true hykey).symm)
  rw [find, Option.map_eq_some_iff]
  constructor
  · rintro ⟨e, he, rfl⟩
    obtain ⟨hmem, hkey⟩ := (KeyedTable.find?_eq_some_of_unique hunique).mp he
    rw [← of_decide_eq_true hkey]
    exact hmem
  · intro hmem
    exact ⟨(key, v), (KeyedTable.find?_eq_some_of_unique hunique).mpr ⟨hmem, decide_eq_true rfl⟩,
      rfl⟩

variable {β : Type} {f : JsonValue → β}

def unmarked (p : ClockPayload) (f : JsonValue → β) : List (String × β) :=
  (stripPii p.entries).map fun e => (e.1, f e.2)

theorem unmarked_nodup (p : ClockPayload) (f : JsonValue → β) :
    ((p.unmarked f).map (·.1)).Nodup := by
  rw [unmarked, List.map_map]
  exact p.distinct.sublist (List.filter_sublist.map _)

theorem mem_unmarked {x : β} :
    (key, x) ∈ p.unmarked f ↔ isPii key = false ∧ (p.find key).map f = some x := by
  rw [unmarked, List.mem_map, Option.map_eq_some_iff]
  constructor
  · rintro ⟨e, he, hsame⟩
    rw [stripPii, List.mem_filter, Bool.not_eq_true'] at he
    cases hsame
    exact ⟨he.2, e.2, find_eq_some.mpr he.1, rfl⟩
  · rintro ⟨hkey, w, hw, rfl⟩
    refine ⟨(key, w), ?_, rfl⟩
    rw [stripPii, List.mem_filter, Bool.not_eq_true']
    exact ⟨find_eq_some.mp hw, hkey⟩

theorem sorted_unmarked_eq_iff (f : JsonValue → β) :
    sortByKey (p.unmarked f) = sortByKey (q.unmarked f) ↔
      ∀ key, isPii key = false → (p.find key).map f = (q.find key).map f := by
  rw [sortByKey_eq_iff (p.unmarked_nodup f),
    List.perm_ext_iff_of_nodup (p.unmarked_nodup f).of_map (q.unmarked_nodup f).of_map]
  constructor
  · intro h key hkey
    refine Option.ext fun x => ?_
    have hmem := h (key, x)
    rw [mem_unmarked, mem_unmarked] at hmem
    exact ⟨fun hx => (hmem.mp ⟨hkey, hx⟩).2, fun hx => (hmem.mpr ⟨hkey, hx⟩).2⟩
  · rintro h ⟨key, x⟩
    rw [mem_unmarked, mem_unmarked]
    exact and_congr_right fun hkey => by rw [h key hkey]

end ClockPayload

def SameUnmarked (p q : ClockPayload) : Prop :=
  ∀ key, isPii key = false → (p.find key).map canonical = (q.find key).map canonical

theorem payloadHash_eq_iff {lib : PyLibrary} (hinj : lib.sha256.Injective) {p q : ClockPayload} :
    payloadHash lib p = payloadHash lib q ↔ SameUnmarked p q := by
  rw [payloadHash, payloadHash, hinj.eq_iff, dumps_eq_iff, Same, canonical_object,
    canonical_object, object.injEq]
  exact ClockPayload.sorted_unmarked_eq_iff canonical

theorem SameUnmarked.get {p q : ClockPayload} (h : SameUnmarked p q) {key : String}
    (hkey : isPii key = false) : Same (p.get key) (q.get key) := by
  have hfind := h key hkey
  rw [ClockPayload.get, ClockPayload.get, Same]
  cases hp : p.find key with
  | none =>
      rw [hp, Option.map_none, eq_comm, Option.map_eq_none_iff] at hfind
      rw [hfind]
  | some v =>
      rw [hp, Option.map_some, eq_comm, Option.map_eq_some_iff] at hfind
      obtain ⟨w, hw, hsame⟩ := hfind
      rw [hw]
      exact hsame.symm

end ClockOrchestrator
