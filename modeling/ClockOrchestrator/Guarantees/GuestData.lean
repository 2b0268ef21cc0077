import ClockOrchestrator.Guarantees.HashCoverage

namespace ClockOrchestrator

open Python JsonValue

def strippingAlg : Alg JsonValue where
  scalar := .scalar
  str := .str
  array := .array
  object entries := .object (stripPii entries)

def stripDeep (v : JsonValue) : JsonValue := v.fold strippingAlg

def guestDataAlg : Alg Bool where
  scalar _ := false
  str _ := false
  array items := items.any id
  object entries := entries.any fun e => isPii e.1 || e.2

def holdsGuestData (v : JsonValue) : Bool := v.fold guestDataAlg

theorem stripDeep_array (items : List JsonValue) :
    stripDeep (.array items) = .array (items.map stripDeep) := fold_array ..

theorem stripDeep_object (entries : List (String × JsonValue)) :
    stripDeep (.object entries) = .object ((stripPii entries).map fun e => (e.1, stripDeep e.2)) := by
  rw [stripDeep, fold_object]
  change object (stripPii _) = _
  rw [stripPii, List.filter_map]
  rfl

theorem holdsGuestData_array {items : List JsonValue} :
    holdsGuestData (.array items) = false ↔ ∀ v ∈ items, holdsGuestData v = false := by
  rw [holdsGuestData, fold_array]
  simp [guestDataAlg, holdsGuestData]

theorem holdsGuestData_object {entries : List (String × JsonValue)} :
    holdsGuestData (.object entries) = false ↔
      ∀ e ∈ entries, isPii e.1 = false ∧ holdsGuestData e.2 = false := by
  rw [holdsGuestData, fold_object]
  simp [guestDataAlg, holdsGuestData]

theorem stripDeep_eq_self {v : JsonValue} (h : holdsGuestData v = false) : stripDeep v = v := by
  induction v using induct with
  | scalar value => rfl
  | str text => rfl
  | array items ih =>
      rw [holdsGuestData_array] at h
      have hitems : items.map stripDeep = items.map id :=
        List.map_congr_left fun v hv => ih v hv (h v hv)
      rw [stripDeep_array, hitems, List.map_id]
  | object entries ih =>
      rw [holdsGuestData_object] at h
      have hkept : stripPii entries = entries :=
        List.filter_eq_self.mpr fun e he => by rw [(h e he).1]; rfl
      have hentries : (entries.map fun e => (e.1, stripDeep e.2)) = entries.map id :=
        List.map_congr_left fun e he => Prod.ext rfl (ih e he (h e he).2)
      rw [stripDeep_object, hkept, hentries, List.map_id]

section GuestData

variable {lib : PyLibrary} {p q : ClockPayload}

def SameWithoutGuestData (p q : ClockPayload) : Prop :=
  Same (stripDeep (.object p.entries)) (stripDeep (.object q.entries))

theorem sameWithoutGuestData_iff : SameWithoutGuestData p q ↔
    ∀ key, isPii key = false → (p.find key).map (fun v => (stripDeep v).canonical) =
      (q.find key).map fun v => (stripDeep v).canonical := by
  rw [SameWithoutGuestData, Same, stripDeep_object, stripDeep_object, canonical_object,
    canonical_object, object.injEq, List.map_map, List.map_map]
  exact ClockPayload.sorted_unmarked_eq_iff fun v => (stripDeep v).canonical

theorem guest_data_unhashed_iff (hinj : lib.sha256.Injective) (hsame : SameWithoutGuestData p q) :
    payloadHash lib p = payloadHash lib q ↔
      ∀ key v w, isPii key = false → p.find key = some v → q.find key = some w →
        (holdsGuestData v = true ∨ holdsGuestData w = true) → Same v w := by
  rw [payloadHash_eq_iff hinj]
  rw [sameWithoutGuestData_iff] at hsame
  constructor
  · intro h key v w hkey hv hw _
    have hfind := h key hkey
    rw [hv, hw] at hfind
    exact Option.some.inj hfind
  · intro h key hkey
    have hfind := hsame key hkey
    cases hv : p.find key with
    | none =>
        rw [hv, Option.map_none, eq_comm, Option.map_eq_none_iff] at hfind
        rw [hfind]
    | some v =>
        rw [hv, Option.map_some, eq_comm, Option.map_eq_some_iff] at hfind
        obtain ⟨w, hw, hstripped⟩ := hfind
        rw [hw, Option.map_some, Option.map_some]
        congr 1
        by_cases hguest : holdsGuestData v = true ∨ holdsGuestData w = true
        · exact h key v w hkey hv hw hguest
        · obtain ⟨hguestv, hguestw⟩ := not_or.mp hguest
          have hkeptv : stripDeep v = v := stripDeep_eq_self (by simpa using hguestv)
          have hkeptw : stripDeep w = w := stripDeep_eq_self (by simpa using hguestw)
          rw [hkeptv, hkeptw] at hstripped
          exact hstripped.symm

end GuestData

def demoGuestPayload (email nestedEmail : String) : ClockPayload where
  entries := [("id", .scalar (.int 1)), ("guest_e_mail", .str email),
    ("contact", .object [("email", .str nestedEmail)])]
  distinct := by simp

theorem demoGuestPayload_same (email nestedEmail email' nestedEmail' : String) :
    SameWithoutGuestData (demoGuestPayload email nestedEmail)
      (demoGuestPayload email' nestedEmail') := by
  have hid : isPii "id" = false := by decide +kernel
  have hguest : isPii "guest_e_mail" = true := by decide +kernel
  have hcontact : isPii "contact" = false := by decide +kernel
  have hemail : isPii "email" = true := by decide +kernel
  rw [SameWithoutGuestData, stripDeep_object, stripDeep_object]
  simp [demoGuestPayload, stripPii, hid, hguest, hcontact, stripDeep_object, hemail, Same]

theorem top_level_email_is_unhashed :
    payloadHash demoLibrary (demoGuestPayload "a@example.com" "c@example.com") =
      payloadHash demoLibrary (demoGuestPayload "b@example.com" "c@example.com") := by
  refine (guest_data_unhashed_iff demoLibrary_sha256_injective
    (demoGuestPayload_same ..)).mpr fun key v w hkey hv hw _ => ?_
  have hmarked : key ≠ "guest_e_mail" := by
    rintro rfl
    exact absurd hkey (by decide +kernel)
  have hfind : (demoGuestPayload "a@example.com" "c@example.com").find key =
      (demoGuestPayload "b@example.com" "c@example.com").find key := by
    simp [ClockPayload.find, demoGuestPayload, List.find?_cons, Ne.symm hmarked]
  rw [hfind, hw] at hv
  rw [Option.some.inj hv]
  rfl

theorem nested_email_is_hashed :
    ¬ ∀ (lib : PyLibrary) (p q : ClockPayload), lib.sha256.Injective →
      SameWithoutGuestData p q → payloadHash lib p = payloadHash lib q := by
  intro h
  have hsame := h demoLibrary _ _ demoLibrary_sha256_injective
    (demoGuestPayload_same "a@example.com" "a@example.com" "a@example.com" "b@example.com")
  exact absurd hsame (by decide +kernel)

end ClockOrchestrator
