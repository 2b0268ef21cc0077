import ClockOrchestrator.Clock.DbSync
import ClockOrchestrator.Clock.PayloadHash
import ClockOrchestrator.Runtime

namespace ClockOrchestrator

open Python JsonValue

structure SameAutomation (b b' : NormalizedBooking) : Prop where
  bookingStatus : b.bookingStatus = b'.bookingStatus
  arrivalDate : b.arrivalDate = b'.arrivalDate
  departureDate : b.departureDate = b'.departureDate
  physicalRoomId : b.physicalRoomId = b'.physicalRoomId
  physicalRoomNumber : b.physicalRoomNumber = b'.physicalRoomNumber

section Normalization

variable {lib : PyLibrary} {mapping : ClockFieldMapping} {p q : ClockPayload}
  {propertyId : String} {firstSeenAt lastSeenAt : Timestamp} {b : NormalizedBooking}

structure Reads (lib : PyLibrary) (mapping : ClockFieldMapping) (p : ClockPayload)
    (b : NormalizedBooking) : Prop where
  status : b.bookingStatus = bookingStatusOf ((p.get mapping.status).pyStr lib.isprintable)
  arrival : dateFromIso ((p.get mapping.arrivalDate).pyStr lib.isprintable).toList =
    some b.arrivalDate
  departure : dateFromIso ((p.get mapping.departureDate).pyStr lib.isprintable).toList =
    some b.departureDate
  roomId : b.physicalRoomId = optionalStr lib p mapping.physicalRoomId
  roomNumber : b.physicalRoomNumber = optionalStr lib p mapping.physicalRoomNumber
  hash : b.payloadHash = payloadHash lib p

theorem requireField_ok {key : String} {v : JsonValue} (h : requireField p key = .ok v) :
    v = p.get key := by
  unfold requireField at h
  split at h
  · cases h
  · exact (Except.ok.inj h).symm

theorem parseDate_ok {v : JsonValue} {date : Date} (h : parseDate lib v = .ok date) :
    dateFromIso (v.pyStr lib.isprintable).toList = some date := by
  simp only [parseDate] at h
  split at h
  · next hdate => rw [hdate, Except.ok.inj h]
  · cases h

theorem requireDate_ok {key : String} {date : Date}
    (h : requireField p key >>= parseDate lib = .ok date) :
    dateFromIso ((p.get key).pyStr lib.isprintable).toList = some date := by
  obtain ⟨v, hv, hdate⟩ := bind_ok h
  rw [← requireField_ok hv]
  exact parseDate_ok hdate

theorem normalize_reads
    (h : normalizeBookingPayload lib p propertyId mapping firstSeenAt lastSeenAt = .ok b) :
    Reads lib mapping p b := by
  unfold normalizeBookingPayload at h
  obtain ⟨source, hsource, h⟩ := bind_ok h
  obtain ⟨bookingId, -, h⟩ := bind_ok h
  obtain ⟨arrival, harrival, h⟩ := bind_ok h
  obtain ⟨departure, hdeparture, h⟩ := bind_ok h
  obtain ⟨createdAt, -, h⟩ := bind_ok h
  obtain ⟨updatedAt, -, h⟩ := bind_ok h
  obtain ⟨statusChangedAt, -, h⟩ := bind_ok h
  obtain ⟨readAdults, -, h⟩ := bind_ok h
  obtain ⟨readChildren, -, h⟩ := bind_ok h
  obtain ⟨adults, -, h⟩ := bind_ok h
  obtain ⟨children, -, h⟩ := bind_ok h
  obtain ⟨v, hv, rfl⟩ := map_ok hsource
  dsimp only at h
  split at h
  · cases h
    exact ⟨by rw [← requireField_ok hv], requireDate_ok harrival, requireDate_ok hdeparture, rfl,
      rfl, rfl⟩
  · cases h

end Normalization

section Containers

variable {isprintable : Char → Bool} {v w : JsonValue}

theorem dateFromIso_container (h : v.isContainer = true) :
    dateFromIso (v.pyStr isprintable).toList = none := by
  obtain ⟨c, rest, htext, hc⟩ := pyStr_container isprintable h
  rw [htext]
  by_contra hdate
  have hdigit := dateFromIso_head (Option.ne_none_iff_isSome.mp hdate)
  simp only [List.mem_cons, List.not_mem_nil, or_false] at hc
  rcases hc with rfl | rfl <;> cases hdigit

theorem bookingStatusOf_container (h : v.isContainer = true) :
    bookingStatusOf (v.pyStr isprintable) = .unknown := by
  obtain ⟨c, rest, htext, hc⟩ := pyStr_container isprintable h
  have hnone : statusMap.find? (·.1 = v.pyStr isprintable) = none := by
    refine List.find?_eq_none.mpr fun e he hsame => ?_
    have hheads : ∀ c ∈ ['[', '{'], ∀ e ∈ statusMap, e.1.toList.head? ≠ some c :=
      List.forall_mem_cons.mpr ⟨by decide, List.forall_mem_singleton.mpr (by decide)⟩
    refine hheads c hc e he ?_
    rw [of_decide_eq_true hsame, htext]
    rfl
  rw [bookingStatusOf, hnone]
  rfl

theorem bookingStatusOf_same (h : Same v w) :
    bookingStatusOf (v.pyStr isprintable) = bookingStatusOf (w.pyStr isprintable) := by
  cases hv : v.isContainer with
  | true =>
      rw [bookingStatusOf_container hv, bookingStatusOf_container (h.isContainer_eq ▸ hv)]
  | false => rw [h.eq_of_plain hv]

theorem dateFromIso_same (h : Same v w) :
    dateFromIso (v.pyStr isprintable).toList = dateFromIso (w.pyStr isprintable).toList := by
  cases hv : v.isContainer with
  | true => rw [dateFromIso_container hv, dateFromIso_container (h.isContainer_eq ▸ hv)]
  | false => rw [h.eq_of_plain hv]

end Containers

structure HiddenFieldsAgree (lib : PyLibrary) (mapping : ClockFieldMapping) (p q : ClockPayload) :
    Prop where
  status : isPii mapping.status = true →
    bookingStatusOf ((p.get mapping.status).pyStr lib.isprintable) =
      bookingStatusOf ((q.get mapping.status).pyStr lib.isprintable)
  dates : ∀ key ∈ [mapping.arrivalDate, mapping.departureDate], isPii key = true →
    dateFromIso ((p.get key).pyStr lib.isprintable).toList =
      dateFromIso ((q.get key).pyStr lib.isprintable).toList
  rooms : ∀ field ∈ [mapping.physicalRoomId, mapping.physicalRoomNumber], ∀ key ∈ field,
    isPii key = true ∨ (p.get key).isContainer = true →
      optionalStr lib p field = optionalStr lib q field

section Coverage

variable {lib : PyLibrary} {mapping : ClockFieldMapping} {p q : ClockPayload}
  {b b' : NormalizedBooking}

theorem SameUnmarked.optionalStr_eq (h : SameUnmarked p q) {field : Option String}
    (hfield : ∀ key ∈ field, isPii key = true ∨ (p.get key).isContainer = true →
      optionalStr lib p field = optionalStr lib q field) :
    optionalStr lib p field = optionalStr lib q field := by
  cases field with
  | none => rfl
  | some key =>
      by_cases hhidden : isPii key = true ∨ (p.get key).isContainer = true
      · exact hfield key rfl hhidden
      · obtain ⟨hkey, hplain⟩ := not_or.mp hhidden
        have hsame := (h.get (Bool.not_eq_true _ ▸ hkey)).eq_of_plain (Bool.not_eq_true _ ▸ hplain)
        rw [optionalStr, optionalStr, Option.bind_some, Option.bind_some, hsame]

theorem hiddenFieldsAgree (hp : Reads lib mapping p b) (hq : Reads lib mapping q b')
    (h : SameAutomation b b') : HiddenFieldsAgree lib mapping p q := by
  refine ⟨fun _ => ?_, fun key hkey _ => ?_, fun field hfield key hkey _ => ?_⟩
  · rw [← hp.status, ← hq.status, h.bookingStatus]
  · simp only [List.mem_cons, List.not_mem_nil, or_false] at hkey
    rcases hkey with rfl | rfl
    · rw [hp.arrival, hq.arrival, h.arrivalDate]
    · rw [hp.departure, hq.departure, h.departureDate]
  · simp only [List.mem_cons, List.not_mem_nil, or_false] at hfield
    rcases hfield with rfl | rfl
    · rw [← hp.roomId, ← hq.roomId, h.physicalRoomId]
    · rw [← hp.roomNumber, ← hq.roomNumber, h.physicalRoomNumber]

theorem sameAutomation (hp : Reads lib mapping p b) (hq : Reads lib mapping q b')
    (hsame : SameUnmarked p q) (h : HiddenFieldsAgree lib mapping p q) : SameAutomation b b' := by
  have hdate : ∀ key ∈ [mapping.arrivalDate, mapping.departureDate],
      dateFromIso ((p.get key).pyStr lib.isprintable).toList =
        dateFromIso ((q.get key).pyStr lib.isprintable).toList := by
    intro key hkey
    cases hpii : isPii key with
    | true => exact h.dates key hkey hpii
    | false => exact dateFromIso_same (hsame.get hpii)
  refine ⟨?_, ?_, ?_, ?_, ?_⟩
  · rw [hp.status, hq.status]
    cases hpii : isPii mapping.status with
    | true => exact h.status hpii
    | false => exact bookingStatusOf_same (hsame.get hpii)
  · have hread := hdate mapping.arrivalDate (by simp)
    rw [hp.arrival, hq.arrival] at hread
    exact Option.some.inj hread
  · have hread := hdate mapping.departureDate (by simp)
    rw [hp.departure, hq.departure] at hread
    exact Option.some.inj hread
  · rw [hp.roomId, hq.roomId]
    exact hsame.optionalStr_eq (h.rooms _ (by simp))
  · rw [hp.roomNumber, hq.roomNumber]
    exact hsame.optionalStr_eq (h.rooms _ (by simp))

theorem upsertBooking_unchanged_iff {H : Type} {rt : AppRuntime H} {property : PropertyRow}
    {s : DbSession H} {observedAt : Instant} {stored : BookingRow}
    (hstored : (s.select (·.bookings) fun r =>
      r.propertyId = property.id && r.clockBookingId = b.clockBookingId).head? = some stored) :
    (upsertBooking rt property s b observedAt).2.1 = false ↔
      stored.payloadHash = b.payloadHash := by
  rw [upsertBooking, hstored]
  simp

theorem hash_covers_automation_iff (hinj : lib.sha256.Injective)
    {propertyId propertyId' : String} {firstSeenAt lastSeenAt firstSeenAt' lastSeenAt' : Timestamp}
    (hb : normalizeBookingPayload lib p propertyId mapping firstSeenAt lastSeenAt = .ok b)
    (hb' : normalizeBookingPayload lib q propertyId' mapping firstSeenAt' lastSeenAt' = .ok b') :
    ((b.payloadHash = b'.payloadHash → SameAutomation b b') ↔
      (SameUnmarked p q → HiddenFieldsAgree lib mapping p q)) ∧
    ∀ {H : Type} (rt : AppRuntime H) (property : PropertyRow) (s : DbSession H)
      (observedAt : Instant) (stored : BookingRow),
      (s.select (·.bookings) fun r =>
        r.propertyId = property.id && r.clockBookingId = b'.clockBookingId).head? = some stored →
      stored.payloadHash = b.payloadHash →
      (((upsertBooking rt property s b' observedAt).2.1 = false → SameAutomation b b') ↔
        (SameUnmarked p q → HiddenFieldsAgree lib mapping p q)) := by
  have hp := normalize_reads hb
  have hq := normalize_reads hb'
  have hhash : b.payloadHash = b'.payloadHash ↔ SameUnmarked p q := by
    rw [hp.hash, hq.hash]
    exact payloadHash_eq_iff hinj
  have hcovers : (b.payloadHash = b'.payloadHash → SameAutomation b b') ↔
      (SameUnmarked p q → HiddenFieldsAgree lib mapping p q) := by
    rw [hhash]
    exact forall_congr' fun hsame => ⟨hiddenFieldsAgree hp hq, sameAutomation hp hq hsame⟩
  refine ⟨hcovers, fun rt property s observedAt stored hstored hkept => ?_⟩
  rw [upsertBooking_unchanged_iff hstored, hkept]
  exact hcovers

end Coverage

def demoLibrary : PyLibrary where
  isprintable c := 0x20 ≤ c.toNat && c.toNat ≤ 0x7E
  toInt
    | .scalar (.int n) => .ok n
    | _ => .error (.valueError "invalid literal for int() with base 10")
  datetimeFromIso text := .error (.valueError ("Invalid isoformat string: " ++ text))
  sha256 := String.ofList

def demoMapping : ClockFieldMapping where
  bookingId := "id"
  status := "status"
  arrivalDate := "arrival"
  departureDate := "departure"
  updatedAt := some "updated_at"
  physicalRoomId := some "physical_room_id"
  physicalRoomNumber := some "physical_room_number"

def demoPayload (status guestStatus : String) : ClockPayload where
  entries := [("id", .scalar (.int 123)), ("status", .str status),
    ("guest_status", .str guestStatus), ("arrival", .str "2026-12-20"),
    ("departure", .str "2026-12-24"), ("physical_room_number", .str "214")]
  distinct := by simp

def demoSeenAt : Timestamp := .aware (.utc (demoInstant 10 0))

theorem demoLibrary_sha256_injective : demoLibrary.sha256.Injective :=
  fun _ _ h => String.ofList_injective h

def demoNormalized (mapping : ClockFieldMapping) (p : ClockPayload) :
    Except PyError NormalizedBooking :=
  normalizeBookingPayload demoLibrary p "local_stay_razlog" mapping demoSeenAt demoSeenAt

theorem canceled_booking_is_seen :
    ∃ b b', demoNormalized demoMapping (demoPayload "expected" "expected") = .ok b ∧
      demoNormalized demoMapping (demoPayload "canceled" "expected") = .ok b' ∧
      (b.payloadHash = b'.payloadHash → SameAutomation b b') := by
  have hok : ∀ status ∈ ["expected", "canceled"],
      (demoNormalized demoMapping (demoPayload status "expected")).toOption.isSome = true := by
    decide +kernel
  obtain ⟨b, hb⟩ := Option.isSome_iff_exists.mp (hok "expected" (by decide))
  obtain ⟨b', hb'⟩ := Option.isSome_iff_exists.mp (hok "canceled" (by decide))
  rw [toOption_eq_some] at hb hb'
  refine ⟨b, b', hb, hb', ?_⟩
  rw [demoNormalized] at hb hb'
  refine (hash_covers_automation_iff demoLibrary_sha256_injective hb hb').1.mpr fun _ => ?_
  refine ⟨?_, ?_, ?_⟩
  · intro hpii
    have hplain : isPii demoMapping.status = false := by decide +kernel
    rw [hplain] at hpii
    cases hpii
  · intro key hkey hpii
    have hplain : ∀ key ∈ [demoMapping.arrivalDate, demoMapping.departureDate],
        isPii key = false := by decide +kernel
    rw [hplain key hkey] at hpii
    cases hpii
  · intro field hfield key hkey hhidden
    have hplain : ∀ field ∈ [demoMapping.physicalRoomId, demoMapping.physicalRoomNumber],
        ∀ key ∈ field, isPii key = false ∧
          ((demoPayload "expected" "expected").get key).isContainer = false := by decide +kernel
    obtain ⟨hkey, hcontainer⟩ := hplain field hfield key hkey
    rw [hkey, hcontainer] at hhidden
    simp at hhidden

def demoGuestMapping : ClockFieldMapping := { demoMapping with status := "guest_status" }

theorem marked_status_change_is_unseen :
    ¬ ∀ (lib : PyLibrary) (mapping : ClockFieldMapping) (p q : ClockPayload)
      (propertyId : String) (seenAt : Timestamp) (b b' : NormalizedBooking),
      lib.sha256.Injective →
      normalizeBookingPayload lib p propertyId mapping seenAt seenAt = .ok b →
      normalizeBookingPayload lib q propertyId mapping seenAt seenAt = .ok b' →
      b.payloadHash = b'.payloadHash → SameAutomation b b' := by
  intro h
  have hread : ((demoNormalized demoGuestMapping (demoPayload "expected" "expected")).toOption.bind
      fun b => (demoNormalized demoGuestMapping (demoPayload "expected" "canceled")).toOption.map
        fun b' => (decide (b.payloadHash = b'.payloadHash), b.bookingStatus, b'.bookingStatus)) =
          some (true, .expected, .canceled) := by
    decide +kernel
  obtain ⟨b, hb, hmap⟩ := Option.bind_eq_some_iff.mp hread
  obtain ⟨b', hb', hpair⟩ := Option.map_eq_some_iff.mp hmap
  simp only [Prod.mk.injEq, decide_eq_true_eq] at hpair
  rw [toOption_eq_some, demoNormalized] at hb hb'
  have hsame := h demoLibrary _ _ _ _ _ b b' demoLibrary_sha256_injective hb hb' hpair.1
  have hstatus := hsame.bookingStatus
  rw [hpair.2.1, hpair.2.2] at hstatus
  cases hstatus

end ClockOrchestrator
