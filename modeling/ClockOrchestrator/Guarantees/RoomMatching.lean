import ClockOrchestrator.RuntimeInvariants
import ClockOrchestrator.Clock.RoomResolution
import ClockOrchestrator.Domain.Locality

namespace ClockOrchestrator

open Python UnitOfWork

section Identifiers

variable (registry : RoomRegistry) (b : NormalizedBooking)

def RoomRegistry.ofClockId : Option Room :=
  if truthy b.physicalRoomId then b.physicalRoomId.bind registry.byClockId else none

def RoomRegistry.ofNumber : Option Room :=
  if truthy b.physicalRoomNumber then b.physicalRoomNumber.bind registry.byKey else none

def KeyNamed (room : Room) : Prop :=
  (b.physicalRoomId = some room.key ∧ room.key ≠ "") ∨ b.physicalRoomNumber = some room.key

def IdentifiersAgree : Prop :=
  ∀ room ∈ registry.rooms, KeyNamed b room →
    match registry.ofClockId b with
    | some c => c = room
    | none => room.key ≠ "" ∧ b.physicalRoomNumber = some room.key

variable {registry b}

theorem hasClockId_iff {id : String} {room : Room} :
    hasClockId id room = true ↔ id ≠ "" ∧ room.clockRoomId = some id := by
  unfold hasClockId
  cases hc : room.clockRoomId with
  | none => simp
  | some c =>
      simp only [truthy, Bool.and_eq_true, decide_eq_true_eq, Option.some.injEq]
      constructor
      · rintro ⟨hne, rfl⟩
        exact ⟨hne, rfl⟩
      · rintro ⟨hne, rfl⟩
        exact ⟨hne, rfl⟩

theorem RoomRegistry.clockId_unique {x y : Room} (hx : x ∈ registry.rooms)
    (hy : y ∈ registry.rooms) {id : String} (hid : id ≠ "") (hcx : x.clockRoomId = some id)
    (hcy : y.clockRoomId = some id) : x = y := by
  have hunique := registry.uniqueClockIds
  rw [configuredClockIds, List.filter_filterMap] at hunique
  exact KeyedTable.eq_of_filterMap hunique hx hy (k := id) (by simp [hcx, hid])
    (by simp [hcy, hid])

theorem RoomRegistry.byClockId_eq_some {id : String} {room : Room} :
    registry.byClockId id = some room ↔
      room ∈ registry.rooms ∧ id ≠ "" ∧ room.clockRoomId = some id := by
  unfold RoomRegistry.byClockId
  rw [KeyedTable.find?_eq_some_of_unique, hasClockId_iff]
  intro x hx y hy hpx hpy
  rw [hasClockId_iff] at hpx hpy
  exact registry.clockId_unique hx hy hpx.1 hpx.2 hpy.2

theorem RoomRegistry.ofClockId_eq_some {room : Room} :
    registry.ofClockId b = some room ↔
      room ∈ registry.rooms ∧ truthy b.physicalRoomId = true ∧
        b.physicalRoomId = room.clockRoomId := by
  unfold RoomRegistry.ofClockId
  cases hid : b.physicalRoomId with
  | none => simp [truthy]
  | some id =>
      by_cases hne : id = ""
      · simp [truthy, hne]
      · simp only [truthy, hne, decide_eq_true_eq, ne_eq, not_false_eq_true, if_true,
          Option.bind_some, RoomRegistry.byClockId_eq_some, true_and]
        rw [eq_comm (a := some id)]

theorem RoomRegistry.ofNumber_eq_some {room : Room} :
    registry.ofNumber b = some room ↔
      room ∈ registry.rooms ∧ room.key ≠ "" ∧ b.physicalRoomNumber = some room.key := by
  unfold RoomRegistry.ofNumber
  cases hn : b.physicalRoomNumber with
  | none => simp [truthy]
  | some number =>
      simp only [truthy, decide_eq_true_eq, Option.bind_some, Option.some.injEq]
      by_cases hne : number = ""
      · simp only [hne, ne_eq, not_true_eq_false, if_false]
        constructor
        · intro h
          cases h
        · rintro ⟨-, hk, he⟩
          exact absurd he.symm hk
      · rw [if_pos hne, RoomRegistry.byKey_eq_some]
        constructor
        · rintro ⟨hmem, rfl⟩
          exact ⟨hmem, hne, rfl⟩
        · rintro ⟨hmem, -, rfl⟩
          exact ⟨hmem, rfl⟩

theorem RoomRegistry.resolve_eq (registry : RoomRegistry) (b : NormalizedBooking) :
    registry.resolve b = (registry.ofClockId b).or (registry.ofNumber b) := by
  unfold RoomRegistry.resolve resolveIn RoomRegistry.ofClockId RoomRegistry.ofNumber
  cases (if truthy b.physicalRoomId = true then b.physicalRoomId.bind registry.byClockId
    else none) <;> rfl

theorem namesRoom_iff {room : Room} (hroom : room ∈ registry.rooms) :
    namesRoom room b = true ↔ registry.ofClockId b = some room ∨ KeyNamed b room := by
  rw [namesRoom_eq_assignedTo, RoomRegistry.ofClockId_eq_some]
  unfold assignedTo KeyNamed
  cases hid : b.physicalRoomId with
  | none => simp [truthy]
  | some id =>
      by_cases hne : id = ""
      · simp only [hne, truthy, Bool.or_eq_true, Bool.and_eq_true, decide_eq_true_eq,
          Option.some.injEq]
        constructor
        · rintro (⟨h, -⟩ | h)
          · exact absurd rfl h
          · exact .inr (.inr h)
        · rintro (⟨-, h, -⟩ | ⟨h, hk⟩ | h)
          · exact absurd rfl h
          · exact absurd h.symm hk
          · exact .inr h
      · simp only [truthy, hne, Bool.or_eq_true, Bool.and_eq_true, decide_eq_true_eq,
          Option.some.injEq, ne_eq, not_false_eq_true, true_and, hroom]
        constructor
        · rintro ((rfl | h) | h)
          · exact .inr (.inl ⟨rfl, hne⟩)
          · exact .inl h
          · exact .inr (.inr h)
        · rintro (h | ⟨rfl, -⟩ | h)
          · exact .inl (.inr h)
          · exact .inl (.inl rfl)
          · exact .inr h

theorem identifiersAgree_iff :
    IdentifiersAgree registry b ↔
      ∀ room ∈ registry.rooms, namesRoom room b = true → registry.resolve b = some room := by
  constructor
  · intro hagree room hroom hnames
    rw [RoomRegistry.resolve_eq]
    rcases (namesRoom_iff hroom).mp hnames with hclock | hkey
    · rw [hclock]
      rfl
    · have := hagree room hroom hkey
      cases hclock : registry.ofClockId b with
      | some c =>
          simp only [hclock] at this
          rw [this]
          rfl
      | none =>
          simp only [hclock] at this
          exact RoomRegistry.ofNumber_eq_some.mpr ⟨hroom, this⟩
  · intro h room hroom hkey
    have hresolve := h room hroom ((namesRoom_iff hroom).mpr (.inr hkey))
    rw [RoomRegistry.resolve_eq] at hresolve
    cases hclock : registry.ofClockId b with
    | some c => simpa [hclock] using hresolve
    | none =>
        rw [hclock] at hresolve
        exact (RoomRegistry.ofNumber_eq_some.mp hresolve).2

end Identifiers

variable {H : Type} {base rt : AppRuntime H} {db : Db H}

theorem candidate_is_resolved_iff [DecidableEq H] (hinj : base.uuid4.Injective)
    (hrt : base.Restart rt) (hdb : Reachable base db) {rows : RegistryRows} {s : DbSession H}
    (hrows : ensureRegistry rt (rt.session db) = .ok (rows, s)) (b : NormalizedBooking)
    (onDate : Date) :
    (∀ bookings, ∀ room ∈ rt.registry.rooms, b ∈ activeBookingsForRoom room bookings onDate →
      ∃ row, resolveRoom rows b = some row ∧ rows.domainRoomsById row.id = some room) ↔
    (b.activeForAutomation = false ∨ b.departureDate < onDate ∨
      IdentifiersAgree rt.registry b) := by
  have hopened := (ensureRegistry_opened hinj hrt (hdb.invariant hinj) hrows).1
  have hroom := resolveRoom_room_iff hopened.registry hopened.rowsStored hopened.entries b
  simp only [hroom, mem_activeBookingsForRoom, identifiersAgree_iff]
  constructor
  · intro h
    by_cases hactive : b.activeForAutomation = true
    · by_cases hdate : onDate ≤ b.departureDate
      · refine .inr (.inr fun room hmem hnames => ?_)
        exact h [b] room hmem ⟨List.mem_singleton.mpr rfl, hactive, hnames, hdate⟩
      · exact .inr (.inl (not_le.mp hdate))
    · exact .inl (by simpa using hactive)
  · rintro (hactive | hdate | hagree) bookings room hmem ⟨-, hb, hnames, hle⟩
    · rw [hactive] at hb
      cases hb
    · exact absurd hle (not_le.mpr hdate)
    · exact hagree room hmem hnames

theorem clock_id_stay_drives_one_room :
    ∃ rows s, ensureRegistry (demoRuntime false) ((demoRuntime false).session (Db.empty _)) =
        .ok (rows, s) ∧
      ∀ bookings, ∀ room ∈ demoRegistry.rooms,
        demoStay ∈ activeBookingsForRoom room bookings demoDay →
          ∃ row, resolveRoom rows demoStay = some row ∧
            rows.domainRoomsById row.id = some room := by
  refine ⟨_, _, rfl, (candidate_is_resolved_iff (demoRuntime_uuid4_injective false) (.refl _)
    (.empty _) rfl demoStay demoDay).mpr (.inr (.inr ?_))⟩
  have hnone : ∀ room ∈ demoRegistry.rooms,
      demoStay.physicalRoomId ≠ some room.key ∧ demoStay.physicalRoomNumber ≠ some room.key := by
    decide
  rintro room hroom (⟨hid, -⟩ | hnumber)
  · exact absurd hid (hnone room hroom).1
  · exact absurd hnumber (hnone room hroom).2

def demoCrossedStay : NormalizedBooking := { demoStay with physicalRoomNumber := some "215" }

theorem crossed_stay_drives_two_rooms :
    ∃ rows s, ensureRegistry (demoRuntime false) ((demoRuntime false).session (Db.empty _)) =
        .ok (rows, s) ∧
      demoCrossedStay ∈ activeBookingsForRoom room214 [demoCrossedStay] demoDay ∧
      demoCrossedStay ∈ activeBookingsForRoom room215 [demoCrossedStay] demoDay ∧
      ¬ ∀ bookings, ∀ room ∈ demoRegistry.rooms,
        demoCrossedStay ∈ activeBookingsForRoom room bookings demoDay →
          ∃ row, resolveRoom rows demoCrossedStay = some row ∧
            rows.domainRoomsById row.id = some room := by
  refine ⟨_, _, rfl, by decide, by decide, fun h => ?_⟩
  obtain ⟨row, hrow, hroom⟩ := h [demoCrossedStay] room215 (by decide) (by decide)
  revert hroom
  cases hrow
  decide

end ClockOrchestrator
