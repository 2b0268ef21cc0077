import ClockOrchestrator.Persistence.Frames
import ClockOrchestrator.Clock.DbSync

namespace ClockOrchestrator

open Python UnitOfWork FreshIds

variable {H : Type} {base : AppRuntime H} {db : Db H}

def BookingRow.columns (row : BookingRow) : UUID × String := (row.propertyId, row.clockBookingId)

def Db.storedBooking (db : Db H) (propertyId : UUID) (clockBookingId : String) :
    Option BookingRow :=
  db.bookings.find? fun r => r.propertyId = propertyId && r.clockBookingId = clockBookingId

def Db.currentOf (db : Db H) (bookingId : UUID) : Option AssignmentRow :=
  db.assignments.find? fun a => a.bookingId = bookingId && a.isCurrent

structure StaysStore (base : AppRuntime H) (db : Db H) : Prop where
  bookingIds : Drawn base.uuid4 db.drawn (db.bookings.map (·.id))
  bookingKeys : (db.bookings.map (·.columns)).Nodup
  bookingProperty : ∀ r ∈ db.bookings, r.propertyId ∈ db.propertyColumns.map Prod.fst
  assignmentIds : Drawn base.uuid4 db.drawn (db.assignments.map (·.id))
  oneCurrent : ∀ a ∈ db.assignments, ∀ a' ∈ db.assignments, a.isCurrent = true →
    a'.isCurrent = true → a.bookingId = a'.bookingId → a = a'
  placed : ∀ a ∈ db.assignments, (truthy a.clockRoomId || truthy a.physicalRoomNumber) = true
  assignmentBooking : ∀ a ∈ db.assignments, a.bookingId ∈ db.bookings.map (·.id)

namespace StaysStore

theorem empty : StaysStore base (Db.empty H) :=
  ⟨.nil, .nil, by simp [Db.empty], .nil, by simp [Db.empty], by simp [Db.empty],
    by simp [Db.empty]⟩

theorem of_tables {db' : Db H} (h : StaysStore base db) (hstays : db'.stays = db.stays)
    (hp : ∀ id ∈ db.propertyColumns.map Prod.fst, id ∈ db'.propertyColumns.map Prod.fst)
    (hd : db.drawn ≤ db'.drawn) : StaysStore base db' := by
  simp only [Db.stays, Prod.mk.injEq] at hstays
  obtain ⟨hb, ha⟩ := hstays
  refine ⟨?_, ?_, ?_, ?_, ?_, ?_, ?_⟩
  · rw [hb]; exact h.bookingIds.mono hd
  · rw [hb]; exact h.bookingKeys
  · rw [hb]; exact fun r hr => hp _ (h.bookingProperty r hr)
  · rw [ha]; exact h.assignmentIds.mono hd
  · rw [ha]; exact h.oneCurrent
  · rw [ha]; exact h.placed
  · rw [ha, hb]; exact h.assignmentBooking

theorem storedBooking_eq_some (h : StaysStore base db) {propertyId : UUID} {clockId : String}
    {row : BookingRow} :
    db.storedBooking propertyId clockId = some row ↔
      row ∈ db.bookings ∧ row.propertyId = propertyId ∧ row.clockBookingId = clockId := by
  unfold Db.storedBooking
  rw [KeyedTable.find?_eq_some_of_unique]
  · simp
  · intro x hx y hy hpx hpy
    simp only [Bool.and_eq_true, decide_eq_true_eq] at hpx hpy
    refine KeyedTable.eq_of_key h.bookingKeys hx hy ?_
    simp [BookingRow.columns, hpx, hpy]

theorem currentOf_eq_some (h : StaysStore base db) {bookingId : UUID} {a : AssignmentRow} :
    db.currentOf bookingId = some a ↔
      a ∈ db.assignments ∧ a.bookingId = bookingId ∧ a.isCurrent = true := by
  unfold Db.currentOf
  rw [KeyedTable.find?_eq_some_of_unique]
  · simp
  · intro x hx y hy hpx hpy
    simp only [Bool.and_eq_true, decide_eq_true_eq] at hpx hpy
    exact h.oneCurrent x hx y hy hpx.2 hpy.2 (hpx.1.trans hpy.1.symm)

theorem booking_unique (h : StaysStore base db) {r r' : BookingRow} (hr : r ∈ db.bookings)
    (hr' : r' ∈ db.bookings) (hid : r.id = r'.id) : r = r' :=
  KeyedTable.eq_of_key h.bookingIds.nodup hr hr' hid

theorem assignment_unique (h : StaysStore base db) {a a' : AssignmentRow}
    (ha : a ∈ db.assignments) (ha' : a' ∈ db.assignments) (hid : a.id = a'.id) : a = a' :=
  KeyedTable.eq_of_key h.assignmentIds.nodup ha ha' hid

end StaysStore

section SetAssignment

variable {a new : AssignmentRow}

structure Revises (new a : AssignmentRow) : Prop where
  id : new.id = a.id
  bookingId : new.bookingId = a.bookingId
  identity : assignmentRowIdentity new = assignmentRowIdentity a

theorem setAssignment_store (h : StaysStore base db) (ha : a ∈ db.assignments)
    (hcurrent : a.isCurrent = true) (hr : Revises new a) :
    StaysStore base (db.setAssignment new) := by
  have hmem : ∀ x, x ∈ (db.setAssignment new).assignments →
      x = new ∨ (x ∈ db.assignments ∧ x.id ≠ a.id) := by
    intro x hx
    rcases KeyedTable.mem_put.mp hx with ⟨rfl, -⟩ | ⟨hx, hid⟩
    · exact .inl rfl
    · exact .inr ⟨hx, hr.id ▸ hid⟩
  refine ⟨h.bookingIds, h.bookingKeys, h.bookingProperty, ?_, ?_, ?_, ?_⟩
  · change Drawn base.uuid4 db.drawn ((KeyedTable.put (·.id) new db.assignments).map (·.id))
    rw [KeyedTable.map_key_put]
    exact h.assignmentIds
  · intro x hx y hy hcx hcy hb
    rcases hmem x hx with rfl | ⟨hx', hxa⟩ <;> rcases hmem y hy with rfl | ⟨hy', hya⟩
    · rfl
    · exact absurd (congrArg AssignmentRow.id
        (h.oneCurrent y hy' a ha hcy hcurrent (hb.symm.trans hr.bookingId))) hya
    · exact absurd (congrArg AssignmentRow.id
        (h.oneCurrent x hx' a ha hcx hcurrent (hb.trans hr.bookingId))) hxa
    · exact h.oneCurrent x hx' y hy' hcx hcy hb
  · intro x hx
    rcases hmem x hx with rfl | ⟨hx, -⟩
    · have := hr.identity
      simp only [assignmentRowIdentity, Prod.mk.injEq] at this
      rw [this.1, this.2]
      exact h.placed a ha
    · exact h.placed x hx
  · intro x hx
    rcases hmem x hx with rfl | ⟨hx, -⟩
    · rw [hr.bookingId]
      exact h.assignmentBooking a ha
    · exact h.assignmentBooking x hx

theorem setAssignment_currentOf_other (h : StaysStore base db) (ha : a ∈ db.assignments)
    (hr : Revises new a) {bookingId : UUID} (hb : bookingId ≠ a.bookingId) :
    (db.setAssignment new).currentOf bookingId = db.currentOf bookingId := by
  have hnot : ∀ x : AssignmentRow, x.bookingId = a.bookingId →
      (decide (x.bookingId = bookingId) && x.isCurrent) = false := by
    intro x hx
    simp [hx, Ne.symm hb]
  have hput := KeyedTable.find?_put h.assignmentIds.nodup ha hr.id
    (p := fun x => decide (x.bookingId = bookingId) && x.isCurrent)
    ((hnot new hr.bookingId).trans (hnot a rfl).symm)
  unfold Db.currentOf Db.setAssignment
  rw [hput]
  cases hf : db.assignments.find? fun x => decide (x.bookingId = bookingId) && x.isCurrent with
  | none => rfl
  | some x =>
      have hx := List.find?_some hf
      have hne : x.id ≠ new.id := by
        intro hid
        have := h.assignment_unique (List.mem_of_find?_eq_some hf) ha (hid.trans hr.id)
        rw [this, hnot a rfl] at hx
        cases hx
      simp [hne]

theorem setAssignment_currentOf_ended (h : StaysStore base db) (ha : a ∈ db.assignments)
    (hcurrent : a.isCurrent = true) (hr : Revises new a) (hended : new.isCurrent = false)
    {bookingId : UUID} (hb : a.bookingId = bookingId) :
    (db.setAssignment new).currentOf bookingId = none := by
  subst hb
  refine List.find?_eq_none.mpr ?_
  intro x hx hp
  simp only [Bool.and_eq_true, decide_eq_true_eq] at hp
  rcases KeyedTable.mem_put.mp hx with ⟨rfl, -⟩ | ⟨hx, hid⟩
  · rw [hended] at hp
    cases hp.2
  · have := h.oneCurrent x hx a ha hp.2 hcurrent hp.1
    rw [this, hr.id] at hid
    exact hid rfl

theorem setAssignment_currentOf_kept (h : StaysStore base db) (ha : a ∈ db.assignments)
    (hcurrent : a.isCurrent = true) (hr : Revises new a) (hkept : new.isCurrent = true)
    {bookingId : UUID} (hb : a.bookingId = bookingId) :
    (db.setAssignment new).currentOf bookingId = some new := by
  subst hb
  have hstore := setAssignment_store h ha hcurrent hr
  rw [hstore.currentOf_eq_some]
  refine ⟨KeyedTable.mem_put.mpr (.inl ⟨rfl, ?_⟩), hr.bookingId, hkept⟩
  rw [hr.id]
  exact List.mem_map_of_mem ha

end SetAssignment

section AddAssignment

variable {new : AssignmentRow}

theorem addAssignment_store (hinj : base.uuid4.Injective) (h : StaysStore base db)
    (hid : new.id = base.uuid4 db.drawn) (hnone : db.currentOf new.bookingId = none)
    (hplaced : (truthy new.clockRoomId || truthy new.physicalRoomNumber) = true)
    (hb : new.bookingId ∈ db.bookings.map (·.id)) : StaysStore base (db.addAssignment new) := by
  have hmem : ∀ x, x ∈ (db.addAssignment new).assignments → x ∈ db.assignments ∨ x = new := by
    intro x hx
    simpa [Db.addAssignment] using hx
  have hfree : ∀ x ∈ db.assignments, x.isCurrent = true → x.bookingId ≠ new.bookingId := by
    intro x hx hc hxb
    have := List.find?_eq_none.mp hnone x hx
    simp [hc, hxb] at this
  refine ⟨h.bookingIds.mono (Nat.le_succ _), h.bookingKeys, h.bookingProperty, ?_, ?_, ?_, ?_⟩
  · change Drawn base.uuid4 (db.drawn + 1) ((db.assignments ++ [new]).map (·.id))
    rw [List.map_append, List.map_singleton, hid]
    exact h.assignmentIds.append hinj
  · intro x hx y hy hcx hcy hxy
    rcases hmem x hx with hx' | rfl <;> rcases hmem y hy with hy' | rfl
    · exact h.oneCurrent x hx' y hy' hcx hcy hxy
    · exact absurd hxy (hfree x hx' hcx)
    · exact absurd hxy.symm (hfree y hy' hcy)
    · rfl
  · intro x hx
    rcases hmem x hx with hx | rfl
    · exact h.placed x hx
    · exact hplaced
  · intro x hx
    rcases hmem x hx with hx | rfl
    · exact h.assignmentBooking x hx
    · exact hb

theorem addAssignment_currentOf (db : Db H) (hc : new.isCurrent = true)
    (hnone : db.currentOf new.bookingId = none) :
    (db.addAssignment new).currentOf new.bookingId = some new := by
  unfold Db.currentOf Db.addAssignment at *
  rw [List.find?_append, hnone]
  simp [hc]

theorem addAssignment_currentOf_other (db : Db H) {bookingId : UUID}
    (hb : bookingId ≠ new.bookingId) :
    (db.addAssignment new).currentOf bookingId = db.currentOf bookingId := by
  unfold Db.currentOf Db.addAssignment
  rw [List.find?_append]
  simp [Ne.symm hb]

end AddAssignment

end ClockOrchestrator
