import ClockOrchestrator.G301Adapter.WorkerHistory
import ClockOrchestrator.G301Adapter.WriteRuns
import ClockOrchestrator.Support.Coupling

namespace ClockOrchestrator

open Python Procedure

variable {E F V α β : Type} {env : G301Environment E} {view : ℕ → E → V} {roomKey : String}
  {slaveAddress : ℕ}

-- A bus on which what a slave answers depends on what was done with this slave, and waits that end
-- alike.
structure SlaveLocal (env : G301Environment E) (view : ℕ → E → V) : Prop where
  write_alike : ∀ {slave e e'}, view slave e = view slave e' → ∀ address value,
    (env.writeRegister e slave address value).1 = (env.writeRegister e' slave address value).1 ∧
      view slave (env.writeRegister e slave address value).2 =
        view slave (env.writeRegister e' slave address value).2
  write_elsewhere : ∀ {slave other}, other ≠ slave → ∀ e address value,
    view other (env.writeRegister e slave address value).2 = view other e
  read_alike : ∀ {slave e e'}, view slave e = view slave e' → ∀ address count,
    (env.readHoldingRegisters e slave address count).1 =
        (env.readHoldingRegisters e' slave address count).1 ∧
      view slave (env.readHoldingRegisters e slave address count).2 =
        view slave (env.readHoldingRegisters e' slave address count).2
  read_elsewhere : ∀ {slave other}, other ≠ slave → ∀ e address count,
    view other (env.readHoldingRegisters e slave address count).2 = view other e
  clock_elsewhere : ∀ slave e, view slave (env.clock e).2 = view slave e
  sleep_elsewhere : ∀ slave e seconds, view slave (env.sleep e seconds).2 = view slave e
  sleep_alike : ∀ e e' seconds, (env.sleep e seconds).1 = (env.sleep e' seconds).1

def Interaction.reading : Interaction → Option Instant
  | .clock reading => some reading
  | _ => none

def Interaction.At (slaveAddress : ℕ) : Interaction → Prop
  | .write slave _ _ _ => slave = slaveAddress
  | .read slave _ _ _ => slave = slaveAddress
  | .clock _ => True

def WorkerState.readings (s : WorkerState E F) : List Instant :=
  s.interactions.filterMap Interaction.reading

def Addressed (slaveAddress : ℕ) (state : Option (RoomIntentState F)) : Prop :=
  ∀ st a plan, state = some st → st.currentAttempt = some a → a.plan = some plan →
    plan.slaveAddress = slaveAddress

structure AgreeOn (view : ℕ → E → V) (roomKey : String) (slaveAddress : ℕ)
    (s s' : WorkerState E F) : Prop where
  room : s.intentStates roomKey = s'.intentStates roomKey
  failure : s.slaveFailures slaveAddress = s'.slaveFailures slaveAddress
  view : view slaveAddress s.env = view slaveAddress s'.env
  readings : s.readings = s'.readings
  addressed : Addressed slaveAddress (s.intentStates roomKey)

structure KeepsTo (view : ℕ → E → V) (roomKey : String) (slaveAddress : ℕ)
    (s t : WorkerState E F) : Prop where
  rooms : ∀ other, other ≠ roomKey → t.intentStates other = s.intentStates other
  failures : ∀ other, other ≠ slaveAddress → t.slaveFailures other = s.slaveFailures other
  views : ∀ other, other ≠ slaveAddress → view other t.env = view other s.env
  interactions : ∃ notes, Emits s t notes ∧ ∀ n ∈ notes, n.At slaveAddress

theorem KeepsTo.refl (s : WorkerState E F) : KeepsTo view roomKey slaveAddress s s :=
  ⟨fun _ _ => rfl, fun _ _ => rfl, fun _ _ => rfl, [], .refl s, by simp⟩

theorem KeepsTo.trans {s m t : WorkerState E F} (h : KeepsTo view roomKey slaveAddress s m)
    (h' : KeepsTo view roomKey slaveAddress m t) : KeepsTo view roomKey slaveAddress s t where
  rooms := fun other hne => (h'.rooms other hne).trans (h.rooms other hne)
  failures := fun other hne => (h'.failures other hne).trans (h.failures other hne)
  views := fun other hne => (h'.views other hne).trans (h.views other hne)
  interactions := by
    obtain ⟨notes, hnotes, hat⟩ := h.interactions
    obtain ⟨others, hothers, hat'⟩ := h'.interactions
    exact ⟨notes ++ others, hnotes.trans hothers, List.forall_mem_append.mpr ⟨hat, hat'⟩⟩

theorem Emits.readings {s t : WorkerState E F} {notes : List Interaction} (h : Emits s t notes) :
    t.readings = s.readings ++ notes.filterMap Interaction.reading := by
  rw [WorkerState.readings, h, List.filterMap_append]
  rfl

theorem KeepsTo.grows {s t : WorkerState E F} (h : KeepsTo view roomKey slaveAddress s t) :
    s.readings <+: t.readings := by
  obtain ⟨notes, hnotes, -⟩ := h.interactions
  exact ⟨_, hnotes.readings.symm⟩

def slaveCoupling (F : Type) (view : ℕ → E → V) (roomKey : String) (slaveAddress : ℕ) :
    Coupling (WorkerState E F) Instant where
  agree := AgreeOn view roomKey slaveAddress
  frame := KeepsTo view roomKey slaveAddress
  seen := WorkerState.readings
  left := fun h => ⟨rfl, rfl, rfl, rfl, h.addressed⟩
  right := fun h => ⟨rfl, rfl, rfl, rfl, h.room ▸ h.addressed⟩
  frame_refl := .refl
  frame_trans := .trans
  grows := KeepsTo.grows

abbrev Keeps (view : ℕ → E → V) (roomKey : String) (slaveAddress : ℕ) (x : WorkerM E F α) : Prop :=
  Lockstep (slaveCoupling F view roomKey slaveAddress) (fun _ => True) x

theorem Emits.readings_eq {s t : WorkerState E F} {n : Interaction} (h : Emits s t [n])
    (hn : n.reading = none) : t.readings = s.readings := by
  rw [h.readings, List.filterMap_cons, hn]
  exact List.append_nil _

theorem Interacts.keepsTo {s t : WorkerState E F} {notes : List Interaction}
    (h : Interacts s t notes) (hat : ∀ n ∈ notes, n.At slaveAddress)
    (hviews : ∀ other, other ≠ slaveAddress → view other t.env = view other s.env) :
    KeepsTo view roomKey slaveAddress s t where
  rooms := fun other _ => congrFun h.intentStates other
  failures := fun other _ => congrFun h.slaveFailures other
  views := hviews
  interactions := ⟨notes, h.emits, hat⟩

theorem AgreeOn.interacts {s s' t t' : WorkerState E F} {notes notes' : List Interaction}
    (hs : AgreeOn view roomKey slaveAddress s s') (h : Interacts s t notes)
    (h' : Interacts s' t' notes') (hview : view slaveAddress t.env = view slaveAddress t'.env)
    (hreadings : t.readings = t'.readings) : AgreeOn view roomKey slaveAddress t t' where
  room := by rw [h.intentStates, h'.intentStates, hs.room]
  failure := by rw [h.slaveFailures, h'.slaveFailures, hs.failure]
  view := hview
  readings := hreadings
  addressed := by
    rw [h.intentStates]
    exact hs.addressed

theorem interact_keeps {f : E → α × E} {note : α → Interaction}
    (halike : ∀ {e e'}, view slaveAddress e = view slaveAddress e' →
      (f e).1 = (f e').1 ∧ view slaveAddress (f e).2 = view slaveAddress (f e').2)
    (helsewhere : ∀ {other}, other ≠ slaveAddress → ∀ e, view other (f e).2 = view other e)
    (hat : ∀ a, (note a).At slaveAddress) (hnote : ∀ a, (note a).reading = none) :
    Keeps view roomKey slaveAddress (interact (F := F) f note) := by
  intro s s' r r' t t' future hs h h' _ _
  obtain ⟨answer, -, hnotes⟩ := interact_ends h
  obtain ⟨answer', -, hnotes'⟩ := interact_ends h'
  cases h
  cases h'
  obtain ⟨hanswer, hview⟩ := halike hs.view
  have hreadings := (hnotes.emits.readings_eq (hnote answer)).trans
    (hs.readings.trans (hnotes'.emits.readings_eq (hnote answer')).symm)
  exact ⟨congrArg _ hanswer, hs.interacts hnotes hnotes' hview hreadings,
    hnotes.keepsTo (by simpa using hat answer) fun _ hne => helsewhere hne s.env,
    fun _ _ => trivial⟩

section Calls

variable (hlocal : SlaveLocal env view)
include hlocal

theorem readClock_keeps : Keeps view roomKey slaveAddress (readClock (F := F) env) := by
  intro s s' r r' t t' future hs h h' hfuture hfuture'
  obtain ⟨reading, hr, hnotes⟩ := interact_ends h
  obtain ⟨reading', hr', hnotes'⟩ := interact_ends h'
  have hseen : t.readings = s.readings ++ [reading] := hnotes.emits.readings
  have hseen' : t'.readings = s.readings ++ [reading'] :=
    hs.readings.symm ▸ hnotes'.emits.readings
  have hsame : t.readings = t'.readings := by
    refine List.IsPrefix.eq_of_length (List.prefix_of_prefix_length_le hfuture hfuture' ?_) ?_
    · rw [hseen, hseen']
      simp
    · rw [hseen, hseen']
      simp
  have hreading : reading = reading' := by
    rw [hseen, hseen'] at hsame
    simpa using hsame
  have hviews : ∀ slave, view slave t.env = view slave s.env := by
    intro slave
    cases h
    exact hlocal.clock_elsewhere slave s.env
  have hviews' : ∀ slave, view slave t'.env = view slave s'.env := by
    intro slave
    cases h'
    exact hlocal.clock_elsewhere slave s'.env
  refine ⟨by rw [hr, hr', hreading], hs.interacts hnotes hnotes' ?_ hsame,
    hnotes.keepsTo (by simp [Interaction.At]) fun other _ => hviews other, fun _ _ => trivial⟩
  rw [hviews, hviews', hs.view]

theorem clientWrite_keeps (address : ℕ) (value : ℤ) :
    Keeps view roomKey slaveAddress (clientWrite (F := F) env slaveAddress address value) :=
  interact_keeps (fun h => hlocal.write_alike h address value)
    (fun hne e => hlocal.write_elsewhere (Ne.symm hne).symm e address value) (fun _ => rfl)
    fun _ => rfl

theorem clientRead_keeps (address count : ℕ) :
    Keeps view roomKey slaveAddress (clientRead (F := F) env slaveAddress address count) :=
  interact_keeps (fun h => hlocal.read_alike h address count)
    (fun hne e => hlocal.read_elsewhere hne e address count) (fun _ => rfl) fun _ => rfl

theorem sleep_keeps (seconds : ℚ) :
    Keeps view roomKey slaveAddress (sleep (F := F) env seconds) := by
  have hview : ∀ {s t : WorkerState E F} {r : Except AdapterError Unit} (slave : ℕ),
      Ends (sleep env seconds) s r t → view slave t.env = view slave s.env := by
    intro s t r slave h
    rw [(sleep_answers env h).1, hlocal.sleep_elsewhere]
  intro s s' r r' t t' future hs h h' _ _
  have hnotes := (sleep_ends env h).1
  have hnotes' := (sleep_ends env h').1
  have hreadings : t.readings = t'.readings := by
    rw [hnotes.emits.readings, hnotes'.emits.readings, hs.readings]
  refine ⟨?_, hs.interacts hnotes hnotes' ?_ hreadings,
    hnotes.keepsTo (by simp) fun other _ => hview other h, fun _ _ => trivial⟩
  · rw [(sleep_answers env h).2, (sleep_answers env h').2, hlocal.sleep_alike s.env s'.env]
  · rw [hview _ h, hview _ h', hs.view]

variable (w : G301EntranceWorker F)

theorem sleepUnlessZero_keeps (seconds : ℚ) :
    Keeps view roomKey slaveAddress (sleepUnlessZero (F := F) env seconds) := by
  unfold sleepUnlessZero
  split
  · exact .pure trivial
  · exact sleep_keeps hlocal seconds

theorem withRetryFrom_keeps {operation : WorkerM E F (Except ClientFailure α)}
    (hoperation : Keeps view roomKey slaveAddress operation) (attempt remaining : ℕ)
    (lastError : Option G301TransportError) :
    Keeps view roomKey slaveAddress
      (withRetryFrom w env operation attempt remaining lastError) := by
  induction remaining generalizing attempt lastError with
  | zero => cases lastError <;> exact .throw _
  | succ remaining ih =>
      have hbackoff : Keeps view roomKey slaveAddress
          (withRetryFrom.backoff w env attempt remaining) := by
        unfold withRetryFrom.backoff
        split
        · exact .pure trivial
        · exact sleepUnlessZero_keeps hlocal _
      refine .bind hoperation fun answer _ => ?_
      split
      · exact .pure trivial
      · exact hbackoff.then (ih _ _)
      · split
        · exact .throw _
        · exact hbackoff.then (ih _ _)
      · exact .throw _
      · exact .throw _

theorem withRetry_keeps {operation : WorkerM E F (Except ClientFailure α)}
    (hoperation : Keeps view roomKey slaveAddress operation) :
    Keeps view roomKey slaveAddress (withRetry w env operation) :=
  withRetryFrom_keeps hlocal w hoperation _ _ _

theorem readOne_keeps (address : ℕ) :
    Keeps view roomKey slaveAddress (readOne w env slaveAddress address) := by
  refine .bind (withRetry_keeps hlocal w (clientRead_keeps hlocal address 1)) fun values _ => ?_
  split
  · exact .pure trivial
  · exact .throw _

theorem writeOne_keeps (write : RegisterWrite) :
    Keeps view roomKey slaveAddress (writeOne w env slaveAddress write) :=
  withRetry_keeps hlocal w (clientWrite_keeps hlocal _ _)

theorem readDeviceProfile_keeps :
    Keeps view roomKey slaveAddress (readDeviceProfile w env slaveAddress) := by
  refine .bind (readOne_keeps hlocal w _) fun raw _ => ?_
  refine .bind (withRetry_keeps hlocal w (clientRead_keeps hlocal _ 3)) fun limits _ => ?_
  split
  · split
    · exact .pure trivial
    · exact .throw _
  · exact .throw _

theorem readPass_keeps (expectations : List ReadbackExpectation) (observed : Observed) :
    Keeps view roomKey slaveAddress (readPass w env slaveAddress expectations observed) := by
  induction expectations generalizing observed with
  | nil => exact .pure trivial
  | cons expectation rest ih => exact .bind (readOne_keeps hlocal w _) fun value _ => ih _

theorem readback_keeps {plan : G301Plan} (hplan : plan.slaveAddress = slaveAddress) :
    Keeps view roomKey slaveAddress (readback w env plan) := by
  have hfrom : ∀ remaining observed,
      Keeps view roomKey slaveAddress (readbackFrom w env plan remaining observed) := by
    intro remaining
    induction remaining with
    | zero => exact fun _ => .pure trivial
    | succ remaining ih =>
        intro observed
        rw [readbackFrom, hplan]
        refine .bind (readPass_keeps hlocal w _ _) fun found _ => ?_
        split
        · exact .pure trivial
        · split
          · exact ih _
          · exact (sleepUnlessZero_keeps hlocal _).then (ih _)
  exact hfrom _ _

end Calls

end ClockOrchestrator
