import ClockOrchestrator.G301Adapter.Worker
import ClockOrchestrator.G301Adapter.PlanFacts
import ClockOrchestrator.Support.Emission

namespace ClockOrchestrator

open Python Emission

def Interaction.isWrite : Interaction → Bool
  | .write .. => true
  | .read .. => false
  | .clock _ => false

def Interaction.Quiet (slaveAddress : ℕ) : Interaction → Prop
  | .write .. => False
  | .read slave _ _ _ => slave = slaveAddress
  | .clock _ => True

inductive Readback (slaveAddress : ℕ) :
    List ReadbackExpectation → List Interaction → List ℤ → Prop
  | nil : Readback slaveAddress [] [] []
  | cons {e : ReadbackExpectation} {rest : List ReadbackExpectation}
      {failures : List ClientFailure} {value : ℤ} {notes : List Interaction} {values : List ℤ} :
      Readback slaveAddress rest notes values →
      Readback slaveAddress (e :: rest)
        (failures.map (fun failure => .read slaveAddress e.address 1 (.error failure)) ++
          .read slaveAddress e.address 1 (.ok [value]) :: notes)
        (value :: values)

theorem Readback.quiet {slaveAddress : ℕ} {expectations : List ReadbackExpectation}
    {notes : List Interaction} {values : List ℤ}
    (h : Readback slaveAddress expectations notes values) : ∀ n ∈ notes, n.Quiet slaveAddress := by
  induction h with
  | nil => simp
  | cons _ ih =>
      intro n hn
      rcases List.mem_append.mp hn with hn | hn
      · obtain ⟨failure, -, rfl⟩ := List.mem_map.mp hn
        exact rfl
      · rcases List.mem_cons.mp hn with rfl | hn
        · exact rfl
        · exact ih n hn

theorem Interaction.Quiet.not_write {slaveAddress : ℕ} {note : Interaction}
    (h : note.Quiet slaveAddress) : note.isWrite = false := by
  cases note with
  | write _ _ _ _ => cases h
  | read _ _ _ _ => rfl
  | clock _ => rfl

theorem Readback.not_write {slaveAddress : ℕ} {expectations : List ReadbackExpectation}
    {notes : List Interaction} {values : List ℤ}
    (h : Readback slaveAddress expectations notes values) : ∀ n ∈ notes, n.isWrite = false :=
  fun n hn => (h.quiet n hn).not_write

def ReadbackExpectation.values (expectations : List ReadbackExpectation) : List ℤ :=
  expectations.map (·.expected)

inductive Stage where
  | verifying
  | planning
  | writing
  | checking
  | applied
  | closed
  deriving DecidableEq, Repr

def Stage.Settled (stage : Stage) : Prop := stage = .applied ∨ stage = .closed

def Stage.Shows : Stage → IntentAttemptPhase → Prop
  | .verifying, phase => phase = .writing ∨ phase = .verificationPending
  | .planning, phase => phase = .retryable
  | .writing, phase => phase = .writing
  | .checking, phase => phase = .verificationPending
  | .applied, phase => phase = .terminal
  | .closed, phase => phase = .terminal

def ExecutionStatus.Refusal (status : ExecutionStatus) : Prop :=
  status = .expired ∨ status = .rejected

variable {F : Type}

structure Progress (F : Type) where
  stage : Stage
  state : RoomIntentState F

def RoomIntentState.holding (state : RoomIntentState F) (attempt : IntentAttempt F) :
    RoomIntentState F :=
  { state with currentAttempt := some attempt }

inductive AttemptStep (intent : DesiredRoomIntent) (slaveAddress : ℕ) :
    Progress F → List (Interaction × RoomIntentState F) → Progress F → Prop
  | look {stage : Stage} {st : RoomIntentState F} {note : Interaction} :
      note.Quiet slaveAddress → AttemptStep intent slaveAddress ⟨stage, st⟩ [(note, st)] ⟨stage, st⟩
  | restart {st : RoomIntentState F} {a : IntentAttempt F} :
      AttemptStep intent slaveAddress ⟨.planning, st.holding a⟩ []
        ⟨.planning, st.holding { a with phase := .retryable, plan := none, completedWrites := [] }⟩
  | plan {st : RoomIntentState F} {a : IntentAttempt F} {plan : G301Plan} :
      PlanOf intent slaveAddress plan →
      AttemptStep intent slaveAddress ⟨.planning, st.holding a⟩ []
        ⟨.writing, st.holding { a with plan := some plan, phase := .writing }⟩
  | write {st : RoomIntentState F} {a : IntentAttempt F} {plan : G301Plan} {write : RegisterWrite}
      {answer : Except ClientFailure Unit} :
      a.plan = some plan → write ∈ plan.writes →
      AttemptStep intent slaveAddress ⟨.writing, st.holding a⟩
        [(.write slaveAddress write.address write.value answer, st.holding a)]
        ⟨.writing, st.holding a⟩
  | acknowledge {st : RoomIntentState F} {a : IntentAttempt F} {writes : List RegisterWriteResult} :
      AttemptStep intent slaveAddress ⟨.writing, st.holding a⟩ []
        ⟨.writing, st.holding { a with completedWrites := writes }⟩
  | await {st : RoomIntentState F} {a : IntentAttempt F} :
      AttemptStep intent slaveAddress ⟨.writing, st.holding a⟩ []
        ⟨.checking, st.holding { a with phase := .verificationPending }⟩
  | diverge {st : RoomIntentState F} {a : IntentAttempt F} {plan : G301Plan}
      {notes : List Interaction} {values : List ℤ} :
      a.plan = some plan → Readback slaveAddress plan.readbackExpectations notes values →
      values ≠ ReadbackExpectation.values plan.readbackExpectations →
      AttemptStep intent slaveAddress ⟨.verifying, st.holding a⟩ (notes.map (·, st.holding a))
        ⟨.planning, st.holding { a with phase := .retryable }⟩
  | confirm {stage : Stage} {st : RoomIntentState F} {a : IntentAttempt F} {plan : G301Plan}
      {notes : List Interaction} {result : IntentExecutionResult} :
      stage = .verifying ∨ stage = .checking → a.plan = some plan →
      Readback slaveAddress plan.readbackExpectations notes
        (ReadbackExpectation.values plan.readbackExpectations) →
      result.status = .applied →
      AttemptStep intent slaveAddress ⟨stage, st.holding a⟩ (notes.map (·, st.holding a))
        ⟨.applied, (st.holding a).markTerminal result true⟩
  | close {stage : Stage} {st : RoomIntentState F} {a : IntentAttempt F}
      {result : IntentExecutionResult} :
      ¬ stage.Settled → result.status ≠ .applied →
      (result.status.Refusal → stage = .planning) →
      AttemptStep intent slaveAddress ⟨stage, st.holding a⟩ []
        ⟨.closed, (st.holding a).markTerminal result false⟩

structure RoomIntentState.Watermarked (state : RoomIntentState F) : Prop where
  applied_le : state.lastAppliedVersion ≤ state.lastTerminalVersion
  terminal_le : state.lastTerminalVersion ≤ state.lastSeenVersion
  current : state.lastSeenVersion = state.currentAttempt.map (·.version)
  terminal_iff : ∀ a, state.currentAttempt = some a →
    (a.phase = .terminal ↔ a.cachedResult.isSome ∧ state.lastTerminalVersion = some a.version)

structure IntentAttempt.MadeFrom (w : G301EntranceWorker F) (a : IntentAttempt F)
    (intent : DesiredRoomIntent) : Prop where
  version : a.version = intent.intentVersion
  fingerprint : a.payloadFingerprint = intentFingerprint w intent

def IntentAttempt.Planned (w : G301EntranceWorker F) (slaveAddress : ℕ)
    (received : DesiredRoomIntent → Prop) (a : IntentAttempt F) (plan : G301Plan) : Prop :=
  a.plan = some plan ∧ ∃ source, received source ∧ a.MadeFrom w source ∧
    PlanOf source slaveAddress plan

structure RoomIntentState.Sound (w : G301EntranceWorker F) (slaveAddress : ℕ)
    (received : DesiredRoomIntent → Prop) (state : RoomIntentState F) : Prop
    extends state.Watermarked where
  unsettled : ∀ a, state.currentAttempt = some a → a.phase ≠ .terminal →
    state.lastTerminalVersion ≠ some a.version
  planned : ∀ a, state.currentAttempt = some a →
    a.phase = .writing ∨ a.phase = .verificationPending →
      ∃ plan, a.Planned w slaveAddress received plan
  applied_iff : ∀ a result, state.currentAttempt = some a → a.phase = .terminal →
    a.cachedResult = some result →
      (result.status = .applied ↔ state.lastAppliedVersion = some a.version)

structure Fits (w : G301EntranceWorker F) (slaveAddress : ℕ) (received : DesiredRoomIntent → Prop)
    (intent : DesiredRoomIntent) (p : Progress F) : Prop where
  sound : p.state.Sound w slaveAddress received
  attempt : ∃ a, p.state.currentAttempt = some a ∧ a.MadeFrom w intent ∧ p.stage.Shows a.phase

section Holding

variable {st : RoomIntentState F} {a b : IntentAttempt F}

theorem holding_of_current (h : st.currentAttempt = some a) : st.holding a = st := by
  cases st
  cases h
  rfl

theorem holding_markTerminal {result : IntentExecutionResult} {applied : Bool} :
    (st.holding a).markTerminal result applied =
      { st with
        currentAttempt := some { a with phase := .terminal, cachedResult := some result }
        lastTerminalVersion := some a.version
        lastAppliedVersion := if applied then some a.version else st.lastAppliedVersion } := rfl

end Holding

end ClockOrchestrator
