import Dopamine.Daemon.InterfaceConfig
import Dopamine.Trace.Runs
import Mathlib.Data.List.Induction

/-!
# The client's side of the daemon's socket

The state of `LocalSocketController` (`client/mozilla/localsocketcontroller.cpp`): the retries of
its connection, and the callback that waits for the logs of the daemon. `κ` are the callbacks; they
do not call the controller.
-/

namespace Dopamine.LocalSocketController

open List

/-- `m_daemonState`. -/
inductive DaemonState where
  | eUnknown | eInitializing | eReady | eDisconnected
deriving DecidableEq

/-- `attempts` counts the calls of `connectToServer`, and `answers` are the calls of callbacks. -/
structure Session (κ : Type) where
  daemonState : DaemonState := .eUnknown
  initializingRetry : ℕ := 0
  initializingTimer : Bool := false
  logCallback : Option κ := none
  attempts : ℕ := 0
  answers : List (κ × String) := []

/-- A request, a signal, or a message of the daemon. -/
inductive SessionEvent (κ : Type) where
  | initializes | timeout | errorOccurred | cleanupBackendLogs
  | getBackendLogs (callback : κ)
  | command (obj : JsonObject)

variable {κ : Type}

/-- The callback that an event hands over. -/
def SessionEvent.callback : SessionEvent κ → Option κ
  | .getBackendLogs callback => some callback
  | _ => none

def SessionEvent.isStart : SessionEvent κ → Bool
  | .initializes => true
  | _ => false

namespace Session

variable (s : Session κ)

def disconnectInternal : Session κ :=
  { s with daemonState := .eReady, initializingRetry := 0, initializingTimer := false }

/-- A connection that fails is tried again, at most ten times. -/
def errorOccurred : Session κ :=
  -- `MAX_CONNECTION_RETRY` is 10
  if s.daemonState = .eInitializing ∧ s.initializingRetry < 10 then
    { s with initializingRetry := s.initializingRetry + 1, initializingTimer := true }
  else s.disconnectInternal

def initializeInternal : Session κ :=
  { s with daemonState := .eInitializing, attempts := s.attempts + 1 }

/-- Call the callback that waits, if there is one. -/
def answer (text : String) : Session κ :=
  { s with logCallback := none, answers := s.answers ++ s.logCallback.toList.map (·, text) }

def getBackendLogs (callback : κ) : Session κ :=
  let s := s.answer ""
  if s.daemonState = .eReady then { s with logCallback := some callback }
  else { s with answers := s.answers ++ [(callback, "")] }

def parseCommand (obj : JsonObject) : Session κ :=
  match obj.lookup "type" with
  | some (.string type) =>
    if s.daemonState = .eInitializing ∧ type = "status" then { s with daemonState := .eReady }
    else if s.daemonState ≠ .eReady then s
    else if type = "disconnected" then s.disconnectInternal
    else if type = "logs" then
      s.answer (match obj.lookup "logs" with
        | some (.string logs) => logs.map fun c => if c = '|' then '\n' else c
        | _ => "")
    else s
  | _ => s

def step (s : Session κ) : SessionEvent κ → Session κ
  | .initializes => { s with initializingRetry := 0 }.initializeInternal
  | .timeout =>
    if s.initializingTimer then { s with initializingTimer := false }.initializeInternal else s
  | .errorOccurred => s.errorOccurred
  | .getBackendLogs callback => s.getBackendLogs callback
  | .cleanupBackendLogs => s.answer ""
  | .command obj => s.parseCommand obj

/-- The callbacks handed over so far: those that were called, and the one that waits. -/
def handed : List κ := s.answers.map Prod.fst ++ s.logCallback.toList

/-- How many attempts can still follow without another `initialize`. -/
def pending : ℕ :=
  (if s.initializingTimer then 1 else 0) +
    if s.initializingTimer ∨ s.daemonState = .eInitializing then 10 - s.initializingRetry else 0

/-- What a message can do. -/
theorem parseCommand_cases (obj : JsonObject) :
    s.parseCommand obj = s ∨
      s.daemonState = .eInitializing ∧ s.parseCommand obj = { s with daemonState := .eReady } ∨
      s.parseCommand obj = s.disconnectInternal ∨ ∃ text, s.parseCommand obj = s.answer text := by
  unfold parseCommand
  split
  · split_ifs <;> grind
  · exact .inl rfl

variable {s}

theorem handed_answer (text : String) : (s.answer text).handed = s.handed := by
  simp [handed, answer, Function.comp_def]

theorem handed_step (e : SessionEvent κ) : (s.step e).handed = s.handed ++ e.callback.toList := by
  cases e with
  | getBackendLogs callback =>
    rw [← handed_answer ""]
    simp only [step, getBackendLogs]
    split <;> simp [handed, answer, SessionEvent.callback, Function.comp_def]
  | cleanupBackendLogs => exact (handed_answer "").trans (append_nil _).symm
  | command obj =>
    refine Eq.trans ?_ (append_nil _).symm
    rw [step]
    obtain h | ⟨-, h⟩ | h | ⟨text, h⟩ := s.parseCommand_cases obj <;> rw [h]
    · rfl
    · rfl
    · exact handed_answer text
  | initializes => exact (append_nil _).symm
  | timeout | errorOccurred =>
    refine Eq.trans ?_ (append_nil _).symm
    simp only [step, errorOccurred]
    split <;> rfl

/-- A step spends what it adds to the attempts, apart from `initialize`. -/
theorem attempts_step (e : SessionEvent κ) :
    (s.step e).attempts + (s.step e).pending ≤
      s.attempts + s.pending + 11 * [e].countP (·.isStart) := by
  cases e with
  | command obj =>
    rw [step]
    obtain h | ⟨hs, h⟩ | h | ⟨text, h⟩ := s.parseCommand_cases obj <;>
      grind [pending, disconnectInternal, answer]
  | _ => grind [step, errorOccurred, initializeInternal, disconnectInternal, getBackendLogs, answer,
      pending, SessionEvent.isStart]

end Session

open Session

/-- **Every callback is called once, in order**, except that the last one can still wait. -/
theorem callbacks_in_order (es : List (SessionEvent κ)) :
    let s := Trace.run step {} es
    s.answers.map Prod.fst ++ s.logCallback.toList = es.filterMap SessionEvent.callback := by
  induction es using reverseRecOn with
  | nil => rfl
  | append_singleton es e ih =>
    rw [Trace.run_concat]
    refine (handed_step e).trans ?_
    rw [handed, ih, filterMap_append]
    cases e <;> rfl

/-- **The retries end**: each `initialize` leads to at most eleven attempts to connect. -/
theorem attempts_le (es : List (SessionEvent κ)) :
    (Trace.run step {} es).attempts ≤ 11 * es.countP (·.isStart) := by
  suffices h : (Trace.run step {} es).attempts + (Trace.run step {} es).pending ≤
      11 * es.countP (·.isStart) from Nat.le_of_add_right_le h
  induction es using reverseRecOn with
  | nil => exact Nat.le_refl 0
  | append_singleton es e ih =>
    have hstep := (attempts_step e).trans (Nat.add_le_add_right ih _)
    rwa [Trace.run_concat, countP_append, Nat.mul_add]

end Dopamine.LocalSocketController
