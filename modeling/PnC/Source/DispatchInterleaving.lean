import Mathlib.Logic.Function.Basic
import PnC.Library.Transition
import PnC.Source.Producer

/-!
# Work requests served at the same time

The loop of handle_work_request cut at the accesses to what the handlers share:
next_seq_ is read into the message, next_unit is called, add_pending, mark_sent,
next_seq_ is incremented, the frame is sent. Each handle_client thread is a handler;
the results and reclaims of other threads come in between. The lists `recorded` and
`sent` are kept for statements.
-/
namespace PnC.Source

open PnC.Library

/-- What a handler has done in the loop body. -/
inductive Phase where
  /-- at the loop condition, or not serving -/
  | between
  | read (msg : WorkUnitMessage)
  | generated (msg : WorkUnitMessage)
  | pending (msg : WorkUnitMessage)
  | marked (msg : WorkUnitMessage)
  | counted (msg : WorkUnitMessage)
  /-- next_unit threw -/
  | left
  | stuck

structure Handler where
  consumerId : String
  /-- iterations to go, the one under way included -/
  remaining : Nat
  phase : Phase

structure Dispatching (σ : Type) where
  producer : Producer σ
  handlers : Nat → Handler
  /-- the units that add_pending was called for, newest first -/
  recorded : List WorkUnitMessage
  /-- newest first -/
  sent : List WorkUnitMessage

inductive DispatchEvent where
  | request (h : Nat) (req : WorkRequestMessage)
  | readSeq (h : Nat) (timestamp : String)
  | nextUnit (h : Nat)
  | addPending (h : Nat)
  | markSent (h : Nat)
  | incrementSeq (h : Nat)
  | send (h : Nat) (ok : Bool)
  /-- handle_result in another thread -/
  | result (msg : ResultMessage)
  /-- the end of a connection, or the monitor -/
  | reclaim (consumerId : String)

namespace Dispatching

variable {σ : Type}

/-- No handler is serving. -/
def idle (p : Producer σ) : Dispatching σ := ⟨p, fun _ => ⟨"", 0, .between⟩, [], []⟩

def setHandler (s : Dispatching σ) (h : Nat) (handler : Handler) : Dispatching σ :=
  { s with handlers := Function.update s.handlers h handler }

def setPhase (s : Dispatching σ) (h : Nat) (phase : Phase) : Dispatching σ :=
  s.setHandler h { s.handlers h with phase := phase }

def setProducer (s : Dispatching σ) (p : Producer σ) : Dispatching σ := { s with producer := p }

/-- The loop is over: its own condition or a break. -/
def endLoop (s : Dispatching σ) (h : Nat) : Dispatching σ :=
  s.setHandler h { s.handlers h with remaining := 0, phase := .between }

/-- Behind the call of next_unit. -/
def afterNextUnit (s : Dispatching σ) (h : Nat) (msg : WorkUnitMessage) : NextUnit σ → Dispatching σ
  | .exhausted state => (s.setProducer { s.producer with plugin := state }).endLoop h
  | .threw state _ => (s.setProducer { s.producer with plugin := state }).setPhase h .left
  | .stuck _ => s.setPhase h .stuck
  | .unit state job =>
    (s.setProducer
      { s.producer with plugin := state, totalGenerated := s.producer.totalGenerated + 1 }).setPhase
      h (.generated { msg with job := job })

end Dispatching

/-- The loop bodies of any number of handlers, one access at a time. -/
def dispatchSystem {σ : Type} (plugin : TestPlugin σ) :
    TransitionSystem (Dispatching σ) DispatchEvent where
  step s
    | .request h req =>
      match s.handlers h with
      | ⟨_, 0, .between⟩ =>
        some (s.setHandler h ⟨req.consumerId, req.threadsAvailable.toNat, .between⟩)
      | _ => none
    | .readSeq h timestamp =>
      match s.handlers h with
      | ⟨_, _ + 1, .between⟩ =>
        some (s.setPhase h (.read (s.producer.unitMessage timestamp .null)))
      | _ => none
    | .nextUnit h =>
      match (s.handlers h).phase with
      | .read msg => some (s.afterNextUnit h msg (plugin.nextUnit s.producer.plugin))
      | _ => none
    | .addPending h =>
      match (s.handlers h).phase with
      | .generated msg =>
        some (({ s with recorded := msg :: s.recorded }.setProducer
          { s.producer with
            tracker := s.producer.tracker.addPending (Producer.pendingEntry msg) }).setPhase
          h (.pending msg))
      | _ => none
    | .markSent h =>
      match (s.handlers h).phase with
      | .pending msg =>
        some ((s.setProducer
          { s.producer with
            tracker := s.producer.tracker.markSent msg.workUnitId (s.handlers h).consumerId
            totalDispatched := s.producer.totalDispatched + 1 }).setPhase h (.marked msg))
      | _ => none
    | .incrementSeq h =>
      match (s.handlers h).phase with
      | .marked msg =>
        some ((s.setProducer { s.producer with nextSeq := s.producer.nextSeq + 1 }).setPhase
          h (.counted msg))
      | _ => none
    | .send h ok =>
      match (s.handlers h).phase with
      | .counted msg =>
        if ok then
          some ({ s with sent := msg :: s.sent }.setHandler h
            { s.handlers h with remaining := (s.handlers h).remaining - 1, phase := .between })
        else some (s.endLoop h)
      | _ => none
    | .result msg => some (s.setProducer (s.producer.handleResult msg))
    | .reclaim consumerId => some (s.setProducer (s.producer.reclaimConsumer consumerId))

namespace Dispatching

variable {σ : Type}

/-- The six steps of one iteration, taken without interruption. -/
def bodyEvents (h : Nat) (timestamp : String) (ok : Bool) : List DispatchEvent :=
  [.readSeq h timestamp, .nextUnit h, .addPending h, .markSent h, .incrementSeq h, .send h ok]

/-- What is left of an iteration that was not interrupted. -/
def afterBody (s : Dispatching σ) (h : Nat) (state : σ) (msg : WorkUnitMessage) (ok : Bool) :
    Dispatching σ where
  producer := s.producer.recordUnit state msg (s.handlers h).consumerId
  handlers := Function.update s.handlers h
    ⟨(s.handlers h).consumerId, if ok then (s.handlers h).remaining - 1 else 0, .between⟩
  recorded := msg :: s.recorded
  sent := if ok then msg :: s.sent else s.sent

theorem run_bodyEvents {plugin : TestPlugin σ} {s : Dispatching σ} {h : Nat} {consumerId : String}
    {remaining : Nat} {state : σ} {job : Json}
    (top : s.handlers h = ⟨consumerId, remaining + 1, .between⟩)
    (call : plugin.nextUnit s.producer.plugin = .unit state job) (timestamp : String) (ok : Bool) :
    (dispatchSystem plugin).run s (bodyEvents h timestamp ok) =
      some (s.afterBody h state (s.producer.unitMessage timestamp job) ok) := by
  cases ok <;>
    simp [TransitionSystem.run, bodyEvents, dispatchSystem, setPhase, setHandler, setProducer,
      afterNextUnit, afterBody, endLoop, Producer.recordUnit, Producer.unitMessage, top, call]

/-- A next_unit that gives nothing ends the loop as it does in handle_work_request. -/
theorem run_refused (plugin : TestPlugin σ) {s : Dispatching σ} {h : Nat} {consumerId : String}
    {remaining : Nat} (top : s.handlers h = ⟨consumerId, remaining + 1, .between⟩)
    (timestamp : String) :
    (dispatchSystem plugin).run s [.readSeq h timestamp, .nextUnit h] =
      some ((s.setPhase h (.read (s.producer.unitMessage timestamp .null))).afterNextUnit h
        (s.producer.unitMessage timestamp .null) (plugin.nextUnit s.producer.plugin)) := by
  simp [TransitionSystem.run, dispatchSystem, setPhase, setHandler, top]

/-- A handler that is never interrupted runs the loop of handle_work_request. -/
theorem uninterrupted (plugin : TestPlugin σ) (env : DispatchEnv) (h : Nat) (consumerId : String)
    (remaining i : Nat) (s : Dispatching σ)
    (top : s.handlers h = ⟨consumerId, remaining, .between⟩) :
    ∃ events final, (dispatchSystem plugin).run s events = some final ∧
      final.producer =
        (s.producer.dispatchLoop plugin env consumerId remaining i).producer ∧
      final.sent =
        (s.producer.dispatchLoop plugin env consumerId remaining i).sent.reverse ++ s.sent := by
  induction remaining generalizing i s with
  | zero => exact ⟨[], s, rfl, rfl, rfl⟩
  | succ remaining ih =>
    unfold Producer.dispatchLoop
    have refused := run_refused plugin top (env.timestamp i)
    split
    next state call =>
      rw [call] at refused
      exact ⟨_, _, refused, rfl, rfl⟩
    next state what call =>
      rw [call] at refused
      exact ⟨_, _, refused, rfl, rfl⟩
    next fault call =>
      rw [call] at refused
      exact ⟨_, _, refused, rfl, rfl⟩
    next state job call =>
      have body := run_bodyEvents top call (env.timestamp i) (env.sendOk i)
      have held : (s.handlers h).consumerId = consumerId := congrArg Handler.consumerId top
      cases ok : env.sendOk i with
      | false =>
        rw [ok] at body
        refine ⟨_, _, body, ?_, rfl⟩
        simp [afterBody, held]
      | true =>
        rw [ok] at body
        obtain ⟨events, final, replay, producer, sent⟩ := ih (i + 1)
          (s.afterBody h state (s.producer.unitMessage (env.timestamp i) job) true)
          (by simp [afterBody, top])
        refine ⟨bodyEvents h (env.timestamp i) true ++ events, final, ?_, ?_, ?_⟩
        · rw [TransitionSystem.run_append, body]
          exact replay
        · rw [producer]
          simp [afterBody, held]
        · rw [sent]
          simp [afterBody, held]

end Dispatching

end PnC.Source
