import PnC.Library.Transition
import PnC.Source.Producer

/-!
# The connection monitor

monitor_connections among the calls that other threads make on connected_consumers_. Each
critical section of consumers_mutex_ is a step; the monitor reads the clock in front of its
scan. Times are nanoseconds of steady_clock. The fields `active` and `gone` are kept for
statements only; no step looks at them.
-/
namespace PnC.Source

open PnC.Library

/-- Where monitor_connections stands: in its sleep, in front of the scan, in front of the
eviction of the first id that is left, returned; or behind an erase of end(), which has no
defined behaviour. -/
inductive MonitorPhase where
  | sleeping (wakeAt : Nat)
  | sampled (now : Nat)
  | evicting (now : Nat) (stale : List String)
  | returned
  | erasedEnd
  deriving DecidableEq

structure Monitored (σ : Type) where
  producer : Producer σ
  clock : Nat
  /-- monitor_running_ -/
  running : Bool
  phase : MonitorPhase
  /-- the sockets that the monitor has closed -/
  closed : List Nat
  /-- the ids registered or updated since the last scan -/
  active : List String
  /-- the ids unregistered since the last scan -/
  gone : List String

inductive MonitorEvent where
  | register (consumerId : String) (socket : Nat)
  | registerUdp (consumerId address : String) (port : Nat)
  | activity (consumerId : String)
  | unregister (consumerId : String)
  | passes (nanoseconds : Nat)
  /-- shutdown clears monitor_running_ -/
  | stop
  /-- the sleep ends and the clock is read -/
  | wake
  | scan
  | evict
  /-- the loop condition behind the last eviction -/
  | loopTest

/-- duration_cast to seconds, which truncates -/
def elapsedSeconds (now lastActivity : Nat) : Int :=
  ((now : Int) - lastActivity).tdiv 1000000000

/-- kCheckIntervalSec, in nanoseconds -/
def checkInterval : Nat := 5000000000

theorem elapsedSeconds_stale (now lastActivity : Nat) :
    30 ≤ elapsedSeconds now lastActivity ↔ lastActivity + 30000000000 ≤ now := by
  unfold elapsedSeconds
  rcases Int.le_total 0 ((now : Int) - lastActivity) with forward | backward
  · rw [Int.tdiv_eq_ediv_of_nonneg forward]
    omega
  · have truncated : 0 ≤ ((lastActivity : Int) - now).tdiv 1000000000 :=
      Int.tdiv_nonneg (by omega) (by decide)
    rw [← Int.neg_sub, Int.neg_tdiv]
    omega

namespace Monitored

variable {σ : Type}

/-- The monitor thread has been started. -/
def started (p : Producer σ) (clock : Nat) : Monitored σ :=
  ⟨p, clock, true, .sleeping (clock + checkInterval), [], [], []⟩

/-- The first loop of monitor_connections. -/
def staleIds (p : Producer σ) (now : Nat) : List String :=
  (p.connectedConsumers.items.filter
    fun info => decide (30 ≤ elapsedSeconds now info.lastActivity)).map (·.consumerId)

/-- One round of the second loop. The lookup guards the close, and nothing guards the
erase. -/
def evict (m : Monitored σ) (now : Nat) (consumerId : String) (rest : List String) :
    Monitored σ :=
  let reclaimed := m.producer.reclaimConsumer consumerId
  match m.producer.connectedConsumers.find consumerId with
  | none => { m with producer := reclaimed, phase := .erasedEnd }
  | some info =>
    { m with
      producer := reclaimed.unregisterConsumer consumerId
      phase := .evicting now rest
      closed := info.socket.toList ++ m.closed }

end Monitored

/-- The monitor among all other callers. -/
def monitorSystem (σ : Type) : TransitionSystem (Monitored σ) MonitorEvent where
  step m
    | .register consumerId socket =>
      some { m with
        producer := m.producer.registerConsumer consumerId socket m.clock
        active := consumerId :: m.active }
    | .registerUdp consumerId address port =>
      some { m with
        producer := m.producer.registerConsumerUdp consumerId address port m.clock
        active := consumerId :: m.active }
    | .activity consumerId =>
      some { m with
        producer := m.producer.updateConsumerActivity consumerId m.clock
        active := consumerId :: m.active }
    | .unregister consumerId =>
      some { m with
        producer := m.producer.unregisterConsumer consumerId
        gone := consumerId :: m.gone }
    | .passes nanoseconds => some { m with clock := m.clock + nanoseconds }
    | .stop => some { m with running := false }
    | .wake =>
      match m.phase with
      | .sleeping wakeAt =>
        if m.clock < wakeAt then none
        else some { m with phase := if m.running then .sampled m.clock else .returned }
      | _ => none
    | .scan =>
      match m.phase with
      | .sampled now =>
        some { m with
          phase := .evicting now (Monitored.staleIds m.producer now), active := [], gone := [] }
      | _ => none
    | .evict =>
      match m.phase with
      | .evicting now (consumerId :: rest) => some (m.evict now consumerId rest)
      | _ => none
    | .loopTest =>
      match m.phase with
      | .evicting _ [] =>
        some { m with
          phase := if m.running then .sleeping (m.clock + checkInterval) else .returned }
      | _ => none

end PnC.Source
