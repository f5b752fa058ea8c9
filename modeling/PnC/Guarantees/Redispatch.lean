import PnC.Source.EchoPlugin
import PnC.Source.ProducerSteps

/-!
# Re-dispatch

A dispatch loop asks the plugin for each unit and never looks at the tracker, so
what is Pending before a work request is Pending after it. A request that is not
served in full leaves no Pending entry exactly when there was none, whatever
brought the entries back to Pending.
-/
namespace PnC.Guarantees.Redispatch

open PnC.Library PnC.Source

variable {σ : Type}

def HasPending (t : WorkTracker) : Prop := ∃ e ∈ t.entries.items, e.status = .pending

theorem hasPending_iff (t : WorkTracker) :
    HasPending t ↔ ∃ id e, t.find id = some e ∧ e.status = .pending := by
  constructor
  · rintro ⟨e, member, pending⟩
    exact ⟨e.workUnitId, e, KeyedStore.find_of_mem member, pending⟩
  · rintro ⟨id, e, found, pending⟩
    exact ⟨e, KeyedStore.mem_of_find found, pending⟩

/-- A new unit is Sent when its loop body ends, and the other entries are untouched. -/
theorem hasPending_recordUnit {p : Producer σ} (numbered : Numbered p) (state : σ)
    (timestamp consumerId : String) (job : Json) :
    HasPending (p.recordUnit state (p.unitMessage timestamp job) consumerId).tracker ↔
      HasPending p.tracker := by
  simp only [hasPending_iff, find_recordUnit]
  constructor
  · rintro ⟨id, e, found, pending⟩
    by_cases new : id = p.unitId p.nextSeq
    · rw [if_pos new] at found
      cases found
      cases pending
    · rw [if_neg new] at found
      exact ⟨id, e, found, pending⟩
  · rintro ⟨id, e, found, pending⟩
    have old : id ≠ p.unitId p.nextSeq := by
      intro new
      rw [new, numbered.fresh] at found
      cases found
    exact ⟨id, e, by rw [if_neg old]; exact found, pending⟩

/-- No dispatch loop takes an entry out of Pending or puts one there. -/
theorem hasPending_dispatchLoop (plugin : TestPlugin σ) (env : DispatchEnv) (consumerId : String)
    (remaining i : Nat) {p : Producer σ} (numbered : Numbered p) :
    HasPending (p.dispatchLoop plugin env consumerId remaining i).producer.tracker ↔
      HasPending p.tracker := by
  have both := dispatchLoop_preserves plugin env consumerId
    (fun q => Numbered q ∧ (HasPending q.tracker ↔ HasPending p.tracker))
    (fun _ _ both => both) (by
      intro q state timestamp job call both
      obtain ⟨numbered, same⟩ := both
      exact ⟨numbered_step none q _ numbered (.unit timestamp consumerId call),
        (hasPending_recordUnit numbered state timestamp consumerId job).trans same⟩) remaining i
    ⟨numbered, Iff.rfl⟩
  exact both.2

/-- With no send error, fewer units than asked for are sent exactly when the plugin
stops short of them. -/
theorem sent_short_iff (plugin : TestPlugin σ) (env : DispatchEnv) (consumerId : String)
    (remaining i : Nat) (p : Producer σ)
    (sends : (p.dispatchLoop plugin env consumerId remaining i).ended ≠ .sendError) :
    ((p.dispatchLoop plugin env consumerId remaining i).sent.length < remaining ∧
        ∀ fault, (p.dispatchLoop plugin env consumerId remaining i).ended ≠ .stuck fault) ↔
      plugin.StopsShort remaining p.plugin := by
  induction remaining generalizing i p with
  | zero => simp [Producer.dispatchLoop, TestPlugin.StopsShort]
  | succ remaining ih =>
    unfold Producer.dispatchLoop at sends ⊢
    unfold TestPlugin.StopsShort
    split at sends
    next call => simp [call]
    next call => simp [call]
    next call => simp [call]
    next state job call =>
      simp only [call]
      split at sends
      next ok =>
        simp only [if_pos ok, List.length_cons, Nat.add_lt_add_iff_right]
        exact ih (i + 1) _ sends
      next => exact absurd rfl sends

theorem no_sendError (plugin : TestPlugin σ) (timestamp : Nat → String) (consumerId : String)
    (remaining i : Nat) (p : Producer σ) :
    (p.dispatchLoop plugin ⟨timestamp, fun _ => true⟩ consumerId remaining i).ended ≠
      .sendError := by
  induction remaining generalizing i p with
  | zero => simp [Producer.dispatchLoop]
  | succ remaining ih =>
    unfold Producer.dispatchLoop
    split
    next => simp
    next => simp
    next => simp
    next => simpa using ih (i + 1) _

/-- What is promised of one handling of a request: it met no send error and came to
an end with fewer units sent than asked for, so nothing is left Pending. -/
def Promise (req : WorkRequestMessage) (d : Dispatch σ) : Prop :=
  d.ended ≠ .sendError → (∀ fault, d.ended ≠ .stuck fault) →
    (d.sent.length : Int) < req.threadsAvailable → ¬ HasPending d.producer.tracker

/-- The promise for every handling of the request, over TCP and over UDP. -/
def Redispatches (plugin : TestPlugin σ) (p : Producer σ) (req : WorkRequestMessage) : Prop :=
  (∀ env, Promise req (p.handleWorkRequest plugin env req)) ∧
    ∀ timestamp, Promise req (p.handleUdpWorkRequest plugin timestamp req)

theorem redispatches_iff (plugin : TestPlugin σ) {p : Producer σ} (numbered : Numbered p)
    (req : WorkRequestMessage) :
    Redispatches plugin p req ↔
      ¬ (plugin.StopsShort req.threadsAvailable.toNat p.plugin ∧ HasPending p.tracker) := by
  constructor
  · rintro ⟨-, udp⟩ ⟨short, pending⟩
    have sends := no_sendError plugin (fun _ => "") req.consumerId req.threadsAvailable.toNat 0 p
    obtain ⟨fewer, ends⟩ := (sent_short_iff plugin _ _ _ _ p sends).mpr short
    refine udp (fun _ => "") sends ends ?_
      ((hasPending_dispatchLoop plugin _ _ _ _ numbered).mpr pending)
    show ((p.dispatchLoop plugin _ _ _ _).sent.length : Int) < _
    omega
  · intro spared
    have each : ∀ env, Promise req (p.handleWorkRequest plugin env req) := by
      intro env sends ends fewer pending
      have short := (sent_short_iff plugin env req.consumerId _ 0 p sends).mp
        ⟨by unfold Producer.handleWorkRequest at fewer; omega, ends⟩
      exact spared ⟨short, (hasPending_dispatchLoop plugin _ _ _ _ numbered).mp pending⟩
    exact ⟨each, fun timestamp => each _⟩

/-- In every state of every run, a request meets the promise exactly when the plugin
does not stop short of it or nothing is Pending already. -/
theorem redispatch_iff (plugin : TestPlugin σ) (job : JobSetup) (nextSeq : Int) (state : σ)
    (events : List Event) (w : World σ)
    (reached : (producerSystem plugin).run (World.listening (.started job nextSeq state)) events =
      some w) (req : WorkRequestMessage) :
    Redispatches plugin w.producer req ↔
      ¬ (plugin.StopsShort req.threadsAvailable.toNat w.producer.plugin ∧
        HasPending w.producer.tracker) :=
  redispatches_iff plugin (producer_invariant Numbered numbered_step
    (numbered_started job nextSeq state) reached) req

/-- A consumer takes a unit and goes away. -/
def takenAndDropped : List Event :=
  [.accept 0, .frame 0 (VersionMessage.toJson ⟨pcVersion, "cons-1"⟩) .quiet, .loopTest 0,
    .frame 0 (WorkRequestMessage.toJson ⟨"cons-1", 1, ""⟩) .quiet, .loopTest 0, .broken 0,
    .reclaim 0, .unregister 0]

/-- The unit has come back, and the next request is served in full with another one. -/
theorem redispatch_iff_after_return :
    ∃ w, (producerSystem createEchoPlugin).run (World.listening (.started echoJob 0 .new))
        takenAndDropped = some w ∧
      HasPending w.producer.tracker ∧
        Redispatches createEchoPlugin w.producer ⟨"cons-2", 1, ""⟩ := by
  have evidence : ((producerSystem createEchoPlugin).run
      (World.listening (.started echoJob 0 .new)) takenAndDropped).any (fun w =>
        w.producer.tracker.entries.items.any (fun e => e.status = .pending) &&
          !w.producer.plugin.isDone) = true := by
    decide +kernel
  obtain ⟨w, reached, holds⟩ := (Option.any_eq_true _ _).mp evidence
  obtain ⟨pending, more⟩ := Bool.and_eq_true_iff.mp holds
  obtain ⟨e, member, status⟩ := List.any_eq_true.mp pending
  refine ⟨w, reached, ⟨e, member, of_decide_eq_true status⟩, ?_⟩
  refine (redispatch_iff createEchoPlugin echoJob 0 .new takenAndDropped w reached
    ⟨"cons-2", 1, ""⟩).mpr fun short => ?_
  have given : w.producer.plugin.isDone = false := by simpa using more
  simpa [TestPlugin.StopsShort, createEchoPlugin, EchoState.nextUnit, given] using short.1

/-- The unit that came back is not sent to the next consumer that asks. -/
theorem returned_unit_is_not_sent :
    ¬ ∀ events w req, (producerSystem createEchoPlugin).run
      (World.listening (.started echoJob 0 .oneUnit)) events = some w →
        Redispatches createEchoPlugin w.producer req := by
  intro claimed
  have evidence : ((producerSystem createEchoPlugin).run
      (World.listening (.started echoJob 0 .oneUnit)) takenAndDropped).any (fun w =>
        w.producer.tracker.entries.items.any (fun e => e.status = .pending) &&
          w.producer.plugin.isDone) = true := by
    decide +kernel
  obtain ⟨w, reached, holds⟩ := (Option.any_eq_true _ _).mp evidence
  obtain ⟨pending, done⟩ := Bool.and_eq_true_iff.mp holds
  have stops : createEchoPlugin.StopsShort 1 w.producer.plugin := by
    simp [TestPlugin.StopsShort, createEchoPlugin, EchoState.nextUnit, done]
  have numbered := producer_invariant Numbered numbered_step
    (numbered_started echoJob 0 EchoState.oneUnit) reached
  refine (redispatches_iff createEchoPlugin numbered ⟨"cons-2", 1, ""⟩).mp
    (claimed takenAndDropped w _ reached) ⟨stops, ?_⟩
  obtain ⟨e, member, status⟩ := List.any_eq_true.mp pending
  exact ⟨e, member, of_decide_eq_true status⟩

end PnC.Guarantees.Redispatch
