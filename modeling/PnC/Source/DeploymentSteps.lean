import PnC.Source.Deployment
import PnC.Source.IssuedUnits

/-!
# What holds in every state of a deployment

One invariant ties the two sides of every connection together: what a consumer has taken is
a part of what was sent to it, its results are about these units, and the tracker shows for
each delivered result what it says.
-/
namespace PnC.Source

open PnC.Library

variable {σ : Type} {plugin : TestPlugin σ} {fleet : Nat → ConsumerProgram}

/-- What the handler has returned, oldest first. -/
def Consumer.processed (s : Consumer) : List (WorkUnitMessage × ResultMessage) :=
  match s.pool with
  | none => []
  | some pool => pool.shared.processed

/-- The status that a result gives its unit. -/
def ResultMessage.settles (result : ResultMessage) : WorkUnitStatus :=
  if result.status = "success" then .completed else .pending

/-- No send of a unit fails in the step. -/
def DeploymentEvent.SendsSucceed : DeploymentEvent → Prop
  | .request _ _ _ env => ∀ i, env.sendOk i = true
  | _ => True

/-- What each event does to the two sides, and when it can happen. -/
inductive DeploymentStep (plugin : TestPlugin σ) (fleet : Nat → ConsumerProgram)
    (s : Deployment σ) : DeploymentEvent → Deployment σ → Prop where
  | connect (n : Nat) (env : HandlerEnv) (world : World σ) : s.links n = none →
      (producerSystem plugin).step s.world (.frame n
        (VersionMessage.mk (fleet n).version (fleet n).consumerId).toJson env) = some world →
      DeploymentStep plugin fleet s (.connect n env)
        (if world.replied n = some "ok" then
          Deployment.setLink { s with world := world } n ⟨.start, 0, 0⟩
        else { s with world := world })
  | message (event : DeploymentEvent) (n : Nat) (link : Link) (j : Json) (env : HandlerEnv)
      (world : World σ) : s.links n = some link → msgType j ≠ .ok "result" →
      (msgType j = .ok "work_request" → event.SendsSucceed → ∀ i, env.sendOk i = true) →
      (producerSystem plugin).step s.world (.frame n j env) = some world →
      DeploymentStep plugin fleet s event { s with world := world }
  | deliver (n : Nat) (link : Link) (result : ResultMessage) (world : World σ) :
      s.links n = some link → link.consumer.results[link.delivered]? = some result →
      (producerSystem plugin).step s.world (.frame n result.toJson .quiet) = some world →
      DeploymentStep plugin fleet s (.deliver n)
        (Deployment.setLink { s with world := world } n
          { link with delivered := link.delivered + 1 })
  | arrive (n : Nat) (fs : FileSystem) (server : FileServer) (link : Link) (msg : WorkUnitMessage)
      (consumer : Consumer) : s.links n = some link →
      (s.world.sentTo n)[link.taken]? = some msg →
      (consumerSystem (fleet n).config).step link.consumer
        (.frame (Path.ofString (msg.toString (fleet n).json)) fs server) = some consumer →
      DeploymentStep plugin fleet s (.arrive n fs server)
        (s.setLink n { link with consumer := consumer, taken := link.taken + 1 })
  | consumer (n : Nat) (event : ConsumerEvent) (link : Link) (consumer : Consumer) :
      s.links n = some link → event.isFrame = false →
      (consumerSystem (fleet n).config).step link.consumer event = some consumer →
      DeploymentStep plugin fleet s (.consumer n event)
        (s.setLink n { link with consumer := consumer })
  | producer (event : Event) (world : World σ) : event.fromPeer = false →
      (producerSystem plugin).step s.world event = some world →
      DeploymentStep plugin fleet s (.producer event) { s with world := world }

theorem msgType_workRequest (req : WorkRequestMessage) :
    msgType req.toJson = .ok "work_request" := rfl

theorem msgType_heartbeat (hb : HeartbeatMessage) : msgType hb.toJson = .ok "heartbeat" := rfl

theorem deployment_step {s t : Deployment σ} {event : DeploymentEvent}
    (taken : (deploymentSystem plugin fleet).step s event = some t) :
    DeploymentStep plugin fleet s event t := by
  cases event with
  | connect n env =>
    simp only [deploymentSystem] at taken
    split at taken
    next => cases taken
    next absent =>
      obtain ⟨after, sent, rfl⟩ := Option.map_eq_some_iff.mp taken
      obtain ⟨world, step, rfl⟩ := Option.map_eq_some_iff.mp sent
      exact .connect n env world absent step
  | request n threadsAvailable timestamp env =>
    simp only [deploymentSystem] at taken
    split at taken
    next => cases taken
    next link present =>
      obtain ⟨world, step, rfl⟩ := Option.map_eq_some_iff.mp taken
      refine .message _ n link _ env world present ?_ (fun _ succeed => succeed) step
      rw [msgType_workRequest]
      simp
  | heartbeat n timestamp =>
    simp only [deploymentSystem] at taken
    split at taken
    next => cases taken
    next link present =>
      obtain ⟨world, step, rfl⟩ := Option.map_eq_some_iff.mp taken
      refine .message _ n link _ _ world present ?_ (fun _ _ _ => rfl) step
      rw [msgType_heartbeat]
      simp
  | deliver n =>
    simp only [deploymentSystem] at taken
    split at taken
    next => cases taken
    next link present =>
      split at taken
      next => cases taken
      next result next_ =>
        obtain ⟨after, sent, rfl⟩ := Option.map_eq_some_iff.mp taken
        obtain ⟨world, step, rfl⟩ := Option.map_eq_some_iff.mp sent
        exact .deliver n link result world present next_ step
  | arrive n fs server =>
    simp only [deploymentSystem] at taken
    split at taken
    next => cases taken
    next link present =>
      split at taken
      next => cases taken
      next msg next_ =>
        obtain ⟨consumer, step, rfl⟩ := Option.map_eq_some_iff.mp taken
        exact .arrive n fs server link msg consumer present next_ step
  | consumer n event =>
    simp only [deploymentSystem] at taken
    split at taken
    next => cases taken
    next link present =>
      split at taken
      next => cases taken
      next noFrame =>
        obtain ⟨consumer, step, rfl⟩ := Option.map_eq_some_iff.mp taken
        exact .consumer n event link consumer present (Bool.eq_false_iff.mpr noFrame) step
  | producer event =>
    simp only [deploymentSystem] at taken
    split at taken
    next => cases taken
    next noPeer =>
      obtain ⟨world, step, rfl⟩ := Option.map_eq_some_iff.mp taken
      exact .producer event world (Bool.eq_false_iff.mpr noPeer) step

/-! ## The units of one connection -/

namespace World

variable {w after : World σ}

theorem sentTo_eq (w : World σ) (n : Nat) :
    w.sentTo n = w.units.filterMap fun unit => if unit.1 = .tcp n then some unit.2 else none := by
  rw [sentTo, units, List.filterMap_filterMap]
  refine congrArg (List.filterMap · _) (funext fun traffic => ?_)
  cases traffic with
  | workUnit peer msg =>
    cases peer with
    | tcp m => simp [Traffic.unitFor, Traffic.unit?]
    | udp address port => rfl
  | received | answered => rfl

theorem mem_sentTo {n : Nat} {msg : WorkUnitMessage} :
    msg ∈ w.sentTo n ↔ (Endpoint.tcp n, msg) ∈ w.units := by
  rw [sentTo_eq, List.mem_filterMap]
  constructor
  · rintro ⟨⟨peer, sent⟩, member, same⟩
    split at same
    next own =>
      cases same
      cases own
      exact member
    next => cases same
  · intro member
    exact ⟨_, member, if_pos rfl⟩

theorem distinct_sentTo (issued : w.Issued plugin) (n : Nat) :
    ((w.sentTo n).map (·.workUnitId)).Nodup := by
  refine issued.distinct.sublist ?_
  rw [sentTo_eq]
  induction w.units with
  | nil => exact List.Sublist.refl _
  | cons unit rest ih =>
    rw [List.filterMap_cons]
    split
    next => exact ih.cons _
    next msg own =>
      split at own
      next =>
        cases own
        exact ih.cons_cons _
      next => cases own

/-- No id goes over two connections. -/
theorem sentTo_apart (issued : w.Issued plugin) {n m : Nat} {first second : WorkUnitMessage}
    (here : first ∈ w.sentTo n) (there : second ∈ w.sentTo m)
    (same : first.workUnitId = second.workUnitId) : n = m := by
  have equal := List.inj_on_of_nodup_map issued.distinct (mem_sentTo.mp here)
    (mem_sentTo.mp there) same
  cases equal
  exact Eq.refl n

theorem sentTo_step {event : Event}
    (taken : (producerSystem plugin).step w event = some after) (n : Nat) :
    w.sentTo n <+: after.sentTo n := by
  rw [sentTo_eq, sentTo_eq]
  cases sends_step taken with
  | nothing same =>
    exact same ▸ List.prefix_refl _
  | dispatch peer env consumerId remaining p seq name state tracker serves producer units =>
    rw [units, List.filterMap_append]
    exact List.prefix_append _ _

end World

/-! ## What a step of a consumer adds -/

namespace Consumer

variable {P : WorkUnitMessage → Prop} {R : WorkUnitMessage → ResultMessage → Prop}
  {config : ConsumerConfig} {arrived : List WorkUnitMessage} {s t : Consumer}

theorem sent_pool {pool after : ThreadPool Captured} {event : PoolEvent}
    {failed : List WorkUnitMessage} (reports : pool.Reports P R failed)
    (taken : (poolSystem config.pool).step pool event = some after) :
    pool.shared.captured.sent <+: after.shared.captured.sent ∧
      ∀ pair ∈ pool.shared.processed, pair ∈ after.shared.processed := by
  cases ThreadPool.pool_steps taken with
  | submit | requestStop => exact ⟨List.prefix_refl _, fun _ member => member⟩
  | worker left right phase next shared before step =>
    refine ⟨?_, step.processed_mono⟩
    have placed := reports.placed phase (before ▸ by simp)
    cases step with
    | resultEffect work result effect rest =>
      obtain ⟨rfl, -⟩ | ⟨rfl, -⟩ := effect_cases placed
      · dsimp only [Captured.markSuccess]
        split
        · exact List.prefix_refl _
        · exact List.prefix_refl _
      · exact List.prefix_append _ _
    | idleEffect effect rest => cases placed
    | _ => exact List.prefix_refl _
  | owner next shared drawn step =>
    cases step <;> exact ⟨List.prefix_refl _, fun _ member => member⟩

/-- Results are sent one after the other, what has been processed stays recorded, and so
does what has been returned. -/
theorem results_step {event : ConsumerEvent} (reports : s.Reports R arrived)
    (taken : (consumerSystem config).step s event = some t) :
    s.results <+: t.results ∧ (∀ pair ∈ s.processed, pair ∈ t.processed) ∧
      (t.failed = [] → s.failed = []) := by
  have same (results : t.results = s.results) (processed : t.processed = s.processed)
      (failed : t.failed = s.failed) :
      s.results <+: t.results ∧ (∀ pair ∈ s.processed, pair ∈ t.processed) ∧
        (t.failed = [] → s.failed = []) := by
    refine ⟨by rw [results], ?_, by rw [failed]; exact id⟩
    rw [processed]
    exact fun _ member => member
  cases consumer_moves taken with
  | first _ _ _ r work standing passed =>
    obtain ⟨early, -⟩ : s.receiver.fileReady = false ∧ r.fileReady = true :=
      Receiver.pass_fileReady passed
    have none_ : s.pool = none := by
      rw [← Option.not_isSome_iff_eq_none, ← reports.ready, early]
      exact Bool.false_ne_true
    refine same ?_ ?_ rfl
    · rw [results, results, none_]
      rfl
    · rw [processed, processed, none_]
      rfl
  | answer timestamp work pool standing present => exact absurd standing (reports.unanswered work)
  | push work pool after standing present pushed =>
    obtain ⟨sent, kept⟩ := sent_pool (reports.pool pool present) pushed
    rw [results, results, processed, processed, present]
    exact ⟨sent, kept, id⟩
  | pool event pool after present allowed step =>
    obtain ⟨sent, kept⟩ := sent_pool (reports.pool pool present) step
    rw [results, results, processed, processed, present]
    exact ⟨sent, kept, id⟩
  | fail timestamp work rest pool left present =>
    rw [results, results, processed, processed, present]
    refine ⟨List.prefix_append _ _, fun _ member => member, fun none_ => ?_⟩
    cases (List.append_eq_nil_iff.mp none_).2
  | _ => exact same rfl rfl rfl

/-- What a consumer sends is about a unit that has arrived, and follows from what its
handler returned, or is the return of a unit. -/
theorem origin_of_result (reports : s.Reports R arrived) {result : ResultMessage}
    (sent : result ∈ s.results) :
    (∃ work, (work, result) ∈ s.processed ∧
        work.Copied s.receiver.localFilePath arrived ∧ Echoed R work result) ∨
      ∃ work ∈ s.failed, work.From arrived ∧ ReturnedAs work result := by
  cases present : s.pool with
  | none =>
    rw [results, present] at sent
    cases sent
  | some pool =>
    rw [results, present] at sent
    rw [processed, present]
    have held := reports.pool pool present
    refine (held.shared.origin result sent).imp ?_ ?_
    · intro ⟨work, member⟩
      exact ⟨work, member, held.contents.shared.processed _ member⟩
    · intro ⟨work, member, returned⟩
      exact ⟨work, member, reports.returned work member, returned⟩

theorem distinct_submitted (reports : s.Reports R arrived) : s.submittedIds.Nodup :=
  (List.nodup_append.mp (reports.distinct.sublist reports.inOrder.sublist)).1

/-- Unless units have been returned, each unit has one result. -/
theorem distinct_results (reports : s.Reports R arrived) (working : s.failed = []) :
    (s.results.map (·.workUnitId)).Nodup := by
  unfold results
  split
  next => exact List.nodup_nil
  next pool present =>
    have held := reports.pool pool present
    have balanced : (↑(pool.shared.captured.sent.map (·.workUnitId)) : Multiset String) +
        pool.total WorkerPhase.unsent = ↑(pool.shared.passed.map (·.1.workUnitId)) := by
      have whole := held.balanced
      rw [ThreadPool.Balanced, working] at whole
      exact whole.trans (add_zero _)
    have distinct : (pool.submitted.map (·.workUnitId)).Nodup := by
      have all := distinct_submitted reports
      rwa [submittedIds_of_pool present] at all
    have sentOnce : (↑(pool.shared.captured.sent.map (·.workUnitId)) : Multiset String) ≤
        ↑(pool.submitted.map (·.workUnitId)) :=
      calc _ ≤ (↑(pool.shared.passed.map (·.1.workUnitId)) : Multiset String) := by
            rw [← balanced]
            exact Multiset.le_add_right _ _
        _ = Multiset.map WorkUnitMessage.workUnitId ↑(pool.shared.passed.map Prod.fst) := by
            rw [Multiset.map_coe, List.map_map]
            rfl
        _ ≤ Multiset.map WorkUnitMessage.workUnitId ↑pool.submitted :=
            Multiset.map_le_map (ThreadPool.passed_le held.accounted)
        _ = _ := Multiset.map_coe _ _
    exact Multiset.coe_nodup.mp (Multiset.nodup_of_le sentOnce (Multiset.coe_nodup.mpr distinct))

end Consumer

end PnC.Source
