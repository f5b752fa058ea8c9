import PnC.Source.DeploymentInvariant
import PnC.Source.EmittedUnits

/-!
# Where the units of a deployment went

Every unit was sent over the connection of a consumer, and while no send fails these units
are all that next_unit has given.
-/
namespace PnC.Source

open PnC.Library

variable {σ : Type} {plugin : TestPlugin σ} {fleet : Nat → ConsumerProgram}

theorem msgType_version (ver : VersionMessage) : msgType ver.toJson = .ok "version" := rfl

theorem msgType_result (result : ResultMessage) : msgType result.toJson = .ok "result" := rfl

namespace Deployment

variable {s t : Deployment σ} {event : DeploymentEvent}

def Addressed (s : Deployment σ) : Prop :=
  ∀ unit ∈ s.world.units, ∃ n, unit.1 = .tcp n ∧ (s.links n).isSome = true

theorem isSome_setLink {n m : Nat} {link : Link} (known : (s.links m).isSome = true) :
    ((s.setLink n link).links m).isSome = true := by
  by_cases own : m = n
  · rw [own, links_setLink_self]
    rfl
  · rw [links_setLink_of_ne s link own]
    exact known

/-- Nothing is sent in answer to this. -/
theorem units_kept {world : World σ} {step : Event} (unserved : World.served step = none)
    (taken : (producerSystem plugin).step s.world step = some world) :
    world.units = s.world.units ∧ world.producer.plugin = s.world.producer.plugin := by
  cases World.sends_step taken with
  | nothing same state => exact ⟨same, state⟩
  | dispatch _ _ _ _ _ _ _ _ _ serves =>
    rw [unserved] at serves
    cases serves

theorem unserved_frame {n : Nat} {j : Json} {env : HandlerEnv}
    (other : msgType j ≠ .ok "work_request") : World.served (.frame n j env) = none :=
  if_neg other

theorem served_frame {n : Nat} {j : Json} {env : HandlerEnv} {peer : Endpoint}
    {sendOk : Nat → Bool} (serves : World.served (.frame n j env) = some (peer, sendOk)) :
    msgType j = .ok "work_request" ∧ peer = .tcp n ∧ sendOk = env.sendOk := by
  by_cases request : msgType j = .ok "work_request"
  · cases (show some (Endpoint.tcp n, env.sendOk) = _ from (if_pos request).symm.trans serves)
    exact ⟨request, rfl, rfl⟩
  · cases (unserved_frame request).symm.trans serves

theorem unserved_local {event : Event} (local_ : event.fromPeer = false) :
    World.served event = none := by
  cases event with
  | frame | datagram => cases local_
  | _ => rfl

theorem succeed_unserved {step : Event} (unserved : World.served step = none) :
    SendsSucceed step := by
  intro peer sendOk serves
  rw [unserved] at serves
  cases serves

theorem addressed_step (addressed : s.Addressed)
    (taken : (deploymentSystem plugin fleet).step s event = some t) : t.Addressed := by
  have kept {world : World σ} (same : world.units = s.world.units) :
      Addressed { s with world := world } := by
    intro unit member
    rw [same] at member
    exact addressed unit member
  have linked (world : World σ) (same : world.units = s.world.units) (n : Nat) (link : Link) :
      (Deployment.setLink { s with world := world } n link).Addressed := by
    intro unit member
    obtain ⟨m, peer, known⟩ := kept same unit member
    exact ⟨m, peer, isSome_setLink known⟩
  cases deployment_step taken with
  | connect n env world absent step =>
    obtain ⟨same, -⟩ := units_kept (unserved_frame (by rw [msgType_version]; simp)) step
    split
    · exact linked world same n _
    · exact kept same
  | message _ n link j env world present other succeed step =>
    cases World.sends_step step with
    | nothing same => exact kept same
    | dispatch peer _ _ _ _ _ _ _ _ serves _ units =>
      intro unit member
      rw [units] at member
      rcases List.mem_append.mp member with before | new
      · exact addressed unit before
      · obtain ⟨msg, -, rfl⟩ := List.mem_map.mp new
        refine ⟨n, (served_frame serves).2.1, ?_⟩
        rw [show s.links n = some link from present]
        rfl
  | deliver n link result world present next_ step =>
    obtain ⟨same, -⟩ := units_kept (unserved_frame (by rw [msgType_result]; simp)) step
    exact linked world same n _
  | arrive n fs server link msg consumer => exact linked s.world rfl n _
  | consumer n event link consumer => exact linked s.world rfl n _
  | producer event world local_ step => exact kept (units_kept (unserved_local local_) step).1

theorem complete_step {lossless : Prop} {start : σ}
    (complete : s.world.Complete lossless plugin start)
    (succeed : lossless → event.SendsSucceed)
    (taken : (deploymentSystem plugin fleet).step s event = some t) :
    t.world.Complete lossless plugin start := by
  cases deployment_step taken with
  | connect n env world absent step =>
    have after := PnC.Source.complete_step complete
      (fun _ => succeed_unserved (unserved_frame (by rw [msgType_version]; simp))) step
    split
    · exact after
    · exact after
  | message _ n link j env world present other succeeds step =>
    refine PnC.Source.complete_step complete ?_ step
    intro none_ peer sendOk serves
    obtain ⟨request, -, rfl⟩ := served_frame serves
    exact succeeds request (succeed none_)
  | deliver n link result world present next_ step =>
    exact PnC.Source.complete_step complete
      (fun _ => succeed_unserved (unserved_frame (by rw [msgType_result]; simp))) step
  | arrive | consumer => exact complete
  | producer event world local_ step =>
    exact PnC.Source.complete_step complete (fun _ => succeed_unserved (unserved_local local_)) step

theorem tracked_step {p : Producer σ} (tracked : s.world.Tracked p) (succeed : event.SendsSucceed)
    (taken : (deploymentSystem plugin fleet).step s event = some t) : t.world.Tracked p := by
  cases deployment_step taken with
  | connect n env world absent step =>
    have after := PnC.Source.tracked_step tracked
      (succeed_unserved (unserved_frame (by rw [msgType_version]; simp))) step
    split
    · exact after
    · exact after
  | message _ n link j env world present other succeeds step =>
    refine PnC.Source.tracked_step tracked ?_ step
    intro peer sendOk serves
    obtain ⟨request, -, rfl⟩ := served_frame serves
    exact succeeds request succeed
  | deliver n link result world present next_ step =>
    exact PnC.Source.tracked_step tracked
      (succeed_unserved (unserved_frame (by rw [msgType_result]; simp))) step
  | arrive | consumer => exact tracked
  | producer event world local_ step =>
    exact PnC.Source.tracked_step tracked (succeed_unserved (unserved_local local_)) step

/-- Behind every run. -/
theorem addressed_run {p : Producer σ} {events : List DeploymentEvent}
    (replay : (deploymentSystem plugin fleet).run (listening p) events = some s) : s.Addressed :=
  TransitionSystem.run_preserves Addressed
    (fun _ _ _ addressed taken => addressed_step addressed taken)
    (show (listening p).Addressed from nofun) replay

/-- Behind every run: the jobs sent are jobs given, and all of them if no send has failed. -/
theorem complete_run {lossless : Prop} {p : Producer σ} {events : List DeploymentEvent}
    (succeed : lossless → ∀ event ∈ events, event.SendsSucceed)
    (replay : (deploymentSystem plugin fleet).run (listening p) events = some s) :
    s.world.Complete lossless plugin p.plugin := by
  have guarded : (deploymentSystem plugin fleet).Along
      (fun _ event _ => lossless → event.SendsSucceed) (listening p) events :=
    TransitionSystem.along_of_mem fun event member none_ => succeed none_ event member
  exact TransitionSystem.run_invariant (fun s => s.world.Complete lossless plugin p.plugin)
    (fun _ _ _ complete here taken => complete_step complete here taken) (complete_listening p)
    guarded replay

/-- Behind every run in which no send fails. -/
theorem tracked_run {p : Producer σ} {events : List DeploymentEvent}
    (succeed : ∀ event ∈ events, event.SendsSucceed)
    (replay : (deploymentSystem plugin fleet).run (listening p) events = some s) :
    s.world.Tracked p :=
  TransitionSystem.run_invariant (fun s => s.world.Tracked p)
    (fun _ _ _ tracked here taken => tracked_step tracked here taken) (fun _ known => .inl known)
    (TransitionSystem.along_of_mem succeed) replay

end Deployment

end PnC.Source
