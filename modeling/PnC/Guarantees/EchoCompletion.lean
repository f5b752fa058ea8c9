import PnC.Source.EchoHandler

/-!
# An ECHO job completes

The handler agrees with the plugin about the payload of every unit, so that all that a quiet
fleet of ECHO consumers leaves in the tracker is Completed. Each message of the producer is
one step.
-/
namespace PnC.Guarantees.EchoCompletion

open PnC.Library PnC.Source

variable {fleet : Nat → ConsumerProgram} {p : Producer EchoState} {events : List DeploymentEvent}
  {s : Deployment EchoState}

theorem success_of_echoes {n : Nat} {work : WorkUnitMessage} {result : ResultMessage}
    (offers : createEchoPlugin.Offers work.job) (echoes : Echoes n work result) :
    result.status = "success" ∧ result.result.find "match" = some (.boolean true) := by
  obtain ⟨t, carried⟩ := offers_echoJob offers
  obtain ⟨what, delay, duration, rfl⟩ := echoes
  obtain ⟨compared, ok, agrees⟩ := t.compare_job delay duration carried
  unfold EchoHandler.handle
  rw [ok]
  exact ⟨rfl, agrees⟩

/-- In whatever order the messages are handled, every result of the handler is a match, and
when the fleet is quiet and no send has failed every unit that was generated is Completed. -/
theorem echo_completes (run : DeploymentRun createEchoPlugin fleet Echoes p events s) :
    (∀ n link, s.links n = some link → ∀ pair ∈ link.consumer.processed,
      pair.2.status = "success" ∧ pair.2.result.find "match" = some (.boolean true)) ∧
    ((∀ event ∈ events, event.SendsSucceed) →
      (∀ n link, s.links n = some link → link.Quiet s.world n) →
        ∀ id e, s.world.producer.tracker.find id = some e → p.tracker.find id = none →
          e.status = .completed) := by
  have sound := run.sound
  have successes (n : Nat) (link : Link) (present : s.links n = some link)
      (pair : WorkUnitMessage × ResultMessage) (member : pair ∈ link.consumer.processed) :
      pair.2.status = "success" ∧ pair.2.result.find "match" = some (.boolean true) := by
    obtain ⟨⟨⟨msg, arrived, -, job⟩, -⟩, -, echoes⟩ :=
      Consumer.arrived_of_processed (sound.tied n link present).reports member
    have unit := World.mem_sentTo.mp (List.mem_of_mem_take arrived)
    exact success_of_echoes (job ▸ sound.issued.emitted _ unit) echoes
  refine ⟨successes, ?_⟩
  intro succeed quiet id e tracked new
  obtain ⟨n, link, work, result, present, member, -, -, settled⟩ :=
    run.settled succeed quiet tracked new
  rw [settled]
  exact ResultMessage.settles_completed.mpr (successes n link present _ member).1

theorem lone_echo_completes : ∃ e,
    loneEchoFinal.world.producer.tracker.find "prod-1-1" = some e ∧ e.status = .completed :=
  ⟨_, rfl, (echo_completes lone_echo).2 (LoneUnit.sends_lone _) lone_echo_quiet "prod-1-1" _ rfl rfl⟩

end PnC.Guarantees.EchoCompletion
