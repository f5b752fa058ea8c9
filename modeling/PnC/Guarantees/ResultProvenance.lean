import PnC.Source.EchoHandler

/-!
# What the producer shows comes from handlers

A unit is Completed, a password is found and a file error is reported only if they were so
before the first connection, or if the handler of a consumer that was sent the unit has
returned it. Each message of the producer is one step.
-/
namespace PnC.Guarantees.ResultProvenance

open PnC.Library PnC.Source

variable {σ : Type} {plugin : TestPlugin σ} {fleet : Nat → ConsumerProgram}
  {R : Nat → WorkUnitMessage → ResultMessage → Prop} {p : Producer σ}
  {events : List DeploymentEvent} {s : Deployment σ}

/-- The handler of the consumer behind connection `n` has returned the result for the unit,
which was sent over the connection with this job. -/
structure HandledAt (R : Nat → WorkUnitMessage → ResultMessage → Prop) (s : Deployment σ) (n : Nat)
    (work : WorkUnitMessage) (result : ResultMessage) : Prop where
  processed : ∃ link, s.links n = some link ∧ (work, result) ∈ link.consumer.processed
  sent : ∃ msg ∈ s.world.sentTo n, msg.workUnitId = work.workUnitId ∧ msg.job = work.job
  meets : R n work result

theorem handledAt_of_returned (sound : s.Sound R plugin p)
    {P : WorkUnitMessage → ResultMessage → Prop} (returned : s.Returned P) :
    ∃ n work result, HandledAt R s n work result ∧ P work result := by
  obtain ⟨n, link, work, result, present, member, holds⟩ := returned
  obtain ⟨⟨⟨msg, arrived, id, job⟩, -⟩, -, meets⟩ :=
    Consumer.arrived_of_processed (sound.tied n link present).reports member
  exact ⟨n, work, result, ⟨⟨link, present, member⟩,
    ⟨msg, List.mem_of_mem_take arrived, id.symm, job.symm⟩, meets⟩, holds⟩

/-- Everything that the producer shows, in every state of every run. -/
theorem shown_was_returned (run : DeploymentRun plugin fleet R p events s) :
    (∀ id, s.world.producer.tracker.status id = some .completed →
      p.tracker.status id = some .completed ∨ ∃ n work result, HandledAt R s n work result ∧
        work.workUnitId = id ∧ result.status = "success") ∧
    (∀ password, s.world.producer.foundPassword = some password →
      p.foundPassword = some password ∨ ∃ n work result, HandledAt R s n work result ∧
        result.status = "success" ∧ result.foundPassword = some password) ∧
    ∀ error, s.world.producer.fileErrorMsg = some error →
      p.fileErrorMsg = some error ∨ ∃ n work result, HandledAt R s n work result ∧
        result.status ≠ "success" ∧ result.fileError = some error := by
  have sound := run.sound
  refine ⟨?_, ?_, ?_⟩
  · intro id completed
    exact (sound.backed.completed id completed).imp_right (handledAt_of_returned sound)
  · intro password found
    exact (sound.backed.found password found).imp_right (handledAt_of_returned sound)
  · intro error reported
    exact (sound.backed.fileError error reported).imp_right (handledAt_of_returned sound)

theorem shown_was_returned_in_lone_echo :
    loneEchoFinal.world.producer.tracker.status "prod-1-1" = some .completed ∧
      ∃ n work result, HandledAt Echoes loneEchoFinal n work result ∧
        work.workUnitId = "prod-1-1" ∧ result.status = "success" :=
  ⟨rfl, ((shown_was_returned lone_echo).1 "prod-1-1" rfl).resolve_left (by decide)⟩

end PnC.Guarantees.ResultProvenance
