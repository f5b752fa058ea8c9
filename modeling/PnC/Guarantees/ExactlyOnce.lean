import PnC.Source.EchoHandler

/-!
# Units of a fleet are processed once

Each message of the producer is one step. No id goes to two connections then, and no pool
processes an id twice. When nothing is on its
way over a connection and its consumer has nothing left to do, every unit that was sent over
it has been processed, and the tracker shows what its one result says. When this is so for
all connections and no send has failed, no entry of the tracker is left open.
-/
namespace PnC.Guarantees.ExactlyOnce

open PnC.Library PnC.Source

variable {σ : Type} {plugin : TestPlugin σ} {fleet : Nat → ConsumerProgram}
  {R : Nat → WorkUnitMessage → ResultMessage → Prop} {p : Producer σ}
  {events : List DeploymentEvent} {s : Deployment σ}

/-- In whatever order the messages are handled one by one, an id is processed at most once, by
one consumer. -/
theorem processed_at_most_once (run : DeploymentRun plugin fleet R p events s) :
    (∀ n link, s.links n = some link → (link.consumer.processed.map (·.1.workUnitId)).Nodup) ∧
      ∀ n m link other, s.links n = some link → s.links m = some other →
        ∀ pair ∈ link.consumer.processed, ∀ pair' ∈ other.consumer.processed,
          pair.1.workUnitId = pair'.1.workUnitId → n = m := by
  have sound := run.sound
  refine ⟨fun n link present => Consumer.distinct_processed (sound.tied n link present).reports, ?_⟩
  intro n m link other here there pair first pair' second same
  obtain ⟨msg, arrived, id, -⟩ :=
    (Consumer.arrived_of_processed (sound.tied n link here).reports first).1.1
  obtain ⟨msg', arrived', id', -⟩ :=
    (Consumer.arrived_of_processed (sound.tied m other there).reports second).1.1
  exact World.sentTo_apart sound.issued (List.mem_of_mem_take arrived)
    (List.mem_of_mem_take arrived') (by rw [← id, ← id', same])

theorem processed_once_in_lone_echo : ∃ link, loneEchoFinal.links 0 = some link ∧
    link.consumer.processed.map (·.1.workUnitId) = ["prod-1-1"] ∧
    (link.consumer.processed.map (·.1.workUnitId)).Nodup :=
  ⟨_, rfl, rfl, (processed_at_most_once lone_echo).1 0 _ rfl⟩

/-- Behind a quiet connection each unit that was sent has one result, which some run of the
handler on its job has given, and the tracker shows it. -/
theorem quiet_settled (run : DeploymentRun plugin fleet R p events s) (n : Nat) (link : Link)
    (present : s.links n = some link) (quiet : link.Quiet s.world n) :
    (link.consumer.results.map (·.workUnitId)).Perm ((s.world.sentTo n).map (·.workUnitId)) ∧
      (link.consumer.processed.map (·.1.workUnitId)).Perm
        ((s.world.sentTo n).map (·.workUnitId)) ∧
      ∀ msg ∈ s.world.sentTo n, ∃ work result, (work, result) ∈ link.consumer.processed ∧
        work.workUnitId = msg.workUnitId ∧ work.job = msg.job ∧ R n work result ∧
        s.world.producer.tracker.status msg.workUnitId = some result.settles := by
  have sound := run.sound
  have reports := (sound.tied n link present).reports
  rw [quiet.taken, List.take_length] at reports
  obtain ⟨results, processed⟩ := Consumer.idle_results reports quiet.idle
  refine ⟨results, processed, ?_⟩
  intro msg sent
  obtain ⟨work, result, member, id, job, -, meets, settled, -⟩ :=
    sound.quiet_result present quiet sent
  exact ⟨work, result, member, id, job, meets, settled⟩

theorem quiet_settled_in_lone_echo : ∃ link, loneEchoFinal.links 0 = some link ∧
    (link.consumer.results.map (·.workUnitId)).Perm ["prod-1-1"] :=
  ⟨_, rfl, (quiet_settled lone_echo 0 _ rfl (lone_echo_quiet 0 _ rfl)).1⟩

/-- Every unit that was ever generated has been settled by a handler, none is still Sent. -/
theorem nothing_left_sent (run : DeploymentRun plugin fleet R p events s)
    (succeed : ∀ event ∈ events, event.SendsSucceed)
    (quiet : ∀ n link, s.links n = some link → link.Quiet s.world n) (id : String)
    (e : WorkUnitEntry) (tracked : s.world.producer.tracker.find id = some e)
    (new : p.tracker.find id = none) :
    e.status ≠ .sent ∧ ∃ n link work result, s.links n = some link ∧
      (work, result) ∈ link.consumer.processed ∧ work.workUnitId = id ∧ R n work result ∧
      (e.status = .completed ↔ result.status = "success") := by
  obtain ⟨n, link, work, result, present, member, same, meets, settled⟩ :=
    run.settled succeed quiet tracked new
  refine ⟨?_, n, link, work, result, present, member, same, meets, ?_⟩
  · rw [settled]
    exact result.settles_ne_sent
  · rw [settled]
    exact ResultMessage.settles_completed

theorem nothing_left_sent_in_lone_echo : ∃ e,
    loneEchoFinal.world.producer.tracker.find "prod-1-1" = some e ∧ e.status ≠ .sent :=
  ⟨_, rfl, (nothing_left_sent lone_echo (LoneUnit.sends_lone _) lone_echo_quiet "prod-1-1" _ rfl rfl).1⟩

end PnC.Guarantees.ExactlyOnce
