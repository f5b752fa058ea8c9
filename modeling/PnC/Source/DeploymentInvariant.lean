import PnC.Source.DeploymentSteps

/-!
# The invariant of a deployment

What a consumer has taken is a part of what was sent to it, its results are about these
units, and the tracker shows for each delivered result what it says. Nothing is completed
or found that no handler has returned.
-/
namespace PnC.Source

open PnC.Library

variable {σ : Type} {plugin : TestPlugin σ} {fleet : Nat → ConsumerProgram}
  {Q : WorkUnitMessage → ResultMessage → Prop} {R : Nat → WorkUnitMessage → ResultMessage → Prop}

/-- The producer reports a password or a file error, if the result carries one. -/
def Producer.Shows (p : Producer σ) (result : ResultMessage) : Prop :=
  (result.status = "success" → result.foundPassword.isSome = true →
      p.foundPassword.isSome = true) ∧
    (result.status ≠ "success" → result.fileError.isSome = true → p.fileErrorMsg.isSome = true)

/-- One connection. A consumer that shut down may have returned units whose results it
sends as well: nothing is said of the status that is left then. -/
structure Link.Tied (R : WorkUnitMessage → ResultMessage → Prop) (w : World σ) (n : Nat)
    (link : Link) : Prop where
  entered : w.Entered n
  taken : link.taken ≤ (w.sentTo n).length
  delivered : link.delivered ≤ link.consumer.results.length
  reports : link.consumer.Reports R ((w.sentTo n).take link.taken)
  settled : link.consumer.failed = [] → ∀ result ∈ link.consumer.results.take link.delivered,
    w.producer.tracker.status result.workUnitId = some result.settles
  shown : ∀ result ∈ link.consumer.results.take link.delivered, w.producer.Shows result

namespace Deployment

/-- Some handler has returned this. -/
def Returned (s : Deployment σ) (P : WorkUnitMessage → ResultMessage → Prop) : Prop :=
  ∃ n link work result, s.links n = some link ∧ (work, result) ∈ link.consumer.processed ∧
    P work result

/-- What the producer shows was so before its first connection, when it was `p`, or comes
from a handler. -/
structure Backed (p : Producer σ) (s : Deployment σ) : Prop where
  completed : ∀ id, s.world.producer.tracker.status id = some .completed →
    p.tracker.status id = some .completed ∨
      s.Returned fun work result => work.workUnitId = id ∧ result.status = "success"
  found : ∀ password, s.world.producer.foundPassword = some password →
    p.foundPassword = some password ∨
      s.Returned fun _ result => result.status = "success" ∧ result.foundPassword = some password
  fileError : ∀ error, s.world.producer.fileErrorMsg = some error →
    p.fileErrorMsg = some error ∨
      s.Returned fun _ result => result.status ≠ "success" ∧ result.fileError = some error

/-- `R n` is what is known of the results of the handler behind connection `n`. -/
structure Sound (R : Nat → WorkUnitMessage → ResultMessage → Prop) (plugin : TestPlugin σ)
    (p : Producer σ) (s : Deployment σ) : Prop where
  issued : s.world.Issued plugin
  tied : ∀ n link, s.links n = some link → link.Tied (R n) s.world n
  backed : s.Backed p

end Deployment

/-! ## The producer's side of a step -/

/-- The status that a result leaves. -/
theorem status_handleResult (p : Producer σ) (result : ResultMessage) {id : String}
    (known : (p.tracker.find result.workUnitId).isSome = true) :
    (p.handleResult result).tracker.status id =
      if id = result.workUnitId then some result.settles else p.tracker.status id := by
  obtain ⟨e, found⟩ := Option.isSome_iff_exists.mp known
  unfold WorkTracker.status
  rw [find_handleResult, found]
  split
  next =>
    unfold ResultMessage.settles
    split <;> rfl
  next => rfl

theorem ResultMessage.settles_ne_sent (result : ResultMessage) : result.settles ≠ .sent := by
  unfold settles
  split <;> nofun

theorem ResultMessage.settles_completed {result : ResultMessage} :
    result.settles = .completed ↔ result.status = "success" := by
  unfold settles
  split
  next success => exact ⟨fun _ => success, fun _ => rfl⟩
  next failure => exact ⟨nofun, fun success => absurd success failure⟩

/-- What a result makes the producer report. -/
theorem found_handleResult (p : Producer σ) (result : ResultMessage) {password : String}
    (found : (p.handleResult result).foundPassword = some password) :
    p.foundPassword = some password ∨
      result.status = "success" ∧ result.foundPassword = some password := by
  unfold Producer.handleResult at found
  split at found
  next success =>
    dsimp only at found
    split at found
    next present =>
      cases found
      exact .inr ⟨success, present⟩
    next => exact .inl found
  next =>
    dsimp only at found
    split at found
    next => exact .inl found
    next => exact .inl found

theorem fileError_handleResult (p : Producer σ) (result : ResultMessage) {error : String}
    (found : (p.handleResult result).fileErrorMsg = some error) :
    p.fileErrorMsg = some error ∨ result.status ≠ "success" ∧ result.fileError = some error := by
  unfold Producer.handleResult at found
  split at found
  next =>
    dsimp only at found
    split at found
    next => exact .inl found
    next => exact .inl found
  next failure =>
    dsimp only at found
    split at found
    next present =>
      cases found
      exact .inr ⟨failure, present⟩
    next => exact .inl found

theorem Producer.Shows.keeps {p q : Producer σ} {result : ResultMessage} (shown : p.Shows result)
    (keeps : p.Keeps q) : q.Shows result := by
  unfold Shows
  rw [keeps.found, keeps.fileError]
  exact shown

/-- What is reported stays so. -/
theorem shows_handleResult (p : Producer σ) (result : ResultMessage) {other : ResultMessage}
    (shown : other = result ∨ p.Shows other) : (p.handleResult result).Shows other := by
  rcases shown with rfl | ⟨found, fileError⟩
  · unfold Producer.Shows Producer.handleResult
    by_cases success : other.status = "success"
    · rw [if_pos success]
      refine ⟨fun _ carried => ?_, fun failure => absurd success failure⟩
      obtain ⟨password, present⟩ := Option.isSome_iff_exists.mp carried
      rw [present]
      rfl
    · rw [if_neg success]
      refine ⟨fun other => absurd other success, fun _ carried => ?_⟩
      obtain ⟨error, present⟩ := Option.isSome_iff_exists.mp carried
      rw [present]
      rfl
  · unfold Producer.Shows Producer.handleResult
    by_cases success : result.status = "success"
    · rw [if_pos success]
      dsimp only
      split
      · exact ⟨fun _ _ => rfl, fileError⟩
      · exact ⟨found, fileError⟩
    · rw [if_neg success]
      dsimp only
      split
      · exact ⟨found, fun _ _ => rfl⟩
      · exact ⟨found, fileError⟩

namespace Link.Tied

variable {w after : World σ} {n : Nat} {link : Link} {event : Event}

/-- A result is about a unit that was sent over the connection. -/
theorem sent_of_result (tied : link.Tied Q w n) {result : ResultMessage}
    (member : result ∈ link.consumer.results) :
    ∃ msg ∈ w.sentTo n, result.workUnitId = msg.workUnitId := by
  have about (work : WorkUnitMessage) (same : result.workUnitId = work.workUnitId)
      (from_ : work.From ((w.sentTo n).take link.taken)) :
      ∃ msg ∈ w.sentTo n, result.workUnitId = msg.workUnitId := by
    obtain ⟨msg, arrived, id, -⟩ := from_
    exact ⟨msg, List.mem_of_mem_take arrived, same.trans id⟩
  obtain ⟨work, -, copied, same, -⟩ | ⟨work, -, from_, same, -⟩ :=
    Consumer.origin_of_result tied.reports member
  · exact about work same copied.1
  · exact about work same from_

theorem taken_kept (tied : link.Tied Q w n)
    (step : (producerSystem plugin).step w event = some after) :
    (after.sentTo n).take link.taken = (w.sentTo n).take link.taken := by
  obtain ⟨more, same⟩ := World.sentTo_step step n
  rw [← same]
  exact List.take_append_of_le_length tied.taken

/-- A step of the producer after which the statuses of the results taken are right. -/
theorem world_step (tied : link.Tied Q w n)
    (step : (producerSystem plugin).step w event = some after) {delivered : Nat}
    (low : delivered ≤ link.consumer.results.length)
    (settled : link.consumer.failed = [] → ∀ result ∈ link.consumer.results.take delivered,
      after.producer.tracker.status result.workUnitId = some result.settles)
    (shown : ∀ result ∈ link.consumer.results.take delivered, after.producer.Shows result) :
    Tied Q after n { link with delivered := delivered } := by
  refine ⟨World.entered_step tied.entered step,
    tied.taken.trans (World.sentTo_step step n).length_le, low, ?_, settled, shown⟩
  dsimp only
  rw [tied.taken_kept step]
  exact tied.reports

/-- The status of a result that is not the one that comes stays. -/
theorem status_kept (tied : link.Tied Q w n) (issued : w.Issued plugin) {p : Producer σ}
    (keeps : w.producer.Keeps p) (working : link.consumer.failed = []) {result : ResultMessage}
    (member : result ∈ link.consumer.results.take link.delivered) :
    p.tracker.status result.workUnitId = some result.settles := by
  have before := tied.settled working result member
  obtain ⟨msg, sent, same⟩ := tied.sent_of_result (List.mem_of_mem_take member)
  obtain ⟨m, below, numbered⟩ := issued.numbered _ (World.mem_sentTo.mp sent)
  rw [same, numbered] at before ⊢
  exact keeps.settled m below _ result.settles_ne_sent before

theorem keeps_step (tied : link.Tied Q w n) (issued : w.Issued plugin)
    (keeps : w.producer.Keeps after.producer)
    (step : (producerSystem plugin).step w event = some after) : link.Tied Q after n :=
  tied.world_step step tied.delivered
    (fun working _ member => tied.status_kept issued keeps working member)
    fun result member => (tied.shown result member).keeps keeps

variable {p : Producer σ} {result : ResultMessage}

/-- A result comes over another connection. -/
theorem other_result (tied : link.Tied Q w n) (issued : w.Issued plugin)
    (keeps : w.producer.Keeps p) (producer : after.producer = p.handleResult result)
    (apart : ∀ other ∈ link.consumer.results.take link.delivered,
      other.workUnitId ≠ result.workUnitId)
    (known : (p.tracker.find result.workUnitId).isSome = true)
    (step : (producerSystem plugin).step w event = some after) : link.Tied Q after n := by
  refine tied.world_step step tied.delivered ?_ ?_
  · intro working other member
    rw [producer, status_handleResult p result known, if_neg (apart other member)]
    exact tied.status_kept issued keeps working member
  · intro other member
    rw [producer]
    exact shows_handleResult p result (.inr ((tied.shown other member).keeps keeps))

/-- The next result comes over this connection. -/
theorem own_result (tied : link.Tied Q w n) (issued : w.Issued plugin)
    (keeps : w.producer.Keeps p) (producer : after.producer = p.handleResult result)
    (next_ : link.consumer.results[link.delivered]? = some result)
    (known : (p.tracker.find result.workUnitId).isSome = true)
    (step : (producerSystem plugin).step w event = some after) :
    Tied Q after n { link with delivered := link.delivered + 1 } := by
  obtain ⟨within, here⟩ := List.getElem?_eq_some_iff.mp next_
  have grown : link.consumer.results.take (link.delivered + 1) =
      link.consumer.results.take link.delivered ++ [result] := by
    rw [List.take_add_one, next_]
    rfl
  refine tied.world_step step within ?_ ?_
  · intro working other member
    have distinct := (Consumer.distinct_results tied.reports working).sublist
      ((List.take_sublist (link.delivered + 1) _).map _)
    rw [grown, List.map_append, List.nodup_append] at distinct
    rw [producer, status_handleResult p result known]
    rw [grown] at member
    rcases List.mem_append.mp member with earlier | new
    · rw [if_neg (distinct.2.2 _ (List.mem_map_of_mem earlier) _ List.mem_cons_self)]
      exact tied.status_kept issued keeps working earlier
    · cases List.mem_singleton.mp new
      exact if_pos rfl
  · intro other member
    rw [grown] at member
    rw [producer]
    refine shows_handleResult p result ?_
    rcases List.mem_append.mp member with earlier | new
    · exact .inr ((tied.shown other earlier).keeps keeps)
    · exact .inl (List.mem_singleton.mp new)

end Link.Tied

/-! ## What handlers have returned -/

namespace Deployment

variable {p : Producer σ} {s t : Deployment σ}

/-- No connection is forgotten, and nothing that a handler has returned. -/
def Grows (s t : Deployment σ) : Prop :=
  ∀ n link, s.links n = some link → ∃ after, t.links n = some after ∧
    ∀ pair ∈ link.consumer.processed, pair ∈ after.consumer.processed

theorem Grows.of_links (same : t.links = s.links) : s.Grows t :=
  fun n link present => ⟨link, by rw [same]; exact present, fun _ member => member⟩

theorem Grows.setLink {n : Nat} {link : Link}
    (kept : ∀ old, s.links n = some old →
      ∀ pair ∈ old.consumer.processed, pair ∈ link.consumer.processed) :
    s.Grows (s.setLink n link) := by
  intro m old present
  by_cases own : m = n
  · subst own
    exact ⟨link, links_setLink_self .., kept old present⟩
  · exact ⟨old, (links_setLink_of_ne s link own).trans present, fun _ member => member⟩

theorem Returned.grows {P : WorkUnitMessage → ResultMessage → Prop} (returned : s.Returned P)
    (grows : s.Grows t) : t.Returned P := by
  obtain ⟨n, link, work, result, present, member, meets⟩ := returned
  obtain ⟨after, there, kept⟩ := grows n link present
  exact ⟨n, after, work, result, there, kept _ member, meets⟩

theorem Backed.keeps (backed : s.Backed p) (grows : s.Grows t)
    (keeps : s.world.producer.Keeps t.world.producer) : t.Backed p := by
  obtain ⟨completed, found, fileError⟩ := backed
  refine ⟨?_, ?_, ?_⟩
  · exact fun id done => (completed id (keeps.completed id done)).imp_right (·.grows grows)
  · exact fun password shown =>
      (found password (keeps.found ▸ shown)).imp_right (·.grows grows)
  · exact fun error shown => (fileError error (keeps.fileError ▸ shown)).imp_right (·.grows grows)

/-- A result that some handler has returned, or that returns a unit. -/
theorem Backed.result (backed : s.Backed p) (grows : s.Grows t) {q : Producer σ}
    {result : ResultMessage} (keeps : s.world.producer.Keeps q)
    (producer : t.world.producer = q.handleResult result)
    (known : (q.tracker.find result.workUnitId).isSome = true)
    (origin : (s.Returned fun work outcome => work.workUnitId = result.workUnitId ∧
      outcome = result) ∨ ∃ work, ReturnedAs work result) : t.Backed p := by
  obtain ⟨completed, found, fileError⟩ := backed
  refine ⟨?_, ?_, ?_⟩
  · intro id done
    rw [producer, status_handleResult q result known] at done
    split at done
    next own =>
      have success := ResultMessage.settles_completed.mp (Option.some.inj done)
      rcases origin with ⟨n, link, work, _, present, member, same, rfl⟩ | ⟨work, -, failure, -⟩
      · refine .inr (Returned.grows ⟨n, link, work, _, present, member, ?_, success⟩ grows)
        exact same.trans own.symm
      · rw [failure] at success
        exact absurd success (by decide)
    next => exact (completed id (keeps.completed id done)).imp_right (·.grows grows)
  · intro password shown
    rw [producer] at shown
    rcases found_handleResult q result shown with before | ⟨success, carried⟩
    · exact (found password (keeps.found ▸ before)).imp_right (·.grows grows)
    · rcases origin with ⟨n, link, work, _, present, member, -, rfl⟩ | ⟨work, -, -, none_, -⟩
      · exact .inr (Returned.grows ⟨n, link, work, _, present, member, success, carried⟩ grows)
      · rw [none_] at carried
        cases carried
  · intro error shown
    rw [producer] at shown
    rcases fileError_handleResult q result shown with before | ⟨failure, carried⟩
    · exact (fileError error (keeps.fileError ▸ before)).imp_right (·.grows grows)
    · rcases origin with ⟨n, link, work, _, present, member, -, rfl⟩ | ⟨work, -, -, -, none_⟩
      · exact .inr (Returned.grows ⟨n, link, work, _, present, member, failure, carried⟩ grows)
      · rw [none_] at carried
        cases carried

end Deployment

/-! ## One step -/

/-- What is known of the consumers' side: nlohmann::json reads what it wrote, and the handler
returns what `R` says. -/
def Faithful (fleet : Nat → ConsumerProgram)
    (R : Nat → WorkUnitMessage → ResultMessage → Prop) (s : Deployment σ)
    (event : DeploymentEvent) (_ : Deployment σ) : Prop :=
  match event with
  | .arrive n _ _ => ∀ msg ∈ s.world.sentTo n,
      (fleet n).json.parse (msg.toString (fleet n).json) = .ok msg.toJson
  | .consumer n (.pool (.handlerReturns i outcome)) => ∀ link pool work,
      s.links n = some link → link.consumer.pool = some pool →
        pool.workers[i]? = some (.handling work) → R n work (outcome.result work)
  | _ => True

/-- An id is not the empty text. -/
theorem Producer.unitId_ne_empty (p : Producer σ) (seq : Int) : p.unitId seq ≠ "" := by
  intro empty
  have letters := congrArg String.toList empty
  simp [unitId] at letters

theorem World.entered_of_frame {w after : World σ} {n : Nat} {j : Json} {env : HandlerEnv}
    (step : (producerSystem plugin).step w (.frame n j env) = some after) : after.Entered n := by
  cases world_step step with
  | handshake _ c => exact entered_handshakeFrame ..
  | inLoop _ c => exact entered_loopFrame ..

namespace Link.Tied

variable {w : World σ} {n : Nat} {link : Link} {consumer : Consumer}

/-- A step of the consumer that takes no frame. -/
theorem moved (tied : link.Tied Q w n) {event : ConsumerEvent} (noFrame : event.isFrame = false)
    (returns : ∀ pool i outcome work, event = .pool (.handlerReturns i outcome) →
      link.consumer.pool = some pool → pool.workers[i]? = some (.handling work) →
        Q work (outcome.result work))
    (missing : (fleet n).config.hasHandler = false →
      ∀ work : WorkUnitMessage, Q work (work.failure "no handler registered"))
    (step : (consumerSystem (fleet n).config).step link.consumer event = some consumer) :
    Tied Q w n { link with consumer := consumer } := by
  obtain ⟨results, -, working⟩ := Consumer.results_step tied.reports step
  refine ⟨tied.entered, tied.taken, tied.delivered.trans results.length_le,
    Consumer.reports_move tied.reports ?_ returns missing step, ?_, ?_⟩
  · intro bytes fs server frame
    rw [frame] at noFrame
    cases noFrame
  · intro none_
    obtain ⟨more, same⟩ := results
    dsimp only
    rw [← same, List.take_append_of_le_length tied.delivered]
    exact tied.settled (working none_)
  · obtain ⟨more, same⟩ := results
    dsimp only
    rw [← same, List.take_append_of_le_length tied.delivered]
    exact tied.shown

/-- The consumer takes the next unit. -/
theorem arrived (tied : link.Tied Q w n) (issued : w.Issued plugin) {msg : WorkUnitMessage}
    {fs : FileSystem} {server : FileServer}
    (filled : ∀ job, plugin.Offers job → job.isEmpty = false)
    (next_ : (w.sentTo n)[link.taken]? = some msg)
    (legible : (fleet n).json.parse (msg.toString (fleet n).json) = .ok msg.toJson)
    (step : (consumerSystem (fleet n).config).step link.consumer
      (.frame (Path.ofString (msg.toString (fleet n).json)) fs server) = some consumer) :
    Tied Q w n { link with consumer := consumer, taken := link.taken + 1 } := by
  obtain ⟨results, -, working⟩ := Consumer.results_step tied.reports step
  have grown : (w.sentTo n).take (link.taken + 1) = (w.sentTo n).take link.taken ++ [msg] := by
    rw [List.take_add_one, next_]
    rfl
  obtain ⟨here, -⟩ := List.getElem?_eq_some_iff.mp next_
  have unit := World.mem_sentTo.mp (List.mem_of_getElem? next_)
  have valid : ¬ (msg.workUnitId = "" ∨ msg.job.isEmpty = true) := by
    intro wrong
    rcases wrong with noId | noJob
    · obtain ⟨m, -, same⟩ := issued.numbered _ unit
      exact w.producer.unitId_ne_empty m (same.symm.trans noId)
    · rw [filled _ (issued.emitted _ unit)] at noJob
      cases noJob
  have fresh : (((w.sentTo n).take link.taken ++ [msg]).map (·.workUnitId)).Nodup := by
    rw [← grown]
    exact (World.distinct_sentTo issued n).sublist ((List.take_sublist ..).map _)
  have content := @readFrame_message (fleet n).config.receiver msg (fleet n).overTcp legible valid
  refine ⟨tied.entered, here, tied.delivered.trans results.length_le, ?_, ?_, ?_⟩
  · dsimp only
    rw [grown]
    refine Consumer.reports_frame tied.reports ?_ content ⟨rfl, rfl⟩ fresh step
    exact valid
  · intro none_
    obtain ⟨more, same⟩ := results
    dsimp only
    rw [← same, List.take_append_of_le_length tied.delivered]
    exact tied.settled (working none_)
  · obtain ⟨more, same⟩ := results
    dsimp only
    rw [← same, List.take_append_of_le_length tied.delivered]
    exact tied.shown

end Link.Tied

namespace Deployment

variable {p : Producer σ} {s t : Deployment σ}

/-- A step of the producer that processes no result. -/
theorem Sound.keeps (sound : s.Sound R plugin p) {event : Event} {world : World σ}
    (noResult : World.NoResult event)
    (step : (producerSystem plugin).step s.world event = some world) :
    Sound R plugin p { s with world := world } := by
  have keeps := World.keeps_step noResult step
  exact ⟨issued_step sound.issued step,
    fun n link present => (sound.tied n link present).keeps_step sound.issued keeps step,
    sound.backed.keeps (.of_links rfl) keeps⟩

/-- A connection changes, and nothing else. -/
theorem Sound.setLink (sound : s.Sound R plugin p) {n : Nat} {link : Link}
    (tied : link.Tied (R n) s.world n)
    (kept : ∀ old, s.links n = some old →
      ∀ pair ∈ old.consumer.processed, pair ∈ link.consumer.processed) :
    (s.setLink n link).Sound R plugin p := by
  refine ⟨sound.issued, ?_, sound.backed.keeps (.setLink kept) (.refl _)⟩
  intro m other present
  by_cases own : m = n
  · subst own
    cases (links_setLink_self ..).symm.trans present
    exact tied
  · exact sound.tied m other ((links_setLink_of_ne s link own).symm.trans present)

/-- The producer takes a result. -/
theorem Sound.delivered (sound : s.Sound R plugin p) {n : Nat} {link : Link}
    {result : ResultMessage} {world : World σ} (present : s.links n = some link)
    (next_ : link.consumer.results[link.delivered]? = some result)
    (step : (producerSystem plugin).step s.world (.frame n result.toJson .quiet) = some world) :
    Sound R plugin p (Deployment.setLink { s with world := world } n
      { link with delivered := link.delivered + 1 }) := by
  have tied := sound.tied n link present
  obtain ⟨q, keeps, producer⟩ : ∃ q, s.world.producer.Keeps q ∧
      world.producer = q.handleResult result := by
    cases world_step step with
    | handshake _ c _ _ there shaking =>
      obtain ⟨other, same, behind⟩ := tied.entered
      rw [there] at same
      cases same
      exact absurd shaking behind
    | inLoop _ c => exact World.loopFrame_result s.world n c result .quiet
  have member := List.mem_of_getElem? next_
  obtain ⟨msg, sent, same⟩ := tied.sent_of_result member
  have unit := World.mem_sentTo.mp sent
  obtain ⟨m, below, numbered⟩ := sound.issued.numbered _ unit
  have known : (q.tracker.find result.workUnitId).isSome = true := by
    have after := tracked_mono_step step (sound.issued.tracked _ unit)
    dsimp only at after
    rw [producer, ← same, find_handleResult, if_pos rfl, Option.isSome_map] at after
    exact after
  have grows : s.Grows (Deployment.setLink { s with world := world } n
      { link with delivered := link.delivered + 1 }) := by
    refine Grows.setLink (s := { s with world := world }) ?_
    intro old there pair among
    cases there.symm.trans present
    exact among
  refine ⟨issued_step sound.issued step, ?_, sound.backed.result grows keeps producer known ?_⟩
  · intro k other there
    by_cases own : k = n
    · subst own
      cases (links_setLink_self ..).symm.trans there
      exact tied.own_result sound.issued keeps producer next_ known step
    · have before := sound.tied k other ((links_setLink_of_ne _ _ own).symm.trans there)
      refine before.other_result sound.issued keeps producer ?_ known step
      intro earlier delivered equal
      obtain ⟨first, there, id⟩ := before.sent_of_result (List.mem_of_mem_take delivered)
      exact own (World.sentTo_apart sound.issued there sent (by rw [← id, equal, same]))
  · obtain ⟨work, among, -, echo, -⟩ | ⟨work, -, -, returned⟩ :=
      Consumer.origin_of_result tied.reports member
    · exact .inl ⟨n, link, work, result, present, among, echo.symm, rfl⟩
    · exact .inr ⟨work, returned⟩

theorem sound_step {event : DeploymentEvent} (sound : s.Sound R plugin p)
    (filled : ∀ job, plugin.Offers job → job.isEmpty = false)
    (missing : ∀ n, (fleet n).config.hasHandler = false →
      ∀ work : WorkUnitMessage, R n work (work.failure "no handler registered"))
    (faithful : Faithful fleet R s event t)
    (taken : (deploymentSystem plugin fleet).step s event = some t) : t.Sound R plugin p := by
  cases deployment_step taken with
  | connect n env world absent step =>
    have noResult : World.NoResult (.frame n
        (VersionMessage.mk (fleet n).version (fleet n).consumerId).toJson env) := by
      intro other
      exact absurd (show Except.ok (ε := Exception) "version" = .ok "result" from other) (by simp)
    have after := sound.keeps noResult step
    by_cases accepted : world.replied n = some "ok"
    · rw [if_pos accepted]
      refine after.setLink
        ⟨World.entered_of_frame step, Nat.zero_le _, Nat.zero_le _, ?_, ?_, ?_⟩ ?_
      · rw [List.take_zero]
        exact Consumer.reports_new
      · intro _ result member
        rw [List.take_zero] at member
        cases member
      · intro result member
        rw [List.take_zero] at member
        cases member
      · intro old present
        rw [show s.links n = some old from present] at absent
        cases absent
    · rw [if_neg accepted]
      exact after
  | message _ n link j env world present other succeed step =>
    exact sound.keeps (show World.NoResult (.frame n j env) from other) step
  | deliver n link result world present next_ step => exact sound.delivered present next_ step
  | arrive n fs server link msg consumer present next_ step =>
    have tied := sound.tied n link present
    refine sound.setLink (tied.arrived sound.issued filled next_
      (faithful msg (List.mem_of_getElem? next_)) step) ?_
    intro old there
    cases there.symm.trans present
    exact (Consumer.results_step tied.reports step).2.1
  | consumer n event link consumer present noFrame step =>
    have tied := sound.tied n link present
    refine sound.setLink (tied.moved noFrame ?_ (missing n) step) ?_
    · intro pool i outcome work equal there standing
      subst equal
      exact faithful link pool work present there standing
    · intro old there
      cases there.symm.trans present
      exact (Consumer.results_step tied.reports step).2.1
  | producer event world noPeer step =>
    refine sound.keeps ?_ step
    cases event with
    | frame | datagram => cases noPeer
    | _ => trivial

theorem sound_listening (p : Producer σ) : (listening p).Sound R plugin p :=
  ⟨issued_listening p, fun _ link present => absurd (show none = some link from present) (by simp),
    ⟨fun _ done => .inl done, fun _ shown => .inl shown, fun _ shown => .inl shown⟩⟩

end Deployment

/-- A run of the deployment from before the first connection. `missing` is about the result
that the pool makes up when no handler is registered. -/
structure DeploymentRun (plugin : TestPlugin σ) (fleet : Nat → ConsumerProgram)
    (R : Nat → WorkUnitMessage → ResultMessage → Prop) (p : Producer σ)
    (events : List DeploymentEvent) (s : Deployment σ) : Prop where
  filled : ∀ job, plugin.Offers job → job.isEmpty = false
  missing : ∀ n, (fleet n).config.hasHandler = false →
    ∀ work : WorkUnitMessage, R n work (work.failure "no handler registered")
  faithful : (deploymentSystem plugin fleet).Along (Faithful fleet R) (.listening p) events
  replay : (deploymentSystem plugin fleet).run (.listening p) events = some s

theorem DeploymentRun.sound {p : Producer σ} {events : List DeploymentEvent} {s : Deployment σ}
    (run : DeploymentRun plugin fleet R p events s) : s.Sound R plugin p :=
  TransitionSystem.run_invariant (Deployment.Sound R plugin p)
    (fun _ _ _ sound here taken => Deployment.sound_step sound run.filled run.missing here taken)
    (Deployment.sound_listening p) run.faithful run.replay

end PnC.Source
