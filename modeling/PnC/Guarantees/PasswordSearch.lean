import PnC.Source.PwdSearch

/-!
# The distributed password search

A producer with the PWD plugin and any number of consumers with PWD_Handler. A password that
the producer reports is a word of the enumeration that libarchive has accepted on some
consumer. When the generator is exhausted, no send has failed, every connection is quiet and
nothing has been reported, libarchive has refused every word from the start of the search on.
Each message of the producer is one step, so that next_unit is not entered twice at once: two
calls that overlap can both step the generator before either reads its word, and then give one
word twice and skip another.
-/
namespace PnC.Guarantees.PasswordSearch

open PnC.Library PnC.Source

/-- libarchive's answer on the local copy of the consumer behind connection `n`. -/
def verdict (libs : Nat → LibArchive) (n : Nat) (link : Link) (password : String) : ArchiveResult :=
  ArchiveValidator.validate (libs n) link.consumer.receiver.localFilePath password

variable {fleet : Nat → ConsumerProgram} {libs : Nat → LibArchive} {p : Producer PwdState}
  {events : List DeploymentEvent} {s : Deployment PwdState} {reached : Nat}

/-- Where everything that was sent has been tried in vain, the words of all calls of the
plugin have been refused. -/
theorem calls_refused {start : PwdState} (walked : PwdState.Walked start reached p.plugin)
    (nonempty : 0 < start.generator.characters.length)
    (run : DeploymentRun createPwdPlugin fleet (Handled libs) p events s)
    (succeed : ∀ event ∈ events, event.SendsSucceed)
    (quiet : ∀ n link, s.links n = some link → link.Quiet s.world n)
    (unfound : s.world.producer.foundPassword = none)
    (noError : s.world.producer.fileErrorMsg = none) :
    ∃ calls, s.world.producer.plugin = createPwdPlugin.after^[calls] p.plugin ∧
      ∀ i < calls, ∀ word, start.words[reached + i]? = some word →
        ∃ n link, s.links n = some link ∧
          (verdict libs n link (String.ofList word)).error = .wrongPassword := by
  obtain ⟨calls, emitted⟩ : s.world.Complete True createPwdPlugin p.plugin :=
    Deployment.complete_run (fun _ => succeed) run.replay
  refine ⟨calls, emitted.state, ?_⟩
  intro i given word left
  -- the word was given by one of the calls, as its job
  obtain ⟨made, gives, read⟩ := PwdState.word_given walked nonempty left
  have member := emitted.given trivial i given made gives
  -- and sent over some connection, where the unit has a result
  obtain ⟨⟨peer, msg⟩, unit, rfl⟩ := List.mem_map.mp member
  obtain ⟨n, rfl, known⟩ := Deployment.addressed_run run.replay _ unit
  obtain ⟨link, present⟩ := Option.isSome_iff_exists.mp known
  obtain ⟨work, result, -, -, job, local_, ⟨what, duration, g, rfl⟩, -, shown⟩ :=
    run.sound.quiet_result present (quiet n link present) (World.mem_sentTo.mpr unit)
  rw [← job] at read
  have noPassword (success : (PwdHandler.handle (libs n) what duration g work).1.status =
      "success") : (PwdHandler.handle (libs n) what duration g work).1.foundPassword = none := by
    rw [← Option.not_isSome_iff_eq_none]
    intro carried
    have reported := shown.1 success carried
    rw [unfound] at reported
    cases reported
  have noFileError (failure : (PwdHandler.handle (libs n) what duration g work).1.status ≠
      "success") : (PwdHandler.handle (libs n) what duration g work).1.fileError = none := by
    rw [← Option.not_isSome_iff_eq_none]
    intro carried
    have reported := shown.2 failure carried
    rw [noError] at reported
    cases reported
  have refused := PwdHandler.refused_of_handle read noPassword noFileError
  rw [local_] at refused
  exact ⟨n, link, present, refused⟩

/-- Completeness. -/
theorem exhausted_refuses (walked : PwdState.Walked p.plugin reached p.plugin)
    (nonempty : 0 < p.plugin.generator.characters.length)
    (run : DeploymentRun createPwdPlugin fleet (Handled libs) p events s)
    (succeed : ∀ event ∈ events, event.SendsSucceed)
    (quiet : ∀ n link, s.links n = some link → link.Quiet s.world n)
    (exhausted : ∃ t, createPwdPlugin.nextUnit s.world.producer.plugin = .exhausted t)
    (unfound : s.world.producer.foundPassword = none)
    (noError : s.world.producer.fileErrorMsg = none) (i : Nat) (word : List Char)
    (left : p.plugin.words[reached + i]? = some word) :
    ∃ n link, s.links n = some link ∧
      (verdict libs n link (String.ofList word)).error = .wrongPassword := by
  obtain ⟨calls, state, refused⟩ :=
    calls_refused walked nonempty run succeed quiet unfound noError
  obtain ⟨t, call⟩ := exhausted
  have passed := PwdState.passed_of_exhausted walked nonempty (state ▸ call)
  have inside := (List.getElem?_eq_some_iff.mp left).1
  exact refused i (by omega) word left

theorem last_word_is_refused : ∃ n link, (lastFinal "0").links n = some link ∧
    (verdict (fun _ => lonePwdArchive "0") n link
      (String.ofList "9999999999".toList)).error = .wrongPassword :=
  exhausted_refuses last_walked (by decide) last_refused (LoneUnit.sends_lone _) last_quiet
    ⟨_, rfl⟩ rfl rfl 0 _ last_left

end PnC.Guarantees.PasswordSearch
