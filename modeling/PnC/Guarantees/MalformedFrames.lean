import PnC.Source.Receiver

/-!
# Frames that are no work units

A unit that fails the validation is discarded and the loop goes on. Whatever throws, in
the parser, in a typed read or in the first download, is caught outside the loop body,
and the catch leaves the loop: later units are not received. The validation does not look
at the type of the job. The connection works: a receive that times out is not looked at. Where
the first download calls exit(3) the process is gone, and the run has no further state.
-/
namespace PnC.Guarantees.MalformedFrames

open PnC.Library PnC.Source

variable {config : ReceiverConfig}

/-- The units submitted to the pool are those of the well-formed frames. -/
def Complete (s : Reception) : Prop := s.submitted = s.expected.map s.receiver.pointTo

/-- Once the loop has been left, the frame is no new well-formed unit. Before, it is no
unit that is submitted although its job is not an object, and not the first one where the
status of the local files cannot be had. -/
def Harmless (config : ReceiverConfig) (s : Reception) (a : Arrival) : Prop :=
  if s.ended then s.wanted config a = none
  else
    match readFrame config a.frame with
    | .unit work =>
      if s.receiver.fileReady then
        work.job.isObject = true ∨ s.isCompleted a work.workUnitId = true
      else
        match config.files.receiveFirst a.fs config.json a.server work with
        | .started _ => work.job.isObject = true
        | .ended (.threw _) => work.job.isObject = false
        | _ => True
    | _ => True

/-- Before the pool is started, nothing has been submitted. -/
structure Consistent (s : Reception) : Prop where
  complete : Complete s
  early : s.receiver.fileReady = false → s.submitted = []

/-- The validation accepts the well-formed units, and those whose job is no object. -/
theorem wellFormed_eq (noText : ∃ what, config.json.parse "" = .error what)
    (frame : List UInt8) :
    wellFormed config frame =
      match readFrame config frame with
      | .unit work => if work.job.isObject then some work else none
      | _ => none := by
  by_cases empty : config.transport = .udp ∧ frame = []
  · obtain ⟨what, refused⟩ := noText
    have parsed : config.parseFrame frame = .error what := by
      rw [empty.2]
      exact refused
    rw [readFrame, if_pos empty, wellFormed, parsed]
  · unfold wellFormed readFrame
    rw [if_neg empty]
    cases config.parseFrame frame with
    | error what => rfl
    | ok j =>
      dsimp only
      cases j.value "msg_type" "" Json.getString with
      | error what => rfl
      | ok msgType =>
        dsimp only
        cases WorkUnitMessage.fromJson j with
        | error what => by_cases kind : msgType = "work_unit" <;> simp [kind]
        | ok work =>
          dsimp only
          by_cases kind : msgType = "work_unit"
          · rw [if_pos kind]
            by_cases invalid : work.workUnitId = "" ∨ work.job.isEmpty
            · rw [if_pos invalid, if_neg]
              simp only [not_and, ne_eq]
              intro _ present filled
              rcases invalid with missing | nothing
              · exact absurd missing present
              · simp [nothing] at filled
            · rw [if_neg invalid]
              simp only [not_or] at invalid
              simp [kind, invalid]
          · rw [if_neg kind, if_neg (fun holds => kind holds.1)]

theorem readFrame_unit {frame : List UInt8} {work : WorkUnitMessage}
    (content : readFrame config frame = .unit work) :
    ¬ (work.workUnitId = "" ∨ work.job.isEmpty = true) := by
  unfold readFrame at content
  repeat' split at content
  all_goals cases content
  assumption

/-- The receiver keeps its local file once the pool is there. -/
theorem pointTo_count (r : Receiver) (work : WorkUnitMessage) :
    (r.count work).pointTo = r.pointTo := rfl

/-- A step that submits some units and should have submitted others. -/
theorem complete_grown {submitted expected : List WorkUnitMessage}
    (submits expects : List WorkUnitMessage)
    {point : WorkUnitMessage → WorkUnitMessage} (complete : submitted = expected.map point) :
    submitted ++ submits = (expected ++ expects).map point ↔ submits = expects.map point := by
  rw [List.map_append, complete, List.append_right_inj]

theorem step_ended (config : ReceiverConfig) {s : Reception} (ended : s.ended = true)
    (a : Arrival) :
    (receiverSystem config).step s a =
      some { s with expected := s.expected ++ (s.wanted config a).toList } := by
  simp only [receiverSystem]
  rw [if_pos ended]

theorem complete_step_iff (noText : ∃ what, config.json.parse "" = .error what)
    {s t : Reception} {a : Arrival} (kept : Consistent s)
    (taken : (receiverSystem config).step s a = some t) : Complete t ↔ Harmless config s a := by
  have complete := kept.complete
  have accepts := wellFormed_eq noText a.frame
  unfold Harmless
  simp only [receiverSystem] at taken
  split at taken
  next ended =>
    cases taken
    rw [if_pos ended]
    have grown := complete_grown [] (s.wanted config a).toList complete
    rw [List.append_nil] at grown
    refine grown.trans ?_
    cases s.wanted config a <;> simp
  next running =>
    rw [if_neg running]
    cases content : readFrame config a.frame with
    | skipped | discarded | threw =>
      have nothing : s.wanted config a = none := by rw [Reception.wanted, accepts, content]; rfl
      simp only [Receiver.pass, content, nothing] at taken
      cases taken
      refine iff_of_true ?_ trivial
      exact complete.trans (congrArg (List.map _) (List.append_nil _).symm)
    | unit work =>
      have valid := readFrame_unit content
      have wanted : s.wanted config a =
          if work.job.isObject = true ∧ s.isCompleted a work.workUnitId = false then some work
          else none := by
        rw [Reception.wanted, accepts, content]
        by_cases object : work.job.isObject = true
        · cases completed : s.isCompleted a work.workUnitId <;> simp [object, completed]
        · simp [object]
      by_cases ready : s.receiver.fileReady = true
      · simp only [Receiver.pass, content, ready, if_true] at taken ⊢
        by_cases completed : s.isCompleted a work.workUnitId = true
        · rw [if_neg (by simp [completed])] at wanted
          rw [if_pos completed, wanted] at taken
          cases taken
          refine iff_of_true ?_ (.inr completed)
          exact complete.trans (congrArg (List.map _) (List.append_nil _).symm)
        · rw [if_neg completed] at taken
          cases taken
          refine (complete_grown _ _ complete).trans ?_
          rw [wanted, pointTo_count]
          by_cases object : work.job.isObject = true <;> simp [object, completed]
      · have early := kept.early (Bool.eq_false_iff.mpr ready)
        have nothing : s.expected = [] := by
          rw [Complete, early] at complete
          exact List.map_eq_nil_iff.mp complete.symm
        have fresh : s.isCompleted a work.workUnitId = false := by
          simp [Reception.isCompleted, early]
        simp only [Receiver.pass, content, ready, if_false, Bool.false_eq_true] at taken ⊢
        cases files : config.files.receiveFirst a.fs config.json a.server work with
        | discarded =>
          rw [ConsumerFiles.receiveFirst, if_neg valid] at files
          repeat' split at files
          all_goals cases files
        | ended how =>
          simp only [files] at taken ⊢
          cases how with
          | exit code => cases taken
          | threw what =>
            cases taken
            rw [wanted, nothing]
            simp [Complete, early, fresh]
        | started fs =>
          simp only [files] at taken ⊢
          cases taken
          rw [wanted, nothing]
          by_cases object : work.job.isObject = true <;> simp [Complete, early, fresh, object]

/-- A unit is submitted when the pool is there, or with the start of the pool. -/
theorem early_step {s t : Reception} {a : Arrival}
    (early : s.receiver.fileReady = false → s.submitted = [])
    (taken : (receiverSystem config).step s a = some t) :
    t.receiver.fileReady = false → t.submitted = [] := by
  simp only [receiverSystem] at taken
  split at taken
  next => cases taken; exact early
  next =>
    cases passed : s.receiver.pass config a.frame a.fs a.server with
    | mk r reached =>
      have ready := Receiver.pass_fileReady passed
      rw [passed] at taken
      cases reached with
      | continues | breaks =>
        cases taken
        exact fun late => early (ready.symm.trans late)
      | exits code => cases taken
      | first work =>
        cases taken
        exact fun late => by cases ready.2.symm.trans late
      | check work =>
        dsimp only at taken
        split at taken
        all_goals
          cases taken
          exact fun late => by cases ready.2.symm.trans late

/-- On a connection that works, what is submitted after every frame are the units of the
well-formed frames so far, without the duplicates, exactly as long as no new one of them
comes after the loop has been left and no unit is accepted whose job is not an object. -/
theorem submitted_iff_harmless (config : ReceiverConfig)
    (noText : ∃ what, config.json.parse "" = .error what) (arrivals : List Arrival) :
    (receiverSystem config).Along (fun _ _ after => Complete after) .start arrivals ↔
      (receiverSystem config).Along (fun s a _ => Harmless config s a) .start arrivals := by
  apply TransitionSystem.along_iff Consistent
  · exact fun s a t kept taken => complete_step_iff noText kept taken
  · intro s a t kept harmless taken
    exact ⟨(complete_step_iff noText kept taken).mpr harmless, early_step kept.early taken⟩
  · exact ⟨rfl, fun _ => rfl⟩

/-- The text comes in a frame; the pool has completed nothing. -/
def arrives (text : String) : Arrival :=
  ⟨Path.ofString text, sharedFiles, noServer, fun _ => false, ""⟩

theorem frame_arrives (text : String) : (arrives text).frame = Path.ofString text := rfl

theorem readFrame_brace :
    readFrame localReceiver (Path.ofString "\x7b") = .threw (.runtimeError "parse_error") := by
  rw [readFrame, if_neg (by simp [localReceiver]), parseFrame_ofString, parse_other (by decide)]

theorem noText_localReceiver : ∃ what, localReceiver.json.parse "" = .error what :=
  ⟨_, parse_other (by decide)⟩

/-- A unit that is discarded: its id is empty. -/
def namelessText : String :=
  "\x7b\"job\":\x7b\"payload\":\"\"\x7d,\"msg_type\":\"work_unit\"," ++
    "\"permutation\":\"sequential\",\"producer_id\":\"prod-1\",\"seq\":0," ++
    "\"source_file\":\"/data/source.bin\",\"test_type\":\"ECHO\",\"timestamp\":\"\"," ++
    "\"work_unit_id\":\"\"\x7d"

/-- parse on the two units. -/
def namelessJson : JsonText :=
  { unitJson with
    parse text :=
      if text = namelessText then .ok (WorkUnitMessage.named "").toJson else unitJson.parse text }

def namelessReceiver : ReceiverConfig := { localReceiver with json := namelessJson }

theorem parse_namelessReceiver (text : String) :
    namelessReceiver.json.parse text =
      if text = namelessText then .ok (WorkUnitMessage.named "").toJson
      else localReceiver.json.parse text := rfl

theorem noText_namelessReceiver : ∃ what, namelessReceiver.json.parse "" = .error what := by
  refine ⟨.runtimeError "parse_error", ?_⟩
  rw [parse_namelessReceiver, if_neg (by decide)]
  exact parse_other (by decide)

theorem readFrame_nameless :
    readFrame namelessReceiver (Path.ofString namelessText) = .discarded := by
  rw [readFrame, if_neg (by simp [namelessReceiver, localReceiver]), parseFrame_ofString,
    parse_namelessReceiver, if_pos rfl]
  rfl

theorem readFrame_later :
    readFrame namelessReceiver (Path.ofString unitText) = .unit (.named "u-1") := by
  rw [readFrame, if_neg (by simp [namelessReceiver, localReceiver]), parseFrame_ofString,
    parse_namelessReceiver, if_neg (by decide +kernel), parse_localReceiver, if_pos rfl]
  rfl

theorem wanted_nameless :
    Reception.wanted namelessReceiver .start (arrives namelessText) = none := by
  rw [Reception.wanted, frame_arrives, wellFormed_eq noText_namelessReceiver, readFrame_nameless]
  rfl

theorem step_nameless : (receiverSystem namelessReceiver).step .start (arrives namelessText) =
    some { Reception.start with receiver := Receiver.new.discard } := by
  have passed : Reception.start.receiver.pass namelessReceiver (arrives namelessText).frame
      (arrives namelessText).fs (arrives namelessText).server =
        (Receiver.new.discard, .continues) := by
    rw [Receiver.pass, frame_arrives, readFrame_nameless]
    rfl
  simp only [receiverSystem]
  rw [if_neg (by simp [Reception.start]), passed, wanted_nameless]
  rfl

/-- The unit behind the discarded frame is submitted. -/
theorem submitted_iff_harmless_later :
    (receiverSystem namelessReceiver).Along (fun _ _ after => Complete after) .start
      [arrives namelessText, arrives unitText] := by
  apply (submitted_iff_harmless namelessReceiver noText_namelessReceiver
    [arrives namelessText, arrives unitText]).mpr
  intro after discarded
  cases step_nameless.symm.trans discarded
  refine ⟨?_, fun later _ => ⟨?_, trivial⟩⟩
  · show Harmless namelessReceiver .start (arrives namelessText)
    rw [Harmless, if_neg (by simp [Reception.start]), frame_arrives, readFrame_nameless]
    trivial
  · show Harmless namelessReceiver { Reception.start with receiver := Receiver.new.discard }
      (arrives unitText)
    rw [Harmless, if_neg (by simp [Reception.start]), frame_arrives, readFrame_later]
    rfl

/-- After a text that is no JSON, a well-formed unit is not submitted. -/
theorem malformed_frame_ends_loop :
    ¬ ∀ (config : ReceiverConfig) (arrivals : List Arrival),
      (∃ what, config.json.parse "" = .error what) →
        (receiverSystem config).Along (fun _ _ after => Complete after) .start arrivals := by
  intro claimed
  have along := claimed localReceiver [arrives "\x7b", arrives unitText] noText_localReceiver
  have nothing : Reception.wanted localReceiver .start (arrives "\x7b") = none := by
    rw [Reception.wanted, arrives, wellFormed_eq noText_localReceiver, readFrame_brace]
    rfl
  have out : Reception.start.receiver.pass localReceiver (arrives "\x7b").frame
      (arrives "\x7b").fs (arrives "\x7b").server =
        (.new, .breaks (.runtimeError "parse_error")) := by
    rw [Receiver.pass, arrives, readFrame_brace]
    rfl
  have left : (receiverSystem localReceiver).step .start (arrives "\x7b") =
      some { Reception.start with ended := true } := by
    simp only [receiverSystem]
    rw [if_neg (by simp [Reception.start]), out, nothing]
    rfl
  obtain ⟨kept, later⟩ := along _ left
  have unread := step_ended localReceiver (s := { Reception.start with ended := true }) rfl
    (arrives unitText)
  have lost := (later _ unread).1
  have harmless := (complete_step_iff noText_localReceiver ⟨kept, fun _ => rfl⟩ unread).mp lost
  rw [Harmless, if_pos rfl, Reception.wanted, frame_arrives, wellFormed_eq noText_localReceiver,
    readFrame_unitText] at harmless
  simp [Reception.isCompleted, Reception.start, WorkUnitMessage.named, Json.isObject] at harmless

end PnC.Guarantees.MalformedFrames
