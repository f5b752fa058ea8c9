import PnC.Source.ConsumerSenders

/-!
# Frames of concurrent senders

The callback mutex keeps the workers apart from each other, not from the other
three threads. The stream decodes to the delivered payloads along every run in
which no send_data call is made while another sender is between the first and the
last byte of a frame; a heartbeat that starts inside a worker's header breaks it.
-/
namespace PnC.Guarantees.SenderInterleaving

open PnC.Library PnC.Source

/-- Repeated recv_frame returns the payloads sent so far, and with no call in
progress nothing is left over. -/
def Decodes (c : ControlStream) : Prop :=
  (tcpFrames.decodeAll c.stream).1 = c.delivered ∧
    ((∀ sender, c.sending sender = none) → (tcpFrames.decodeAll c.stream).2 = [])

def DecodesStep (_ : ControlStream) (_ : SendStep) (after : ControlStream) : Prop := Decodes after

/-- The bytes of a frame are not interrupted, and the payload has a length that
fits the header. -/
def Uninterrupted (c : ControlStream) (step : SendStep) (_ : ControlStream) : Prop :=
  match step with
  | .sendData sender _ => ∀ other t, other ≠ sender → c.sending other = some t → t.written = 0
  | .sendFrame _ json => json.length < 2 ^ 32
  | _ => True

/-- Senders other than `sender` have not begun to write. -/
def Waiting (c : ControlStream) (sender : Sender) : Prop :=
  ∀ other t, other ≠ sender → c.sending other = some t → t.written = 0

/-- The stream is the delivered frames and the begun part of at most one more. -/
structure Framed (c : ControlStream) : Prop where
  delivered : ∀ json ∈ c.delivered, json.length < 2 ^ 32
  sending : ∀ sender t, c.sending sender = some t →
    t.json.length < 2 ^ 32 ∧ t.written < 4 + t.json.length
  stream : (∀ sender t, c.sending sender = some t → t.written = 0) ∧
      c.stream = c.delivered.flatMap frame ∨
    ∃ sender t, c.sending sender = some t ∧ 0 < t.written ∧ Waiting c sender ∧
      c.stream = c.delivered.flatMap frame ++ (frame t.json).take t.written

theorem framed_connected : Framed .connected :=
  ⟨by simp [ControlStream.connected], by simp [ControlStream.connected],
    Or.inl ⟨by simp [ControlStream.connected], rfl⟩⟩

theorem Framed.decodes {c : ControlStream} (framed : Framed c) : Decodes c := by
  rcases framed.stream with ⟨-, whole⟩ | ⟨sender, t, active, -, -, cut⟩
  · have all := tcpFrames.decodeAll_flatMap c.delivered [] framed.delivered
    have nothing : tcpFrames.decodeAll [] = ([], []) := tcpFrames.decodeAll_none rfl
    rw [List.append_nil, nothing, List.append_nil] at all
    have same : tcpFrames.decodeAll c.stream = (c.delivered, []) := by
      rw [whole]
      exact all
    rw [Decodes, same]
    exact ⟨rfl, fun _ => rfl⟩
  · obtain ⟨short, unfinished⟩ := framed.sending sender t active
    have all := tcpFrames.decodeAll_take c.delivered framed.delivered short
      (n := t.written)
      (by rw [show (tcpFrames.encode t.json).length = _ from length_frame t.json]; omega)
    have same : (tcpFrames.decodeAll c.stream).1 = c.delivered := by
      rw [cut]
      exact congrArg Prod.fst all
    refine ⟨same, fun idle => ?_⟩
    rw [idle sender] at active
    cases active

/-- What the stream holds for a sender that may write: the delivered frames and the
part of its own frame already written. -/
theorem Framed.stream_of_waiting {c : ControlStream} (framed : Framed c) {sender : Sender}
    {t : Transmission} (active : c.sending sender = some t) (waiting : Waiting c sender) :
    c.stream = c.delivered.flatMap frame ++ (frame t.json).take t.written := by
  rcases framed.stream with ⟨none_begun, whole⟩ | ⟨other, u, busy, begun, -, cut⟩
  · rw [none_begun sender t active, List.take_zero, List.append_nil, whole]
  · by_cases same : other = sender
    · subst same
      rw [active] at busy
      cases busy
      exact cut
    · have idle := waiting other u same busy
      omega

theorem framed_sendData {c : ControlStream} {sender : Sender} {t : Transmission} {accepted : Nat}
    (framed : Framed c) (active : c.sending sender = some t) (waiting : Waiting c sender)
    (some_bytes : 1 ≤ accepted) (bound : accepted ≤ t.current.length) :
    Framed (c.accept sender t accepted) := by
  obtain ⟨short, unfinished⟩ := framed.sending sender t active
  have room := (Transmission.length_current unfinished).2
  have grown : (c.accept sender t accepted).stream =
      c.delivered.flatMap frame ++ (frame t.json).take (t.written + accepted) := by
    rw [← t.take_current bound, ← List.append_assoc, ← framed.stream_of_waiting active waiting]
    rfl
  -- the senders that are still waiting are the ones of the state before
  have others : Waiting (c.accept sender t accepted) sender := by
    intro other u apart here
    rw [c.sending_accept_other t accepted apart] at here
    exact waiting other u apart here
  have own := c.sending_accept_self sender t accepted
  by_cases done : t.written + accepted = 4 + t.json.length
  · have finished : Transmission.finished { t with written := t.written + accepted } = true :=
      decide_eq_true done
    have more : (c.accept sender t accepted).delivered = c.delivered ++ [t.json] :=
      if_pos finished
    rw [if_pos finished] at own
    constructor
    · rw [more]
      intro json member
      rcases List.mem_append.mp member with earlier | last
      · exact framed.delivered json earlier
      · rw [List.mem_singleton.mp last]
        exact short
    · intro other u here
      by_cases same : other = sender
      · rw [same, own] at here
        cases here
      · rw [c.sending_accept_other t accepted same] at here
        exact framed.sending other u here
    · refine Or.inl ⟨fun other u here => ?_, ?_⟩
      · by_cases same : other = sender
        · rw [same, own] at here
          cases here
        · exact others other u same here
      · rw [grown, more, done, List.take_of_length_le (Nat.le_of_eq (length_frame _))]
        simp
  · have open_ : ¬ Transmission.finished { t with written := t.written + accepted } = true := by
      simpa [Transmission.finished] using done
    have same_delivered : (c.accept sender t accepted).delivered = c.delivered := if_neg open_
    rw [if_neg open_] at own
    constructor
    · rw [same_delivered]
      exact framed.delivered
    · intro other u here
      by_cases same : other = sender
      · rw [same, own] at here
        cases here
        exact ⟨short, by simp only; omega⟩
      · rw [c.sending_accept_other t accepted same] at here
        exact framed.sending other u here
    · refine Or.inr ⟨sender, _, own, by simp only; omega, others, ?_⟩
      rw [same_delivered]
      exact grown

theorem framed_sendFrame {c : ControlStream} {sender : Sender} {json : List UInt8}
    (framed : Framed c) (idle : c.sending sender = none) (short : json.length < 2 ^ 32) :
    Framed { c with sending := Function.update c.sending sender (some ⟨json, 0⟩) } := by
  have starts : ∀ other u, Function.update c.sending sender (some ⟨json, 0⟩) other = some u →
      u = ⟨json, 0⟩ ∨ c.sending other = some u := by
    intro other u here
    by_cases same : other = sender
    · subst same
      simp only [Function.update_self, Option.some.injEq] at here
      exact Or.inl here.symm
    · rw [Function.update_of_ne same] at here
      exact Or.inr here
  refine ⟨framed.delivered, ?_, ?_⟩
  · intro other u here
    rcases starts other u here with rfl | before
    · exact ⟨short, by simp only; omega⟩
    · exact framed.sending other u before
  · rcases framed.stream with ⟨none_begun, whole⟩ | ⟨busy, t, active, begun, waiting, cut⟩
    · refine Or.inl ⟨fun other u here => ?_, whole⟩
      rcases starts other u here with rfl | before
      · rfl
      · exact none_begun other u before
    · have different : busy ≠ sender := by
        intro same
        rw [same, idle] at active
        cases active
      refine Or.inr ⟨busy, t, ?_, begun, ?_, cut⟩
      · simp only [Function.update_of_ne different, active]
      · intro other u apart here
        rcases starts other u here with rfl | before
        · rfl
        · exact waiting other u apart before

theorem framed_step {c after : ControlStream} {step : SendStep} (framed : Framed c)
    (guard : Uninterrupted c step after) (taken : senderSystem.step c step = some after) :
    Framed after := by
  cases step with
  | lockCallback worker =>
    simp only [senderSystem] at taken
    split at taken
    next =>
      cases taken
      exact ⟨framed.delivered, framed.sending, framed.stream⟩
    next => cases taken
  | unlockCallback worker =>
    simp only [senderSystem] at taken
    split at taken
    next =>
      cases taken
      exact ⟨framed.delivered, framed.sending, framed.stream⟩
    next => cases taken
  | sendFrame sender json =>
    simp only [senderSystem] at taken
    split at taken
    next starts =>
      cases taken
      exact framed_sendFrame framed starts.1 guard
    next => cases taken
  | sendData sender accepted =>
    simp only [senderSystem] at taken
    split at taken
    next => cases taken
    next t active =>
      split at taken
      next call =>
        cases taken
        exact framed_sendData framed active guard call.1 call.2
      next => cases taken

/-! ## The workers alone -/

/-- The step is a worker's, and its payload has a length that fits the header. -/
def byWorker : SendStep → Bool
  | .lockCallback _ | .unlockCallback _ => true
  | .sendFrame (.worker _) json => json.length < 2 ^ 32
  | .sendData (.worker _) _ => true
  | _ => false

/-- Only the worker that holds the callback mutex is sending. -/
def Exclusive (c : ControlStream) : Prop :=
  ∀ sender t, c.sending sender = some t →
    ∃ index, sender = .worker index ∧ c.callbackMutex = some index

theorem exclusive_step {c after : ControlStream} {step : SendStep} (exclusive : Exclusive c)
    (worker : byWorker step) (taken : senderSystem.step c step = some after) : Exclusive after := by
  cases step with
  | lockCallback index =>
    simp only [senderSystem] at taken
    split at taken
    next free =>
      cases taken
      intro sender t active
      obtain ⟨owner, -, held⟩ := exclusive sender t active
      rw [free] at held
      cases held
    next => cases taken
  | unlockCallback index =>
    simp only [senderSystem] at taken
    split at taken
    next releases =>
      cases taken
      intro sender t active
      obtain ⟨owner, rfl, held⟩ := exclusive sender t active
      rw [releases.1] at held
      cases held
      rw [releases.2] at active
      cases active
    next => cases taken
  | sendFrame sender json =>
    simp only [senderSystem] at taken
    split at taken
    next starts =>
      cases taken
      obtain ⟨index, rfl⟩ : ∃ index, sender = .worker index := by
        cases sender with
        | worker index => exact ⟨index, rfl⟩
        | heartbeat => cases worker
        | mainThread => cases worker
        | receiver => cases worker
      have held : c.callbackMutex = some index := of_decide_eq_true starts.2
      intro other t active
      by_cases same : other = .worker index
      · exact ⟨index, same, held⟩
      · simp only [Function.update_of_ne same] at active
        exact exclusive other t active
    next => cases taken
  | sendData sender accepted =>
    simp only [senderSystem] at taken
    split at taken
    next => cases taken
    next t active =>
      split at taken
      next =>
        cases taken
        intro other u here
        by_cases same : other = sender
        · rw [same]
          exact exclusive sender t active
        · rw [c.sending_accept_other t accepted same] at here
          exact exclusive other u here
      next => cases taken

/-- The callback mutex does keep the workers' frames apart. -/
theorem workers_uninterrupted {steps : List SendStep} (workers : ∀ step ∈ steps, byWorker step) :
    senderSystem.Along Uninterrupted .connected steps := by
  refine TransitionSystem.along_of_invariant Exclusive
    (fun _ _ _ exclusive worker taken => exclusive_step exclusive worker taken) ?_
    (fun _ _ active => by cases active) (TransitionSystem.along_of_mem workers)
  intro c step after exclusive worker taken
  cases step with
  | lockCallback index => trivial
  | unlockCallback index => trivial
  | sendFrame sender json =>
    cases sender with
    | worker index =>
      show json.length < 2 ^ 32
      exact of_decide_eq_true worker
    | heartbeat => cases worker
    | mainThread => cases worker
    | receiver => cases worker
  | sendData sender accepted =>
    simp only [senderSystem] at taken
    split at taken
    next => cases taken
    next t active =>
      intro other u apart here
      obtain ⟨first, rfl, held⟩ := exclusive sender t active
      obtain ⟨second, rfl, also⟩ := exclusive other u here
      rw [held] at also
      cases also
      exact absurd rfl apart

/-! ## All senders -/

/-- In every run whose send_data calls are made while no other frame is open, the
stream decodes after every step. -/
theorem frames_never_mix (steps : List SendStep)
    (guarded : senderSystem.Along Uninterrupted .connected steps) :
    senderSystem.Along DecodesStep .connected steps :=
  TransitionSystem.along_of_invariant Framed
    (fun _ _ _ framed guard taken => framed_step framed guard taken)
    (fun _ _ _ framed guard taken => (framed_step framed guard taken).decodes)
    framed_connected guarded

/-- The results of two workers, the second waiting for the mutex. -/
def workersInTurn : List SendStep :=
  [.lockCallback 0, .sendFrame (.worker 0) [0x61], .sendData (.worker 0) 3,
    .sendData (.worker 0) 1, .sendData (.worker 0) 1, .unlockCallback 0,
    .lockCallback 1, .sendFrame (.worker 1) [], .sendData (.worker 1) 4, .unlockCallback 1]

theorem frames_never_mix_workers :
    (senderSystem.run .connected workersInTurn).map (·.delivered) = some [[0x61], []] ∧
      senderSystem.Along DecodesStep .connected workersInTurn :=
  ⟨by decide +kernel, frames_never_mix workersInTurn (workers_uninterrupted (by decide +kernel))⟩

/-- A heartbeat's header inside the header of a worker's result. -/
def headersCross : List SendStep :=
  [.lockCallback 0, .sendFrame (.worker 0) [0x61], .sendFrame .heartbeat [0x62],
    .sendData (.worker 0) 2, .sendData .heartbeat 4, .sendData (.worker 0) 2,
    .sendData (.worker 0) 1, .sendData .heartbeat 1, .unlockCallback 0]

/-- The receiver finds an empty payload that nobody sent. -/
theorem crossed_headers_mix :
    (∃ final, senderSystem.run .connected headersCross = some final ∧
      final.delivered = [[0x61], [0x62]] ∧ recvFrame final.stream = some ([], final.stream.drop 4)) ∧
    ¬ ∀ steps, senderSystem.Along DecodesStep .connected steps := by
  have replay : ∃ final, senderSystem.run .connected headersCross = some final ∧
      final.delivered = [[0x61], [0x62]] ∧ recvFrame final.stream = some ([], final.stream.drop 4) :=
    ⟨_, rfl, by decide +kernel, by decide +kernel⟩
  refine ⟨replay, fun claimed => ?_⟩
  obtain ⟨final, reached, delivered, read⟩ := replay
  have decodes := TransitionSystem.along_last (p := Decodes) (List.cons_ne_nil _ _)
    (claimed headersCross) reached
  have first := decodes.1
  rw [tcpFrames.decodeAll_some read, delivered] at first
  cases first

end PnC.Guarantees.SenderInterleaving
