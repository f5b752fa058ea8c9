import PnC.Library.Ascii
import PnC.Source.DatagramFrame
import PnC.Source.EchoPlugin
import PnC.Source.ProducerSteps

/-!
# Units that no datagram carries

handle_udp_work_request marks a unit as sent before it sends the datagram and hears
nothing of a send that fails: send_frame_udp drops what send_to returned, so the catch
around it never sees an error. Every unit that the plugin gives for a request is Sent
after it, whether its datagram was accepted or not.
-/
namespace PnC.Guarantees.UdpDelivery

open PnC.Library PnC.Source

variable {σ : Type}

/-- What one sendto call returns for a datagram; -1 is a failure. -/
abbrev Sendto := (call : Nat) → (datagram : List UInt8) → Int

/-- The bytes of the unit's JSON text. -/
def payload (text : JsonText) (msg : WorkUnitMessage) : List UInt8 :=
  (msg.toString text).toUTF8.data.toList

/-- The datagram is accepted and recv_frame_udp on it gives the text. -/
def Delivered (sendto : Sendto) (call : Nat) (json : List UInt8) : Prop :=
  sendto call (frame json) ≠ -1 ∧ recvFrameUdp (frame json) = json

def IsSent (p : Producer σ) (id : String) : Prop :=
  ∃ e, p.tracker.find id = some e ∧ e.status = .sent

/-- Each unit generated for the request has its own sendto call and is delivered by it,
or is not Sent after the request. -/
def NoneLeftAsSent (text : JsonText) (plugin : TestPlugin σ) (timestamp : Nat → String)
    (sendto : Sendto) (p : Producer σ) (req : WorkRequestMessage) : Prop :=
  (p.handleUdpWorkRequest plugin timestamp req).generated =
      (p.handleUdpWorkRequest plugin timestamp req).sent.map WorkUnitMessage.workUnitId ∧
    ∀ (i : Nat) (msg : WorkUnitMessage),
      (p.handleUdpWorkRequest plugin timestamp req).sent[i]? = some msg →
        Delivered sendto i (payload text msg) ∨
          ¬ IsSent (p.handleUdpWorkRequest plugin timestamp req).producer msg.workUnitId

/-- The messages of the units that the plugin gives in so many calls, until one of them
gives none. -/
def unitsGiven (plugin : TestPlugin σ) (timestamp : Nat → String) :
    (remaining : Nat) → (i : Nat) → Producer σ → List WorkUnitMessage
  | 0, _, _ => []
  | remaining + 1, i, p =>
    match plugin.nextUnit p.plugin with
    | .unit state job =>
      p.unitMessage (timestamp i) job ::
        unitsGiven plugin timestamp remaining (i + 1)
          { p with plugin := state, nextSeq := p.nextSeq + 1 }
    | _ => []

/-! ## The units of a request -/

/-- Tracker and totals have no say in them. -/
theorem unitsGiven_counted (plugin : TestPlugin σ) (timestamp : Nat → String)
    (remaining i : Nat) (p : Producer σ) (tracker : WorkTracker) (generated dispatched : Int) :
    unitsGiven plugin timestamp remaining i
        { p with tracker := tracker, totalGenerated := generated, totalDispatched := dispatched } =
      unitsGiven plugin timestamp remaining i p := by
  induction remaining generalizing i p with
  | zero => rfl
  | succ remaining ih =>
    unfold unitsGiven
    dsimp only
    split
    next state job call =>
      exact congrArg _ (ih (i + 1) { p with plugin := state, nextSeq := p.nextSeq + 1 })
    next => rfl

/-- Each of them is put on the wire, under the id it was generated with. -/
theorem sent_dispatchLoop (plugin : TestPlugin σ) (timestamp : Nat → String)
    (consumerId : String) (remaining i : Nat) (p : Producer σ) :
    (p.dispatchLoop plugin ⟨timestamp, fun _ => true⟩ consumerId remaining i).sent =
        unitsGiven plugin timestamp remaining i p ∧
      (p.dispatchLoop plugin ⟨timestamp, fun _ => true⟩ consumerId remaining i).generated =
        (unitsGiven plugin timestamp remaining i p).map WorkUnitMessage.workUnitId := by
  induction remaining generalizing i p with
  | zero => exact ⟨rfl, rfl⟩
  | succ remaining ih =>
    unfold Producer.dispatchLoop unitsGiven
    cases call : plugin.nextUnit p.plugin with
    | exhausted | threw | stuck => exact ⟨rfl, rfl⟩
    | unit state job =>
      obtain ⟨sent, generated⟩ :=
        ih (i + 1) (p.recordUnit state (p.unitMessage (timestamp i) job) consumerId)
      have counted : unitsGiven plugin timestamp remaining (i + 1)
          (p.recordUnit state (p.unitMessage (timestamp i) job) consumerId) =
            unitsGiven plugin timestamp remaining (i + 1)
              { p with plugin := state, nextSeq := p.nextSeq + 1 } :=
        unitsGiven_counted plugin timestamp remaining (i + 1)
          { p with plugin := state, nextSeq := p.nextSeq + 1 } _ _ _
      rw [counted] at sent generated
      dsimp only
      rw [if_pos rfl, sent, generated]
      exact ⟨rfl, rfl⟩

theorem sent_recordUnit (p : Producer σ) (state : σ) (timestamp consumerId : String)
    (job : Json) :
    IsSent (p.recordUnit state (p.unitMessage timestamp job) consumerId) (p.unitId p.nextSeq) := by
  refine ⟨WorkTracker.toSent consumerId (Producer.pendingEntry (p.unitMessage timestamp job)),
    ?_, rfl⟩
  rw [find_recordUnit, if_pos rfl]

/-- What is Sent stays Sent. -/
theorem isSent_recordUnit {p : Producer σ} {id : String} (sent : IsSent p id) (state : σ)
    (timestamp consumerId : String) (job : Json) :
    IsSent (p.recordUnit state (p.unitMessage timestamp job) consumerId) id := by
  by_cases new : id = p.unitId p.nextSeq
  · rw [new]
    exact sent_recordUnit ..
  · obtain ⟨e, found, status⟩ := sent
    refine ⟨e, ?_, status⟩
    rw [find_recordUnit, if_neg new]
    exact found

theorem isSent_dispatchLoop (plugin : TestPlugin σ) (env : DispatchEnv) (consumerId : String)
    (remaining i : Nat) {p : Producer σ} {id : String} (sent : IsSent p id) :
    IsSent (p.dispatchLoop plugin env consumerId remaining i).producer id := by
  apply dispatchLoop_preserves plugin env consumerId (IsSent · id)
  · exact fun _ _ sent => sent
  · exact fun _ state timestamp job _ sent => isSent_recordUnit sent state timestamp consumerId job
  · exact sent

/-- Every unit that the loop generates is Sent when it ends. -/
theorem generated_isSent (plugin : TestPlugin σ) (env : DispatchEnv) (consumerId : String)
    (remaining i : Nat) {p : Producer σ} {id : String}
    (member : id ∈ (p.dispatchLoop plugin env consumerId remaining i).generated) :
    IsSent (p.dispatchLoop plugin env consumerId remaining i).producer id := by
  induction remaining generalizing i p with
  | zero => cases member
  | succ remaining ih =>
    unfold Producer.dispatchLoop at member ⊢
    split at member
    next => cases member
    next => cases member
    next => cases member
    next state job call =>
      have recorded := sent_recordUnit p state (env.timestamp i) consumerId job
      dsimp only at member ⊢
      split at member
      next ok =>
        rw [if_pos ok]
        obtain same | later := List.mem_cons.mp member
        · rw [same]
          exact isSent_dispatchLoop plugin env consumerId remaining (i + 1) recorded
        · exact ih (i + 1) later
      next refused =>
        rw [if_neg refused, List.mem_singleton.mp member]
        exact recorded

/-! ## The datagrams -/

/-- Where sendto refuses what is longer than 65507 bytes, what it accepts is received. -/
theorem delivered_of_accepted {sendto : Sendto}
    (limit : ∀ call datagram, 65507 < datagram.length → sendto call datagram = -1)
    {call : Nat} {json : List UInt8} (accepted : sendto call (frame json) ≠ -1) :
    json.length ≤ 65503 ∧ recvFrameUdp (frame json) = json := by
  have short : (frame json).length ≤ 65507 := by
    by_contra longer
    exact accepted (limit call _ (by omega))
  refine ⟨?_, recvFrameUdp_frame (by omega)⟩
  rw [length_frame] at short
  omega

/-- No unit is left as sent without being delivered exactly when the text of every unit
that the plugin gives for the request has at most 65503 bytes and its sendto does not
fail. -/
theorem none_left_as_sent_iff (text : JsonText) (plugin : TestPlugin σ)
    (timestamp : Nat → String) (sendto : Sendto)
    (limit : ∀ call datagram, 65507 < datagram.length → sendto call datagram = -1)
    (p : Producer σ) (req : WorkRequestMessage) :
    NoneLeftAsSent text plugin timestamp sendto p req ↔
      ∀ (i : Nat) (msg : WorkUnitMessage),
        (unitsGiven plugin timestamp req.threadsAvailable.toNat 0 p)[i]? = some msg →
          (payload text msg).length ≤ 65503 ∧ sendto i (frame (payload text msg)) ≠ -1 := by
  have given := sent_dispatchLoop plugin timestamp req.consumerId req.threadsAvailable.toNat 0 p
  have marked : ∀ id ∈ (p.handleUdpWorkRequest plugin timestamp req).generated,
      IsSent (p.handleUdpWorkRequest plugin timestamp req).producer id :=
    fun id member => generated_isSent plugin _ _ _ 0 member
  obtain ⟨sent, generated⟩ := given
  change (p.handleUdpWorkRequest plugin timestamp req).sent = _ at sent
  change (p.handleUdpWorkRequest plugin timestamp req).generated = _ at generated
  unfold NoneLeftAsSent
  rw [sent, generated]
  rw [generated] at marked
  constructor
  · intro kept i msg unit
    have isSent := marked msg.workUnitId (List.mem_map_of_mem (List.mem_of_getElem? unit))
    obtain delivered | unsent := kept.2 i msg unit
    · exact ⟨(delivered_of_accepted limit delivered.1).1, delivered.1⟩
    · exact absurd isSent unsent
  · intro accepted
    refine ⟨rfl, ?_⟩
    intro i msg unit
    have passed := (accepted i msg unit).2
    exact Or.inl ⟨passed, (delivered_of_accepted limit passed).2⟩

/-- A kernel that accepts every datagram of at most 65507 bytes. -/
def upToLimit : Sendto := fun _ datagram =>
  if datagram.length ≤ 65507 then datagram.length else -1

theorem limit_upToLimit (call : Nat) (datagram : List UInt8) (long : 65507 < datagram.length) :
    upToLimit call datagram = -1 := if_neg (Nat.not_le_of_lt long)

/-- The text of its first unit. -/
def firstText (state : EchoState) : String :=
  "\x7b\"job\":\x7b\"hash\":\"" ++
    sha256Bytes (state.advance.payload.map fun c => UInt8.ofNat c.toNat) ++
    "\",\"payload\":\"" ++ String.ofList state.advance.payload ++ "\",\"seq\":" ++
    toString state.advance.seq ++ ",\"task\":\"ECHO\"\x7d,\"msg_type\":\"work_unit\"," ++
    "\"permutation\":\"\",\"producer_id\":\"prod-1\",\"seq\":0,\"source_file\":\"\"," ++
    "\"test_type\":\"ECHO\",\"timestamp\":\"\",\"work_unit_id\":\"prod-1-0\"\x7d"

/-- dump on that one message. -/
def firstJson (state : EchoState) : JsonText :=
  ⟨fun _ => firstText state, fun _ => .error (.runtimeError "parse_error")⟩

/-- A request for one unit. -/
def oneUnit : WorkRequestMessage := ⟨"cons-1", 1, ""⟩

theorem none_left_as_sent_iff_one_unit :
    NoneLeftAsSent (firstJson EchoState.new) createEchoPlugin (fun _ => "") upToLimit
        (echoProducer EchoState.new) oneUnit ↔
      ∀ (i : Nat) (msg : WorkUnitMessage),
        (unitsGiven createEchoPlugin (fun _ => "") 1 0 (echoProducer EchoState.new))[i]? =
            some msg →
          (payload (firstJson EchoState.new) msg).length ≤ 65503 ∧
            upToLimit i (frame (payload (firstJson EchoState.new) msg)) ≠ -1 :=
  none_left_as_sent_iff (firstJson EchoState.new) createEchoPlugin (fun _ => "") upToLimit
    limit_upToLimit (echoProducer EchoState.new) oneUnit

/-- The plugin of a job that asks for payloads of 70000 bytes. -/
def largePayloads : EchoState :=
  .configured (some (.object [("payload_size", .numberInteger 70000)]))

theorem firstText_long : 70000 ≤ (firstText largePayloads).toUTF8.data.toList.length := by
  have characters : largePayloads.advance.payload.length = 70000 := by
    rw [EchoState.payload, List.length_map, List.length_range]
    rfl
  have bytes := length_le_utf8 largePayloads.advance.payload
  unfold firstText
  generalize largePayloads.advance.payload = payload at characters bytes ⊢
  simp only [String.toUTF8_eq_toByteArray, String.toByteArray_append, ByteArray.data_append,
    Array.toList_append, List.length_append] at bytes ⊢
  omega

/-- Its first unit is Sent although no datagram carries it. -/
theorem oversized_unit_left_as_sent :
    ¬ ∀ (text : JsonText) (plugin : TestPlugin EchoState) (timestamp : Nat → String)
      (sendto : Sendto),
      (∀ call datagram, 65507 < datagram.length → sendto call datagram = -1) →
      ∀ (p : Producer EchoState) (req : WorkRequestMessage),
        NoneLeftAsSent text plugin timestamp sendto p req := by
  intro claimed
  have kept := (claimed (firstJson largePayloads) createEchoPlugin (fun _ => "") upToLimit
    limit_upToLimit (echoProducer largePayloads) oneUnit).2 0 _ rfl
  obtain delivered | unsent := kept
  · have short := (delivered_of_accepted limit_upToLimit delivered.1).1
    have long := firstText_long
    exact absurd (long.trans short) (by decide)
  · exact unsent ⟨_, rfl, rfl⟩

end PnC.Guarantees.UdpDelivery
