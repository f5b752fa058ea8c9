import PnC.Source.EchoPlugin
import PnC.Source.ProducerSteps

/-!
# Version gate

The producer compares versions in the first frame of a connection and in the
version branch of the UDP handler, and never looks at the outcome again. A unit
goes to a peer without a handshake exactly when the connection did not open with a
version message, or when the UDP peer never announced PC_VERSION.
-/
namespace PnC.Guarantees.VersionGate

open PnC.Library PnC.Source

variable {σ : Type}

/-- A version message that handle_client and handle_udp_message answer with "ok". -/
def MatchingVersion (j : Json) : Prop :=
  msgType j = .ok "version" ∧
    ∃ ver, VersionMessage.fromJson j = .ok ver ∧ ver.version = pcVersion

/-- The peer has sent a version message with PC_VERSION and was then answered "ok". -/
def Greeted (traffic : List Traffic) (peer : Endpoint) : Prop :=
  ∃ j, MatchingVersion j ∧
    List.Sublist [Traffic.answered peer "ok", Traffic.received peer j] traffic

/-- Every work unit in the traffic was sent to a peer greeted before. -/
def Gated : List Traffic → Prop
  | [] => True
  | .workUnit peer _ :: earlier => Greeted earlier peer ∧ Gated earlier
  | _ :: earlier => Gated earlier

theorem Greeted.mono {earlier later : List Traffic} {peer : Endpoint}
    (greeted : Greeted earlier peer) (extends' : List.Sublist earlier later) :
    Greeted later peer := by
  obtain ⟨j, isVersion, found⟩ := greeted
  exact ⟨j, isVersion, found.trans extends'⟩

/-- Only an answer greets. -/
theorem greeted_cons_iff (item : Traffic)
    (silent : ∀ peer status, item ≠ .answered peer status) (traffic : List Traffic)
    (peer : Endpoint) :
    Greeted (item :: traffic) peer ↔ Greeted traffic peer := by
  constructor
  · rintro ⟨j, isVersion, found⟩
    refine ⟨j, isVersion, ?_⟩
    rcases List.sublist_cons_iff.mp found with old | ⟨rest, new, -⟩
    · exact old
    · exact absurd (List.cons.inj new).1.symm (silent peer "ok")
  · exact fun greeted => greeted.mono (List.sublist_cons_self item traffic)

/-- What arrives greets nobody. -/
theorem greeted_received (peer : Endpoint) (j : Json) (traffic : List Traffic)
    (queried : Endpoint) :
    Greeted (.received peer j :: traffic) queried ↔ Greeted traffic queried :=
  greeted_cons_iff (.received peer j) (fun _ _ => nofun) traffic queried

/-- What the gate promises of each unit on its own. -/
theorem Gated.greeted {traffic : List Traffic} (gated : Gated traffic) {peer : Endpoint}
    {msg : WorkUnitMessage} (sent : Traffic.workUnit peer msg ∈ traffic) :
    Greeted traffic peer := by
  induction traffic with
  | nil => cases sent
  | cons item earlier ih =>
    have later := List.sublist_cons_self item earlier
    cases sent with
    | head => exact gated.1.mono later
    | tail _ member =>
      cases item with
      | received | answered => exact (ih gated member).mono later
      | workUnit => exact (ih gated.2 member).mono later

/-- The traffic after units have gone out to one peer. -/
def withUnits (peer : Endpoint) (msgs : List WorkUnitMessage) (earlier : List Traffic) :
    List Traffic :=
  (msgs.map (Traffic.workUnit peer)).reverse ++ earlier

theorem withUnits_nil (peer : Endpoint) (earlier : List Traffic) :
    withUnits peer [] earlier = earlier := rfl

theorem withUnits_cons (peer : Endpoint) (msg : WorkUnitMessage) (rest : List WorkUnitMessage)
    (earlier : List Traffic) :
    withUnits peer (msg :: rest) earlier = withUnits peer rest (.workUnit peer msg :: earlier) := by
  simp [withUnits]

/-- Units that follow gated traffic are behind the gate iff their peer was greeted. -/
theorem gated_withUnits (peer : Endpoint) (msgs : List WorkUnitMessage) (earlier : List Traffic) :
    Gated (withUnits peer msgs earlier) ↔
      Gated earlier ∧ (msgs ≠ [] → Greeted earlier peer) := by
  induction msgs generalizing earlier with
  | nil => simp [withUnits_nil]
  | cons msg rest ih =>
    rw [withUnits_cons, ih]
    have same := greeted_cons_iff (.workUnit peer msg) (fun _ _ => nofun) earlier peer
    constructor
    · rintro ⟨⟨greeted, gated⟩, -⟩
      exact ⟨gated, fun _ => greeted⟩
    · rintro ⟨gated, greeted⟩
      have before := greeted (List.cons_ne_nil _ _)
      exact ⟨⟨before, gated⟩, fun _ => same.mpr before⟩

/-! ## What a message does -/

/-- The message makes the producer put a work unit on the wire. -/
def SendsUnit (plugin : TestPlugin σ) (p : Producer σ) (sendOk : Nat → Bool) (j : Json) : Prop :=
  msgType j = .ok "work_request" ∧
    ∃ req, WorkRequestMessage.fromJson j = .ok req ∧ 0 < req.threadsAvailable ∧
      (∃ state job, plugin.nextUnit p.plugin = .unit state job) ∧ sendOk 0 = true

theorem sent_dispatchLoop (plugin : TestPlugin σ) (env : DispatchEnv) (consumerId : String)
    (remaining i : Nat) (p : Producer σ) :
    (p.dispatchLoop plugin env consumerId remaining i).sent ≠ [] ↔
      0 < remaining ∧ (∃ state job, plugin.nextUnit p.plugin = .unit state job) ∧
        env.sendOk i = true := by
  cases remaining with
  | zero => simp [Producer.dispatchLoop]
  | succ remaining =>
    unfold Producer.dispatchLoop
    split
    next call => simp [call]
    next call => simp [call]
    next call => simp [call]
    next state job call =>
      split
      next ok => simp [call, ok]
      next refused => simp [refused]

/-- The first frame of the connection was a version message, of whatever version. -/
def OpenedWithVersion (c : Connection) : Prop :=
  ∃ j, c.first = some j ∧ msgType j = .ok "version"

/-- The connection is in the loop of handle_client. -/
def InLoop (c : Connection) : Prop := c.stage = .atLoop ∨ c.stage = .receiving

/-- The first frame of a connection: it is answered "ok" when it is a matching version
message and the reply goes out, and otherwise a version message ends the connection. -/
theorem handshakeFrame_effect (w : World σ) (n : Nat) (c : Connection) (j : Json)
    (env : HandlerEnv) :
    ∃ opened, (w.handshakeFrame n c j env).connections =
        Function.update w.connections n (some opened) ∧
      opened.first = some j ∧ opened.stage ≠ .handshake ∧
      ((MatchingVersion j ∧ (w.handshakeFrame n c j env).traffic =
          .answered (.tcp n) "ok" :: .received (.tcp n) j :: w.traffic) ∨
        ((w.handshakeFrame n c j env).traffic = .received (.tcp n) j :: w.traffic ∨
          (w.handshakeFrame n c j env).traffic =
            .answered (.tcp n) "mismatch" :: .received (.tcp n) j :: w.traffic) ∧
        (InLoop opened → msgType j ≠ .ok "version")) := by
  unfold World.handshakeFrame
  split
  next thrown =>
    exact ⟨_, rfl, rfl, nofun, Or.inr ⟨Or.inl rfl, by simp [InLoop]⟩⟩
  next isVersion =>
    split
    next => exact ⟨_, rfl, rfl, nofun, Or.inr ⟨Or.inl rfl, by simp [InLoop]⟩⟩
    next ver read =>
      split
      next =>
        split
        next => exact ⟨_, rfl, rfl, nofun, Or.inr ⟨Or.inr rfl, by simp [InLoop]⟩⟩
        next matching =>
          exact ⟨_, rfl, rfl, nofun, Or.inl ⟨⟨isVersion, ver, read, not_not.mp matching⟩, rfl⟩⟩
      next => exact ⟨_, rfl, rfl, nofun, Or.inr ⟨Or.inl rfl, by simp [InLoop]⟩⟩
  next kind other isKind =>
    refine ⟨_, rfl, rfl, nofun, Or.inr ⟨Or.inl rfl, fun _ isVersion => ?_⟩⟩
    exact other (Except.ok.inj (isKind.symm.trans isVersion))

theorem stageAfter_ne_handshake (ended : DispatchEnd) :
    World.stageAfter ended ≠ .handshake := by
  cases ended <;> nofun

/-- A frame of the loop has been processed: it went unanswered, and units were sent to
its connection exactly when `sends` holds. -/
def Processed (w after : World σ) (n : Nat) (c : Connection) (earlier : List Traffic)
    (sends : Prop) : Prop :=
  ∃ msgs served, after.traffic = withUnits (.tcp n) msgs earlier ∧ (msgs ≠ [] ↔ sends) ∧
    after.connections = Function.update w.connections n (some served) ∧
    served.first = c.first ∧ served.stage ≠ .handshake

theorem Processed.quiet {w after : World σ} {n : Nat} {c served : Connection}
    {earlier : List Traffic} {sends : Prop} (silent : ¬ sends) (traffic : after.traffic = earlier)
    (connections : after.connections = Function.update w.connections n (some served))
    (first : served.first = c.first) (stage : served.stage ≠ .handshake) :
    Processed w after n c earlier sends :=
  ⟨[], served, traffic, by simp [silent], connections, first, stage⟩

theorem requestFrame_effect (plugin : TestPlugin σ) (w : World σ) (n : Nat) (c : Connection)
    (req : WorkRequestMessage) (env : HandlerEnv) :
    Processed w (w.requestFrame plugin n c req env) n c w.traffic
      (0 < req.threadsAvailable ∧
        (∃ state job, plugin.nextUnit w.producer.plugin = .unit state job) ∧
          env.sendOk 0 = true) := by
  have kept : (if c.consumerId = "" then w.producer.registerConsumer req.consumerId n w.clock
      else w.producer).plugin = w.producer.plugin := by
    split
    · rw [Producer.registerConsumer_eq]
    · rfl
  refine ⟨_, _, rfl, ?_, rfl, rfl, stageAfter_ne_handshake _⟩
  rw [Producer.handleWorkRequest, sent_dispatchLoop, Int.lt_toNat]
  simp only [Producer.updateConsumerActivity, kept, Int.natCast_zero]

theorem loopFrame_effect (plugin : TestPlugin σ) (w : World σ) (n : Nat) (c : Connection)
    (j : Json) (env : HandlerEnv) :
    Processed w (w.loopFrame plugin n c j env) n c (.received (.tcp n) j :: w.traffic)
      (SendsUnit plugin w.producer env.sendOk j) := by
  unfold World.loopFrame
  split
  next thrown => exact .quiet (by simp [SendsUnit, thrown]) rfl rfl rfl nofun
  next isRequest =>
    split
    next unread => exact .quiet (by simp [SendsUnit, unread]) rfl rfl rfl nofun
    next req read =>
      obtain ⟨msgs, served, traffic, sends, rest⟩ :=
        requestFrame_effect plugin (w.receive (.tcp n) j) n c req env
      refine ⟨msgs, served, traffic, sends.trans ?_, rest⟩
      simp [SendsUnit, isRequest, read, World.receive]
  next isResult =>
    have silent : ¬ SendsUnit plugin w.producer env.sendOk j := by simp [SendsUnit, isResult]
    split
    next => exact .quiet silent rfl rfl rfl nofun
    next => exact .quiet silent rfl rfl rfl nofun
  next isHeartbeat =>
    have silent : ¬ SendsUnit plugin w.producer env.sendOk j := by simp [SendsUnit, isHeartbeat]
    split
    next => exact .quiet silent rfl rfl rfl nofun
    next => exact .quiet silent rfl rfl rfl nofun
  next kind notRequest _ _ isKind =>
    refine .quiet ?_ rfl rfl rfl nofun
    rintro ⟨isRequest, -⟩
    exact notRequest (Except.ok.inj (isKind.symm.trans isRequest))

theorem udp_effect (plugin : TestPlugin σ) (w : World σ) (address : String) (port : Nat)
    (j : Json) (env : HandlerEnv) :
    (w.handleUdpMessage plugin address port j env).connections = w.connections ∧
      ((MatchingVersion j ∧ (w.handleUdpMessage plugin address port j env).traffic =
          .answered (.udp address port) "ok" :: .received (.udp address port) j :: w.traffic) ∨
        ¬ MatchingVersion j ∧
          ((w.handleUdpMessage plugin address port j env).traffic =
              .answered (.udp address port) "mismatch" :: .received (.udp address port) j ::
                w.traffic ∧ ¬ SendsUnit plugin w.producer (fun _ => true) j ∨
            ∃ msgs, (w.handleUdpMessage plugin address port j env).traffic =
                withUnits (.udp address port) msgs (.received (.udp address port) j :: w.traffic) ∧
              (msgs ≠ [] ↔ SendsUnit plugin w.producer (fun _ => true) j))) := by
  unfold World.handleUdpMessage
  split
  next thrown =>
    refine ⟨rfl, Or.inr ⟨by simp [MatchingVersion, thrown], Or.inr ⟨[], rfl, ?_⟩⟩⟩
    simp [SendsUnit, thrown]
  next isVersion =>
    have silent : ¬ SendsUnit plugin w.producer (fun _ => true) j := by simp [SendsUnit, isVersion]
    split
    next unread =>
      refine ⟨rfl, Or.inr ⟨by simp [MatchingVersion, unread], Or.inr ⟨[], rfl, ?_⟩⟩⟩
      simp [silent]
    next ver read =>
      split
      next other =>
        exact ⟨rfl, Or.inr ⟨by simp [MatchingVersion, read, other], Or.inl ⟨rfl, silent⟩⟩⟩
      next same => exact ⟨rfl, Or.inl ⟨⟨isVersion, ver, read, not_not.mp same⟩, rfl⟩⟩
  next isRequest =>
    have unversioned : ¬ MatchingVersion j := by simp [MatchingVersion, isRequest]
    split
    next unread =>
      exact ⟨rfl, Or.inr ⟨unversioned, Or.inr ⟨[], rfl, by simp [SendsUnit, unread]⟩⟩⟩
    next req read =>
      refine ⟨rfl, Or.inr ⟨unversioned, Or.inr ⟨_, rfl, ?_⟩⟩⟩
      rw [Producer.handleUdpWorkRequest, Producer.handleWorkRequest, sent_dispatchLoop,
        Int.lt_toNat]
      simp [SendsUnit, isRequest, read, Producer.updateConsumerActivity, World.receive]
  next isResult =>
    have unversioned : ¬ MatchingVersion j := by simp [MatchingVersion, isResult]
    have silent : ¬ SendsUnit plugin w.producer (fun _ => true) j := by simp [SendsUnit, isResult]
    split <;> exact ⟨rfl, Or.inr ⟨unversioned, Or.inr ⟨[], rfl, by simp [silent]⟩⟩⟩
  next isHeartbeat =>
    have unversioned : ¬ MatchingVersion j := by simp [MatchingVersion, isHeartbeat]
    have silent : ¬ SendsUnit plugin w.producer (fun _ => true) j := by
      simp [SendsUnit, isHeartbeat]
    split <;> exact ⟨rfl, Or.inr ⟨unversioned, Or.inr ⟨[], rfl, by simp [silent]⟩⟩⟩
  next kind notVersion notRequest _ _ isKind =>
    refine ⟨rfl, Or.inr ⟨?_, Or.inr ⟨[], rfl, ?_⟩⟩⟩
    · rintro ⟨isVersion, -⟩
      exact notVersion (Except.ok.inj (isKind.symm.trans isVersion))
    · refine iff_of_false (fun some => some rfl) ?_
      rintro ⟨isRequest, -⟩
      exact notRequest (Except.ok.inj (isKind.symm.trans isRequest))

/-! ## Connections over a step -/

/-- How a connection may come out of a step that does not read its first frame. -/
inductive Continues : Option Connection → Option Connection → Prop where
  | absent : Continues none none
  | accepted {c : Connection} (stage : c.stage = .handshake) (first : c.first = none) :
      Continues none (some c)
  | kept {c later : Connection} (first : later.first = c.first)
      (stage : later.stage = .handshake → c.stage = .handshake)
      (inLoop : InLoop later → InLoop c) : Continues (some c) (some later)

theorem Continues.same (c : Option Connection) : Continues c c := by
  cases c with
  | none => exact .absent
  | some c => exact .kept rfl id id

theorem continues_update {connections : Nat → Option Connection} {n : Nat}
    {later : Connection} (here : Continues (connections n) (some later)) (m : Nat) :
    Continues (connections m) (Function.update connections n (some later) m) := by
  by_cases same : m = n
  · rw [same, Function.update_self]
    exact here
  · rw [Function.update_of_ne same]
    exact .same _

theorem continues_evict {w after : World σ} {consumerId : String}
    (evicted : w.evict consumerId = some after) :
    after.traffic = w.traffic ∧ ∀ n, Continues (w.connections n) (after.connections n) := by
  obtain rfl | ⟨n, c, present, rfl⟩ := World.evict_cases evicted
  · exact ⟨rfl, fun _ => .same _⟩
  · have kept : Continues (w.connections n) (some { c with isOpen := false }) := by
      rw [present]
      exact .kept rfl id id
    exact ⟨rfl, continues_update kept⟩

/-- Steps that process no message leave the traffic and the first frames alone. -/
theorem quiet_step {plugin : TestPlugin σ} {w after : World σ} {event : Event}
    (taken : (producerSystem plugin).step w event = some after)
    (noFrame : ∀ n j env, event ≠ .frame n j env)
    (noDatagram : ∀ address port j env, event ≠ .datagram address port j env) :
    after.traffic = w.traffic ∧ ∀ n, Continues (w.connections n) (after.connections n) := by
  cases world_step taken with
  | accept n absent => exact ⟨rfl, continues_update (by rw [absent]; exact .accepted rfl rfl)⟩
  | handshake n c j env => exact absurd rfl (noFrame n j env)
  | inLoop n c j env => exact absurd rfl (noFrame n j env)
  | broken n c present | reclaim n c present | unregister n c present =>
    refine ⟨rfl, continues_update ?_⟩
    rw [present]
    exact .kept rfl (fun stage => by cases stage) (by simp [InLoop])
  | loopTest n c present atLoop =>
    refine ⟨rfl, continues_update ?_⟩
    rw [present]
    refine .kept rfl (fun stage => ?_) fun _ => Or.inl atLoop
    cases running : (w.producer.running && c.isOpen) <;> simp [running] at stage
  | datagram address port j env => exact absurd rfl (noDatagram address port j env)
  | tick | monitorScan | stop => exact ⟨rfl, fun _ => .same _⟩
  | monitorEvict consumerId rest _ stale evicted =>
    exact continues_evict (w := { w with stale := rest }) evicted

/-! ## The invariant of the handshakes -/

/-- A version message with PC_VERSION has arrived from the peer. -/
def Announced (traffic : List Traffic) (peer : Endpoint) : Prop :=
  ∃ j, MatchingVersion j ∧ Traffic.received peer j ∈ traffic

structure Handshaken (w : World σ) : Prop where
  waiting : ∀ n c, w.connections n = some c → c.stage = .handshake → c.first = none
  served : ∀ n c, w.connections n = some c → InLoop c → OpenedWithVersion c →
    Greeted w.traffic (.tcp n)
  opened : ∀ n, Traffic.answered (.tcp n) "ok" ∈ w.traffic →
    ∃ c, w.connections n = some c ∧ OpenedWithVersion c
  announced : ∀ address port, Announced w.traffic (.udp address port) →
    Greeted w.traffic (.udp address port)

theorem Greeted.answered {traffic : List Traffic} {peer : Endpoint}
    (greeted : Greeted traffic peer) : Traffic.answered peer "ok" ∈ traffic := by
  obtain ⟨j, -, found⟩ := greeted
  exact found.subset List.mem_cons_self

theorem Greeted.announced {traffic : List Traffic} {peer : Endpoint}
    (greeted : Greeted traffic peer) : Announced traffic peer := by
  obtain ⟨j, isVersion, found⟩ := greeted
  exact ⟨j, isVersion, found.subset (List.mem_cons_of_mem _ List.mem_cons_self)⟩

/-- The reply right behind the message. -/
theorem greeted_reply {j : Json} (isVersion : MatchingVersion j) (peer : Endpoint)
    (earlier : List Traffic) :
    Greeted (.answered peer "ok" :: .received peer j :: earlier) peer :=
  ⟨j, isVersion, List.sublist_append_left [Traffic.answered peer "ok", .received peer j] earlier⟩

theorem Handshaken.carried {w after : World σ} (inv : Handshaken w)
    (connections : ∀ n, Continues (w.connections n) (after.connections n))
    (grows : List.Sublist w.traffic after.traffic)
    (answers : ∀ n, Traffic.answered (.tcp n) "ok" ∈ after.traffic →
      Traffic.answered (.tcp n) "ok" ∈ w.traffic)
    (announced : ∀ address port, Announced after.traffic (.udp address port) →
      Greeted after.traffic (.udp address port)) :
    Handshaken after where
  waiting n later present stage := by
    have continues := connections n
    rw [present] at continues
    generalize old : w.connections n = before at continues
    cases continues with
    | accepted _ first => exact first
    | @kept c _ first back _ => exact first.trans (inv.waiting n c old (back stage))
  served n later present inLoop opened := by
    have continues := connections n
    rw [present] at continues
    generalize old : w.connections n = before at continues
    cases continues with
    | accepted stage _ => simp [InLoop, stage] at inLoop
    | @kept c _ first _ back =>
      obtain ⟨j, read, isVersion⟩ := opened
      exact (inv.served n c old (back inLoop) ⟨j, first ▸ read, isVersion⟩).mono grows
  opened n answered := by
    obtain ⟨c, present, j, read, isVersion⟩ := inv.opened n (answers n answered)
    have continues := connections n
    rw [present] at continues
    generalize new : after.connections n = later at continues
    cases continues with
    | kept first => exact ⟨_, rfl, j, first.trans read, isVersion⟩
  announced := announced

/-- What a message from one peer adds says nothing about another one. -/
theorem announced_received (peer queried : Endpoint) {j : Json} (earlier : List Traffic)
    (others : queried = peer → ¬ MatchingVersion j) :
    Announced (.received peer j :: earlier) queried → Announced earlier queried := by
  rintro ⟨j', isVersion, member⟩
  cases member with
  | head => exact absurd isVersion (others rfl)
  | tail _ member => exact ⟨j', isVersion, member⟩

theorem announced_withUnits (peer : Endpoint) (msgs : List WorkUnitMessage)
    (earlier : List Traffic) (queried : Endpoint) :
    Announced (withUnits peer msgs earlier) queried ↔ Announced earlier queried := by
  simp [Announced, withUnits]

theorem announced_answered {peer queried : Endpoint} {status : String} {earlier : List Traffic} :
    Announced (.answered peer status :: earlier) queried ↔ Announced earlier queried := by
  simp [Announced]

theorem sublist_withUnits (peer : Endpoint) (msgs : List WorkUnitMessage) (item : Traffic)
    (earlier : List Traffic) : List.Sublist earlier (withUnits peer msgs (item :: earlier)) :=
  (List.sublist_cons_self item earlier).trans (List.sublist_append_right ..)

theorem handshaken_handshakeFrame {w : World σ} (inv : Handshaken w) {n : Nat} {c : Connection}
    (present : w.connections n = some c) (stage : c.stage = .handshake) (j : Json)
    (env : HandlerEnv) : Handshaken (w.handshakeFrame n c j env) := by
  obtain ⟨opened, connections, first, past, outcome⟩ := handshakeFrame_effect w n c j env
  have unanswered : Traffic.answered (.tcp n) "ok" ∉ w.traffic := by
    intro answered
    obtain ⟨c', present', j', read, -⟩ := inv.opened n answered
    cases present.symm.trans present'
    rw [inv.waiting n c present stage] at read
    cases read
  have grows : List.Sublist w.traffic (w.handshakeFrame n c j env).traffic := by
    rcases outcome with ⟨-, traffic⟩ | ⟨traffic | traffic, -⟩ <;> rw [traffic]
    · exact (List.sublist_cons_self _ _).trans (List.sublist_cons_self _ _)
    · exact List.sublist_cons_self _ _
    · exact (List.sublist_cons_self _ _).trans (List.sublist_cons_self _ _)
  have noNews : ∀ address port,
      Announced (w.handshakeFrame n c j env).traffic (.udp address port) →
        Announced w.traffic (.udp address port) := by
    intro address port announced
    refine announced_received (.tcp n) _ (j := j) _ (fun same => by cases same) ?_
    rcases outcome with ⟨-, traffic⟩ | ⟨traffic | traffic, -⟩ <;> rw [traffic] at announced
    · exact announced_answered.mp announced
    · exact announced
    · exact announced_answered.mp announced
  constructor
  case waiting =>
    intro m c' present' waits
    rw [connections] at present'
    by_cases same : m = n
    · rw [same, Function.update_self] at present'
      cases present'
      exact absurd waits past
    · rw [Function.update_of_ne same] at present'
      exact inv.waiting m c' present' waits
  case served =>
    intro m c' present' inLoop isOpened
    rw [connections] at present'
    by_cases same : m = n
    · rw [same, Function.update_self] at present'
      cases present'
      rcases outcome with ⟨isVersion, traffic⟩ | ⟨-, unversioned⟩
      · rw [traffic, same]
        exact greeted_reply isVersion ..
      · obtain ⟨j', read, isVersion⟩ := isOpened
        cases first.symm.trans read
        exact absurd isVersion (unversioned inLoop)
    · rw [Function.update_of_ne same] at present'
      exact (inv.served m c' present' inLoop isOpened).mono grows
  case opened =>
    intro m answered
    rw [connections]
    by_cases same : m = n
    · rw [same, Function.update_self]
      rcases outcome with ⟨⟨isVersion, -⟩, -⟩ | ⟨traffic, -⟩
      · exact ⟨opened, rfl, j, first, isVersion⟩
      · refine absurd ?_ unanswered
        rw [same] at answered
        rcases traffic with traffic | traffic <;> simpa [traffic] using answered
    · rw [Function.update_of_ne same]
      refine inv.opened m ?_
      rcases outcome with ⟨-, traffic⟩ | ⟨traffic | traffic, -⟩ <;>
        simpa [traffic, same] using answered
  case announced =>
    intro address port announced
    exact (inv.announced address port (noNews address port announced)).mono grows

theorem handshaken_datagram {w : World σ} (inv : Handshaken w) (plugin : TestPlugin σ)
    (address : String) (port : Nat) (j : Json) (env : HandlerEnv) :
    Handshaken (w.handleUdpMessage plugin address port j env) := by
  obtain ⟨connections, outcome⟩ := udp_effect plugin w address port j env
  have grows : List.Sublist w.traffic (w.handleUdpMessage plugin address port j env).traffic := by
    rcases outcome with ⟨-, traffic⟩ | ⟨-, ⟨traffic, -⟩ | ⟨msgs, traffic, -⟩⟩ <;> rw [traffic]
    · exact (List.sublist_cons_self _ _).trans (List.sublist_cons_self _ _)
    · exact (List.sublist_cons_self _ _).trans (List.sublist_cons_self _ _)
    · exact sublist_withUnits ..
  refine inv.carried ?_ grows ?_ ?_
  · rw [connections]
    exact fun _ => .same _
  · intro n answered
    rcases outcome with ⟨-, traffic⟩ | ⟨-, ⟨traffic, -⟩ | ⟨msgs, traffic, -⟩⟩ <;>
      simpa [traffic, withUnits] using answered
  · intro from' port' announced
    rcases outcome with ⟨isVersion, traffic⟩ | ⟨other, outcome⟩
    · by_cases same : Endpoint.udp from' port' = .udp address port
      · rw [same, traffic]
        exact greeted_reply isVersion ..
      · rw [traffic, announced_answered] at announced
        have before := announced_received _ _ _ (fun isSame => absurd isSame same) announced
        exact (inv.announced from' port' before).mono grows
    · have received := announced_received (.udp address port) (.udp from' port') w.traffic
        fun _ => other
      refine (inv.announced from' port' (received ?_)).mono grows
      rcases outcome with ⟨traffic, -⟩ | ⟨msgs, traffic, -⟩
      · rwa [traffic, announced_answered] at announced
      · rwa [traffic, announced_withUnits] at announced

theorem handshaken_step {plugin : TestPlugin σ} {w after : World σ} {event : Event}
    (inv : Handshaken w) (taken : (producerSystem plugin).step w event = some after) :
    Handshaken after := by
  cases world_step taken with
  | handshake n c j env present stage => exact handshaken_handshakeFrame inv present stage j env
  | inLoop n c j env present stage =>
    obtain ⟨msgs, served, traffic, -, connections, first, past⟩ :=
      loopFrame_effect plugin w n c j env
    refine inv.carried ?_ ?_ ?_ ?_
    · rw [connections]
      refine continues_update ?_
      rw [present]
      exact .kept first (fun waits => absurd waits past) fun _ => Or.inr stage
    · rw [traffic]
      exact sublist_withUnits ..
    · intro m answered
      simpa [traffic, withUnits] using answered
    · intro address port announced
      rw [traffic, announced_withUnits] at announced
      have before := announced_received (.tcp n) _ _ (fun same => by cases same) announced
      exact (inv.announced address port before).mono (traffic ▸ sublist_withUnits ..)
  | datagram address port j env => exact handshaken_datagram inv plugin address port j env
  | accept | broken | loopTest | reclaim | unregister | tick | monitorScan | monitorEvict | stop =>
    obtain ⟨traffic, connections⟩ := quiet_step taken (fun _ _ _ same => by cases same)
      fun _ _ _ _ same => by cases same
    refine inv.carried connections ?_ ?_ ?_ <;> rw [traffic]
    · exact fun n answered => answered
    · exact inv.announced

/-! ## The gate -/

/-- What keeps the gate: a connection on which a unit is requested and sent opened with
a version message, and a UDP peer to which a unit is sent announced PC_VERSION. -/
def VersionFirst (plugin : TestPlugin σ) (w : World σ) : Event → Prop
  | .frame n j env => ∀ c, w.connections n = some c → c.stage = .receiving →
      SendsUnit plugin w.producer env.sendOk j → OpenedWithVersion c
  | .datagram address port j _ => SendsUnit plugin w.producer (fun _ => true) j →
      Announced w.traffic (.udp address port)
  | _ => True

/-- Inside the loop, an opening version message and a greeting are the same. -/
theorem Handshaken.greeted_iff {w : World σ} (inv : Handshaken w) {n : Nat} {c : Connection}
    (present : w.connections n = some c) (inLoop : InLoop c) :
    Greeted w.traffic (.tcp n) ↔ OpenedWithVersion c := by
  constructor
  · intro greeted
    obtain ⟨c', present', isOpened⟩ := inv.opened n greeted.answered
    cases present.symm.trans present'
    exact isOpened
  · exact inv.served n c present inLoop

theorem gated_step_iff {plugin : TestPlugin σ} {w after : World σ} {event : Event}
    (inv : Handshaken w) (gated : Gated w.traffic)
    (taken : (producerSystem plugin).step w event = some after) :
    Gated after.traffic ↔ VersionFirst plugin w event := by
  cases world_step taken with
  | handshake n c j env present stage =>
    obtain ⟨opened, -, -, -, outcome⟩ := handshakeFrame_effect w n c j env
    refine iff_of_true ?_ ?_
    · rcases outcome with ⟨-, traffic⟩ | ⟨traffic | traffic, -⟩ <;>
        simpa [traffic, Gated] using gated
    · intro c' present' receiving
      cases present.symm.trans present'
      cases stage.symm.trans receiving
  | inLoop n c j env present stage =>
    obtain ⟨msgs, -, traffic, sends, -⟩ := loopFrame_effect plugin w n c j env
    have received := greeted_received (.tcp n) j w.traffic (.tcp n)
    have greets := inv.greeted_iff present (Or.inr stage)
    rw [traffic, gated_withUnits, sends, received, greets]
    constructor
    · rintro ⟨-, opens⟩ c' present' -
      cases present.symm.trans present'
      exact opens
    · intro opens
      exact ⟨gated, opens c present stage⟩
  | datagram address port j env =>
    obtain ⟨-, outcome⟩ := udp_effect plugin w address port j env
    rcases outcome with ⟨⟨isVersion, -⟩, traffic⟩ | ⟨-, ⟨traffic, silent⟩ | ⟨msgs, traffic, sends⟩⟩
    · refine iff_of_true (by rw [traffic]; exact gated) ?_
      rintro ⟨isRequest, -⟩
      exact absurd (Except.ok.inj (isVersion.symm.trans isRequest)) (by decide)
    · exact iff_of_true (by rw [traffic]; exact gated) fun sends => absurd sends silent
    · have received := greeted_received (.udp address port) j w.traffic (.udp address port)
      rw [traffic, gated_withUnits, sends, received]
      constructor
      · rintro ⟨-, greeted⟩ asks
        exact (greeted asks).announced
      · exact fun announced => ⟨gated, fun asks => inv.announced address port (announced asks)⟩
  | accept | broken | loopTest | reclaim | unregister | tick | monitorScan | monitorEvict | stop =>
    obtain ⟨traffic, -⟩ := quiet_step taken (fun _ _ _ same => by cases same)
      fun _ _ _ _ same => by cases same
    rw [traffic]
    exact iff_of_true gated trivial

theorem handshaken_listening (p : Producer σ) : Handshaken (World.listening p) where
  waiting _ _ present := by cases present
  served _ _ present := by cases present
  opened _ answered := by cases answered
  announced _ _ announced := by
    obtain ⟨_, -, member⟩ := announced
    cases member

/-- In every run, every work unit sent so far went to a greeted peer exactly as long as
no unit is requested on a connection that did not open with a version message, or by a
UDP peer that did not announce PC_VERSION. -/
theorem gated_iff (plugin : TestPlugin σ) (p : Producer σ) (events : List Event) :
    (producerSystem plugin).Along (fun _ _ after => Gated after.traffic) (World.listening p)
        events ↔
      (producerSystem plugin).Along (fun w event _ => VersionFirst plugin w event)
        (World.listening p) events :=
  TransitionSystem.along_iff (fun w => Handshaken w ∧ Gated w.traffic)
    (fun _ _ _ ⟨inv, gated⟩ taken => gated_step_iff inv gated taken)
    (fun _ _ _ ⟨inv, gated⟩ opens taken =>
      ⟨handshaken_step inv taken, (gated_step_iff inv gated taken).mpr opens⟩)
    ⟨handshaken_listening p, trivial⟩

/-- A heartbeat as the first frame, and then a request. -/
def heartbeatFirst : List Event :=
  [.accept 0, .frame 0 (HeartbeatMessage.toJson ⟨"cons-1", ""⟩) .quiet, .loopTest 0,
    .frame 0 (WorkRequestMessage.toJson ⟨"cons-1", 1, ""⟩) .quiet]

/-- The connection is sent a unit and was never asked for its version. -/
theorem unversioned_connection_is_served :
    ¬ ∀ (p : Producer EchoState) (events : List Event) (w : World EchoState),
      (producerSystem createEchoPlugin).run (World.listening p) events = some w →
        Gated w.traffic := by
  intro claimed
  have evidence : ((producerSystem createEchoPlugin).run (World.listening echoStart)
      heartbeatFirst).any (fun w => w.traffic.any (fun | .workUnit .. => true | _ => false) &&
        w.traffic.all (fun | .answered .. => false | _ => true)) = true := by
    decide +kernel
  obtain ⟨w, reached, holds⟩ := (Option.any_eq_true _ _).mp evidence
  obtain ⟨sent, unanswered⟩ := Bool.and_eq_true_iff.mp holds
  obtain ⟨item, member, isUnit⟩ := List.any_eq_true.mp sent
  cases item with
  | received | answered => cases isUnit
  | workUnit peer msg =>
    have answered := ((claimed _ _ w reached).greeted member).answered
    exact absurd (List.all_eq_true.mp unanswered _ answered) nofun

end PnC.Guarantees.VersionGate
