import PnC.Source.EchoPlugin
import PnC.Source.ProducerSteps

/-!
# Connection teardown

handle_client reclaims and unregisters under the last consumer id it saw. That
settles everything the connection has done when it has used one id, not the empty
one. A name below is the one id of a connection; the empty name stands for none. Each message
of the other threads is one step: a handler that the teardown finds inside its dispatch loop
could add the id once more behind it.
-/
namespace PnC.Guarantees.ConnectionTeardown

open PnC.Library PnC.Source

variable {σ : Type}

/-- The entries of connected_consumers_ that point at connection `n` are under `name`. -/
def RegisteredAs (p : Producer σ) (n : Nat) (name : String) : Prop :=
  ∀ id info, p.connectedConsumers.find id = some info → info.socket = some n →
    name ≠ "" ∧ id = name

/-- The units of `generated` that are Sent are held by `name`. -/
def HeldBy (p : Producer σ) (generated : List String) (name : String) : Prop :=
  ∀ id ∈ generated, ∀ e, p.tracker.find id = some e → e.status = .sent →
    name ≠ "" ∧ e.consumerId = name

/-- The ids have been given out by next_seq_. -/
def Issued (p : Producer σ) (generated : List String) : Prop :=
  ∀ id ∈ generated, ∃ k < p.nextSeq, id = p.unitId k

/-- Nothing in the producer refers to the connection any more. -/
def TornDown (p : Producer σ) (n : Nat) (generated : List String) : Prop :=
  (∀ id ∈ generated, p.tracker.status id ≠ some .sent) ∧
    ∀ id info, p.connectedConsumers.find id = some info → info.socket ≠ some n

theorem tornDown_of_none {p : Producer σ} {n : Nat} {generated : List String}
    (registered : RegisteredAs p n "") (held : HeldBy p generated "") :
    TornDown p n generated := by
  constructor
  · intro id member sent
    obtain ⟨e, found, status⟩ := Option.map_eq_some_iff.mp sent
    exact (held id member e found status).1 rfl
  · intro id info found points
    exact (registered id info found points).1 rfl

/-! ## The changes that other threads make -/

theorem registeredAs_step {plugin : TestPlugin σ} {peer : Option Nat} {n : Nat} {p q : Producer σ}
    {name : String} (registered : RegisteredAs p n name) (foreign : peer ≠ some n)
    (step : ProducerStep plugin peer p q) : RegisteredAs q n name := by
  intro id info found points
  cases step with
  | unit | refused | reclaim | stop => exact registered id info found points
  | result msg =>
    obtain ⟨-, -, -, same⟩ := frame_handleResult p msg
    rw [same] at found
    exact registered id info found points
  | @register socket consumerId now own =>
    rw [Producer.find_registerConsumer] at found
    split at found
    · cases found
      cases points
      exact absurd own foreign
    · exact registered id info found points
  | registerUdp consumerId address port now =>
    rw [Producer.find_registerConsumerUdp] at found
    split at found
    next same =>
      cases found
      cases present : p.connectedConsumers.find consumerId with
      | none =>
        rw [present] at points
        cases points
      | some old =>
        rw [present] at points
        rw [same]
        exact registered consumerId old present points
    next => exact registered id info found points
  | touch consumerId now =>
    rw [Producer.updateConsumerActivity, KeyedStore.find_modify] at found
    split at found
    next same =>
      obtain ⟨old, present, rfl⟩ := Option.map_eq_some_iff.mp found
      rw [same]
      exact registered consumerId old present points
    next => exact registered id info found points
  | unregister consumerId =>
    rw [Producer.unregisterConsumer, KeyedStore.find_erase] at found
    split at found
    next => cases found
    next => exact registered id info found points

theorem heldBy_recordUnit {p : Producer σ} {generated : List String} {name : String}
    (held : HeldBy p generated name) (issued : Issued p generated) (state : σ)
    (timestamp consumerId : String) (job : Json) :
    HeldBy (p.recordUnit state (p.unitMessage timestamp job) consumerId) generated name ∧
      Issued (p.recordUnit state (p.unitMessage timestamp job) consumerId) generated := by
  constructor
  · intro id member e found
    obtain ⟨k, below, numbered⟩ := issued id member
    have old : id ≠ p.unitId p.nextSeq := by
      intro new
      have same := p.unitId_injective (numbered.symm.trans new)
      omega
    rw [find_recordUnit, if_neg old] at found
    exact held id member e found
  · intro id member
    obtain ⟨k, below, numbered⟩ := issued id member
    exact ⟨k, by simp only [Producer.recordUnit]; omega, numbered⟩

theorem reclaim_sent {consumerId : String} {e : WorkUnitEntry}
    (sent : (WorkTracker.reclaim consumerId e).status = .sent) :
    WorkTracker.reclaim consumerId e = e ∧ e.consumerId ≠ consumerId := by
  unfold WorkTracker.reclaim at sent ⊢
  split at sent
  · cases sent
  next kept =>
    rw [if_neg kept]
    refine ⟨rfl, fun holder => kept ?_⟩
    simp [WorkTracker.isHeldBy, sent, holder]

theorem heldBy_step {plugin : TestPlugin σ} {peer : Option Nat} {p q : Producer σ}
    {generated : List String} {name : String} (held : HeldBy p generated name)
    (issued : Issued p generated) (step : ProducerStep plugin peer p q) :
    HeldBy q generated name ∧ Issued q generated := by
  cases step with
  | @unit state job timestamp consumerId call =>
    exact heldBy_recordUnit held issued state timestamp consumerId job
  | refused | touch | unregister | stop => exact ⟨held, issued⟩
  | register | registerUdp =>
    first | rw [Producer.registerConsumer_eq] | rw [Producer.registerConsumerUdp_eq]
    exact ⟨held, issued⟩
  | result msg =>
    obtain ⟨seq, producerId, -, -⟩ := frame_handleResult p msg
    constructor
    · intro id member e found sent
      rw [find_handleResult] at found
      split at found
      next =>
        obtain ⟨old, -, rfl⟩ := Option.map_eq_some_iff.mp found
        split at sent <;> cases sent
      next => exact held id member e found sent
    · unfold Issued Producer.unitId
      rw [seq, producerId]
      exact issued
  | reclaim consumerId =>
    refine ⟨fun id member e found sent => ?_, issued⟩
    rw [find_reclaimConsumer] at found
    obtain ⟨old, present, rfl⟩ := Option.map_eq_some_iff.mp found
    have kept := (reclaim_sent sent).1
    rw [kept] at sent ⊢
    exact held id member old present sent

theorem registeredAs_steps {plugin : TestPlugin σ} {peer : Option Nat} {n : Nat}
    {p q : Producer σ} {name : String} (registered : RegisteredAs p n name)
    (foreign : peer ≠ some n) (steps : ProducerSteps plugin peer p q) : RegisteredAs q n name := by
  induction steps with
  | refl => exact registered
  | tail _ step ih => exact registeredAs_step ih foreign step

theorem heldBy_steps {plugin : TestPlugin σ} {peer : Option Nat} {p q : Producer σ}
    {generated : List String} {name : String} (held : HeldBy p generated name)
    (issued : Issued p generated) (steps : ProducerSteps plugin peer p q) :
    HeldBy q generated name ∧ Issued q generated := by
  induction steps with
  | refl => exact ⟨held, issued⟩
  | tail _ step ih => exact heldBy_step ih.1 ih.2 step

/-! ## The changes that the connection's own thread makes -/

theorem registeredAs_register {p : Producer σ} {n : Nat} {before name : String}
    (registered : RegisteredAs p n before) (same : before = "" ∨ before = name)
    (named : name ≠ "") (now : Nat) : RegisteredAs (p.registerConsumer name n now) n name := by
  intro id info found points
  rw [Producer.find_registerConsumer] at found
  split at found
  next same => exact ⟨named, same⟩
  next =>
    obtain ⟨known, under⟩ := registered id info found points
    rcases same with none | same
    · exact absurd none known
    · exact ⟨named, under.trans same⟩

theorem registeredAs_unregister {p : Producer σ} {n : Nat} {name : String}
    (registered : RegisteredAs p n name) : RegisteredAs (p.unregisterConsumer name) n "" := by
  intro id info found points
  rw [Producer.unregisterConsumer, KeyedStore.find_erase] at found
  split at found
  next => cases found
  next other => exact absurd (registered id info found points).2 other

theorem heldBy_reclaim {p : Producer σ} {generated : List String} {name : String}
    (held : HeldBy p generated name) : HeldBy (p.reclaimConsumer name) generated "" := by
  intro id member e found sent
  rw [find_reclaimConsumer] at found
  obtain ⟨old, present, rfl⟩ := Option.map_eq_some_iff.mp found
  obtain ⟨kept, others⟩ := reclaim_sent sent
  rw [kept] at sent
  exact absurd (held id member old present sent).2 others

theorem heldBy_rename {p : Producer σ} {generated : List String} {before name : String}
    (held : HeldBy p generated before) (same : before = "" ∨ before = name) :
    HeldBy p generated name := by
  intro id member e found sent
  obtain ⟨known, holder⟩ := held id member e found sent
  rcases same with none | same
  · exact absurd none known
  · rw [← same]
    exact ⟨known, holder⟩

/-- A connection that has no id yet, or this one, registers under it. -/
theorem register_own {p : Producer σ} {n : Nat} {generated : List String} {before name : String}
    (registered : RegisteredAs p n before) (held : HeldBy p generated before)
    (issued : Issued p generated) (same : before = "" ∨ before = name) (named : name ≠ "")
    (now : Nat) :
    RegisteredAs (p.registerConsumer name n now) n name ∧
      HeldBy (p.registerConsumer name n now) generated name ∧
      Issued (p.registerConsumer name n now) generated := by
  refine ⟨registeredAs_register registered same named now, ?_⟩
  rw [Producer.registerConsumer_eq]
  exact ⟨heldBy_rename held same, issued⟩

/-- A dispatch adds units that are held by the consumer it is for. -/
theorem heldBy_dispatchLoop (plugin : TestPlugin σ) (env : DispatchEnv) {name : String}
    (named : name ≠ "") (remaining i : Nat) {p : Producer σ} {generated : List String}
    (held : HeldBy p generated name) (issued : Issued p generated) :
    HeldBy (p.dispatchLoop plugin env name remaining i).producer
        ((p.dispatchLoop plugin env name remaining i).generated ++ generated) name ∧
      Issued (p.dispatchLoop plugin env name remaining i).producer
        ((p.dispatchLoop plugin env name remaining i).generated ++ generated) := by
  induction remaining generalizing i p generated with
  | zero => exact ⟨held, issued⟩
  | succ remaining ih =>
    unfold Producer.dispatchLoop
    split
    next => exact ⟨held, issued⟩
    next => exact ⟨held, issued⟩
    next => exact ⟨held, issued⟩
    next state job call =>
      have recorded : HeldBy
            (p.recordUnit state (p.unitMessage (env.timestamp i) job) name)
            (p.unitId p.nextSeq :: generated) name ∧
          Issued (p.recordUnit state (p.unitMessage (env.timestamp i) job) name)
            (p.unitId p.nextSeq :: generated) := by
        obtain ⟨older, olderIssued⟩ :=
          heldBy_recordUnit held issued state (env.timestamp i) name job
        constructor
        · intro id member e found sent
          rcases List.mem_cons.mp member with new | old
          · rw [find_recordUnit, if_pos new] at found
            cases found
            exact ⟨named, rfl⟩
          · exact older id old e found sent
        · intro id member
          rcases List.mem_cons.mp member with new | old
          · exact ⟨p.nextSeq, by simp only [Producer.recordUnit]; omega, new⟩
          · exact olderIssued id old
      split
      · obtain ⟨later, laterIssued⟩ := ih (i + 1) recorded.1 recorded.2
        constructor
        · exact fun id member => later id (by simp at member ⊢; tauto)
        · exact fun id member => laterIssued id (by simp at member ⊢; tauto)
      · exact recorded

/-! ## The invariant of one connection -/

/-- A connection before its first frame; also what is kept for a number not accepted yet. -/
def accepted : Connection := ⟨.handshake, "", true, none, []⟩

def registeredName (c : Connection) : String := if c.stage = .returned then "" else c.consumerId

def holderName (c : Connection) : String :=
  if c.stage = .reclaimed ∨ c.stage = .returned then "" else c.consumerId

structure Tidy (p : Producer σ) (n : Nat) (c : Connection) : Prop where
  registered : RegisteredAs p n (registeredName c)
  held : HeldBy p c.generated (holderName c)
  issued : Issued p c.generated
  waiting : c.stage = .handshake → c.consumerId = ""

/-- The handler is past the handshake and has not begun its teardown. -/
def Working (stage : Stage) : Prop :=
  stage = .atLoop ∨ stage = .receiving ∨ stage = .leaving ∨ stage = .stuck

theorem working_stageAfter (ended : DispatchEnd) : Working (World.stageAfter ended) := by
  cases ended <;> simp [Working, World.stageAfter]

theorem tidy_of_working {p : Producer σ} {n : Nat} {c : Connection} (working : Working c.stage)
    (registered : RegisteredAs p n c.consumerId) (held : HeldBy p c.generated c.consumerId)
    (issued : Issued p c.generated) : Tidy p n c := by
  have names : registeredName c = c.consumerId ∧ holderName c = c.consumerId := by
    rcases working with stage | stage | stage | stage <;> simp [registeredName, holderName, stage]
  refine ⟨by rw [names.1]; exact registered, by rw [names.2]; exact held, issued, ?_⟩
  rcases working with stage | stage | stage | stage <;> simp [stage]

/-- Before the teardown both names are the connection's id. -/
theorem Tidy.names {p : Producer σ} {n : Nat} {c : Connection} (tidy : Tidy p n c)
    (unclosed : c.stage = .handshake ∨ Working c.stage) :
    RegisteredAs p n c.consumerId ∧ HeldBy p c.generated c.consumerId := by
  have names : registeredName c = c.consumerId ∧ holderName c = c.consumerId := by
    rcases unclosed with stage | stage | stage | stage | stage <;>
      simp [registeredName, holderName, stage]
  exact ⟨names.1 ▸ tidy.registered, names.2 ▸ tidy.held⟩

/-! ## The frames of the connection -/

theorem tidy_handshakeFrame {w : World σ} {n : Nat} {c : Connection} (tidy : Tidy w.producer n c)
    (stage : c.stage = .handshake) (j : Json) (env : HandlerEnv)
    (named : msgType j = .ok "version" → ∀ ver, VersionMessage.fromJson j = .ok ver →
      ver.version = pcVersion → ver.consumerId ≠ "") :
    ∃ later, (w.handshakeFrame n c j env).connections n = some later ∧
      Tidy (w.handshakeFrame n c j env).producer n later := by
  obtain ⟨registered, held⟩ := tidy.names (Or.inl stage)
  have unnamed := tidy.waiting stage
  unfold World.handshakeFrame
  split
  next =>
    exact ⟨_, Function.update_self .., tidy_of_working (by simp [Working]) registered held
      tidy.issued⟩
  next isVersion =>
    split
    next =>
      exact ⟨_, Function.update_self .., tidy_of_working (by simp [Working]) registered held
        tidy.issued⟩
    next ver read =>
      split
      next =>
        split
        next =>
          rw [unnamed] at registered held
          refine ⟨_, Function.update_self .., ?_⟩
          exact ⟨registered, held, tidy.issued, nofun⟩
        next matching =>
          obtain ⟨registeredNow, heldNow, issuedNow⟩ := register_own registered held tidy.issued
            (Or.inl unnamed) (named isVersion ver read (not_not.mp matching)) w.clock
          exact ⟨_, Function.update_self ..,
            tidy_of_working (by simp [Working]) registeredNow heldNow issuedNow⟩
      next =>
        exact ⟨_, Function.update_self .., tidy_of_working (by simp [Working]) registered held
          tidy.issued⟩
  next =>
    exact ⟨_, Function.update_self .., tidy_of_working (by simp [Working]) registered held
      tidy.issued⟩

theorem tidy_adopt {w : World σ} {n : Nat} {c : Connection}
    (registered : RegisteredAs w.producer n c.consumerId)
    (held : HeldBy w.producer c.generated c.consumerId) (issued : Issued w.producer c.generated)
    (consumerId : String) :
    RegisteredAs (w.adopt n c consumerId) n (World.adoptedId c consumerId) ∧
      HeldBy (w.adopt n c consumerId) c.generated (World.adoptedId c consumerId) ∧
      Issued (w.adopt n c consumerId) c.generated := by
  unfold World.adopt World.adoptedId
  by_cases unnamed : c.consumerId = ""
  · rw [if_pos unnamed]
    by_cases named : consumerId = ""
    · rw [if_neg fun both => both.2 named, named, ← unnamed]
      exact ⟨registered, held, issued⟩
    · rw [if_pos ⟨unnamed, named⟩]
      exact register_own registered held issued (Or.inl unnamed) named _
  · rw [if_neg unnamed, if_neg fun both => unnamed both.1]
    exact ⟨registered, held, issued⟩

/-- A result or a heartbeat: after the id is adopted, nothing that concerns it changes. -/
theorem tidy_settled (plugin : TestPlugin σ) {p : Producer σ} {after : World σ} {n : Nat}
    {c : Connection} {name : String}
    (adopted : RegisteredAs p n name ∧ HeldBy p c.generated name ∧ Issued p c.generated)
    (steps : ProducerSteps plugin none p after.producer)
    (connection : after.connections n = some { c with stage := .atLoop, consumerId := name }) :
    ∃ later, after.connections n = some later ∧ Tidy after.producer n later := by
  obtain ⟨registered, held, issued⟩ := adopted
  obtain ⟨heldNow, issuedNow⟩ := heldBy_steps held issued steps
  exact ⟨_, connection, tidy_of_working (Or.inl rfl)
    (registeredAs_steps registered (by simp) steps) heldNow issuedNow⟩

theorem tidy_requestFrame {plugin : TestPlugin σ} {w : World σ} {n : Nat} {c : Connection}
    (registered : RegisteredAs w.producer n c.consumerId)
    (held : HeldBy w.producer c.generated c.consumerId) (issued : Issued w.producer c.generated)
    (req : WorkRequestMessage) (env : HandlerEnv) (named : req.consumerId ≠ "")
    (same : c.consumerId = "" ∨ req.consumerId = c.consumerId) :
    ∃ later, (w.requestFrame plugin n c req env).connections n = some later ∧
      Tidy (w.requestFrame plugin n c req env).producer n later := by
  have known : c.consumerId = "" ∨ c.consumerId = req.consumerId := same.imp_right Eq.symm
  generalize adopted : (if c.consumerId = "" then
    w.producer.registerConsumer req.consumerId n w.clock else w.producer) = p
  have served : RegisteredAs p n req.consumerId ∧ HeldBy p c.generated req.consumerId ∧
      Issued p c.generated := by
    rw [← adopted]
    split
    next => exact register_own registered held issued known named _
    next alreadyNamed =>
      have equal := same.resolve_left alreadyNamed
      rw [equal]
      exact ⟨registered, held, issued⟩
  obtain ⟨registeredNow, heldNow, issuedNow⟩ := served
  have touch : ProducerStep plugin none p _ := .touch req.consumerId w.clock
  have touched := heldBy_step heldNow issuedNow touch
  have dispatched := heldBy_dispatchLoop plugin env.toDispatchEnv named
    req.threadsAvailable.toNat 0 touched.1 touched.2
  have steps : ProducerSteps plugin none p _ := .head touch
    (steps_dispatchLoop plugin none env.toDispatchEnv req.consumerId
      req.threadsAvailable.toNat 0 _)
  have still := registeredAs_steps (n := n) registeredNow (by simp) steps
  subst adopted
  exact ⟨_, Function.update_self ..,
    tidy_of_working (working_stageAfter _) still dispatched.1 dispatched.2⟩

theorem tidy_loopFrame {plugin : TestPlugin σ} {w : World σ} {n : Nat} {c : Connection}
    (tidy : Tidy w.producer n c) (stage : c.stage = .receiving) (j : Json) (env : HandlerEnv)
    (keeps : msgType j = .ok "work_request" → ∀ req, WorkRequestMessage.fromJson j = .ok req →
      req.consumerId ≠ "" ∧ (c.consumerId = "" ∨ req.consumerId = c.consumerId)) :
    ∃ later, (w.loopFrame plugin n c j env).connections n = some later ∧
      Tidy (w.loopFrame plugin n c j env).producer n later := by
  obtain ⟨registered, held⟩ := tidy.names (Or.inr (by simp [Working, stage]))
  have moved : ∀ after : Stage, Working after →
      Tidy w.producer n { c with stage := after } := fun after working =>
    tidy_of_working working registered held tidy.issued
  unfold World.loopFrame
  split
  next => exact ⟨_, Function.update_self .., moved .leaving (by simp [Working])⟩
  next isRequest =>
    split
    next => exact ⟨_, Function.update_self .., moved .leaving (by simp [Working])⟩
    next req read =>
      obtain ⟨named, same⟩ := keeps isRequest req read
      exact tidy_requestFrame (w := w.receive (.tcp n) j) registered held tidy.issued req env
        named same
  next =>
    split
    next => exact ⟨_, Function.update_self .., moved .leaving (by simp [Working])⟩
    next result _ =>
      have adopted := tidy_adopt (w := w.receive (.tcp n) j) registered held tidy.issued
        result.consumerId
      exact tidy_settled plugin adopted
        (.head (.touch _ _) (.single (.result result))) (Function.update_self ..)
  next =>
    split
    next => exact ⟨_, Function.update_self .., moved .leaving (by simp [Working])⟩
    next hb _ =>
      have adopted := tidy_adopt (w := w.receive (.tcp n) j) registered held tidy.issued
        hb.consumerId
      exact tidy_settled plugin adopted (.single (.touch _ _))
        (Function.update_self ..)
  next => exact ⟨_, Function.update_self .., moved .atLoop (by simp [Working])⟩

/-! ## The teardown -/

/-- The connection uses one id, not the empty one: a version message that is accepted
carries it, and so does every work request. Results and heartbeats may carry any. -/
def KeepsId (n : Nat) (w : World σ) : Event → Prop
  | .frame m j _ => m = n → ∀ c, w.connections n = some c →
      (c.stage = .handshake → msgType j = .ok "version" →
        ∀ ver, VersionMessage.fromJson j = .ok ver → ver.version = pcVersion →
          ver.consumerId ≠ "") ∧
      (c.stage = .receiving → msgType j = .ok "work_request" →
        ∀ req, WorkRequestMessage.fromJson j = .ok req →
          req.consumerId ≠ "" ∧ (c.consumerId = "" ∨ req.consumerId = c.consumerId))
  | _ => True

/-- The connection `n` as it is, or as it will be accepted. -/
def current (w : World σ) (n : Nat) : Connection := (w.connections n).getD accepted

theorem current_of_some {w : World σ} {n : Nat} {c : Connection}
    (present : w.connections n = some c) : current w n = c := by
  rw [current, present]
  rfl

theorem tidy_foreign_step {plugin : TestPlugin σ} {w after : World σ} {event : Event} {n : Nat}
    (tidy : Tidy w.producer n (current w n)) (foreign : event.connection ≠ some n)
    (taken : (producerSystem plugin).step w event = some after) :
    Tidy after.producer n (current after n) := by
  have steps := producer_steps taken
  obtain ⟨held, issued⟩ := heldBy_steps tidy.held tidy.issued steps
  have registered := registeredAs_steps tidy.registered foreign steps
  have still : Tidy after.producer n (current w n) := ⟨registered, held, issued, tidy.waiting⟩
  rcases connections_step foreign taken with same | ⟨c, present, closed⟩
  · unfold current at still ⊢
    rw [same]
    exact still
  · rw [current_of_some present] at still
    rw [current_of_some closed]
    exact ⟨still.registered, still.held, still.issued, still.waiting⟩

theorem tidy_reclaim {p : Producer σ} {n : Nat} {c : Connection} (tidy : Tidy p n c)
    (stage : c.stage = .leaving) :
    Tidy (if c.consumerId = "" then p else p.reclaimConsumer c.consumerId) n
      { c with stage := .reclaimed } := by
  obtain ⟨registered, held⟩ := tidy.names (Or.inr (by simp [Working, stage]))
  split
  next unnamed =>
    refine ⟨registered, ?_, tidy.issued, nofun⟩
    rw [unnamed] at held
    exact held
  next => exact ⟨registered, heldBy_reclaim held, tidy.issued, nofun⟩

theorem tidy_unregister {p : Producer σ} {n : Nat} {c : Connection} (tidy : Tidy p n c)
    (stage : c.stage = .reclaimed) :
    Tidy (if c.consumerId = "" then p else p.unregisterConsumer c.consumerId) n
      { c with stage := .returned, isOpen := false } := by
  obtain ⟨registered, held, issued, -⟩ := tidy
  rw [registeredName, if_neg (by simp [stage])] at registered
  rw [holderName, if_pos (Or.inl stage)] at held
  split
  next unnamed =>
    rw [unnamed] at registered
    exact ⟨registered, held, issued, nofun⟩
  next => exact ⟨registeredAs_unregister registered, held, issued, nofun⟩

theorem tidy_step {plugin : TestPlugin σ} {w after : World σ} {event : Event} {n : Nat}
    (tidy : Tidy w.producer n (current w n)) (keeps : KeepsId n w event)
    (taken : (producerSystem plugin).step w event = some after) :
    Tidy after.producer n (current after n) := by
  by_cases own : event.connection = some n
  case neg => exact tidy_foreign_step tidy own taken
  case pos =>
    cases world_step taken with
    | datagram | tick | monitorScan | monitorEvict | stop => cases own
    | accept m absent =>
      cases own
      rw [current, absent] at tidy
      rw [current_of_some (Function.update_self ..)]
      exact tidy
    | handshake m c j env present stage =>
      cases own
      rw [current_of_some present] at tidy
      obtain ⟨opening, -⟩ := keeps rfl c present
      obtain ⟨later, connection, tidyNow⟩ := tidy_handshakeFrame tidy stage j env (opening stage)
      rw [current_of_some connection]
      exact tidyNow
    | inLoop m c j env present stage =>
      cases own
      rw [current_of_some present] at tidy
      obtain ⟨-, serving⟩ := keeps rfl c present
      obtain ⟨later, connection, tidyNow⟩ := tidy_loopFrame tidy stage j env (serving stage)
      rw [current_of_some connection]
      exact tidyNow
    | broken m c present stage | loopTest m c present stage =>
      cases own
      rw [current_of_some present] at tidy
      rw [current_of_some (Function.update_self ..)]
      obtain ⟨registered, held⟩ := tidy.names (by simp only [Working]; tauto)
      refine tidy_of_working ?_ registered held tidy.issued
      first
        | exact Or.inr (Or.inr (Or.inl rfl))
        | cases w.producer.running && c.isOpen <;> simp [Working]
    | reclaim m c present stage =>
      cases own
      rw [current_of_some present] at tidy
      rw [current_of_some (Function.update_self ..)]
      exact tidy_reclaim tidy stage
    | unregister m c present stage =>
      cases own
      rw [current_of_some present] at tidy
      rw [current_of_some (Function.update_self ..)]
      exact tidy_unregister tidy stage

theorem tidy_listening (job : JobSetup) (nextSeq : Int) (state : σ) (n : Nat) :
    Tidy (Producer.started job nextSeq state) n accepted where
  registered _ _ found := by cases found
  held _ member := by cases member
  issued _ member := by cases member
  waiting _ := rfl

/-- In every run in which the connection keeps its id, its handler leaves nothing behind
once it has returned, however the connection ended and whatever messages the others handle. -/
theorem torn_down (plugin : TestPlugin σ) (job : JobSetup) (nextSeq : Int) (state : σ) (n : Nat)
    (events : List Event) (w : World σ)
    (keeps : (producerSystem plugin).Along (fun w event _ => KeepsId n w event)
      (World.listening (.started job nextSeq state)) events)
    (reached : (producerSystem plugin).run (World.listening (.started job nextSeq state)) events =
      some w)
    (c : Connection) (present : w.connections n = some c) (returned : c.stage = .returned) :
    TornDown w.producer n c.generated := by
  have tidy : Tidy w.producer n (current w n) :=
    TransitionSystem.run_invariant (fun w => Tidy w.producer n (current w n))
      (fun _ _ _ tidy keeps taken => tidy_step tidy keeps taken)
      (tidy_listening job nextSeq state n) keeps reached
  rw [current_of_some present] at tidy
  obtain ⟨registered, held, -, -⟩ := tidy
  rw [registeredName, if_pos returned] at registered
  rw [holderName, if_pos (Or.inr returned)] at held
  exact tornDown_of_none registered held

/-- A connection that is sent one unit and breaks. -/
def oneUnit : List Event :=
  [.accept 0, .frame 0 (VersionMessage.toJson ⟨pcVersion, "cons-1"⟩) .quiet, .loopTest 0,
    .frame 0 (WorkRequestMessage.toJson ⟨"cons-1", 1, ""⟩) .quiet, .loopTest 0, .broken 0,
    .reclaim 0, .unregister 0]

theorem oneUnit_keepsId :
    (producerSystem createEchoPlugin).Along (fun w event _ => KeepsId 0 w event)
      (World.listening echoStart) oneUnit := by
  rintro _ ⟨⟩
  refine ⟨trivial, ?_⟩
  rintro _ ⟨⟩
  refine ⟨fun _ c present => ?_, ?_⟩
  · cases present
    refine ⟨fun _ _ ver read _ => ?_, nofun⟩
    cases read
    decide
  rintro _ ⟨⟩
  refine ⟨trivial, ?_⟩
  rintro _ ⟨⟩
  refine ⟨fun _ c present => ?_, ?_⟩
  · cases present
    refine ⟨nofun, fun _ _ req read => ?_⟩
    cases read
    decide
  iterate 4
    rintro _ ⟨⟩
    refine ⟨trivial, ?_⟩
  trivial

theorem torn_down_one_unit :
    ∃ w c, (producerSystem createEchoPlugin).run (World.listening echoStart) oneUnit = some w ∧
      w.connections 0 = some c ∧ c.generated = ["prod-1-0"] ∧
        TornDown w.producer 0 c.generated := by
  refine ⟨_, _, rfl, rfl, by decide +kernel, ?_⟩
  exact torn_down createEchoPlugin _ 0 EchoState.new 0 oneUnit _ oneUnit_keepsId rfl _ rfl rfl

/-- Two ids on one connection. -/
def twoIds : List Event :=
  [.accept 0, .frame 0 (VersionMessage.toJson ⟨pcVersion, "cons-1"⟩) .quiet, .loopTest 0,
    .frame 0 (WorkRequestMessage.toJson ⟨"cons-1", 1, ""⟩) .quiet, .loopTest 0,
    .frame 0 (WorkRequestMessage.toJson ⟨"cons-2", 1, ""⟩) .quiet, .loopTest 0, .broken 0,
    .reclaim 0, .unregister 0]

/-- The unit dispatched under the first id stays Sent, and the first id's registration
points at a connection that is gone. -/
theorem second_id_leaves_the_first :
    ¬ ∀ (events : List Event) (w : World EchoState) (c : Connection),
      (producerSystem createEchoPlugin).run (World.listening echoStart) events = some w →
        w.connections 0 = some c → c.stage = .returned →
          TornDown w.producer 0 c.generated := by
  intro claimed
  have evidence : ((producerSystem createEchoPlugin).run (World.listening echoStart) twoIds).any
      (fun w => (w.connections 0).any fun c => c.stage = .returned &&
        c.generated.any (fun id => w.producer.tracker.status id = some .sent) &&
          w.producer.connectedConsumers.items.any (fun info => info.socket = some 0)) = true := by
    decide +kernel
  obtain ⟨w, reached, holds⟩ := (Option.any_eq_true _ _).mp evidence
  obtain ⟨c, present, holds⟩ := (Option.any_eq_true _ _).mp holds
  simp only [Bool.and_eq_true, decide_eq_true_eq] at holds
  obtain ⟨⟨returned, sent⟩, -⟩ := holds
  obtain ⟨id, member, stillSent⟩ := List.any_eq_true.mp sent
  exact (claimed twoIds w c reached present returned).1 id member (of_decide_eq_true stillSent)

end PnC.Guarantees.ConnectionTeardown
