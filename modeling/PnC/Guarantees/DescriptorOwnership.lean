import PnC.Source.SocketDescriptors

/-!
# Who closes a descriptor

A descriptor that a Socket holds is open and is closed once, by that object. What no
object holds is never closed, and Socket::accept makes such a descriptor each time: it
constructs a socket, which opens one, and writes the client's over it.
-/
namespace PnC.Guarantees.DescriptorOwnership

open PnC.Library PnC.Source

/-- The object has its open flag set, on this descriptor. -/
def Holds (p : SocketProcess) (x fd : Nat) : Prop :=
  ∃ impl, p.sockets x = some ⟨some impl⟩ ∧ impl.isOpen = true ∧ impl.sock = some fd

/-- The open descriptors are those that the sockets hold, each held by one of them, and a
descriptor was closed once for every time it was opened and is open no more. -/
structure SocketsOwnDescriptors (p : SocketProcess) : Prop where
  open_iff : ∀ fd, fd ∈ p.os.out ↔ ∃ x, Holds p x fd
  sole : ∀ x y fd, Holds p x fd → Holds p y fd → x = y
  closed_once : ∀ fd,
    p.os.granted.count fd = p.os.released.count fd + if fd ∈ p.os.out then 1 else 0

/-- The clients that ::accept gives to a call, one or none. -/
def clientsGiven (p : SocketProcess) : SocketCall → Nat
  | .accept _ listener (some _) _ =>
    match p.sockets listener with
    | some ⟨some impl⟩ => if impl.transport = .tcp then 1 else 0
    | _ => 0
  | _ => 0

theorem holds_iff (p : SocketProcess) (x fd : Nat) :
    Holds p x fd ↔ p.holding.held x = some fd := by
  unfold Holds
  change _ ↔ (p.sockets x).bind Socket.held = some fd
  constructor
  · intro holds
    obtain ⟨impl, present, isOpen, sock⟩ := holds
    rw [present]
    simp [Socket.held, isOpen, sock]
  · intro held
    obtain ⟨⟨_ | impl⟩, present, has⟩ := Option.bind_eq_some_iff.mp held
    · cases has
    · simp only [Socket.held, Option.bind_some] at has
      split at has
      next isOpen => exact ⟨impl, present, isOpen, has⟩
      next => cases has

/-- With everything backed, the sockets own the descriptors when none is lost. -/
theorem own_iff_none_lost {p : SocketProcess} (backed : Backed p.holding) :
    SocketsOwnDescriptors p ↔ ∀ fd, ¬ Lost p.holding fd := by
  constructor
  · intro own fd lost
    obtain ⟨x, holds⟩ := (own.open_iff fd).mp lost.1
    exact lost.2 x ((holds_iff p x fd).mp holds)
  · intro none_lost
    refine ⟨?_, ?_, ?_⟩
    · intro fd
      simp only [holds_iff]
      constructor
      · intro out
        by_contra nobody
        exact none_lost fd ⟨out, fun x has => nobody ⟨x, has⟩⟩
      · intro holds
        obtain ⟨x, has⟩ := holds
        exact backed.out x fd has
    · intro x y fd first second
      rw [holds_iff] at first second
      exact backed.sole x y fd first second
    · intro fd
      refine (backed.balance fd).trans (congrArg _ ?_)
      exact backed.nodup.count

/-! ## The steps -/

/-- Every other call passes descriptors on as careful owners do. -/
theorem transfers_step {p after : SocketProcess} {call : SocketCall}
    (taken : socketSystem.step p call = some after) (without : clientsGiven p call = 0) :
    Transfers p.holding after.holding := by
  cases call with
  | construct x transport given =>
    simp only [socketSystem] at taken
    split at taken
    next enabled =>
      cases taken
      exact transfers_construct enabled.1 transport enabled.2
    next => cases taken
  | accept x listener client given =>
    simp only [socketSystem] at taken
    split at taken
    next impl present =>
      split at taken
      next enabled =>
        have nobody : impl.transport = .tcp → client = none := by
          intro tcp
          cases client with
          | none => rfl
          | some client => simp [clientsGiven, present, tcp] at without
        rw [accept_without_client nobody] at taken
        cases taken
        rw [holding_vacant enabled.1]
        exact .refl
      next => cases taken
    next => cases taken
  | moveConstruct x other =>
    simp only [socketSystem] at taken
    split at taken
    next s vacant present =>
      cases taken
      rw [holding_move, ← heldBy_of_present present]
      exact transfers_move (heldBy p.sockets) x other p.os (heldBy_of_vacant vacant)
    next => cases taken
  | moveAssign x other =>
    simp only [socketSystem] at taken
    split at taken
    next target s present given =>
      split at taken
      next =>
        cases taken
        exact .refl
      next different =>
        cases taken
        have moved := transfers_move (Function.update (heldBy p.sockets) x none) x other
          (target.close p.os).2 (Function.update_self ..)
        rw [Function.update_of_ne (Ne.symm different), heldBy_of_present given,
          Function.update_comm different, Function.update_idem] at moved
        rw [holding_move]
        exact (transfers_close present).trans moved
    next => cases taken
  | close x =>
    simp only [socketSystem] at taken
    split at taken
    next => cases taken
    next s present =>
      cases taken
      rw [holding_update, Option.bind_some, (s.close_cases p.os).1]
      exact transfers_close present
  | destroy x =>
    simp only [socketSystem] at taken
    split at taken
    next => cases taken
    next s present =>
      cases taken
      rw [holding_update]
      exact transfers_close present

/-- An accept that is given a client loses a descriptor. -/
theorem loses_step {p after : SocketProcess} {call : SocketCall}
    (taken : socketSystem.step p call = some after) (gives : clientsGiven p call ≠ 0) :
    clientsGiven p call = 1 ∧ ∃ (before : Holding Nat Nat) (lost : Nat),
      Transfers p.holding before ∧ lost ∉ before.ledger.out ∧
        after.holding = before.lose lost := by
  unfold clientsGiven at gives ⊢
  split at gives
  next x listener client given =>
    split at gives
    next impl present =>
      by_cases tcp : impl.transport = .tcp
      · simp only [socketSystem, present] at taken
        rw [if_pos tcp]
        refine ⟨rfl, ?_⟩
        split at taken
        next enabled =>
          cases taken
          obtain ⟨vacant, fresh, unused, answered⟩ := enabled
          exact accept_loses vacant tcp (fresh client rfl) unused (answered rfl).1
        next => cases taken
      · exact absurd (if_neg tcp) gives
    next => exact absurd rfl gives
  next => exact absurd rfl gives

/-! ## Runs -/

/-- Along a run everything that a socket holds stays open until that socket is closed, and
the descriptors that are lost are as many as the clients that were accepted. -/
theorem lost_per_client {calls : List SocketCall} {s final : SocketProcess} {lost : List Nat}
    (backed : Backed s.holding) (are : LostAre s.holding lost)
    (replay : socketSystem.run s calls = some final) :
    Backed final.holding ∧ ∃ lost', LostAre final.holding lost' ∧
      lost'.length = lost.length + socketSystem.tally clientsGiven s calls := by
  induction calls generalizing s lost with
  | nil =>
    cases replay
    exact ⟨backed, lost, are, rfl⟩
  | cons call rest ih =>
    obtain ⟨t, taken, later⟩ := TransitionSystem.run_cons_some replay
    have counted : socketSystem.tally clientsGiven s (call :: rest) =
        clientsGiven s call + socketSystem.tally clientsGiven t rest := by
      rw [TransitionSystem.tally, taken]
    by_cases gives : clientsGiven s call = 0
    · have transfers := transfers_step taken gives
      obtain ⟨kept, lost', all, length⟩ := ih (Transfers.backed transfers backed)
        (Transfers.lostAre transfers backed are) later
      exact ⟨kept, lost', all, by omega⟩
    · obtain ⟨one, before, fd, transfers, fresh, loses⟩ := loses_step taken gives
      have backed' := Transfers.backed transfers backed
      have joined := (Transfers.lostAre transfers backed are).lose backed' fresh
      rw [← loses] at joined
      obtain ⟨kept, lost', all, length⟩ := ih (loses ▸ backed'.lose fresh) joined later
      rw [List.length_cons] at length
      exact ⟨kept, lost', all, by omega⟩

/-- A run ends with the sockets owning the descriptors exactly when none of its calls is an
accept to which ::accept gives a client. -/
theorem sockets_own_descriptors_iff (calls : List SocketCall) (final : SocketProcess)
    (replay : socketSystem.run .initial calls = some final) :
    SocketsOwnDescriptors final ↔
      socketSystem.Along (fun p call _ => clientsGiven p call = 0) .initial calls := by
  obtain ⟨backed, lost, are, length⟩ := lost_per_client backed_empty lostAre_empty replay
  rw [own_iff_none_lost backed, ← TransitionSystem.tally_eq_zero_iff]
  have count : lost.length = socketSystem.tally clientsGiven .initial calls := by
    rw [length, List.length_nil, Nat.zero_add]
  rw [← count, List.length_eq_zero_iff, List.eq_nil_iff_forall_not_mem]
  exact forall_congr' fun fd => not_congr (are.2 fd).symm

/-- A listener that is moved and closed. -/
def noClient : List SocketCall :=
  [.construct 0 .tcp (some 3), .moveConstruct 1 0, .close 1, .destroy 1, .destroy 0]

theorem sockets_own_descriptors_iff_no_client :
    ∃ final, socketSystem.run .initial noClient = some final ∧
      (SocketsOwnDescriptors final ↔
        socketSystem.Along (fun p call _ => clientsGiven p call = 0) .initial noClient) :=
  ⟨_, rfl, sockets_own_descriptors_iff noClient _ rfl⟩

/-- A listener that accepts a client; both are closed. -/
def oneClient : List SocketCall :=
  [.construct 0 .tcp (some 3), .accept 1 0 (some 4) (some 5), .close 1, .close 0]

/-- Descriptor 5 is open when no socket is. -/
theorem accept_leaves_a_descriptor :
    ¬ ∀ (calls : List SocketCall) (final : SocketProcess),
      socketSystem.run .initial calls = some final → SocketsOwnDescriptors final := by
  intro claimed
  have own := claimed oneClient _ rfl
  obtain ⟨x, impl, present, isOpen, -⟩ := (own.open_iff 5).mp (by decide)
  match x with
  | 0 | 1 =>
    cases present
    cases isOpen
  | _ + 2 => cases present

end PnC.Guarantees.DescriptorOwnership
