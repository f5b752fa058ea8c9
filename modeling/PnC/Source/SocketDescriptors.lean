import PnC.Library.Ownership
import PnC.Library.Transition

/-!
# Sockets and their descriptors

The members of class Socket that open and close descriptors. What ::socket and ::accept
answer is an argument, `none` when they fail; the kernel may give a number again once
its descriptor is closed. The ledger of the descriptors records every answer and every
::close. Socket objects are numbered; a constructor that throws makes no object.
-/
namespace PnC.Source

open PnC.Library

inductive Transport where
  | tcp | udp
  deriving DecidableEq

/-- Socket::Impl; `sock` is `none` where it is not valid(). -/
structure SocketImpl where
  sock : Option Nat
  transport : Transport
  isOpen : Bool
  deriving DecidableEq

/-- A Socket; `impl` is `none` in one that was moved from. -/
structure Socket where
  impl : Option SocketImpl
  deriving DecidableEq

/-- The descriptors of the process. -/
abbrev Descriptors := Ledger Nat

/-- A number that the kernel may answer. -/
def Descriptors.Unused (os : Descriptors) (answer : Option Nat) : Prop :=
  ∀ fd ∈ answer, fd ∉ os.out

instance (os : Descriptors) (answer : Option Nat) : Decidable (os.Unused answer) :=
  inferInstanceAs (Decidable (∀ _ ∈ answer, _))

namespace Socket

/-- The constructor. -/
def construct (transport : Transport) (os : Descriptors) (given : Option Nat) :
    Option Socket × Descriptors :=
  match given with
  | none => (none, os)
  | some sock => (some ⟨some ⟨some sock, transport, true⟩⟩, os.grant sock)

/-- close -/
def close (s : Socket) (os : Descriptors) : Socket × Descriptors :=
  match s.impl with
  | none => (s, os)
  | some impl =>
    if impl.isOpen then
      (⟨some { impl with isOpen := false }⟩,
        match impl.sock with
        | some sock => os.release sock
        | none => os)
    else (s, os)

end Socket

/-- Socket::accept. The socket that it returns is constructed like any other, so a
descriptor has been opened for it when the one from ::accept is put in its place. -/
def SocketImpl.accept (listener : SocketImpl) (os : Descriptors) (client given : Option Nat) :
    Option Socket × Descriptors :=
  if listener.transport ≠ .tcp then (none, os)
  else
    match client with
    | none => (none, os)
    | some client =>
      match Socket.construct .tcp (os.grant client) given with
      | (none, os) => (none, os)
      | (some s, os) =>
        (some ⟨s.impl.map fun impl => { impl with sock := some client, isOpen := true }⟩, os)

/-- The objects that exist, and the descriptors. -/
structure SocketProcess where
  sockets : Nat → Option Socket
  os : Descriptors

/-- `x` is the object that is constructed or called; `client` and `given` are what
::accept and ::socket answer. -/
inductive SocketCall where
  | construct (x : Nat) (transport : Transport) (given : Option Nat)
  | accept (x listener : Nat) (client given : Option Nat)
  | moveConstruct (x other : Nat)
  | moveAssign (x other : Nat)
  | close (x : Nat)
  | destroy (x : Nat)

/-- The calls on existing objects, and on unused numbers for new ones. accept reads
`*impl_`, so it is not called on a socket that was moved from; ::accept gives nothing for a
descriptor that is not open. -/
def socketSystem : TransitionSystem SocketProcess SocketCall where
  step p
    | .construct x transport given =>
      if p.sockets x = none ∧ p.os.Unused given then
        let (made, os) := Socket.construct transport p.os given
        some ⟨Function.update p.sockets x made, os⟩
      else none
    | .accept x listener client given =>
      match p.sockets listener with
      | some ⟨some impl⟩ =>
        if p.sockets x = none ∧ p.os.Unused client ∧ p.os.Unused given ∧
            (client.isSome → client ≠ given ∧ ∃ sock ∈ impl.sock, sock ∈ p.os.out) then
          let (made, os) := impl.accept p.os client given
          some ⟨Function.update p.sockets x made, os⟩
        else none
      | _ => none
    | .moveConstruct x other =>
      match p.sockets x, p.sockets other with
      | none, some s =>
        some { p with
          sockets := Function.update (Function.update p.sockets other (some ⟨none⟩)) x (some s) }
      | _, _ => none
    | .moveAssign x other =>
      match p.sockets x, p.sockets other with
      | some target, some s =>
        if x = other then some p
        else
          some ⟨Function.update (Function.update p.sockets other (some ⟨none⟩)) x (some s),
            (target.close p.os).2⟩
      | _, _ => none
    | .close x =>
      match p.sockets x with
      | none => none
      | some s => some ⟨Function.update p.sockets x (some (s.close p.os).1), (s.close p.os).2⟩
    | .destroy x =>
      match p.sockets x with
      | none => none
      | some s => some ⟨Function.update p.sockets x none, (s.close p.os).2⟩

/-- No sockets. -/
def SocketProcess.initial : SocketProcess := ⟨fun _ => none, .empty⟩

/-! ## Who holds a descriptor -/

/-- The descriptor of a socket whose open flag is set. -/
def Socket.held (s : Socket) : Option Nat :=
  s.impl.bind fun impl => if impl.isOpen then impl.sock else none

def heldBy (sockets : Nat → Option Socket) (x : Nat) : Option Nat := (sockets x).bind Socket.held

def SocketProcess.holding (p : SocketProcess) : Holding Nat Nat := ⟨heldBy p.sockets, p.os⟩

theorem heldBy_of_present {sockets : Nat → Option Socket} {x : Nat} {s : Socket}
    (present : sockets x = some s) : heldBy sockets x = s.held :=
  congrArg (Option.bind · Socket.held) present

theorem heldBy_of_vacant {sockets : Nat → Option Socket} {x : Nat} (vacant : sockets x = none) :
    heldBy sockets x = none := congrArg (Option.bind · Socket.held) vacant

theorem heldBy_update (sockets : Nat → Option Socket) (x : Nat) (s : Option Socket) :
    heldBy (Function.update sockets x s) =
      Function.update (heldBy sockets) x (s.bind Socket.held) := by
  funext y
  by_cases same : y = x
  · rw [same, heldBy, Function.update_self, Function.update_self]
  · rw [heldBy, Function.update_of_ne same, Function.update_of_ne same]
    rfl

theorem holding_update (sockets : Nat → Option Socket) (x : Nat) (s : Option Socket)
    (os : Descriptors) :
    (SocketProcess.mk (Function.update sockets x s) os).holding =
      ⟨Function.update (heldBy sockets) x (s.bind Socket.held), os⟩ :=
  congrArg (Holding.mk · os) (heldBy_update sockets x s)

/-- A closed socket holds nothing, and what it held has been closed. -/
theorem Socket.close_cases (s : Socket) (os : Descriptors) :
    (s.close os).1.held = none ∧
      (s.held = none ∧ (s.close os).2 = os ∨
        ∃ sock, s.held = some sock ∧ (s.close os).2 = os.release sock) := by
  obtain ⟨_ | ⟨sock, transport, isOpen⟩⟩ := s
  · exact ⟨rfl, Or.inl ⟨rfl, rfl⟩⟩
  · cases isOpen with
    | false => exact ⟨rfl, Or.inl ⟨rfl, rfl⟩⟩
    | true =>
      cases sock with
      | none => exact ⟨rfl, Or.inl ⟨rfl, rfl⟩⟩
      | some sock => exact ⟨rfl, Or.inr ⟨sock, rfl, rfl⟩⟩

theorem transfers_close {p : SocketProcess} {x : Nat} {s : Socket}
    (present : p.sockets x = some s) :
    Transfers p.holding ⟨Function.update (heldBy p.sockets) x none, (s.close p.os).2⟩ := by
  have holds := heldBy_of_present present
  obtain ⟨-, ⟨nothing, same⟩ | ⟨sock, has, closed⟩⟩ := s.close_cases p.os
  · rw [same, ← holds.trans nothing, Function.update_eq_self]
    exact .refl
  · rw [closed]
    exact .single (.handBack x sock (holds.trans has))

/-- An owner that holds nothing takes over what the other holds. -/
theorem transfers_move (held : Nat → Option Nat) (x other : Nat) (os : Descriptors)
    (free : held x = none) :
    Transfers ⟨held, os⟩
      ⟨Function.update (Function.update held other none) x (held other), os⟩ := by
  have moved : Transfer ⟨held, os⟩ ⟨held ∘ Equiv.swap x other, os⟩ := .exchange x other
  rw [Equiv.comp_swap_eq_update, free] at moved
  exact .single moved

theorem holding_move (sockets : Nat → Option Socket) (x other : Nat) (s : Socket)
    (os : Descriptors) :
    (SocketProcess.mk
      (Function.update (Function.update sockets other (some ⟨none⟩)) x (some s)) os).holding =
      ⟨Function.update (Function.update (heldBy sockets) other none) x s.held, os⟩ := by
  rw [holding_update, heldBy_update]
  rfl

/-- A new object with nothing to hold changes nobody's descriptors. -/
theorem holding_vacant {p : SocketProcess} {x : Nat} (vacant : p.sockets x = none)
    (os : Descriptors) :
    (SocketProcess.mk (Function.update p.sockets x none) os).holding = ⟨p.holding.held, os⟩ := by
  rw [← vacant, Function.update_eq_self]
  rfl

/-- A constructor that does not throw gives the new object its descriptor. -/
theorem transfers_construct {p : SocketProcess} {x : Nat} (vacant : p.sockets x = none)
    (transport : Transport) {given : Option Nat} (unused : p.os.Unused given) :
    Transfers p.holding
      (SocketProcess.mk (Function.update p.sockets x (Socket.construct transport p.os given).1)
        (Socket.construct transport p.os given).2).holding := by
  cases given with
  | none =>
    rw [Socket.construct, holding_vacant vacant]
    exact .refl
  | some sock =>
    rw [Socket.construct, holding_update]
    exact .single (.give x sock (heldBy_of_vacant vacant) (unused sock rfl))

/-- An accept that throws before it has a client changes nothing. -/
theorem accept_without_client {listener : SocketImpl} {client : Option Nat}
    (without : listener.transport = .tcp → client = none) (os : Descriptors) (given : Option Nat) :
    listener.accept os client given = (none, os) := by
  unfold SocketImpl.accept
  split
  next => rfl
  next tcp => rw [without (Decidable.not_not.mp tcp)]

/-- An accept that has a client loses a descriptor: the one of the client when no socket
can be constructed, else the one that was opened for the new socket. -/
theorem accept_loses {p : SocketProcess} {x : Nat} (vacant : p.sockets x = none)
    {listener : SocketImpl} (tcp : listener.transport = .tcp) {client : Nat}
    {given : Option Nat} (fresh : client ∉ p.os.out) (unused : p.os.Unused given)
    (apart : some client ≠ given) :
    ∃ (before : Holding Nat Nat) (lost : Nat),
      Transfers p.holding before ∧ lost ∉ before.ledger.out ∧
        (SocketProcess.mk
          (Function.update p.sockets x (listener.accept p.os (some client) given).1)
          (listener.accept p.os (some client) given).2).holding = before.lose lost := by
  rw [SocketImpl.accept, if_neg (Decidable.not_not.mpr tcp)]
  cases given with
  | none =>
    refine ⟨p.holding, client, .refl, fresh, ?_⟩
    dsimp only [Socket.construct]
    exact holding_vacant vacant _
  | some sock =>
    refine ⟨_, sock, .single (.give x client (heldBy_of_vacant vacant) fresh), ?_, ?_⟩
    · intro member
      obtain same | out := List.mem_cons.mp member
      · exact apart (congrArg some same.symm)
      · exact unused sock rfl out
    · dsimp only [Socket.construct]
      exact holding_update ..

end PnC.Source
