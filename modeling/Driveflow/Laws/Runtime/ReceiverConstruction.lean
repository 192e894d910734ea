import Driveflow.Laws.Runtime.DescriptorOwners
import Driveflow.Runtime.ReceiverConstruction

/-!
# A receiver is made whole, or not at all

Whatever fails in the constructor of the receiver, the exception takes back what was done until
then. One round of its loop adds a listener or changes nothing (`addListener_cases`). So the members
always are what `Built` says they are, and their destruction gives back what was there before them
(`Built.destroyMembers`), in a constructor that throws as in the destructor.
-/

namespace Driveflow.Net.Process

/-- The descriptors that are watched, and those that watch them, are open. -/
def Watched (process : Process) : Prop :=
  ∀ registration ∈ process.registrations,
    registration.epoll ∈ process.descriptors ∧ registration.fileDescriptor ∈ process.descriptors

/-- So many descriptors were opened, and closed again. -/
def wasted (process : Process) (fds : List Nat) : Process :=
  { process with opened := process.opened ++ fds, closed := process.closed ++ fds }

/-- An object with a new descriptor. -/
def opening (process : Process) (this fd : Nat) (description : Description) : Process :=
  (process.openAs fd description).store this (some (fd : Int))

variable {process : Process} {this fd : Nat} {description : Description}

/-- The object holds what was opened for it. -/
theorem fileDescriptor_opening :
    (process.opening this fd description).fileDescriptor this = fd := by
  unfold fileDescriptor opening
  rw [objects_store, if_pos rfl]
  rfl

/-- A call changes what is open under a new descriptor. -/
theorem onSocket_opening {address : Option Sockaddr} {nonBlocking : Bool}
    (change : Option Sockaddr → Bool → Description) :
    (process.opening this fd (.socket address nonBlocking)).onSocket fd change =
      some (process.opening this fd (change address nonBlocking)) := by
  unfold onSocket opening openAs store
  simp [Finmap.insert_insert]

/-- A descriptor that is not open watches nothing and is not watched. -/
theorem not_watched (watched : process.Watched) (free : fd ∉ process.descriptors) :
    process.registrations.filter (fun registration =>
      registration.epoll ≠ fd ∧ registration.fileDescriptor ≠ fd) = process.registrations := by
  apply List.filter_eq_self.mpr
  intro registration hmem
  obtain ⟨hepoll, hfd⟩ := watched registration hmem
  have hfirst : registration.epoll ≠ fd := fun h => free (h ▸ hepoll)
  have hsecond : registration.fileDescriptor ≠ fd := fun h => free (h ▸ hfd)
  simp [hfirst, hsecond]

/-- **An exception that destroys the new object** leaves what was there before. -/
theorem destroy_opening (watched : process.Watched) (free : fd ∉ process.descriptors)
    (vacant : process.objects this = none) :
    UdpSocket.destroy this (process.opening this fd description) = process.wasted [fd] := by
  rw [UdpSocket.destroy_holder fileDescriptor_opening]
  have hdescriptors :
      (process.descriptors.insert fd description).erase fd = process.descriptors := by
    apply Finmap.ext_lookup
    intro number
    by_cases h : number = fd
    · rw [h, Finmap.lookup_erase, Finmap.lookup_eq_none.mpr free]
    · rw [Finmap.lookup_erase_ne h, Finmap.lookup_insert_of_ne _ h]
  have hobjects :
      Function.update (Function.update process.objects this (some (fd : Int))) this none =
        process.objects := by
    rw [Function.update_idem, ← vacant, Function.update_eq_self]
  simp only [opening, openAs, store, close, wasted, hdescriptors, hobjects,
    not_watched watched free]

end Driveflow.Net.Process

namespace Driveflow.Runtime

open Library Net Process

/-- The element of a listener: its socket is open, and watched. -/
def listening (base size epoll fd : Nat) (address : Sockaddr) (process : Process) : Process :=
  { process with
    descriptors := process.descriptors.insert fd (.socket (some address) true)
    registrations := process.registrations ++
      [{ epoll, fileDescriptor := fd, data := BitVec.ofNat 64 size }]
    objects := Function.update process.objects (base + 3 + size) (some fd)
    opened := process.opened ++ [fd] }

namespace EpollReceiver

variable {calls : SocketCalls} {kernel : Kernel} {base size epoll : Nat}
  {requestedEndpoint : Ipv4Endpoint} {process : Process}

/-- The number the kernel gives is not in use. -/
theorem unused_free (kernel : Kernel) (process : Process) :
    kernel.unused process.descriptors.keys ∉ process.descriptors := by
  intro h
  exact kernel.unused_notMem _ (Finmap.mem_keys.mpr h)

/-- The socket of the loop goes through the `Listener` of `push_back` into its element. -/
theorem pushBack_eq {fd : Nat} {address : Sockaddr} (unstored : process.objects (base + 1) = none)
    (temporary : process.objects (base + 2) = none) :
    UdpSocket.destroy (base + 1) (UdpSocket.destroy (base + 2)
      (UdpSocket.moveConstruct (base + 3 + size) (base + 2)
        (UdpSocket.moveConstruct (base + 2) (base + 1)
          { process.opening (base + 1) fd (.socket (some address) true) with
            registrations := process.registrations ++
              [{ epoll, fileDescriptor := fd, data := BitVec.ofNat 64 size }] }))) =
      listening base size epoll fd address process := by
  simp only [UdpSocket.destroy, UdpSocket.moveConstruct, UdpSocket.exchange, opening, openAs, store,
    fileDescriptor, listening]
  have hne : base + 1 ≠ base + 3 + size := by omega
  have hne' : base + 2 ≠ base + 3 + size := by omega
  simp only [UdpSocket.closeSocket, Function.update_self, Int.reduceNeg, Option.getD_some, ne_eq,
    Nat.add_left_cancel_iff, OfNat.ofNat_ne_one, not_false_eq_true, Function.update_of_ne,
    Int.neg_nonneg, Int.reduceLE, ↓reduceIte, OfNat.one_ne_ofNat, hne, Function.update_idem,
    Process.mk.injEq, and_self, and_true, true_and]
  funext address
  simp only [Function.update_apply]
  split_ifs <;> simp_all

/-- The `epoll` descriptor is in its member, and the storage that a round uses is free. -/
structure Ready (base size epoll : Nat) (process : Process) : Prop where
  member : process.objects base = some (epoll : Int)
  epollOpen : process.descriptors.lookup epoll = some .epoll
  vacant : ∀ address, base < address → (∀ index < size, address ≠ base + 3 + index) →
    process.objects address = none
  watched : process.Watched

/-- A socket is bound, or the exception destroys it. -/
theorem bindTo_cases (this fd : Nat) (bind : Sockaddr → Option Sockaddr) :
    (∃ exception, UdpSocket.bindTo calls this requestedEndpoint (some fd) bind process =
        (.error exception,
          UdpSocket.destroy this (process.opening this fd (.socket none false)))) ∨
      ∃ address, UdpSocket.bindTo calls this requestedEndpoint (some fd) bind process =
        (.ok (), process.opening this fd (.socket (some address) false)) := by
  have hopened : UdpSocket.openSocket this (some fd) process =
      (.ok (), process.opening this fd (.socket none false)) := rfl
  unfold UdpSocket.bindTo
  rw [hopened]
  dsimp only
  cases toSockaddr calls requestedEndpoint with
  | error exception => exact .inl ⟨exception, rfl⟩
  | ok requested =>
    dsimp only
    rw [fileDescriptor_opening]
    cases bind requested with
    | none => exact .inl ⟨_, rfl⟩
    | some address =>
      rw [Option.bind_some, onSocket_opening]
      exact .inr ⟨address, rfl⟩

/-- A socket does not block, or an exception says so. -/
theorem setNonBlocking_cases (this fd : Nat) (address : Sockaddr) (getFlags setFlags : Bool) :
    (∃ exception, UdpSocket.setNonBlocking this getFlags setFlags
        (process.opening this fd (.socket (some address) false)) =
          (.error exception, process.opening this fd (.socket (some address) false))) ∨
      UdpSocket.setNonBlocking this getFlags setFlags
        (process.opening this fd (.socket (some address) false)) =
          (.ok (), process.opening this fd (.socket (some address) true)) := by
  unfold UdpSocket.setNonBlocking
  rw [fileDescriptor_opening, onSocket_opening]
  dsimp only
  split_ifs
  · exact .inl ⟨_, rfl⟩
  · exact .inl ⟨_, rfl⟩
  · exact .inr rfl

/-- A bound socket knows its address. -/
theorem localEndpoint_cases (this fd : Nat) (address : Sockaddr) (getsockname : Bool) :
    (∃ exception, localEndpoint calls this getsockname
        (process.opening this fd (.socket (some address) true)) = .error exception) ∨
      ∃ actualEndpoint, fromSockaddr calls address = .ok actualEndpoint ∧
        localEndpoint calls this getsockname
          (process.opening this fd (.socket (some address) true)) = .ok actualEndpoint := by
  have hlookup : (process.opening this fd (.socket (some address) true)).descriptors.lookup fd =
      some (.socket (some address) true) := Finmap.lookup_insert _
  unfold localEndpoint
  rw [fileDescriptor_opening, Int.toNat_natCast, hlookup]
  dsimp only
  split_ifs
  · cases hactual : fromSockaddr calls address with
    | error exception => exact .inl ⟨exception, rfl⟩
    | ok actualEndpoint => exact .inr ⟨actualEndpoint, rfl, rfl⟩
  · exact .inl ⟨_, rfl⟩

/-- The system watches the new socket. -/
theorem epollCtlAdd_opening {fd : Nat} {address : Sockaddr} {data : BitVec 64} {succeeds : Bool}
    (ready : Ready base size epoll process) (free : fd ∉ process.descriptors) :
    epollCtlAdd
      ((process.opening (base + 1) fd (.socket (some address) true)).fileDescriptor base).toNat
      ((process.opening (base + 1) fd
        (.socket (some address) true)).fileDescriptor (base + 1)).toNat data succeeds
      (process.opening (base + 1) fd (.socket (some address) true)) =
      if succeeds = true then
        some { process.opening (base + 1) fd (.socket (some address) true) with
          registrations := process.registrations ++ [{ epoll, fileDescriptor := fd, data }] }
      else none := by
  have hmember : (process.opening (base + 1) fd (.socket (some address) true)).fileDescriptor base =
      epoll := by
    unfold fileDescriptor opening
    rw [objects_store, if_neg (by omega)]
    show (process.objects base).getD (-1) = epoll
    rw [ready.member]
    rfl
  have hdifferent : epoll ≠ fd := by
    rintro rfl
    exact free (Finmap.mem_of_lookup_eq_some ready.epollOpen)
  have hwatching : (process.opening (base + 1) fd (.socket (some address) true)).descriptors.lookup
      epoll = some .epoll := by
    show (process.descriptors.insert fd _).lookup epoll = _
    rw [Finmap.lookup_insert_of_ne _ hdifferent]
    exact ready.epollOpen
  have hopen : fd ∈ (process.opening (base + 1) fd (.socket (some address) true)).descriptors :=
    Finmap.mem_insert.mpr (.inl rfl)
  unfold epollCtlAdd
  rw [hmember, fileDescriptor_opening, Int.toNat_natCast, Int.toNat_natCast]
  simp only [hwatching, hopen, and_true]
  rfl

/-- **One round** adds a listener, or throws and leaves everything as it was. -/
theorem addListener_cases (ready : Ready base size epoll process) :
    (∃ exception lost, addListener calls kernel base size requestedEndpoint process =
        (.error exception, process.wasted lost)) ∨
      ∃ fd address actualEndpoint, fd ∉ process.descriptors ∧
        fromSockaddr calls address = .ok actualEndpoint ∧
        addListener calls kernel base size requestedEndpoint process =
          (.ok actualEndpoint, listening base size epoll fd address process) := by
  have hlocal := ready.vacant (base + 1) (by omega) (fun _ _ => by omega)
  have htemporary := ready.vacant (base + 2) (by omega) (fun _ _ => by omega)
  have hfree := unused_free kernel process
  have hdestroyed (description : Description) := @destroy_opening process (base + 1)
    (kernel.unused process.descriptors.keys) description ready.watched hfree hlocal
  unfold addListener Kernel.descriptor
  generalize kernel.listens size = answers
  generalize kernel.unused process.descriptors.keys = fd at hfree hdestroyed ⊢
  dsimp only
  cases hsocket : answers.socket with
  | false =>
    refine .inl ⟨.systemError "socket", [], ?_⟩
    simp only [UdpSocket.bindTo, UdpSocket.openSocket, wasted, List.append_nil]
    rfl
  | true =>
    rw [if_pos rfl]
    rcases bindTo_cases (base + 1) fd answers.bind with ⟨exception, hbind⟩ | ⟨address, hbind⟩
    · rw [hbind, hdestroyed]
      exact .inl ⟨exception, [fd], rfl⟩
    · rw [hbind]
      dsimp only
      rcases setNonBlocking_cases (base + 1) fd address answers.getFlags answers.setFlags with
        ⟨exception, hflags⟩ | hflags
      · rw [hflags]
        dsimp only
        rw [hdestroyed]
        exact .inl ⟨exception, [fd], rfl⟩
      · rw [hflags]
        dsimp only
        rcases localEndpoint_cases (base + 1) fd address answers.getsockname with
          ⟨exception, hendpoint⟩ | ⟨actualEndpoint, hactual, hendpoint⟩
        · rw [hendpoint]
          dsimp only
          rw [hdestroyed]
          exact .inl ⟨exception, [fd], rfl⟩
        · rw [hendpoint, epollCtlAdd_opening ready hfree]
          dsimp only
          cases answers.epollCtl with
          | false =>
            rw [if_neg (by simp)]
            dsimp only
            rw [hdestroyed]
            exact .inl ⟨_, [fd], rfl⟩
          | true =>
            rw [if_pos rfl]
            dsimp only
            rw [pushBack_eq hlocal htemporary]
            exact .inr ⟨fd, address, actualEndpoint, hfree, hactual, rfl⟩

/-- The members of a receiver, with the `listeners` from the element at `offset` on, beside what was
there before. -/
structure Built (before : Process) (base epoll offset : Nat) (sockets : List (Nat × Sockaddr))
    (process : Process) : Prop where
  distinct : (epoll :: sockets.map Prod.fst).Nodup
  fresh : ∀ fd ∈ epoll :: sockets.map Prod.fst, fd ∉ before.descriptors
  epollOpen : process.descriptors.lookup epoll = some .epoll
  /-- Each socket is bound and does not block. -/
  bound : ∀ socket ∈ sockets,
    process.descriptors.lookup socket.1 = some (.socket (some socket.2) true)
  rest : ∀ fd, fd ∉ epoll :: sockets.map Prod.fst →
    process.descriptors.lookup fd = before.descriptors.lookup fd
  /-- The `epoll` instance watches each socket under the index of its listener. -/
  registrations : process.registrations = before.registrations ++
    (sockets.zipIdx offset).map fun socket =>
      { epoll, fileDescriptor := socket.1.1, data := BitVec.ofNat 64 socket.2 }
  objects : ∀ address, process.objects address =
    if address = base then some (epoll : Int)
    else if base + 3 + offset ≤ address then
      (sockets[address - (base + 3 + offset)]?).map fun socket => (socket.1 : Int)
    else before.objects address
  /-- What was opened since is closed since, or one of these. -/
  ledger : ∀ fd, process.opened.count fd + before.closed.count fd =
    before.opened.count fd + process.closed.count fd +
      (epoll :: sockets.map Prod.fst).count fd

/-- Everything is as it was, and what was opened since is closed since. -/
structure Restored (before process : Process) : Prop where
  descriptors : process.descriptors = before.descriptors
  registrations : process.registrations = before.registrations
  objects : process.objects = before.objects
  ledger : ∀ fd, process.opened.count fd + before.closed.count fd =
    before.opened.count fd + process.closed.count fd

variable {before : Process} {offset : Nat} {sockets : List (Nat × Sockaddr)}

/-- What was open before is open still. -/
theorem Built.mem_of_before (built : Built before base epoll offset sockets process) {fd : Nat}
    (h : fd ∈ before.descriptors) : fd ∈ process.descriptors := by
  have hrest := built.rest fd fun hmem => built.fresh fd hmem h
  obtain ⟨description, hlookup⟩ := Finmap.mem_iff.mp h
  exact Finmap.mem_of_lookup_eq_some (hrest.trans hlookup)

/-- A receiver that is built can be destroyed: its members are where the destructor looks. -/
theorem Built.ready (built : Built before base epoll 0 sockets process)
    (vacant : ∀ address, base ≤ address → before.objects address = none)
    (watched : before.Watched) : Ready base sockets.length epoll process where
  member := by rw [built.objects, if_pos rfl]
  epollOpen := built.epollOpen
  vacant := by
    intro address hlt hnone
    rw [built.objects, if_neg (by omega)]
    split_ifs with hle
    · rw [List.getElem?_eq_none]
      · rfl
      · by_contra hlength
        exact hnone (address - (base + 3 + 0)) (by omega) (by omega)
    · exact vacant address (by omega)
  watched := by
    intro registration hmem
    rw [built.registrations] at hmem
    rcases List.mem_append.mp hmem with hbefore | hnew
    · obtain ⟨hepoll, hfd⟩ := watched registration hbefore
      exact ⟨built.mem_of_before hepoll, built.mem_of_before hfd⟩
    · obtain ⟨socket, hsocket, rfl⟩ := List.mem_map.mp hnew
      have hmem := List.fst_mem_of_mem_zipIdx hsocket
      exact ⟨Finmap.mem_of_lookup_eq_some built.epollOpen,
        Finmap.mem_of_lookup_eq_some (built.bound socket.1 hmem)⟩

/-- Descriptors that were closed again leave the receiver built. -/
theorem Built.wasted (built : Built before base epoll offset sockets process) (lost : List Nat) :
    Built before base epoll offset sockets (process.wasted lost) := by
  refine ⟨built.distinct, built.fresh, built.epollOpen, built.bound, built.rest,
    built.registrations, built.objects, ?_⟩
  intro fd
  have hledger := built.ledger fd
  simp only [Process.wasted, List.count_append]
  omega

/-- A round adds one listener. -/
theorem Built.add (built : Built before base epoll 0 sockets process) {fd : Nat}
    (address : Sockaddr) (free : fd ∉ process.descriptors) :
    Built before base epoll 0 (sockets ++ [(fd, address)])
      (listening base sockets.length epoll fd address process) := by
  have hnot : fd ∉ epoll :: sockets.map Prod.fst := by
    intro hmem
    rcases List.mem_cons.mp hmem with rfl | hmem
    · exact free (Finmap.mem_of_lookup_eq_some built.epollOpen)
    · obtain ⟨socket, hsocket, rfl⟩ := List.mem_map.mp hmem
      exact free (Finmap.mem_of_lookup_eq_some (built.bound socket hsocket))
  have hnumbers : epoll :: (sockets ++ [(fd, address)]).map Prod.fst =
      (epoll :: sockets.map Prod.fst) ++ [fd] := by simp
  constructor
  case distinct =>
    rw [hnumbers]
    exact List.nodup_append'.mpr ⟨built.distinct, List.nodup_singleton fd, by simpa using hnot⟩
  case fresh =>
    intro number hmem
    rw [hnumbers] at hmem
    rcases List.mem_append.mp hmem with hmem | hmem
    · exact built.fresh number hmem
    · rw [List.mem_singleton.mp hmem]
      exact fun h => free (built.mem_of_before h)
  case epollOpen =>
    have hdifferent : epoll ≠ fd := fun h => hnot (h ▸ List.mem_cons_self)
    exact (Finmap.lookup_insert_of_ne _ hdifferent).trans built.epollOpen
  case bound =>
    intro socket hmem
    rcases List.mem_append.mp hmem with hmem | hmem
    · have hdifferent : socket.1 ≠ fd := by
        intro h
        exact hnot (List.mem_cons_of_mem _ (h ▸ List.mem_map_of_mem hmem))
      exact (Finmap.lookup_insert_of_ne _ hdifferent).trans (built.bound socket hmem)
    · rw [List.mem_singleton.mp hmem]
      exact Finmap.lookup_insert _
  case rest =>
    intro number hnumber
    rw [hnumbers, List.mem_append, List.mem_singleton, not_or] at hnumber
    exact (Finmap.lookup_insert_of_ne _ hnumber.2).trans (built.rest number hnumber.1)
  case registrations =>
    simp [listening, built.registrations, List.zipIdx_append]
  case objects =>
    intro location
    have hold := built.objects location
    have hsame (index : Nat) (hindex : index ≠ sockets.length) :
        (sockets ++ [(fd, address)])[index]? = sockets[index]? := by grind
    show Function.update process.objects _ _ location = _
    rw [Function.update_apply, hold]
    by_cases hhere : location = base + 3 + sockets.length
    · rw [if_pos hhere, if_neg (by omega), if_pos (by omega), hhere, Nat.add_zero,
        Nat.add_sub_cancel_left, List.getElem?_concat_length]
      rfl
    · rw [if_neg hhere]
      by_cases hle : base + 3 + 0 ≤ location
      · simp only [if_pos hle, hsame _ (by omega : location - (base + 3 + 0) ≠ sockets.length)]
      · simp only [if_neg hle]
  case ledger =>
    intro number
    have hledger := built.ledger number
    rw [hnumbers, List.count_append]
    simp only [listening, List.count_append]
    omega

/-- The first element of `listeners` is destroyed. -/
theorem Built.destroyFirst {socket : Nat × Sockaddr}
    (built : Built before base epoll offset (socket :: sockets) process)
    (vacant : ∀ address, base ≤ address → before.objects address = none)
    (watched : before.Watched) :
    Built before base epoll (offset + 1) sockets
      (UdpSocket.destroy (base + 3 + offset) process) := by
  have helement : process.fileDescriptor (base + 3 + offset) = socket.1 := by
    unfold fileDescriptor
    rw [built.objects, if_neg (by omega), if_pos (le_refl _), Nat.sub_self]
    rfl
  rw [UdpSocket.destroy_holder helement]
  have hdistinct := built.distinct
  rw [List.map_cons, List.nodup_cons, List.mem_cons, List.nodup_cons, not_or] at hdistinct
  obtain ⟨⟨hepoll, hnotEpoll⟩, hnot, hnodup⟩ := hdistinct
  constructor
  case distinct => exact List.nodup_cons.mpr ⟨hnotEpoll, hnodup⟩
  case fresh =>
    intro fd hmem
    apply built.fresh fd
    rcases List.mem_cons.mp hmem with rfl | hmem
    · exact List.mem_cons_self
    · exact List.mem_cons_of_mem _ (List.mem_cons_of_mem _ hmem)
  case epollOpen => exact (Finmap.lookup_erase_ne hepoll).trans built.epollOpen
  case bound =>
    intro other hmem
    have hdifferent : other.1 ≠ socket.1 := fun h => hnot (h ▸ List.mem_map_of_mem hmem)
    exact (Finmap.lookup_erase_ne hdifferent).trans
      (built.bound other (List.mem_cons_of_mem _ hmem))
  case rest =>
    intro fd hfd
    by_cases hhere : fd = socket.1
    · have hfree := built.fresh fd (by simp [hhere])
      rw [Finmap.lookup_eq_none.mpr hfree, hhere]
      exact Finmap.lookup_erase _ _
    · refine (Finmap.lookup_erase_ne hhere).trans (built.rest fd ?_)
      rw [List.map_cons]
      grind
  case registrations =>
    have hfree := built.fresh socket.1 (by simp)
    show process.registrations.filter _ = _
    rw [built.registrations, List.filter_append, not_watched watched hfree, List.zipIdx_cons,
      List.map_cons, List.filter_cons_of_neg (by simp)]
    congr 1
    apply List.filter_eq_self.mpr
    intro registration hmem
    obtain ⟨other, hother, rfl⟩ := List.mem_map.mp hmem
    have hdifferent : other.1.1 ≠ socket.1 := fun h =>
      hnot (h ▸ List.mem_map_of_mem (List.fst_mem_of_mem_zipIdx hother))
    simp [hepoll, hdifferent]
  case objects =>
    intro address
    have hold := built.objects address
    show Function.update process.objects _ _ address = _
    rw [Function.update_apply, hold]
    by_cases hhere : address = base + 3 + offset
    · rw [if_pos hhere, if_neg (by omega), if_neg (by omega), vacant address (by omega)]
    · rw [if_neg hhere]
      by_cases hle : base + 3 + offset ≤ address
      · obtain ⟨index, rfl⟩ : ∃ index, address = base + 3 + offset + (index + 1) :=
          ⟨address - (base + 3 + offset) - 1, by omega⟩
        rw [if_neg (by omega), if_pos hle, if_neg (by omega), if_pos (by omega),
          Nat.add_sub_cancel_left, List.getElem?_cons_succ]
        congr 2
        omega
      · rw [if_neg hle, if_neg (by omega : ¬ base + 3 + (offset + 1) ≤ address)]
  case ledger =>
    intro fd
    have hledger := built.ledger fd
    show process.opened.count fd + before.closed.count fd =
      before.opened.count fd + (process.closed ++ [socket.1]).count fd + _
    simp only [List.map_cons, List.count_cons, List.count_append, List.count_nil] at hledger ⊢
    omega

/-- The elements are destroyed one after the other. -/
theorem Built.destroyAll (built : Built before base epoll offset sockets process)
    (vacant : ∀ address, base ≤ address → before.objects address = none)
    (watched : before.Watched) :
    Built before base epoll (offset + sockets.length) []
      ((List.range' offset sockets.length).foldl
        (fun process index => UdpSocket.destroy (base + 3 + index) process) process) := by
  induction sockets generalizing offset process with
  | nil => exact built
  | cons socket sockets ih =>
    have hrest := ih (built.destroyFirst vacant watched)
    rw [List.length_cons, List.range'_succ, List.foldl_cons, Nat.add_comm sockets.length 1,
      ← Nat.add_assoc]
    exact hrest

/-- The `epoll` descriptor goes last. -/
theorem Built.restored (built : Built before base epoll offset [] process)
    (vacant : ∀ address, base ≤ address → before.objects address = none)
    (watched : before.Watched) : Restored before (FileDescriptor.destroy base process) := by
  have hmember : process.fileDescriptor base = epoll := by
    unfold fileDescriptor
    rw [built.objects, if_pos rfl]
    rfl
  have hfree := built.fresh epoll (by simp)
  rw [FileDescriptor.destroy_eq, UdpSocket.destroy_holder hmember]
  constructor
  case descriptors =>
    apply Finmap.ext_lookup
    intro fd
    by_cases hfd : fd = epoll
    · rw [hfd, Finmap.lookup_eq_none.mpr hfree]
      exact Finmap.lookup_erase _ _
    · exact (Finmap.lookup_erase_ne hfd).trans (built.rest fd (by simpa using hfd))
  case registrations =>
    show process.registrations.filter _ = _
    rw [built.registrations, List.zipIdx_nil, List.map_nil, List.append_nil]
    exact not_watched watched hfree
  case objects =>
    funext address
    have hold := built.objects address
    show Function.update process.objects _ _ address = _
    rw [Function.update_apply, hold]
    split_ifs with hhere hle
    · rw [vacant address (by omega)]
    · rw [vacant address (by omega)]
      rfl
    · rfl
  case ledger =>
    intro fd
    have hledger := built.ledger fd
    show process.opened.count fd + before.closed.count fd =
      before.opened.count fd + (process.closed ++ [epoll]).count fd
    simp only [List.map_nil, List.count_append] at hledger ⊢
    omega

/-- Destroying the members restores what was there before. -/
theorem Built.destroyMembers (built : Built before base epoll 0 sockets process)
    (vacant : ∀ address, base ≤ address → before.objects address = none)
    (watched : before.Watched) :
    Restored before (destroyMembers base sockets.length process) := by
  have hall := built.destroyAll vacant watched
  rw [← List.range_eq_range'] at hall
  exact hall.restored vacant watched

/-- What each listener says is where its socket is. -/
def Tells (calls : SocketCalls) (sockets : List (Nat × Sockaddr))
    (localEndpoints : List Ipv4Endpoint) : Prop :=
  List.Forall₂ (fun socket endpoint => fromSockaddr calls socket.2 = .ok endpoint) sockets
    localEndpoints

/-- **The loop** builds on, whether it comes to its end or throws. -/
theorem addListeners_built (vacant : ∀ address, base ≤ address → before.objects address = none)
    (watched : before.Watched) (requested : List Ipv4Endpoint) {localEndpoints : List Ipv4Endpoint}
    (built : Built before base epoll 0 sockets process)
    (tells : Tells calls sockets localEndpoints) :
    ∃ thrown after endpoints sockets',
      addListeners calls kernel base requested localEndpoints process =
        (thrown, endpoints, after) ∧
      Built before base epoll 0 sockets' after ∧ Tells calls sockets' endpoints ∧
      (thrown = none → endpoints.length = localEndpoints.length + requested.length) := by
  induction requested generalizing localEndpoints process sockets with
  | nil => exact ⟨none, process, localEndpoints, sockets, rfl, built, tells, fun _ => rfl⟩
  | cons requestedEndpoint requested ih =>
    have hlength : localEndpoints.length = sockets.length := tells.length_eq.symm
    have hcases := @addListener_cases calls kernel base sockets.length epoll requestedEndpoint
      process (built.ready vacant watched)
    rw [addListeners, hlength]
    rcases hcases with ⟨exception, lost, hthrew⟩ |
      ⟨fd, address, actualEndpoint, hfree, hactual, hadded⟩
    · rw [hthrew]
      refine ⟨some exception, _, localEndpoints, sockets, rfl, built.wasted lost, tells, ?_⟩
      intro hnone
      cases hnone
    · rw [hadded]
      have htells : Tells calls (sockets ++ [(fd, address)]) (localEndpoints ++ [actualEndpoint]) :=
        List.rel_append tells (.cons hactual .nil)
      obtain ⟨thrown, after, endpoints, sockets', hloop, hbuilt, hends, hcount⟩ :=
        ih (built.add address hfree) htells
      refine ⟨thrown, after, endpoints, sockets', hloop, hbuilt, hends, ?_⟩
      intro hnone
      rw [hcount hnone, List.length_append, List.length_singleton, List.length_cons, hlength]
      omega

/-- The `epoll` descriptor is the first. -/
theorem built_epoll {fd : Nat} (vacant : ∀ address, base ≤ address → before.objects address = none)
    (free : fd ∉ before.descriptors) :
    Built before base fd 0 [] ((before.openAs fd .epoll).store base (some (fd : Int))) := by
  constructor
  case distinct => exact List.nodup_singleton fd
  case fresh => simpa using free
  case epollOpen => exact Finmap.lookup_insert _
  case bound => simp
  case rest =>
    intro number hnumber
    exact Finmap.lookup_insert_of_ne _ (by simpa using hnumber)
  case registrations => exact (List.append_nil _).symm
  case objects =>
    intro address
    rw [objects_store]
    show (if address = base then _ else before.objects address) = _
    split_ifs with hbase hle
    · rfl
    · rw [vacant address (by omega)]
      rfl
    · rfl
  case ledger =>
    intro number
    show (before.opened ++ [fd]).count number + before.closed.count number =
      before.opened.count number + before.closed.count number + [fd].count number
    rw [List.count_append]
    omega

/-- What the `epoll` instance reports is the index of a listener, and the socket is that listener's:
it is open, does not block, and is where the listener says. -/
def Watches (calls : SocketCalls) (epoll : Nat) (localEndpoints : List Ipv4Endpoint)
    (process : Process) : Prop :=
  ∀ registration ∈ process.registrations, registration.epoll = epoll →
    ∃ endpoint address, localEndpoints[registration.data.toNat]? = some endpoint ∧
      process.descriptors.lookup registration.fileDescriptor =
        some (.socket (some address) true) ∧
      fromSockaddr calls address = .ok endpoint

/-- A receiver that is built watches one bound socket for each listener. -/
theorem Built.watches (built : Built before base epoll 0 sockets process)
    (watched : before.Watched) {localEndpoints : List Ipv4Endpoint}
    (tells : Tells calls sockets localEndpoints) (few : localEndpoints.length ≤ kMaxInt) :
    Watches calls epoll localEndpoints process := by
  intro registration hmem hepoll
  rw [built.registrations] at hmem
  rcases List.mem_append.mp hmem with hbefore | hnew
  · have hopen := (watched registration hbefore).1
    rw [hepoll] at hopen
    exact absurd hopen (built.fresh epoll List.mem_cons_self)
  · obtain ⟨socket, hsocket, rfl⟩ := List.mem_map.mp hnew
    have hindex : sockets[socket.2]? = some socket.1 := List.mem_zipIdx_iff_getElem?.mp hsocket
    obtain ⟨hlt, hget⟩ := List.getElem?_eq_some_iff.mp hindex
    have hlength : sockets.length = localEndpoints.length := tells.length_eq
    have hdata : (BitVec.ofNat 64 socket.2).toNat = socket.2 := by
      rw [BitVec.toNat_ofNat]
      have hmax : kMaxInt = 2147483647 := rfl
      omega
    have hsays := tells.get hlt (hlength ▸ hlt)
    refine ⟨localEndpoints[socket.2], socket.1.2, ?_, ?_, ?_⟩
    · rw [hdata]
      exact List.getElem?_eq_getElem _
    · exact built.bound socket.1 (hget ▸ List.getElem_mem hlt)
    · rw [List.get_eq_getElem, List.get_eq_getElem, hget] at hsays
      exact hsays

/-- What a receiver has when it was constructed. -/
structure Constructed (calls : SocketCalls) (config : EpollReceiverConfig) (before : Process)
    (base : Nat) (receiver : EpollReceiver) (process : Process) : Prop where
  /-- New descriptors of its own, which are watched by one of them. -/
  built : ∃ epoll sockets, Built before base epoll 0 sockets process ∧
    Tells calls sockets receiver.listeners ∧ Watches calls epoll receiver.listeners process
  listeners : receiver.listeners.length = config.listenEndpoints.length
  limit : receiver.maxDatagramsPerListenerPerPoll = config.maxDatagramsPerListenerPerPoll
  /-- Its destructor leaves nothing of it. -/
  restored : Restored before (destroyMembers base receiver.listeners.length process)

/-- `create_epoll` returns what the system made, under a number that was not in use, and the
listeners can be numbered. -/
theorem createEpoll_free {config : EpollReceiverConfig} {fd : Nat}
    (created : createEpoll config (kernel.descriptor process kernel.epollCreate1) = .ok fd) :
    fd ∉ process.descriptors ∧ config.listenEndpoints.length ≤ kMaxInt := by
  have hfree := unused_free kernel process
  unfold createEpoll Kernel.descriptor at created
  split_ifs at created with hnone hzero hmany hmade
  obtain rfl := Except.ok.inj created
  exact ⟨hfree, not_lt.mp hmany⟩

/-- **The constructor leaks nothing**: whichever call fails, its exception leaves every descriptor,
every object and what is watched as it was, and has closed what was opened, each once. -/
theorem construct_restores (config : EpollReceiverConfig)
    (vacant : ∀ address, base ≤ address → before.objects address = none)
    (watched : before.Watched) :
    (∀ exception after, construct calls kernel config base before = (.error exception, after) →
        Restored before after) ∧
      ∀ receiver after, construct calls kernel config base before = (.ok receiver, after) →
        Constructed calls config before base receiver after := by
  unfold construct
  cases hcreated : createEpoll config (kernel.descriptor before kernel.epollCreate1) with
  | error refused =>
    constructor
    · intro exception after h
      obtain ⟨_, rfl⟩ := Prod.mk.inj h
      exact ⟨rfl, rfl, rfl, fun _ => rfl⟩
    · intro receiver after h
      cases (Prod.mk.inj h).1
  | ok fd =>
    dsimp only
    obtain ⟨hfree, hfew⟩ := createEpoll_free hcreated
    obtain ⟨thrown, after, endpoints, sockets, hloop, hbuilt, htells, hcount⟩ :=
      @addListeners_built calls kernel base fd _ before [] vacant watched config.listenEndpoints []
        (built_epoll vacant hfree) .nil
    have hlength : sockets.length = endpoints.length := htells.length_eq
    have hrestored := hbuilt.destroyMembers vacant watched
    rw [hlength] at hrestored
    rw [hloop]
    cases thrown with
    | some exception =>
      constructor
      · intro other next h
        obtain ⟨_, rfl⟩ := Prod.mk.inj h
        exact hrestored
      · intro receiver next h
        cases (Prod.mk.inj h).1
    | none =>
      constructor
      · intro exception next h
        cases (Prod.mk.inj h).1
      · intro receiver next h
        obtain ⟨hreceiver, rfl⟩ := Prod.mk.inj h
        obtain rfl := Except.ok.inj hreceiver
        have hall : endpoints.length = config.listenEndpoints.length :=
          (hcount rfl).trans (Nat.zero_add _)
        have hwatches := hbuilt.watches watched htells (hall ▸ hfew)
        exact ⟨⟨fd, sockets, hbuilt, htells, hwatches⟩, hall, rfl, hrestored⟩

/-- A system where the second listener cannot be watched. -/
def unwatchable : Kernel where
  unused used := used.sup id + 1
  unused_notMem _ h := Nat.not_succ_le_self _ (@Finset.le_sup _ _ _ _ _ id _ h)
  listens index := { epollCtl := index ≠ 1 }

/-- The second `epoll_ctl` fails: the three descriptors opened are closed again, the last one
first. -/
theorem construct_restores_unwatchable : ∃ after,
    construct Owners.wildcardCalls unwatchable { listenEndpoints := [{}, {}] } 0
        { descriptors := Finmap.singleton 0 .other } =
      (.error (.systemError "epoll_ctl(EPOLL_CTL_ADD)"), after) ∧
    after.opened = [1, 2, 3] ∧ after.closed = [3, 2, 1] ∧
    Restored { descriptors := Finmap.singleton 0 .other } after := by
  generalize hresult : construct Owners.wildcardCalls unwatchable { listenEndpoints := [{}, {}] } 0
    { descriptors := Finmap.singleton 0 .other } = result
  have hvalues : (result.1, result.2.opened, result.2.closed) =
      (.error (.systemError "epoll_ctl(EPOLL_CTL_ADD)"), [1, 2, 3], [3, 2, 1]) := by
    rw [← hresult]
    rfl
  obtain ⟨hthrown, hledger⟩ := Prod.mk.inj hvalues
  obtain ⟨hopened, hclosed⟩ := Prod.mk.inj hledger
  have hpair : result = (.error (.systemError "epoll_ctl(EPOLL_CTL_ADD)"), result.2) := by
    rw [← hthrown]
  have hrestores := @construct_restores Owners.wildcardCalls unwatchable 0
    { descriptors := Finmap.singleton 0 .other } { listenEndpoints := [{}, {}] }
    (fun _ _ => rfl) (fun _ h => absurd h List.not_mem_nil)
  exact ⟨result.2, hpair, hopened, hclosed, hrestores.1 _ _ (hresult.trans hpair)⟩

end EpollReceiver

end Driveflow.Runtime
