import Driveflow.Runtime.DescriptorOwners

/-!
# Every descriptor has one owner

Of all objects that own descriptors, in every order of their operations and whatever the rest of the
process opens and closes in between: what they opened and have not closed is held by exactly one of
them, and is open. So nothing leaks, nothing is closed twice, and no descriptor of anybody else is
closed by mistake, although its number may have been theirs before.

An operation makes a new owner (`Owned.opens`), hands a descriptor on (`Owned.exchange`), gives one
back (`Owned.closeSocket`) or changes what is open under it (`Owned.onSocket`).
-/

namespace Driveflow.Net.Process

/-- An object's call opened it, and it is open. -/
def ours (process : Process) (fd : Nat) : Bool :=
  match process.descriptors.lookup fd with
  | none => false
  | some .other => false
  | some _ => true

/-- The descriptors of the rest of the process. -/
def others (process : Process) : Set Nat := {fd | process.descriptors.lookup fd = some .other}

/-- **One owner for each descriptor.** -/
structure Owned (process : Process) : Prop where
  held : ∀ {address fd : Nat}, process.objects address = some (fd : Int) →
    process.ours fd = true
  sole : ∀ {first second fd : Nat}, process.objects first = some (fd : Int) →
    process.objects second = some (fd : Int) → first = second
  covered : ∀ {fd : Nat}, process.ours fd = true →
    ∃ address, process.objects address = some (fd : Int)
  balanced : ∀ fd, process.opened.count fd =
    process.closed.count fd + if process.ours fd then 1 else 0

variable {process next : Process} {this other fd : Nat} {description : Description}
  {object : Option Int}

/-- The rest of the process has what is open and was opened by none of the objects. -/
theorem mem_others :
    fd ∈ process.others ↔ process.descriptors.lookup fd = some .other := Iff.rfl

/-- Storing writes one object. -/
theorem objects_store (address : Nat) : (process.store this object).objects address =
    if address = this then object else process.objects address :=
  Function.update_apply _ _ _ _

/-- A descriptor opened by an object becomes one of ours. -/
theorem ours_openAs (different : description ≠ .other) (number : Nat) :
    (process.openAs fd description).ours number =
      if number = fd then true else process.ours number := by
  unfold ours openAs
  dsimp only
  split_ifs with h
  · subst h
    rw [Finmap.lookup_insert]
    cases description with
    | other => exact absurd rfl different
    | socket => rfl
    | epoll => rfl
  · rw [Finmap.lookup_insert_of_ne _ h]

/-- A closed descriptor is ours no longer. -/
theorem ours_close (number : Nat) :
    (process.close fd).ours number = if number = fd then false else process.ours number := by
  unfold ours close
  dsimp only
  split_ifs with h
  · rw [h, Finmap.lookup_erase]
  · rw [Finmap.lookup_erase_ne h]

/-- What is not open is not ours. -/
theorem ours_of_free (free : fd ∉ process.descriptors) : process.ours fd = false := by
  unfold ours
  rw [Finmap.lookup_eq_none.mpr free]

/-- What an object holds. -/
theorem exists_fileDescriptor (alive : process.objects this ≠ none) :
    ∃ number, process.objects this = some number ∧ process.fileDescriptor this = number := by
  obtain ⟨number, hnumber⟩ := Option.ne_none_iff_exists'.mp alive
  refine ⟨number, hnumber, ?_⟩
  rw [fileDescriptor, hnumber]
  rfl

/-- A new object, and a new descriptor in it. -/
theorem Owned.opens (h : process.Owned) (free : fd ∉ process.descriptors)
    (different : description ≠ .other) (vacant : process.objects this = none) :
    ((process.openAs fd description).store this (some fd)).Owned := by
  have hnot := ours_of_free free
  have hours (number : Nat) : ((process.openAs fd description).store this (some fd)).ours number =
      if number = fd then true else process.ours number := ours_openAs different number
  have hobjects (address : Nat) :
      ((process.openAs fd description).store this (some fd)).objects address =
        if address = this then some (fd : Int) else process.objects address :=
    objects_store address
  constructor
  case held =>
    intro address number hheld
    rw [hobjects] at hheld
    rw [hours]
    have hold := @h.held address number
    grind
  case sole =>
    intro first second number hfirst hsecond
    rw [hobjects] at hfirst hsecond
    have hfirst' := @h.held first number
    have hsecond' := @h.held second number
    have hsole := @h.sole first second number
    grind
  case covered =>
    intro number hnumber
    rw [hours] at hnumber
    have hold := @h.covered number
    grind
  case balanced =>
    intro number
    have hold := h.balanced number
    rw [hours]
    show (process.opened ++ [fd]).count number = process.closed.count number + _
    grind

/-- An object gives its descriptor back, and holds none after that. -/
theorem Owned.closeSocket (h : process.Owned) (alive : process.objects this ≠ none)
    (empty : ∀ fd : Nat, object ≠ some (fd : Int)) :
    ((UdpSocket.closeSocket (process.fileDescriptor this) process).store this object).Owned := by
  obtain ⟨number, hnumber, hmember⟩ := exists_fileDescriptor alive
  rw [hmember, UdpSocket.closeSocket]
  split_ifs with hopen
  · obtain ⟨fd, rfl⟩ := Int.eq_ofNat_of_zero_le hopen
    have hours (number : Nat) : ((process.close fd).store this object).ours number =
        if number = fd then false else process.ours number := ours_close number
    have hobjects (address : Nat) : ((process.close fd).store this object).objects address =
        if address = this then object else process.objects address := objects_store address
    have hfd := h.held hnumber
    rw [Int.toNat_natCast]
    constructor
    case held =>
      intro address number hheld
      rw [hobjects] at hheld
      rw [hours]
      have hold := @h.held address number
      have hsole := @h.sole address this number
      grind
    case sole =>
      intro first second number hfirst hsecond
      rw [hobjects] at hfirst hsecond
      have hsole := @h.sole first second number
      grind
    case covered =>
      intro other hother
      rw [hours] at hother
      have hold := @h.covered other
      grind
    case balanced =>
      intro other
      have hold := h.balanced other
      rw [hours]
      show process.opened.count other = (process.closed ++ [fd]).count other + _
      grind
  · have hobjects (address : Nat) : (process.store this object).objects address =
        if address = this then object else process.objects address := objects_store address
    constructor
    case held =>
      intro address number hheld
      rw [hobjects] at hheld
      have hold := @h.held address number
      show process.ours number = true
      grind
    case sole =>
      intro first second number hfirst hsecond
      rw [hobjects] at hfirst hsecond
      have hsole := @h.sole first second number
      grind
    case balanced => exact h.balanced
    case covered =>
      intro other hother
      obtain ⟨address, haddress⟩ := h.covered hother
      refine ⟨address, ?_⟩
      rw [hobjects, if_neg ?_]
      · exact haddress
      · rintro rfl
        rw [hnumber] at haddress
        have := Option.some.inj haddress
        omega

/-- A descriptor changes its owner. -/
theorem Owned.exchange (h : process.Owned) (different : this ≠ other)
    (empty : ∀ fd : Nat, process.objects this ≠ some (fd : Int))
    (alive : process.objects other ≠ none) : (UdpSocket.exchange this other process).Owned := by
  obtain ⟨number, hnumber, hmember⟩ := exists_fileDescriptor alive
  have hobjects (address : Nat) : (UdpSocket.exchange this other process).objects address =
      if address = other then some (-1)
      else if address = this then some number else process.objects address := by
    rw [UdpSocket.exchange, objects_store, objects_store, hmember]
  constructor
  case held =>
    intro address fd hheld
    rw [hobjects] at hheld
    have hold := @h.held address fd
    have hmoved := @h.held other fd
    show process.ours fd = true
    grind
  case sole =>
    intro first second fd hfirst hsecond
    rw [hobjects] at hfirst hsecond
    have hsole := @h.sole first second fd
    have hfirst' := @h.sole first other fd
    have hsecond' := @h.sole second other fd
    grind
  case covered =>
    intro fd hfd
    obtain ⟨address, haddress⟩ := h.covered hfd
    by_cases hmoves : address = other
    · refine ⟨this, ?_⟩
      rw [hobjects, if_neg different, if_pos rfl, ← hnumber, ← hmoves, haddress]
    · refine ⟨address, ?_⟩
      rw [hobjects, if_neg hmoves, if_neg ?_]
      · exact haddress
      · rintro rfl
        exact empty fd haddress
  case balanced => exact h.balanced

/-- What is open is the same, and so is who has it. -/
theorem Owned.congr (h : process.Owned) (hours : next.ours = process.ours)
    (hobjects : next.objects = process.objects) (hopened : next.opened = process.opened)
    (hclosed : next.closed = process.closed) : next.Owned := by
  constructor
  case held =>
    intro address fd hheld
    rw [hours]
    exact h.held (hobjects ▸ hheld)
  case sole =>
    intro first second fd hfirst hsecond
    exact h.sole (hobjects ▸ hfirst) (hobjects ▸ hsecond)
  case covered =>
    intro fd hfd
    rw [hobjects]
    exact h.covered (hours ▸ hfd)
  case balanced =>
    intro fd
    rw [hours, hopened, hclosed]
    exact h.balanced fd

/-- What a call that changes a socket leaves as it was. -/
theorem onSocket_same {number : Int} {change : Option Sockaddr → Bool → Description}
    (socket : ∀ address nonBlocking, ∃ address' nonBlocking',
      change address nonBlocking = .socket address' nonBlocking')
    (changed : process.onSocket number change = some next) :
    next.ours = process.ours ∧ next.others = process.others ∧ next.objects = process.objects ∧
      next.opened = process.opened ∧ next.closed = process.closed := by
  unfold onSocket at changed
  split_ifs at changed with hopen
  split at changed
  next address nonBlocking hlookup =>
    obtain rfl := Option.some.inj changed
    obtain ⟨address', nonBlocking', hchange⟩ := socket address nonBlocking
    refine ⟨?_, ?_, rfl, rfl, rfl⟩
    · funext fd
      unfold ours
      dsimp only
      by_cases hfd : fd = number.toNat
      · rw [hfd, Finmap.lookup_insert, hlookup, hchange]
      · rw [Finmap.lookup_insert_of_ne _ hfd]
    · ext fd
      simp only [mem_others]
      by_cases hfd : fd = number.toNat
      · rw [hfd, Finmap.lookup_insert, hlookup, hchange]
        simp
      · rw [Finmap.lookup_insert_of_ne _ hfd]
  next => cases changed

/-- The rest of the process is left alone by what is opened beside it. -/
theorem others_openAs (free : fd ∉ process.descriptors) (different : description ≠ .other) :
    (process.openAs fd description).others = process.others := by
  ext number
  simp only [mem_others, openAs]
  by_cases h : number = fd
  · rw [h, Finmap.lookup_insert, Finmap.lookup_eq_none.mpr free]
    simp [different]
  · rw [Finmap.lookup_insert_of_ne _ h]

/-- What an owner closes is no other's. -/
theorem others_closeSocket (h : process.Owned) (alive : process.objects this ≠ none) :
    (UdpSocket.closeSocket (process.fileDescriptor this) process).others = process.others := by
  obtain ⟨number, hnumber, hmember⟩ := exists_fileDescriptor alive
  rw [hmember, UdpSocket.closeSocket]
  split_ifs with hopen
  · obtain ⟨fd, rfl⟩ := Int.eq_ofNat_of_zero_le hopen
    have hours := h.held hnumber
    rw [Int.toNat_natCast]
    ext other
    simp only [mem_others, close]
    by_cases hfd : other = fd
    · rw [hfd, Finmap.lookup_erase]
      unfold ours at hours
      constructor
      · intro hnone
        cases hnone
      · intro hother
        rw [hother] at hours
        cases hours
    · rw [Finmap.lookup_erase_ne hfd]
  · rfl

end Driveflow.Net.Process

namespace Driveflow.Net.UdpSocket

open Process

variable {process next : Process} {this other : Nat} {socket : Option Nat}

/-- What an object held before it is given another descriptor does not matter. -/
theorem exchange_store (different : this ≠ other) (object : Option Int) :
    exchange this other (process.store this object) = exchange this other process := by
  unfold exchange
  have hmember : (process.store this object).fileDescriptor other =
      process.fileDescriptor other := by
    unfold fileDescriptor
    rw [objects_store, if_neg different.symm]
  rw [hmember]
  unfold store
  dsimp only
  rw [Function.update_idem]

/-- The destructor of an object that holds a descriptor. -/
theorem destroy_holder {fd : Nat} (holds : process.fileDescriptor this = fd) :
    destroy this process = (process.close fd).store this none := by
  rw [destroy, holds, closeSocket, if_pos (Int.natCast_nonneg fd), Int.toNat_natCast]

/-- `close_socket` writes no object. -/
theorem objects_closeSocket (number : Int) :
    (closeSocket number process).objects = process.objects := by
  unfold closeSocket
  split_ifs <;> rfl

/-- A destructor closes what its object owns and nothing of the rest. -/
theorem destroy_owned (h : process.Owned) (alive : process.objects this ≠ none) :
    (destroy this process).Owned ∧ (destroy this process).others = process.others :=
  ⟨h.closeSocket alive (by simp), others_closeSocket h alive⟩

/-- A move construction passes the descriptor on, to one owner. -/
theorem moveConstruct_owned (h : process.Owned) (vacant : process.objects this = none)
    (alive : process.objects other ≠ none) : (moveConstruct this other process).Owned := by
  apply h.exchange ?_ ?_ alive
  · rintro rfl
    exact alive vacant
  · simp [vacant]

/-- **The assignment** gives back what the object held, unless it is the same object. -/
theorem moveAssign_owned (h : process.Owned) (here : process.objects this ≠ none)
    (there : process.objects other ≠ none) :
    (moveAssign this other process).Owned ∧
      (moveAssign this other process).others = process.others := by
  unfold moveAssign
  split_ifs with hdifferent
  · refine ⟨?_, others_closeSocket h here⟩
    have hreset : ∀ fd : Nat, some (-1 : Int) ≠ some (fd : Int) := by
      intro fd heq
      have hnegative := Option.some.inj heq
      omega
    have hclosed := h.closeSocket here hreset
    rw [← exchange_store hdifferent (some (-1))]
    apply hclosed.exchange hdifferent
    · simp [objects_store]
    · rw [objects_store, if_neg (Ne.symm hdifferent), objects_closeSocket]
      exact there
  · exact ⟨h, rfl⟩

/-- A new socket is owned by the object that opened it, if it opened one. -/
theorem openSocket_owned (h : process.Owned) (vacant : process.objects this = none)
    (free : ∀ fd ∈ socket, fd ∉ process.descriptors) :
    (openSocket this socket process).2.Owned ∧
      (openSocket this socket process).2.others = process.others := by
  cases socket with
  | none => exact ⟨h, rfl⟩
  | some fd =>
    have hfree := free fd rfl
    exact ⟨h.opens hfree (by simp) vacant, others_openAs hfree (by simp)⟩

/-- **A socket that could not be bound is closed**: the exception destroys it. -/
theorem bindTo_owned (calls : SocketCalls) (localEndpoint : Ipv4Endpoint)
    (bind : Sockaddr → Option Sockaddr) (h : process.Owned) (vacant : process.objects this = none)
    (free : ∀ fd ∈ socket, fd ∉ process.descriptors) :
    (bindTo calls this localEndpoint socket bind process).2.Owned ∧
      (bindTo calls this localEndpoint socket bind process).2.others = process.others := by
  have hopened := openSocket_owned h vacant free
  cases socket with
  | none => exact hopened
  | some fd =>
    obtain ⟨howned, hothers⟩ := hopened
    have halive : (openSocket this (some fd) process).2.objects this ≠ none := by
      show (Process.store _ this (some (fd : Int))).objects this ≠ none
      rw [objects_store, if_pos rfl]
      simp
    unfold bindTo
    simp only [openSocket] at howned hothers halive ⊢
    generalize (process.openAs fd (.socket none false)).store this (some (fd : Int)) = opened
      at howned hothers halive ⊢
    obtain ⟨hdestroyed, hsame⟩ := destroy_owned howned halive
    rw [hothers] at hsame
    split
    · exact ⟨hdestroyed, hsame⟩
    · split
      · exact ⟨hdestroyed, hsame⟩
      next bound hbound =>
        obtain ⟨_, _, hchanged⟩ := Option.bind_eq_some_iff.mp hbound
        obtain ⟨hours, hrest, hobjects, hopened, hclosed⟩ :=
          onSocket_same (fun _ _ => ⟨_, _, rfl⟩) hchanged
        exact ⟨howned.congr hours hobjects hopened hclosed, hrest.trans hothers⟩

/-- Setting the flags opens and closes nothing and passes nothing on. -/
theorem setNonBlocking_owned (getFlags setFlags : Bool) (h : process.Owned) :
    (setNonBlocking this getFlags setFlags process).2.Owned ∧
      (setNonBlocking this getFlags setFlags process).2.others = process.others := by
  unfold setNonBlocking
  split
  · exact ⟨h, rfl⟩
  next changed hchanged =>
    obtain ⟨hours, hrest, hobjects, hopened, hclosed⟩ :=
      onSocket_same (fun _ _ => ⟨_, _, rfl⟩) hchanged
    split_ifs
    · exact ⟨h, rfl⟩
    · exact ⟨h, rfl⟩
    · exact ⟨h.congr hours hobjects hopened hclosed, hrest⟩

end Driveflow.Net.UdpSocket

namespace Driveflow.Runtime

open Library Net Process UdpSocket

variable {process next : Process} {this other : Nat}

namespace FileDescriptor

/-- What the class writes over a descriptor it has closed does not show. -/
theorem store_close (object : Option Int) :
    (close this process).store this object =
      (closeSocket (process.fileDescriptor this) process).store this object := by
  unfold close closeSocket
  split_ifs
  · simp only [store, Function.update_idem]
  · rfl

/-- An epoll descriptor is destroyed as a socket is. -/
theorem destroy_eq : destroy this process = UdpSocket.destroy this process := store_close none

/-- An epoll descriptor is assigned as a socket is. -/
theorem moveAssign_eq :
    moveAssign this other process = UdpSocket.moveAssign this other process := by
  unfold moveAssign UdpSocket.moveAssign
  split_ifs with hdifferent
  · rw [← exchange_store hdifferent none, store_close, exchange_store hdifferent]
  · rfl

end FileDescriptor

namespace Owners

/-- What the rest of the process has open after it. -/
def Other.apply : Other → Set Nat → Set Nat
  | .opens fd, others => insert fd others
  | .closes fd, others => others \ {fd}

def Action.other? : Action → Option Other
  | .other action => some action
  | _ => none

/-- Beside the objects, a descriptor is opened. -/
theorem opensOther {fd : Nat} (h : process.Owned) (free : fd ∉ process.descriptors) :
    Owned { process with descriptors := process.descriptors.insert fd .other } ∧
      others { process with descriptors := process.descriptors.insert fd .other } =
        insert fd process.others := by
  have hfree := Finmap.lookup_eq_none.mpr free
  constructor
  · refine h.congr ?_ rfl rfl rfl
    funext number
    by_cases hnumber : number = fd
    · subst hnumber
      simp [ours, hfree]
    · simp [ours, hnumber]
  · ext number
    rw [Set.mem_insert_iff, mem_others, mem_others]
    by_cases hnumber : number = fd
    · subst hnumber
      simp
    · simp [hnumber]

/-- Beside the objects, a descriptor is closed. -/
theorem closesOther {fd : Nat} (h : process.Owned)
    (isOther : process.descriptors.lookup fd = some .other) :
    Owned { process with descriptors := process.descriptors.erase fd } ∧
      others { process with descriptors := process.descriptors.erase fd } =
        process.others \ {fd} := by
  constructor
  · refine h.congr ?_ rfl rfl rfl
    funext number
    by_cases hnumber : number = fd
    · subst hnumber
      simp [ours, isOther]
    · simp [ours, hnumber]
  · ext number
    rw [Set.mem_sdiff, mem_others, mem_others, Set.mem_singleton_iff]
    by_cases hnumber : number = fd
    · subst hnumber
      simp
    · simp [hnumber]

/-- **What one step preserves**, and what it does to the rest of the process. -/
theorem perform_owned {calls : SocketCalls} {action : Action} (h : process.Owned)
    (step : perform calls process action = some next) :
    next.Owned ∧ next.others = (action.other?).elim process.others (·.apply process.others) := by
  have hguard {holds : Prop} [Decidable holds] {result : Process}
      (enabled : (if holds then some result else none) = some next) : holds ∧ result = next := by
    split_ifs at enabled with hholds
    exact ⟨hholds, Option.some.inj enabled⟩
  cases action with
  | openSocket this socket =>
    obtain ⟨⟨hvacant, hfree⟩, rfl⟩ := hguard step
    exact openSocket_owned h hvacant hfree
  | bindTo this localEndpoint socket bind =>
    obtain ⟨⟨hvacant, hfree⟩, rfl⟩ := hguard step
    exact bindTo_owned calls localEndpoint _ h hvacant hfree
  | setNonBlocking this getFlags setFlags =>
    obtain ⟨_, rfl⟩ := hguard step
    exact setNonBlocking_owned getFlags setFlags h
  | moveSocket this other =>
    obtain ⟨⟨hvacant, halive⟩, rfl⟩ := hguard step
    exact ⟨moveConstruct_owned h hvacant halive, rfl⟩
  | assignSocket this other =>
    obtain ⟨⟨hhere, hthere⟩, rfl⟩ := hguard step
    exact moveAssign_owned h hhere hthere
  | destroySocket this =>
    obtain ⟨halive, rfl⟩ := hguard step
    exact destroy_owned h halive
  | createEpoll this epollCreate1 =>
    obtain ⟨⟨hvacant, hfree⟩, rfl⟩ := hguard step
    exact ⟨h.opens hfree (by simp) hvacant, others_openAs hfree (by simp)⟩
  | moveDescriptor this other =>
    obtain ⟨⟨hvacant, halive⟩, rfl⟩ := hguard step
    exact ⟨moveConstruct_owned h hvacant halive, rfl⟩
  | assignDescriptor this other =>
    obtain ⟨⟨hhere, hthere⟩, rfl⟩ := hguard step
    rw [FileDescriptor.moveAssign_eq]
    exact moveAssign_owned h hhere hthere
  | destroyDescriptor this =>
    obtain ⟨halive, rfl⟩ := hguard step
    rw [FileDescriptor.destroy_eq]
    exact destroy_owned h halive
  | other action =>
    cases action with
    | opens fd =>
      obtain ⟨hfree, rfl⟩ := hguard step
      exact opensOther h hfree
    | closes fd =>
      obtain ⟨hother, rfl⟩ := hguard step
      exact closesOther h hother

/-- What the rest of the process has open after its own steps. -/
def othersAfter (inherited : Finmap fun _ : Nat => Description) (trace : List Action) : Set Nat :=
  (trace.filterMap Action.other?).foldl (fun others action => action.apply others)
    {fd | fd ∈ inherited}

/-- What is open, and whose it is. -/
structure Accounted (inherited : Finmap fun _ : Nat => Description) (trace : List Action)
    (process : Process) : Prop where
  owned : process.Owned
  others : process.others = othersAfter inherited trace
  /-- When the objects are gone, nothing of theirs is left. -/
  gone : (∀ address, process.objects address = none) →
    ∀ fd, fd ∈ process.descriptors ↔ fd ∈ othersAfter inherited trace

/-- **Every descriptor has one owner**, in every order of the operations of all objects and whatever
the rest of the process does in between: what the objects opened and have not closed is open, and
one of them holds it. The rest of the process has what it opened itself and did not close. -/
theorem descriptors_owned {calls : SocketCalls} {inherited : Finmap fun _ : Nat => Description}
    {trace : List Action} (run : (system calls inherited).Reaches trace process) :
    Accounted inherited trace process := by
  have hrun : process.Owned ∧ process.others = othersAfter inherited trace := by
    apply run.invariant fun trace process =>
      process.Owned ∧ process.others = othersAfter inherited trace
    · rintro process ⟨rfl, hinherited⟩
      have hours (fd : Nat) : ours { descriptors := inherited } fd = false := by
        by_cases hfd : fd ∈ inherited
        · simp [ours, hinherited fd hfd]
        · exact ours_of_free hfd
      constructor
      · constructor
        case held => simp
        case sole => simp
        case covered => simp [hours]
        case balanced => simp [hours]
      · ext fd
        rw [mem_others]
        exact ⟨Finmap.mem_of_lookup_eq_some, hinherited fd⟩
    · intro trace process action next _ hbefore step
      obtain ⟨howned, hothers⟩ := hbefore
      obtain ⟨hnext, hafter⟩ := perform_owned howned step
      refine ⟨hnext, ?_⟩
      unfold othersAfter at hothers ⊢
      rw [hafter, hothers, List.filterMap_append, List.foldl_append]
      cases haction : action.other? <;> simp [haction]
  obtain ⟨howned, hothers⟩ := hrun
  refine ⟨howned, hothers, ?_⟩
  intro hgone fd
  rw [← hothers, mem_others]
  constructor
  · intro hopen
    obtain ⟨description, hlookup⟩ := Finmap.mem_iff.mp hopen
    rw [hlookup]
    by_contra hdifferent
    have hours : process.ours fd = true := by
      unfold ours
      rw [hlookup]
      cases description with
      | other => exact absurd rfl hdifferent
      | socket => rfl
      | epoll => rfl
    obtain ⟨address, haddress⟩ := howned.covered hours
    rw [hgone] at haddress
    cases haddress
  · intro hother
    exact Finmap.mem_of_lookup_eq_some hother

/-- Every text is the wildcard address. -/
def wildcardCalls : SocketCalls where
  inetPton := fun _ => some 0
  inetNtop := fun _ => some "0.0.0.0"
  sendto := fun _ _ => none

/-- A socket is moved into a vector and destroyed where it was made, another one cannot be bound,
and the rest of the process gets a number that was the socket's. -/
def reusedNumber : List Action :=
  [.createEpoll 0 3, .openSocket 1 (some 4), .moveSocket 2 1, .destroySocket 1,
    .bindTo 1 { address := "0.0.0.0" } (some 5) none, .assignSocket 2 2, .destroySocket 2,
    .other (.opens 4), .destroyDescriptor 0]

/-- A number is closed and used again, a `bind` fails, and an object is assigned to itself. -/
theorem descriptors_owned_reusedNumber : ∃ process : Process, process.closed = [5, 4, 3] ∧
    Accounted (Finmap.singleton 0 .other) reusedNumber process := by
  have hstart : (system wildcardCalls (Finmap.singleton 0 .other)).Reaches []
      { descriptors := Finmap.singleton 0 .other } := by
    refine .start ⟨rfl, fun fd hfd => ?_⟩
    rw [Finmap.mem_singleton] at hfd
    rw [hfd]
    rfl
  have hperformed : (performAll
      (fun process action => (perform wildcardCalls process action).map fun next => (next, action))
      { descriptors := Finmap.singleton 0 .other } reusedNumber).map
        (fun result => (result.1.closed, result.2)) = some ([5, 4, 3], reusedNumber) := rfl
  obtain ⟨result, hresult, hvalues⟩ := Option.map_eq_some_iff.mp hperformed
  obtain ⟨hclosed, hlabels⟩ := Prod.mk.inj hvalues
  have hrun := hstart.performAll (fun state action label next h => ?_) reusedNumber hresult
  · rw [List.nil_append, hlabels] at hrun
    exact ⟨result.1, hclosed, descriptors_owned hrun⟩
  · obtain ⟨_, hstep, hpair⟩ := Option.map_eq_some_iff.mp h
    obtain ⟨rfl, rfl⟩ := Prod.mk.inj hpair
    exact hstep

end Owners

end Driveflow.Runtime
