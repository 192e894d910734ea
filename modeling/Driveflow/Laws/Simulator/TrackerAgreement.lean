import Driveflow.Laws.Runtime.OneSource
import Driveflow.Laws.Simulator.Datagrams

/-!
# The simulator and the tracker agree

A receiver that gets every datagram of a run in the order in which it was sent hands the tracker the
numbers of the plan, each as often as it was copied. Between two kept numbers at most one is
dropped, so everything arrives well inside the window of the tracker, and each fault of the plan
meets the branch that is meant for it: a number ahead skips the dropped ones and the one that is
held, the held half of a swap comes late, a second copy is a duplicate.
-/

namespace Driveflow.Simulator

open Library Net Protocol Driveflow.Runtime Session

/-! ## Arrivals -/

/-- What the tracker has made of the arrivals `sequenceNumbers` of the numbers `numbers`, of which
`top` is the highest. -/
structure Judged (sequenceNumbers : List (BitVec 64)) (numbers : List Nat) (top : Nat)
    (duplicates reordered : Nat) (missing : Int) : Prop where
  history : ∃ history, sequenceHistory sequenceNumbers = some history ∧ history.high = top ∧
    ∀ k : Nat, (k : Int) ∈ history.seen ↔ k ∈ numbers
  first : (verdicts sequenceNumbers).countP (fun verdict => verdict.1 = .kFirst) = 1
  duplicate : (verdicts sequenceNumbers).countP (fun verdict => verdict.1 = .kDuplicate) = duplicates
  late : (verdicts sequenceNumbers).countP (fun verdict => verdict.1 = .kReordered) = reordered
  skipped : ((verdicts sequenceNumbers).map Prod.snd).sum = missing

/-- The first arrival. -/
theorem judged_first {k : Nat} (small : k < 2 ^ 64) : Judged [number k] [k] k 0 0 0 where
  history := by
    refine ⟨History.start k, ?_, rfl, fun k' => ?_⟩
    · change some (History.start (number k).toNat) = _
      rw [toNat_number small]
    · change (k' : Int) ∈ [(k : Int)] ↔ k' ∈ [k]
      rw [List.mem_singleton, List.mem_singleton, Nat.cast_inj]
  first := rfl
  duplicate := rfl
  late := rfl
  skipped := rfl

namespace Judged

variable {sequenceNumbers : List (BitVec 64)} {numbers : List Nat} {top k : Nat}
  {duplicates reordered : Nat} {missing : Int}

/-- A number near the mark is unwrapped to itself. -/
theorem position_number (below : top < k + 2 ^ 63) (above : k < top + 2 ^ 63) :
    Serial.position (top : Int) (number k) = k := by
  have hnumber : number k = BitVec.ofInt 64 (k : Int) := (BitVec.ofInt_natCast 64 k).symm
  rw [hnumber]
  exact Serial.position_ofInt (by omega) (by omega) (by decide)

/-- One more arrival, with its verdict. -/
theorem arrive (h : Judged sequenceNumbers numbers top duplicates reordered missing)
    (below : top < k + 2 ^ 63) (above : k < top + 2 ^ 63) (status : SequenceStatus) (skips : Int)
    (verdict : ∀ history : History, history.high = top →
      (∀ k : Nat, (k : Int) ∈ history.seen ↔ k ∈ numbers) →
        classify history k = (status, skips))
    (later : status ≠ .kFirst) :
    Judged (sequenceNumbers ++ [number k]) (numbers ++ [k]) (max top k)
      (duplicates + if status = .kDuplicate then 1 else 0)
      (reordered + if status = .kReordered then 1 else 0) (missing + skips) := by
  obtain ⟨history, hhistory, hhigh, hseen⟩ := h.history
  have hposition : Serial.position history.high (number k) = k := by
    rw [hhigh]
    exact position_number below above
  have hverdict : expectedStatus (sequenceHistory sequenceNumbers) (number k) = (status, skips) := by
    rw [hhistory]
    change classify history (Serial.position history.high (number k)) = _
    rw [hposition]
    exact verdict history hhigh hseen
  have hverdicts := verdicts_concat sequenceNumbers (number k)
  rw [hverdict] at hverdicts
  have hcount (kind : SequenceStatus) :
      (verdicts (sequenceNumbers ++ [number k])).countP (fun verdict => verdict.1 = kind) =
        (verdicts sequenceNumbers).countP (fun verdict => verdict.1 = kind) +
          if status = kind then 1 else 0 := by
    rw [hverdicts, countP_status_concat]
  refine ⟨⟨history.record k, ?_, ?_, fun k' => ?_⟩, ?_, ?_, ?_, ?_⟩
  · rw [sequenceHistory_concat, hhistory]
    change some (history.record (Serial.position history.high (number k))) = _
    rw [hposition]
  · change max history.high (k : Int) = _
    rw [hhigh, Nat.cast_max]
  · change (k' : Int) ∈ (k : Int) :: history.seen ↔ k' ∈ numbers ++ [k]
    rw [List.mem_cons, hseen, Nat.cast_inj, List.mem_append, List.mem_singleton, or_comm]
  · rw [hcount, h.first, if_neg later]
  · rw [hcount, h.duplicate]
  · rw [hcount, h.late]
  · rw [hverdicts, List.map_append, List.sum_append, h.skipped, List.map_singleton,
      List.sum_singleton]

/-- A number ahead: what lies between is missed. -/
theorem forward (h : Judged sequenceNumbers numbers top duplicates reordered missing)
    (ahead : top < k) (near : k < top + 2 ^ 63) :
    Judged (sequenceNumbers ++ [number k]) (numbers ++ [k]) k duplicates reordered
      (missing + (k - top - 1 : Int)) := by
  have hnext := Nat.succ_le_of_lt ahead
  have hmax : max top k = k := max_eq_right (Nat.le_of_lt ahead)
  rcases Nat.eq_or_lt_of_le hnext with heq | hgap
  · have harrive := h.arrive (by omega) near .kInOrder 0
      (fun history hhigh _ => by
        have hk : (k : Int) = history.high + 1 := by omega
        rw [hk, classify_next]) nofun
    have hskips : (k - top - 1 : Int) = 0 := by omega
    rwa [hmax, ← hskips] at harrive
  · have harrive := h.arrive (by omega) near .kGap (k - top - 1 : Int)
      (fun history hhigh _ => by
        have hk : (k : Int) = history.high + ((k - top : Nat) : Int) := by omega
        have hskips : (((k - top) - 1 : Nat) : Int) = k - top - 1 := by omega
        rw [hk, classify_ahead history (by omega), hskips]
        exact congrArg _ (by omega)) nofun
    rwa [hmax] at harrive

/-- A number behind that has not been seen. -/
theorem arriveLate (h : Judged sequenceNumbers numbers top duplicates reordered missing)
    (behind : k < top) (near : top < k + 64) (fresh : k ∉ numbers) :
    Judged (sequenceNumbers ++ [number k]) (numbers ++ [k]) top duplicates (reordered + 1)
      missing := by
  have harrive := h.arrive (k := k) (by omega) (by omega) .kReordered 0
    (fun history hhigh hseen => by
      have hk : (k : Int) = history.high - ((top - k : Nat) : Int) := by omega
      have hunseen : (k : Int) ∉ history.seen := fun hmem => fresh ((hseen k).mp hmem)
      rw [hk] at hunseen ⊢
      exact classify_late fun _ => hunseen) nofun
  rw [max_eq_left (Nat.le_of_lt behind)] at harrive
  simpa using harrive

/-- A number that has been seen. -/
theorem arriveAgain (h : Judged sequenceNumbers numbers top duplicates reordered missing)
    (behind : k ≤ top) (near : top < k + 64) (seen : k ∈ numbers) :
    Judged (sequenceNumbers ++ [number k]) numbers top (duplicates + 1) reordered missing := by
  have harrive := h.arrive (k := k) (by omega) (by omega) .kDuplicate 0
    (fun history hhigh hseen => by
      have hk : (k : Int) = history.high - ((top - k : Nat) : Int) := by omega
      have hmem := (hseen k).mpr seen
      rw [hk] at hmem ⊢
      exact classify_seen (by omega) hmem) nofun
  rw [max_eq_left behind] at harrive
  obtain ⟨⟨history, hhistory, hhigh, hseen⟩, hfirst, hduplicate, hlate, hskipped⟩ := harrive
  refine ⟨⟨history, hhistory, hhigh, fun k' => ?_⟩, hfirst, hduplicate, hlate,
    hskipped.trans (Int.add_zero missing)⟩
  rw [hseen, List.mem_append, List.mem_singleton]
  exact ⟨fun h => h.elim id fun heq => heq ▸ seen, .inl⟩

end Judged

/-! ## Packets -/

section Packets

variable (faults : FaultInjectionConfig)

/-- The packet is sent twice. -/
def duplicated (k : Nat) : Bool := matchesInterval faults.duplicateEvery (number k)

/-- The sequence numbers of the copies of a packet. -/
def copyNumbers (k : Nat) : List (BitVec 64) :=
  [number k] ++ if duplicated faults k then [number k] else []

/-- The sequence numbers that arrive for the packets of these numbers. -/
def arrivalsOf (numbers : List Nat) : List (BitVec 64) := numbers.flatMap (copyNumbers faults)

/-- What is missed between the first and the highest number: the dropped ones and the held halves of
swaps. -/
def missed (swaps : List (Nat × Nat)) (first top : Nat) : Finset Nat :=
  (Finset.Ioo first top).filter fun s => dropped faults s = true ∨ s ∈ swaps.map Prod.fst

/-- The arrivals of the packets of some numbers met the branches they should. -/
structure Agreement (numbers : List Nat) (reordered : Nat) (swaps : List (Nat × Nat))
    (first top : Nat) : Prop where
  head : numbers.head? = some first
  mem : top ∈ numbers
  highest : ∀ k ∈ numbers, k ≤ top
  judged : Judged (arrivalsOf faults numbers) numbers top (numbers.countP (duplicated faults))
    reordered (missed faults swaps first top).card

variable {faults} {numbers : List Nat} {swaps : List (Nat × Nat)} {first top k : Nat}

theorem arrivalsOf_concat (numbers : List Nat) (k : Nat) :
    arrivalsOf faults (numbers ++ [k]) =
      arrivalsOf faults numbers ++ [number k] ++
        if duplicated faults k then [number k] else [] := by
  rw [arrivalsOf, List.flatMap_append, List.flatMap_singleton, copyNumbers, ← List.append_assoc,
    arrivalsOf]

variable (faults) in
/-- The second copy follows the first. -/
theorem Judged.copy {sequenceNumbers : List (BitVec 64)} {duplicates reordered : Nat}
    {missing : Int}
    (h : Judged (sequenceNumbers ++ [number k]) (numbers ++ [k]) top duplicates reordered missing)
    (behind : k ≤ top) (near : top < k + 64) :
    Judged (sequenceNumbers ++ [number k] ++ if duplicated faults k then [number k] else [])
      (numbers ++ [k]) top (duplicates + if duplicated faults k then 1 else 0) reordered missing := by
  cases duplicated faults k with
  | true => exact h.arriveAgain behind near (List.mem_append_right _ List.mem_cons_self)
  | false =>
    rw [if_neg Bool.false_ne_true, if_neg Bool.false_ne_true, List.append_nil, Nat.add_zero]
    exact h

/-- The tracker agrees on a stream of one packet. -/
theorem agreement_first (small : k < 2 ^ 64) (swaps : List (Nat × Nat)) :
    Agreement faults [k] 0 swaps k k where
  head := rfl
  mem := List.mem_cons_self
  highest k' h := Nat.le_of_eq (List.mem_singleton.mp h)
  judged := by
    have hnone : missed faults swaps k k = ∅ := by
      rw [missed, Finset.Ioo_self, Finset.filter_empty]
    have hfirst : Judged ([] ++ [number k]) ([] ++ [k]) k 0 0 0 := judged_first small
    have hcopy := hfirst.copy faults (Nat.le_refl k) (Nat.lt_add_of_pos_right (by decide))
    have harrivals : arrivalsOf faults [k] =
        [] ++ [number k] ++ if duplicated faults k then [number k] else [] :=
      arrivalsOf_concat [] k
    rw [hnone, List.countP_singleton, harrivals]
    rw [Nat.zero_add] at hcopy
    exact hcopy

/-- What is missed when a number ahead arrives: what was, and all between the marks. -/
theorem card_missed_forward (ordered : first ≤ top) (ahead : top < k)
    (topKept : ¬ (dropped faults top = true ∨ top ∈ swaps.map Prod.fst))
    (between : ∀ s, top < s → s < k → dropped faults s = true ∨ s ∈ swaps.map Prod.fst) :
    ((missed faults swaps first k).card : Int) =
      (missed faults swaps first top).card + (k - top - 1 : Int) := by
  have hsplit : missed faults swaps first k =
      missed faults swaps first top ∪ Finset.Ioo top k := by
    ext s
    rw [Finset.mem_union, missed, missed, Finset.mem_filter, Finset.mem_filter, Finset.mem_Ioo,
      Finset.mem_Ioo, Finset.mem_Ioo]
    constructor
    · rintro ⟨⟨hlow, hhigh⟩, hmissed⟩
      rcases Nat.lt_trichotomy s top with hlt | rfl | hgt
      · exact .inl ⟨⟨hlow, hlt⟩, hmissed⟩
      · exact absurd hmissed topKept
      · exact .inr ⟨hgt, hhigh⟩
    · rintro (⟨⟨hlow, hhigh⟩, hmissed⟩ | ⟨hlow, hhigh⟩)
      · exact ⟨⟨hlow, Nat.lt_trans hhigh ahead⟩, hmissed⟩
      · exact ⟨⟨Nat.lt_of_le_of_lt ordered hlow, hhigh⟩, between s hlow hhigh⟩
  have hdisjoint : Disjoint (missed faults swaps first top) (Finset.Ioo top k) := by
    rw [Finset.disjoint_left]
    intro s hs hs'
    have hbelow := (Finset.mem_Ioo.mp (Finset.mem_filter.mp hs).1).2
    exact Nat.lt_asymm hbelow (Finset.mem_Ioo.mp hs').1
  rw [hsplit, Finset.card_union_of_disjoint hdisjoint, Nat.card_Ioo]
  omega

namespace Agreement

variable {reordered : Nat}

theorem first_le (h : Agreement faults numbers reordered swaps first top) : first ≤ top :=
  h.highest first (List.mem_of_mem_head? h.head)

/-- A swap whose held half is not below the mark misses nothing so far. -/
theorem addSwap (h : Agreement faults numbers reordered swaps first top) (swap : Nat × Nat)
    (above : top ≤ swap.1) : Agreement faults numbers reordered (swaps ++ [swap]) first top where
  head := h.head
  mem := h.mem
  highest := h.highest
  judged := by
    have hsame : missed faults (swaps ++ [swap]) first top = missed faults swaps first top := by
      refine Finset.filter_congr fun s hs => ?_
      have hbelow := (Finset.mem_Ioo.mp hs).2
      rw [List.map_append, List.mem_append, List.map_singleton, List.mem_singleton]
      refine or_congr_right ⟨fun h => h.elim id fun heq => ?_, .inl⟩
      exact absurd (heq ▸ hbelow) (Nat.not_lt.mpr above)
    rw [hsame]
    exact h.judged

/-- A packet ahead, with its copies. -/
theorem forward (h : Agreement faults numbers reordered swaps first top) (ahead : top < k)
    (near : k < top + 2 ^ 63)
    (topKept : ¬ (dropped faults top = true ∨ top ∈ swaps.map Prod.fst))
    (between : ∀ s, top < s → s < k → dropped faults s = true ∨ s ∈ swaps.map Prod.fst) :
    Agreement faults (numbers ++ [k]) reordered swaps first k where
  head := by rw [List.head?_append, h.head]; rfl
  mem := List.mem_append_right _ List.mem_cons_self
  highest k' hk' := by
    rcases List.mem_append.mp hk' with hk' | hk'
    · exact Nat.le_of_lt (Nat.lt_of_le_of_lt (h.highest k' hk') ahead)
    · exact Nat.le_of_eq (List.mem_singleton.mp hk')
  judged := by
    have hcopy := (h.judged.forward ahead near).copy faults (Nat.le_refl k)
      (Nat.lt_add_of_pos_right (by decide))
    rw [arrivalsOf_concat, List.countP_append, List.countP_singleton,
      card_missed_forward h.first_le ahead topKept between]
    exact hcopy

/-- The held half of a swap, with its copies. -/
theorem late (h : Agreement faults numbers reordered swaps first top) (behind : k < top)
    (near : top < k + 64) (fresh : k ∉ numbers) :
    Agreement faults (numbers ++ [k]) (reordered + 1) swaps first top where
  head := by rw [List.head?_append, h.head]; rfl
  mem := List.mem_append_left _ h.mem
  highest k' hk' := by
    rcases List.mem_append.mp hk' with hk' | hk'
    · exact h.highest k' hk'
    · exact List.mem_singleton.mp hk' ▸ Nat.le_of_lt behind
  judged := by
    have hcopy := (h.judged.arriveLate behind near fresh).copy faults (Nat.le_of_lt behind) near
    rw [arrivalsOf_concat, List.countP_append, List.countP_singleton]
    exact hcopy

end Agreement

end Packets

/-! ## The numbers of the plan lie close together -/

section Close

variable {faults : FaultInjectionConfig} {m k : Nat}

/-- Where a number is kept, no two in a row are dropped. -/
theorem not_dropped_twice (small : k < 2 ^ 64) (kept : dropped faults k = false) {s : Nat}
    (inside : s + 1 < 2 ^ 64) (hs : dropped faults s = true) :
    dropped faults (s + 1) = false := by
  by_contra hnext
  rw [Bool.not_eq_false] at hnext
  obtain ⟨every, hevery, hdvd⟩ := (matchesInterval_iff (Nat.lt_of_succ_lt inside)).mp hs
  obtain ⟨every', hevery', hdvd'⟩ := (matchesInterval_iff inside).mp hnext
  obtain rfl := Option.some.inj (hevery.symm.trans hevery')
  have hone : every.toNat ∣ 1 := (Nat.dvd_add_right hdvd).mp hdvd'
  have hall : dropped faults k = true :=
    (matchesInterval_iff small).mpr ⟨every, hevery, hone.trans (one_dvd k)⟩
  rw [kept] at hall
  cases hall

/-- Where a number is kept no two in a row are dropped, so it is at most two above the last one
kept. -/
theorem le_add_two (small : k < 2 ^ 64) (kept : dropped faults k = false) {low : Nat}
    (between : ∀ s, low < s → s < k → dropped faults s = true) : k ≤ low + 2 := by
  by_contra hfar
  have hfirst := between (low + 1) (by omega) (by omega)
  have hsecond := between (low + 2) (by omega) (by omega)
  rw [not_dropped_twice small kept (s := low + 1) (by omega) hfirst] at hsecond
  cases hsecond

/-- With the slot free, a number that is not out is dropped. -/
theorem dropped_of_free (free : (plan faults m).held = none) {top s : Nat}
    (highest : ∀ k ∈ (plan faults m).emitted, k ≤ top) (above : top < s) (within : s ≤ m) :
    dropped faults s = true := by
  by_contra hkept
  rw [Bool.not_eq_true] at hkept
  have hmem := mem_order_plan.mpr ⟨⟨by omega, within⟩, hkept⟩
  rw [ReorderBuffer.order, free, Option.toList_none, List.append_nil] at hmem
  exact Nat.not_lt.mpr (highest s hmem) above

/-- The number that is held is kept, above all that are out, and all other numbers above these are
dropped. -/
theorem held_spec {waiting : Nat} (held : (plan faults m).held = some waiting) :
    dropped faults waiting = false ∧ 1 ≤ waiting ∧ waiting ≤ m ∧
      (∀ k ∈ (plan faults m).emitted, k < waiting) ∧
      ∀ top, (∀ k ∈ (plan faults m).emitted, k ≤ top) →
        ∀ s, top < s → s ≤ m → s ≠ waiting → dropped faults s = true := by
  have hwaiting : waiting ∈ (plan faults m).order := by
    rw [ReorderBuffer.order, held]
    exact List.mem_append_right _ List.mem_cons_self
  obtain ⟨⟨hpositive, hwithin⟩, hkept⟩ := mem_order_plan.mp hwaiting
  obtain ⟨earlier, hearlier, hperm⟩ := ReorderBuffer.pushAll_held _ held
  have hsorted : (keptNumbers faults m).Pairwise (· < ·) := pairwise_keptNumbers m
  rw [hearlier, List.pairwise_append] at hsorted
  refine ⟨hkept, hpositive, hwithin, fun k hk => ?_, fun top highest s above within hne => ?_⟩
  · exact hsorted.2.2 k (hperm.mem_iff.mp hk) waiting List.mem_cons_self
  · by_contra hs
    rw [Bool.not_eq_true] at hs
    have hmem := mem_order_plan.mpr ⟨⟨by omega, within⟩, hs⟩
    rw [ReorderBuffer.order, held, Option.toList_some, List.mem_append, List.mem_singleton] at hmem
    rcases hmem with hmem | rfl
    · exact Nat.not_lt.mpr (highest s hmem) above
    · exact hne rfl

/-- Who waited came before who went first. -/
theorem swaps_ordered (m : Nat) : ∀ swap ∈ (plan faults m).swaps, swap.1 < swap.2 := by
  induction m with
  | zero => exact fun _ h => absurd h List.not_mem_nil
  | succ m ih =>
    obtain ⟨released, completed, step⟩ := plan_step faults m
    rw [step.swaps]
    intro swap hswap
    rcases List.mem_append.mp hswap with hswap | hswap
    · exact ih swap hswap
    · cases step with
      | dropped | sent | held => exact absurd hswap List.not_mem_nil
      | swapped _ hheld =>
        rw [List.mem_singleton.mp hswap]
        exact Nat.lt_succ_of_le (held_spec hheld).2.2.1

/-- The highest number that is out is neither dropped nor the held half of a swap. -/
theorem top_kept {top : Nat} (mem : top ∈ (plan faults m).emitted)
    (highest : ∀ k ∈ (plan faults m).emitted, k ≤ top) :
    ¬ (dropped faults top = true ∨ top ∈ (plan faults m).swaps.map Prod.fst) := by
  rintro (hdropped | hheld)
  · have hkept := (mem_order_plan.mp (List.mem_append_left _ mem)).2
    rw [hdropped] at hkept
    cases hkept
  · obtain ⟨swap, hswap, rfl⟩ := List.mem_map.mp hheld
    have hpartner := highest _ (mem_emitted_of_mem_swaps_plan hswap).2
    exact Nat.not_lt.mpr hpartner (swaps_ordered m swap hswap)

end Close

/-! ## The plan arrives -/

section Plan

variable {faults : FaultInjectionConfig} {m : Nat}

/-- **What is out after `m` packets met the branches it should.** -/
theorem agreement_emitted (faults : FaultInjectionConfig) (small : m < 2 ^ 64) :
    (plan faults m).emitted = [] ∧ (plan faults m).swaps = [] ∨
      ∃ first top, Agreement faults (plan faults m).emitted (plan faults m).swaps.length
        (plan faults m).swaps first top := by
  induction m with
  | zero => exact .inl ⟨rfl, rfl⟩
  | succ m ih =>
    have hearlier := ih (Nat.lt_of_succ_lt small)
    obtain ⟨released, completed, step⟩ := plan_step faults m
    cases step with
    | dropped _ hplan => rwa [hplan]
    | held _ _ _ hplan => rwa [hplan]
    | sent hkept hfree _ hplan =>
      rw [hplan]
      rcases hearlier with ⟨hnone, hnoSwap⟩ | ⟨first, top, hagree⟩
      · rw [hnone, hnoSwap]
        exact .inr ⟨_, _, agreement_first small []⟩
      · have htop := (mem_order_plan.mp (List.mem_append_left _ hagree.mem)).1.2
        have hbetween (s : Nat) (hlow : top < s) (hhigh : s < m + 1) : dropped faults s = true :=
          dropped_of_free hfree hagree.highest hlow (Nat.le_of_lt_succ hhigh)
        have hnear := le_add_two small hkept hbetween
        exact .inr ⟨first, m + 1, hagree.forward (Nat.lt_succ_of_le htop) (by omega)
          (top_kept hagree.mem hagree.highest) fun s hlow hhigh => .inl (hbetween s hlow hhigh)⟩
    | @swapped waiting hkept hheld hplan =>
      obtain ⟨hwaitingKept, hpositive, hwithin, hbelow, hdropped⟩ := held_spec hheld
      have hsmall : waiting < 2 ^ 64 := by omega
      have hnearPartner : m + 1 ≤ waiting + 2 :=
        le_add_two small hkept fun s hlow hhigh =>
          hdropped waiting (fun k hk => Nat.le_of_lt (hbelow k hk)) s hlow
            (Nat.le_of_lt_succ hhigh) (Nat.ne_of_gt hlow)
      have hfresh : waiting ∉ (plan faults m).emitted ++ [m + 1] := by
        intro hmem
        rcases List.mem_append.mp hmem with hmem | hmem
        · exact Nat.lt_irrefl _ (hbelow waiting hmem)
        · rw [List.mem_singleton.mp hmem] at hwithin
          exact Nat.not_succ_le_self m hwithin
      rw [hplan]
      have hpair : (plan faults m).emitted ++ [m + 1, waiting] =
          (plan faults m).emitted ++ [m + 1] ++ [waiting] := by
        rw [List.append_assoc]
        rfl
      rw [hpair, List.length_append, List.length_singleton]
      have hbehind := Nat.lt_succ_of_le hwithin
      refine .inr ?_
      rcases hearlier with ⟨hnone, hnoSwap⟩ | ⟨first, top, hagree⟩
      · rw [hnone] at hfresh ⊢
        rw [hnoSwap]
        exact ⟨m + 1, m + 1, (agreement_first small _).late hbehind (by omega) hfresh⟩
      · have htop := hbelow top hagree.mem
        have hnear : waiting ≤ top + 2 :=
          le_add_two hsmall hwaitingKept fun s hlow hhigh =>
            hdropped top hagree.highest s hlow (by omega) (Nat.ne_of_lt hhigh)
        refine ⟨first, m + 1, Agreement.late ?_ hbehind (by omega) hfresh⟩
        refine (hagree.addSwap (waiting, m + 1) (Nat.le_of_lt htop)).forward
          (by omega) (by omega) ?_ fun s hlow hhigh => ?_
        · rintro (hdrop | hswap)
          · exact top_kept hagree.mem hagree.highest (.inl hdrop)
          · rw [List.map_append, List.mem_append, List.map_singleton, List.mem_singleton] at hswap
            rcases hswap with hswap | heq
            · exact top_kept hagree.mem hagree.highest (.inr hswap)
            · exact Nat.ne_of_lt htop heq
        · by_cases hs : s = waiting
          · exact .inr (List.mem_map.mpr ⟨_, List.mem_append_right _ List.mem_cons_self, hs.symm⟩)
          · exact .inl (hdropped top hagree.highest s hlow (Nat.le_of_lt_succ hhigh) hs)

/-- **And so does what is flushed.** -/
theorem agreement_order (faults : FaultInjectionConfig) (small : m < 2 ^ 64) :
    (plan faults m).order = [] ∧ (plan faults m).swaps = [] ∨
      ∃ first top, Agreement faults (plan faults m).order (plan faults m).swaps.length
        (plan faults m).swaps first top := by
  have hemitted := agreement_emitted faults small
  rw [ReorderBuffer.order]
  cases hheld : (plan faults m).held with
  | none => rwa [Option.toList_none, List.append_nil]
  | some waiting =>
    obtain ⟨hkept, hpositive, hwithin, hbelow, hdropped⟩ := held_spec hheld
    have hsmall : waiting < 2 ^ 64 := by omega
    refine .inr ?_
    rw [Option.toList_some]
    rcases hemitted with ⟨hnone, hnoSwap⟩ | ⟨first, top, hagree⟩
    · rw [hnone, hnoSwap]
      exact ⟨_, _, agreement_first hsmall []⟩
    · have hbetween (s : Nat) (hlow : top < s) (hhigh : s < waiting) : dropped faults s = true :=
        hdropped top hagree.highest s hlow (by omega) (Nat.ne_of_lt hhigh)
      have hnear := le_add_two hsmall hkept hbetween
      exact ⟨first, waiting, hagree.forward (hbelow top hagree.mem) (by omega)
        (top_kept hagree.mem hagree.highest) fun s hlow hhigh => .inl (hbetween s hlow hhigh)⟩

end Plan

/-! ## The held halves of the swaps -/

/-- The sequence number of the packet that the injector holds after `m` packets. -/
def heldNumber (config : SimulatorConfig) (timestamps : Nat → BitVec 64) (m : Nat) : Option Nat :=
  (injectorAfter config timestamps m).heldPacket.map fun packet =>
    (Wire.fieldAt 64 packet.bytes kSequenceNumberOffset).toNat

/-- The numbers of the packets that a successor among `1..n` released: each was held before it came
and nothing was held after. -/
def heldHalves (config : SimulatorConfig) (timestamps : Nat → BitVec 64) (n : Nat) : List Nat :=
  (List.range n).filterMap fun m =>
    if (heldNumber config timestamps (m + 1)).isNone then heldNumber config timestamps m else none

theorem heldNumber_eq {m : Nat} (small : m < 2 ^ 64) (config : SimulatorConfig)
    (timestamps : Nat → BitVec 64) :
    heldNumber config timestamps m = (plan config.faults m).held := by
  have hheld : (injectorAfter config timestamps m).heldPacket =
      (plan config.faults m).held.map (packetAt config timestamps) := by
    rw [injectorAfter_eq]
    rfl
  rw [heldNumber, hheld, Option.map_map]
  cases hwaiting : (plan config.faults m).held with
  | none => rfl
  | some waiting =>
    have hwithin := (held_spec hwaiting).2.2.1
    rw [Option.map_some, Function.comp_apply, sequenceNumber_packetAt,
      toNat_number (Nat.lt_of_le_of_lt hwithin small)]

/-- **They are the held halves of the plan's swaps.** -/
theorem heldHalves_eq {n : Nat} (small : n < 2 ^ 64) (config : SimulatorConfig)
    (timestamps : Nat → BitVec 64) :
    heldHalves config timestamps n = (plan config.faults n).swaps.map Prod.fst := by
  induction n with
  | zero => rfl
  | succ n ih =>
    have hearlier := ih (Nat.lt_of_succ_lt small)
    rw [heldHalves] at hearlier ⊢
    rw [List.range_succ, List.filterMap_append, hearlier, List.filterMap_cons, List.filterMap_nil,
      heldNumber_eq small, heldNumber_eq (Nat.lt_of_succ_lt small)]
    obtain ⟨released, completed, step⟩ := plan_step config.faults n
    cases step with
    | dropped _ hplan =>
      rw [hplan]
      cases (plan config.faults n).held with
      | none => exact List.append_nil _
      | some waiting => exact List.append_nil _
    | sent _ hfree _ hplan => rw [hplan, hfree]; exact List.append_nil _
    | held _ hfree _ hplan => rw [hplan]; exact List.append_nil _
    | swapped _ hheld hplan => rw [hplan, hheld, List.map_append]; rfl

/-! ## The theorem -/

/-- A packet as a receiver hands it on: the decoded datagram, with its source and listener. -/
structure ReceivedFrom (remote listener : Ipv4Endpoint) (datagram : SentDatagram)
    (received : ReceivedPacket) : Prop where
  decoded : DecodesTo datagram.packet.bytes received.packet
  source : received.source = remote
  listener : received.listener = listener

/-- What the tracker counts of a run of `n` packets, against the summary of the run and what it
sent. -/
structure TrackerAgrees (config : SimulatorConfig) (timestamps : Nat → BitVec 64) (n : Nat)
    (session : Session) (metrics : SensorStreamMetrics) : Prop where
  observed : metrics.packetsObserved = session.summary.packetsSent
  duplicates : metrics.duplicateObservations = session.summary.duplicatePacketsSent
  reordered : metrics.reorderedObservations = session.summary.reorderEvents
  firsts : metrics.firstObservations = if session.sent = [] then 0 else 1
  missingNone : session.sent = [] → metrics.missingSamplesInferred = 0
  missing : ∀ first top : SentDatagram, session.sent.head? = some first → top ∈ session.sent →
    (∀ datagram ∈ session.sent,
      datagram.label.sequenceNumber.toNat ≤ top.label.sequenceNumber.toNat) →
    metrics.missingSamplesInferred.toNat =
      ((Finset.Ioo first.label.sequenceNumber.toNat top.label.sequenceNumber.toNat).filter
        fun s => Divides config.faults.dropEvery s ∨ s ∈ heldHalves config timestamps n).card

section Agrees

variable {environment : Environment} {config : SimulatorConfig} {n : Nat} {session : Session}
  {remote listener : Ipv4Endpoint}

/-- Without corruption every datagram of a run is received as what it was. -/
theorem header_of_received (accepted : Accepted environment.calls config)
    (sound : config.faults.corruptEvery = none) {timestamps : Nat → BitVec 64} {k : Nat}
    {duplicateCopy : Bool} {received : ReceivedPacket}
    (h : ReceivedFrom remote listener
      { packet := packetAt config timestamps k, duplicateCopy } received) :
    received.packet.header.sequenceNumber = number k ∧
      identifySensorSource received =
        { remoteEndpoint := remote, listenerEndpoint := listener,
          messageType := config.sensorType.messageType } := by
  have hmeant := decodesAsMeant_packetAt accepted timestamps k
  have hnever : ¬ Divides none (number k).toNat := by simp [Divides]
  unfold DecodesAsMeant at hmeant
  rw [sound, if_neg hnever] at hmeant
  obtain ⟨packet, hdecode, hnumber, htype, _⟩ := hmeant
  have hsame := (decodesTo_iff_decodePacket.mp h.decoded).symm.trans hdecode
  obtain rfl : received.packet = packet :=
    Option.some.inj (congrArg DecodeResult.packet (Option.some.inj hsame))
  exact ⟨hnumber, by rw [identifySensorSource, h.source, h.listener, htype]⟩

/-- The sequence numbers received are the arrivals of the numbers sent. -/
theorem numbers_of_received (accepted : Accepted environment.calls config)
    (sound : config.faults.corruptEvery = none) {timestamps : Nat → BitVec 64} {numbers : List Nat}
    {packets : List ReceivedPacket}
    (received : List.Forall₂ (ReceivedFrom remote listener)
      (datagramsOf (packetAt config timestamps) numbers) packets) :
    (packets.map fun packet => packet.packet.header.sequenceNumber) =
        arrivalsOf config.faults numbers ∧
      ∀ packet ∈ packets, identifySensorSource packet =
        { remoteEndpoint := remote, listenerEndpoint := listener,
          messageType := config.sensorType.messageType } := by
  induction numbers generalizing packets with
  | nil =>
    cases received
    exact ⟨rfl, fun _ h => absurd h List.not_mem_nil⟩
  | cons k numbers ih =>
    rw [datagramsOf, List.flatMap_cons, copies, List.cons_append] at received
    obtain ⟨first, packets, hfirst, hrest, rfl⟩ := List.forall₂_cons_left_iff.mp received
    obtain ⟨hnumber, hsource⟩ := header_of_received accepted sound hfirst
    have hduplicate : (packetAt config timestamps k).duplicate = duplicated config.faults k := rfl
    rw [hduplicate] at hrest
    rw [arrivalsOf, List.flatMap_cons, copyNumbers, List.map_cons, hnumber]
    cases hcopy : duplicated config.faults k with
    | false =>
      rw [hcopy] at hrest
      obtain ⟨hnumbers, hsources⟩ := ih hrest
      refine ⟨congrArg _ hnumbers, fun packet h => ?_⟩
      rcases List.mem_cons.mp h with rfl | h
      · exact hsource
      · exact hsources packet h
    | true =>
      rw [hcopy, if_pos rfl, List.singleton_append] at hrest
      obtain ⟨second, packets, hsecond, hothers, rfl⟩ := List.forall₂_cons_left_iff.mp hrest
      obtain ⟨hnumber', hsource'⟩ := header_of_received accepted sound hsecond
      obtain ⟨hnumbers, hsources⟩ := ih hothers
      rw [List.map_cons, hnumber']
      refine ⟨congrArg _ (congrArg _ hnumbers), fun packet h => ?_⟩
      rcases List.mem_cons.mp h with rfl | h
      · exact hsource
      · rcases List.mem_cons.mp h with rfl | h
        · exact hsource'
        · exact hsources packet h

/-- The number on a datagram of the plan. -/
theorem number_of_mem_datagramsOf {timestamps : Nat → BitVec 64} {numbers : List Nat}
    {datagram : SentDatagram} (h : datagram ∈ datagramsOf (packetAt config timestamps) numbers) :
    ∃ k ∈ numbers, datagram.label.sequenceNumber = number k := by
  obtain ⟨k, hk, hpacket⟩ := packet_of_mem_datagramsOf h
  refine ⟨k, hk, ?_⟩
  rw [SentDatagram.label, hpacket, sequenceNumber_packetAt]

/-- Every number that was sent is on a datagram. -/
theorem exists_datagram (config : SimulatorConfig) (timestamps : Nat → BitVec 64)
    {numbers : List Nat} {k : Nat} (hk : k ∈ numbers) :
    ∃ datagram ∈ datagramsOf (packetAt config timestamps) numbers,
      datagram.label.sequenceNumber = number k :=
  ⟨{ packet := packetAt config timestamps k, duplicateCopy := false },
    List.mem_flatMap.mpr ⟨k, hk, List.mem_cons_self⟩, sequenceNumber_packetAt config timestamps k⟩

/-- The number on the first datagram. -/
theorem number_of_head {timestamps : Nat → BitVec 64} {numbers : List Nat} {first : Nat}
    {datagram : SentDatagram} (starts : numbers.head? = some first)
    (h : (datagramsOf (packetAt config timestamps) numbers).head? = some datagram) :
    datagram.label.sequenceNumber = number first := by
  obtain ⟨rest, rfl⟩ := List.head?_eq_some_iff.mp starts
  obtain rfl := Option.some.inj h
  exact sequenceNumber_packetAt config timestamps first

/-- The highest number on a datagram is that of the highest packet. -/
theorem number_of_highest {timestamps : Nat → BitVec 64} {numbers : List Nat} {top : Nat}
    {datagram : SentDatagram} (small : ∀ k ∈ numbers, k < 2 ^ 64) (mem : top ∈ numbers)
    (highest : ∀ k ∈ numbers, k ≤ top)
    (h : datagram ∈ datagramsOf (packetAt config timestamps) numbers)
    (above : ∀ other ∈ datagramsOf (packetAt config timestamps) numbers,
      other.label.sequenceNumber.toNat ≤ datagram.label.sequenceNumber.toNat) :
    datagram.label.sequenceNumber.toNat = top := by
  obtain ⟨k, hk, hnumber⟩ := number_of_mem_datagramsOf h
  obtain ⟨other, hother, htop⟩ := exists_datagram config timestamps mem
  have hle := above other hother
  rw [htop, hnumber, toNat_number (small top mem), toNat_number (small k hk)] at hle
  rw [hnumber, toNat_number (small k hk)]
  exact Nat.le_antisymm (highest k hk) hle

/-- **A complete run, all received.** -/
theorem Complete.trackerAgrees (accepted : Accepted environment.calls config)
    (sound : config.faults.corruptEvery = none) {timestamps : Nat → BitVec 64}
    (complete : Complete config (packetAt config timestamps) n session)
    {trackerConfig : SensorStreamTrackerConfig} (positive : 0 < trackerConfig.maxSources)
    {packets : List ReceivedPacket}
    (received : List.Forall₂ (ReceivedFrom remote listener) session.sent packets) :
    TrackerAgrees config timestamps n session
      (SensorStreamTracker.observeAll { config := trackerConfig } packets).metrics := by
  have hreached := complete.reached
  have hsmall := complete.small
  have hsent := hreached.sent
  rw [hsent] at received
  obtain ⟨hnumbers, hsources⟩ := numbers_of_received accepted sound received
  have hcounts := observeAll_counts positive hsources
  have hlength := received.length_eq
  rw [← hsent] at hlength
  have hobserved : (SensorStreamTracker.observeAll { config := trackerConfig }
      packets).metrics.packetsObserved = session.summary.packetsSent := by
    rw [hcounts.observed, length_verdicts, List.length_map, ← hlength, hreached.counted.sent]
  rw [hnumbers] at hcounts
  generalize (SensorStreamTracker.observeAll { config := trackerConfig } packets).metrics = metrics
    at hcounts hobserved ⊢
  rcases agreement_order config.faults hsmall with ⟨hnone, hnoSwap⟩ | ⟨first, top, h⟩
  · have hnothing : session.sent = [] := by
      rw [hsent, hnone]
      rfl
    rw [hnone] at hcounts
    exact {
      observed := hobserved
      duplicates := by
        rw [hreached.counted.duplicates, hnothing]
        exact hcounts.counted .kDuplicate
      reordered := by
        rw [complete.reorder, hnoSwap]
        exact hcounts.counted .kReordered
      firsts := by
        rw [if_pos hnothing]
        exact hcounts.counted .kFirst
      missingNone := fun _ => BitVec.eq_of_toNat_eq (Int.natCast_eq_zero.mp hcounts.missing)
      missing := fun _ _ hhead => by rw [hnothing] at hhead; cases hhead }
  · have hsomething : session.sent ≠ [] := by
      obtain ⟨datagram, hmem, _⟩ := exists_datagram config timestamps h.mem
      rw [hsent]
      exact List.ne_nil_of_mem hmem
    exact {
      observed := hobserved
      duplicates := by
        rw [hreached.counted.duplicates, hsent, countP_duplicateCopy]
        exact (hcounts.counted .kDuplicate).trans (congrArg _ h.judged.duplicate)
      reordered := by
        rw [complete.reorder]
        exact (hcounts.counted .kReordered).trans (congrArg _ h.judged.late)
      firsts := by
        rw [if_neg hsomething]
        exact (hcounts.counted .kFirst).trans (congrArg _ h.judged.first)
      missingNone := fun hnothing => absurd hnothing hsomething
      missing := fun firstDatagram topDatagram hhead htop hhighest => by
        have hplanned (k : Nat) (hk : k ∈ (plan config.faults n).order) : k < 2 ^ 64 :=
          Nat.lt_of_le_of_lt (mem_order_plan.mp hk).1.2 hsmall
        rw [hsent] at hhead htop hhighest
        have hfirst : firstDatagram.label.sequenceNumber.toNat = first := by
          rw [number_of_head h.head hhead]
          exact toNat_number (hplanned first (List.mem_of_mem_head? h.head))
        have htop := number_of_highest hplanned h.mem h.highest htop hhighest
        have hmissed : (Finset.Ioo first top).filter (fun s =>
            Divides config.faults.dropEvery s ∨ s ∈ heldHalves config timestamps n) =
            missed config.faults (plan config.faults n).swaps first top := by
          refine Finset.filter_congr fun s hs => ?_
          have hbelow := Nat.lt_trans (Finset.mem_Ioo.mp hs).2 (hplanned top h.mem)
          rw [heldHalves_eq hsmall]
          exact or_congr_left (matchesInterval_iff hbelow).symm
        have hcard : (missed config.faults (plan config.faults n).swaps first top).card ≤ top := by
          refine (Finset.card_filter_le _ _).trans ?_
          rw [Nat.card_Ioo]
          omega
        have hmissing := hcounts.missing
        rw [h.judged.skipped] at hmissing
        have hbound := hplanned top h.mem
        rw [hfirst, htop, hmissed]
        omega }

end Agrees

/-- **Simulator and tracker agree on every injected fault.** A run of an accepted configuration with
a count and no corruption, that nothing interrupts and whose datagrams are all sent, returns. A
fresh tracker that is handed the datagrams in the order in which they were sent, as one source's,
then counts what the summary says, and misses what was dropped or held back between the first and
the highest number. -/
theorem tracker_agrees (environment : Environment) (config : SimulatorConfig) (count : BitVec 64)
    (passes : Nat) (trackerConfig : SensorStreamTrackerConfig) (tracker : SensorStreamTracker)
    (remote listener : Ipv4Endpoint)
    (accepted : validateRuntimeConfig environment.calls config = .ok ())
    (sound : config.faults.corruptEvery = none) (finite : config.packetCount = some count)
    (opens : environment.opens = true) (delivers : Delivers environment config)
    (enough : count.toNat ≤ passes) (fresh : SensorStreamTracker.make trackerConfig = .ok tracker) :
    ∃ session, runSimulator environment config (some never) passes = .ok (.returned session) ∧
      ∀ packets, List.Forall₂ (ReceivedFrom remote listener) session.sent packets →
        TrackerAgrees config environment.timestamps count.toNat session
          (tracker.observeAll packets).metrics := by
  have haccepted := validateRuntimeConfig_iff.mp accepted
  obtain ⟨session, hrun⟩ := runSimulator_returns haccepted opens delivers steady_never
    (.inl ⟨count, finite, enough⟩)
  refine ⟨session, hrun, fun packets received => ?_⟩
  unfold SensorStreamTracker.make at fresh
  split at fresh
  · cases fresh
  next hpositive =>
    obtain rfl := Except.ok.inj fresh
    rcases runSimulator_never hrun with ⟨_, hrunning, _⟩ | ⟨_, n, hcomplete⟩
    · cases hrunning
    · rw [toNat_of_count hcomplete.count hcomplete.small finite]
      exact hcomplete.trackerAgrees haccepted sound (Nat.pos_of_ne_zero hpositive) received

/-- Eight packets, the second held until the third, the fourth until the sixth. -/
def soundPackets : SimulatorConfig :=
  { eightPackets with faults := { eightPackets.faults with corruptEvery := none } }

/-- Eight packets that are dropped, duplicated and swapped, and the tracker that counts them. -/
theorem tracker_agrees_soundPackets :
    ∃ session, runSimulator loopback soundPackets (some never) 8 = .ok (.returned session) ∧
      ∀ packets, List.Forall₂ (ReceivedFrom soundPackets.destination soundPackets.destination)
          session.sent packets →
        TrackerAgrees soundPackets loopback.timestamps 8 session
          (SensorStreamTracker.observeAll { config := {} } packets).metrics :=
  tracker_agrees loopback soundPackets 8 8 {} { config := {} } _ _
    (validateRuntimeConfig_iff.mpr
      { validateRuntimeConfig_iff.mp eightPackets_accepted with corrupt := by decide })
    rfl rfl rfl (delivers_of_sendto (by decide) fun _ _ => rfl) (by decide) rfl

end Driveflow.Simulator
