import Mathlib.Data.Multiset.Nodup
import Mathlib.Data.Multiset.Range
import Mathlib.Data.UInt
import Mathlib.Tactic.Abel

/-!
# SecNetPerf.LatencyRing — the latency samples that all workers share

The end of `PerfClientStream::OnStreamShutdownComplete`, for a stream with
`SendSuccess && RecvSuccess`:

    Index = InterlockedIncrement64(&CurLatencyIndex) - 1;
    if (Index < MaxLatencyIndex) {
        LatencyValues[Index] = min(Latency, UINT32_MAX);
        InterlockedIncrement64(&LatencyCount);
    }

No lock guards it, and finalizations on every worker run it at once.  Each finalization is a thread:
`Ring` holds the shared words (`CurLatencyIndex`, `LatencyCount`, `LatencyValues`) and, as bags, the
threads at each point of the code with their local `Index`.  A step is one shared access (the
fetch-and-increment, the store, the count), so `Reachable` is every interleaving of them.  The test
`Index < MaxLatencyIndex` reads only the thread's `Index` and a bound fixed by `Init`, and belongs to
the step after it.  `counted`, `dropped` and `log` are ghost: the indices of finished threads and the
slots stored so far.

* `Inv`: the indices handed out are exactly `0 .. CurLatencyIndex - 1`; the slots stored are those of
  the threads past the store; `LatencyCount` counts the threads past the count.
* `latency_ring_safe`: no slot is stored twice, every store is below `MaxLatencyIndex`,
  `LatencyCount ≤ min CurLatencyIndex MaxLatencyIndex`, and once every finalization is done,
  `LatencyCount = min N MaxLatencyIndex` and the slots stored are `0 .. LatencyCount - 1`.
-/

namespace SecNetPerf.LatencyRing

/-- A finalization as the sample code sees it: whether `SendSuccess && RecvSuccess` held, and
`CxPlatTimeDiff64(StartTime, RecvEndTime)`. -/
structure Sample where
  success : Bool
  latency : UInt64
  deriving DecidableEq, Repr

/-- `Latency > UINT32_MAX ? UINT32_MAX : (uint32_t)Latency`. -/
def clampLatency (l : UInt64) : UInt32 := if l > 0xFFFFFFFF then 0xFFFFFFFF else l.toUInt32

/-- The shared latency words and the finalizations at each point of the sample code. -/
structure Ring where
  curLatencyIndex : Nat
  latencyCount : Nat
  latencyValues : Nat → UInt32
  /-- Finalizations that have not reached the sample code. -/
  idle : Multiset Sample
  /-- Past the fetch-and-increment, with their `Index`. -/
  reserved : Multiset (Sample × Nat)
  /-- Past the store to `LatencyValues[Index]`, not yet counted. -/
  written : Multiset (Sample × Nat)
  /-- Indices of finished finalizations that counted their sample. -/
  counted : Multiset Nat
  /-- Indices of finished finalizations at or past `MaxLatencyIndex`. -/
  dropped : Multiset Nat
  /-- The slots stored so far. -/
  log : Multiset Nat

/-- One shared access by one finalization. -/
inductive Access
  /-- A finalization without `SendSuccess && RecvSuccess` passes the sample code by. -/
  | skip (f : Sample)
  /-- `InterlockedIncrement64(&CurLatencyIndex) - 1` becomes the thread's `Index`. -/
  | reserve (f : Sample)
  /-- `LatencyValues[Index] = ...`, after `Index < MaxLatencyIndex`. -/
  | write (f : Sample) (index : Nat)
  /-- `Index < MaxLatencyIndex` failed: the finalization is done. -/
  | drop (f : Sample) (index : Nat)
  /-- `InterlockedIncrement64(&LatencyCount)`. -/
  | count (f : Sample) (index : Nat)

namespace Ring

/-- Before any finalization runs: the words as `Init` leaves them, the run's finalizations idle. -/
def init (fs : Multiset Sample) : Ring := ⟨0, 0, fun _ => 0, fs, 0, 0, 0, 0, 0⟩

variable (maxLatencyIndex : Nat)

/-- One access, by a finalization at the point that performs it. -/
def step (r : Ring) : Access → Option Ring
  | .skip f =>
    if f ∈ r.idle ∧ f.success = false then some { r with idle := r.idle.erase f } else none
  | .reserve f =>
    if f ∈ r.idle ∧ f.success = true then
      some { r with
        idle := r.idle.erase f
        reserved := (f, r.curLatencyIndex) ::ₘ r.reserved
        curLatencyIndex := r.curLatencyIndex + 1 }
    else none
  | .write f i =>
    if (f, i) ∈ r.reserved ∧ i < maxLatencyIndex then
      some { r with
        reserved := r.reserved.erase (f, i)
        written := (f, i) ::ₘ r.written
        latencyValues := Function.update r.latencyValues i (clampLatency f.latency)
        log := i ::ₘ r.log }
    else none
  | .drop f i =>
    if (f, i) ∈ r.reserved ∧ maxLatencyIndex ≤ i then
      some { r with reserved := r.reserved.erase (f, i), dropped := i ::ₘ r.dropped }
    else none
  | .count f i =>
    if (f, i) ∈ r.written then
      some { r with
        written := r.written.erase (f, i)
        counted := i ::ₘ r.counted
        latencyCount := r.latencyCount + 1 }
    else none

/-- The states that some interleaving of the finalizations `fs` reaches. -/
inductive Reachable (fs : Multiset Sample) : Ring → Prop
  | init : Reachable fs (init fs)
  | step {r r' : Ring} (a : Access) : Reachable fs r → step maxLatencyIndex r a = some r' →
      Reachable fs r'

/-- What every interleaving keeps, for `N` successful finalizations in the run. -/
structure Inv (N : Nat) (r : Ring) : Prop where
  indices : r.reserved.map Prod.snd + r.written.map Prod.snd + r.counted + r.dropped =
    Multiset.range r.curLatencyIndex
  pending : r.idle.countP (fun f => f.success = true) + r.curLatencyIndex = N
  log : r.log = r.written.map Prod.snd + r.counted
  count : r.latencyCount = Multiset.card r.counted
  written_lt : ∀ p ∈ r.written, p.2 < maxLatencyIndex
  counted_lt : ∀ i ∈ r.counted, i < maxLatencyIndex
  dropped_ge : ∀ i ∈ r.dropped, maxLatencyIndex ≤ i

theorem map_snd_of_mem {s : Multiset (Sample × Nat)} {p : Sample × Nat} (h : p ∈ s) :
    s.map Prod.snd = p.2 ::ₘ (s.erase p).map Prod.snd := by
  rw [← Multiset.map_cons, Multiset.cons_erase h]

theorem inv_init (fs : Multiset Sample) :
    Inv maxLatencyIndex (fs.countP fun f => f.success = true) (init fs) :=
  ⟨rfl, rfl, rfl, rfl, by simp [init], by simp [init], by simp [init]⟩

variable {maxLatencyIndex}

theorem inv_step {N : Nat} {r r' : Ring} {a : Access} (h : Inv maxLatencyIndex N r)
    (hs : step maxLatencyIndex r a = some r') : Inv maxLatencyIndex N r' := by
  obtain ⟨hind, hpend, hlog, hcount, hw, hc, hd⟩ := h
  cases a with
  | skip f =>
    simp only [step] at hs
    split at hs <;> cases hs
    rename_i hf
    rw [← Multiset.cons_erase hf.1] at hpend
    simp only [Multiset.countP_cons, hf.2, Bool.false_eq_true, ite_false, add_zero] at hpend
    exact ⟨hind, hpend, hlog, hcount, hw, hc, hd⟩
  | reserve f =>
    simp only [step] at hs
    split at hs <;> cases hs
    rename_i hf
    rw [← Multiset.cons_erase hf.1] at hpend
    simp only [Multiset.countP_cons, hf.2, ite_true] at hpend
    refine ⟨?_, by dsimp only; omega, hlog, hcount, hw, hc, hd⟩
    simp only [Multiset.map_cons, Multiset.cons_add, hind, Multiset.range_succ]
  | write f i =>
    simp only [step] at hs
    split at hs <;> cases hs
    rename_i hf
    rw [map_snd_of_mem hf.1] at hind
    refine ⟨?_, hpend, ?_, hcount, ?_, hc, hd⟩
    · rw [← hind]; simp only [Multiset.map_cons, Multiset.add_cons, Multiset.cons_add]
    · simp only [hlog, Multiset.map_cons, Multiset.cons_add]
    · simpa [hf.2] using hw
  | drop f i =>
    simp only [step] at hs
    split at hs <;> cases hs
    rename_i hf
    rw [map_snd_of_mem hf.1] at hind
    refine ⟨?_, hpend, hlog, hcount, hw, hc, ?_⟩
    · rw [← hind]; simp only [Multiset.add_cons, Multiset.cons_add]
    · simpa [hf.2] using hd
  | count f i =>
    simp only [step] at hs
    split at hs <;> cases hs
    rename_i hf
    rw [map_snd_of_mem hf] at hind hlog
    refine ⟨?_, hpend, ?_, by simp [hcount], fun p hp => hw p (Multiset.mem_of_mem_erase hp), ?_, hd⟩
    · rw [← hind]; simp only [Multiset.add_cons, Multiset.cons_add]
    · simp only [hlog, Multiset.add_cons, Multiset.cons_add]
    · simpa [hw _ hf] using hc

theorem inv_of_reachable {fs : Multiset Sample} {r : Ring} (h : Reachable maxLatencyIndex fs r) :
    Inv maxLatencyIndex (fs.countP fun f => f.success = true) r := by
  induction h with
  | init => exact inv_init maxLatencyIndex fs
  | step _ _ hs ih => exact inv_step ih hs

/-! ## Consequences of the invariant -/

section Consequences

variable {N : Nat} {r : Ring} (h : Inv maxLatencyIndex N r)
include h

theorem Inv.counted_le : r.counted ≤ Multiset.range r.curLatencyIndex := by
  rw [← h.indices]
  exact le_trans (Multiset.le_add_left _ _) (Multiset.le_add_right _ _)

theorem Inv.log_le : r.log ≤ Multiset.range r.curLatencyIndex := by
  rw [← h.indices, h.log, add_assoc (r.reserved.map _)]
  exact (Multiset.le_add_left _ _).trans (Multiset.le_add_right _ _)

theorem Inv.log_lt {i : Nat} (hi : i ∈ r.log) : i < maxLatencyIndex := by
  rw [h.log, Multiset.mem_add, Multiset.mem_map] at hi
  rcases hi with ⟨p, hp, rfl⟩ | hi
  · exact h.written_lt p hp
  · exact h.counted_lt i hi

theorem Inv.count_le : r.latencyCount ≤ min r.curLatencyIndex maxLatencyIndex := by
  have hnd : r.counted.Nodup := Multiset.nodup_of_le h.counted_le (Multiset.nodup_range _)
  have hmax : r.counted ≤ Multiset.range maxLatencyIndex :=
    (Multiset.le_iff_subset hnd).2 fun i hi => Multiset.mem_range.2 (h.counted_lt i hi)
  rw [h.count]
  exact le_min ((Multiset.card_le_card h.counted_le).trans_eq (Multiset.card_range _))
    ((Multiset.card_le_card hmax).trans_eq (Multiset.card_range _))

/-- When no finalization is left at the sample code, the counted indices are `0 .. min N Max - 1`. -/
theorem Inv.counted_of_done (hi : r.idle = 0) (hr : r.reserved = 0) (hw : r.written = 0) :
    r.counted = Multiset.range (min N maxLatencyIndex) := by
  have hcur : r.curLatencyIndex = N := by simpa [hi] using h.pending
  have hind := h.indices
  simp only [hr, hw, Multiset.map_zero, zero_add, hcur] at hind
  refine (Multiset.Nodup.ext (Multiset.nodup_of_le (hind ▸ Multiset.le_add_right _ _)
    (Multiset.nodup_range N)) (Multiset.nodup_range _)).2 fun i => ?_
  rw [Multiset.mem_range, lt_min_iff, ← Multiset.mem_range (n := N), ← hind, Multiset.mem_add]
  constructor
  · intro hc
    exact ⟨Or.inl hc, h.counted_lt i hc⟩
  · rintro ⟨hc | hd, hlt⟩
    · exact hc
    · exact absurd (h.dropped_ge i hd) (not_le.2 hlt)

end Consequences

/-- **The latency ring under every interleaving.**  No slot is stored twice, every store is below
`MaxLatencyIndex`, `LatencyCount ≤ min CurLatencyIndex MaxLatencyIndex` throughout, and once every
finalization is done, `LatencyCount = min N MaxLatencyIndex` for the `N` successful ones, with the
slots stored exactly `0 .. LatencyCount - 1`. -/
theorem latency_ring_safe {fs : Multiset Sample} {r : Ring} (h : Reachable maxLatencyIndex fs r) :
    r.log.Nodup ∧ (∀ i ∈ r.log, i < maxLatencyIndex) ∧
      r.latencyCount ≤ min r.curLatencyIndex maxLatencyIndex ∧
      (r.idle = 0 → r.reserved = 0 → r.written = 0 →
        r.latencyCount = min (fs.countP fun f => f.success = true) maxLatencyIndex ∧
          r.log = Multiset.range r.latencyCount) := by
  have hi := inv_of_reachable h
  refine ⟨Multiset.nodup_of_le hi.log_le (Multiset.nodup_range _), fun i => hi.log_lt,
    hi.count_le, fun h0 hr hw => ?_⟩
  have hc := hi.counted_of_done h0 hr hw
  have hcount : r.latencyCount = min (fs.countP fun f => f.success = true) maxLatencyIndex := by
    rw [hi.count, hc, Multiset.card_range]
  refine ⟨hcount, ?_⟩
  rw [hi.log, hw, Multiset.map_zero, zero_add, hc, hcount]

/-- Two successful finalizations and room for one sample: the first to reserve stores and counts
slot `0`, the other drops its sample. -/
theorem latency_ring_one_slot :
    Reachable 1 {⟨true, 5⟩, ⟨true, 7⟩}
        ⟨2, 1, Function.update (fun _ => 0) 0 (clampLatency 5), 0, 0, 0, {0}, {1}, {0}⟩ ∧
      (1 = min 2 1 ∧ ({0} : Multiset Nat) = Multiset.range 1) :=
  have h : Reachable 1 {⟨true, 5⟩, ⟨true, 7⟩}
      ⟨2, 1, Function.update (fun _ => 0) 0 (clampLatency 5), 0, 0, 0, {0}, {1}, {0}⟩ :=
    .step (.count ⟨true, 5⟩ 0) (.step (.drop ⟨true, 7⟩ 1) (.step (.write ⟨true, 5⟩ 0)
      (.step (.reserve ⟨true, 7⟩) (.step (.reserve ⟨true, 5⟩) .init rfl) rfl) rfl) rfl) rfl
  ⟨h, (latency_ring_safe h).2.2.2 rfl rfl rfl⟩

end Ring

end SecNetPerf.LatencyRing
