import SecNetPerf.Tcp
import Mathlib.Algebra.BigOperators.Ring
import Mathlib.Algebra.Order.BigOperators.Group.Finset

/-!
# SecNetPerf.Latency — is `LatencyValues` large enough?

`Init` sizes `LatencyValues` to `MaxLatencyIndex` entries: `RunTime / 1000` seconds at
`PERF_MAX_REQUESTS_PER_SECOND` for a timed run, `ConnectionCount * StreamCount` (a 32-bit product)
otherwise.  A successful finalization past the last entry reserves an index and drops its sample, so
`LatencyCount` then falls behind the streams the workers count as completed.

Over QUIC with neither repeat flag, a worker completes at most `StreamCount` streams per queued
connection (`Books.Inv.streamsCompleted_le`), and over TCP no stream finalizes.  So in either
back-end and under any runtime, whenever `ConnectionCount * StreamCount ≤ MaxLatencyIndex` no sample
is dropped (`latency_count_eq_completed`).  `Init` sizes the array from `RunTime` whenever it is set,
though the usage text calls `-runtime` relevant only to repeat scenarios: with `-runtime:500` the
array is empty and a run of one stream drops its sample (`latency_samples_need_room`).
-/

namespace SecNetPerf

open Finset

/-! ## What `Init` leaves in the fields -/

section Init

variable {k : PerfConstants} {env : InitEnv} {c : PerfClient}

/-- The configuration `latencyOptions` accepts is its argument, with `MaxLatencyIndex` sized when
`PrintLatency` is set. -/
theorem latencyOptions_eq {c0 : PerfClient} (h : latencyOptions k env c0 = .ok c) :
    c = if c0.printLatency then { c0 with maxLatencyIndex := maxLatencyIndexOf k c0 } else c0 := by
  unfold latencyOptions at h
  split at h
  · split at h
    · exact absurd h throw_ne_ok
    · simp only [pure_bind, pure_eq_ok] at h; subst h; simp [*]
  · simp only [pure_eq_ok] at h; subst h; simp [*]

end Init

/-! ## How many streams a run completes -/

namespace Books

variable {c : PerfClient} {B : Books}

/-- Over QUIC without `RepeatStreams`, a worker completes at most `StreamCount` streams per
connection it was queued. -/
theorem Inv.worker_streamsCompleted_le (h : Inv c B) (ht : c.useTCP = false)
    (hrs : c.repeatStreams = false) (w : Nat) :
    (B.workers w).streamsCompleted ≤ c.streamCount.toNat * (B.workers w).connectionsQueued := by
  have hI := h.workers w
  have hq := h.quic ht hrs w
  have hconn : (B.workers w).connectionsConnected ≤ (B.workers w).connectionsQueued := by
    rw [hq.connected]
    calc _ ≤ (range (B.workers w).nextConn).card := card_filter_le _ _
      _ = (B.workers w).connectionsCreated := by rw [card_range, hI.nextConn_eq]
      _ ≤ _ := hI.created_le
  calc (B.workers w).streamsCompleted ≤ (B.workers w).streamsStarted := by have := hI.started; omega
    _ ≤ c.streamCount.toNat * (B.workers w).connectionsConnected := by have := hq.opened; omega
    _ ≤ _ := Nat.mul_le_mul_left _ hconn

/-- Over QUIC with neither repeat flag, the workers complete at most `ConnectionCount * StreamCount`
streams in all. -/
theorem Inv.streamsCompleted_le (h : Inv c B) (ht : c.useTCP = false)
    (hrc : c.repeatConnections = false) (hrs : c.repeatStreams = false) :
    ∑ w ∈ range c.workerCount.toNat, (B.workers w).streamsCompleted ≤
      c.connectionCount.toNat * c.streamCount.toNat :=
  calc _ ≤ ∑ w ∈ range c.workerCount.toNat, c.streamCount.toNat * (B.workers w).connectionsQueued :=
        sum_le_sum fun w _ => h.worker_streamsCompleted_le ht hrs w
    _ = c.streamCount.toNat * B.queueIndex := by rw [← mul_sum, h.queued hrc]
    _ ≤ c.streamCount.toNat * c.connectionCount.toNat := Nat.mul_le_mul_left _ h.queueIndex_le
    _ = _ := Nat.mul_comm _ _

end Books

/-! ## The latency samples -/

/-- **Latency counters**: in every world a run reaches, in either back-end and under any options,
`LatencyCount` is `min(CurLatencyIndex, MaxLatencyIndex)` (a sample is stored exactly when the index
it reserved lies inside `LatencyValues`), and `CurLatencyIndex` is the sum of the workers'
`StreamsCompleted`. -/
theorem latency_counters {c : PerfClient} {W : World} (h : Reachable c W) :
    W.latencyCount = min W.curLatencyIndex c.maxLatencyIndex.toNat ∧
      W.curLatencyIndex = ∑ w ∈ range c.workerCount.toNat, (W.workers w).streamsCompleted := by
  have hI := h.inv
  simp only [World.books_workers, World.books_curLatencyIndex, World.books_latencyCount,
    PerfClientWorker.books] at hI
  exact ⟨hI.latencyCount, hI.curLatencyIndex⟩

/-- The law on a run with an empty `LatencyValues` (`MaxLatencyIndex = 0`, as `Init` sizes it for
`-runtime:500`): the one stream finalized with success reserved index `0` and stored nothing. -/
theorem latency_counters_empty_array :
    let c := { PerfClient.defaults ⟨4433, 65536, 2000000⟩ with
      target := "server", workerCount := 1, printLatency := true, streamCount := 1, runTime := 500 }
    let es : List (Inputs × World.Event) :=
      [.queue, .startNewConnection 0 ⟨true, true, true, true, true, true, none, true⟩, .connected 0 0,
        .stream 0 0 (.receive 0 true), .stream 0 0 .sendShutdownComplete,
        .stream 0 0 .shutdownComplete].map (Prod.mk ⟨1, 10, fun _ => true⟩)
    c.maxLatencyIndex = 0 ∧
      ∃ W, World.run c (World.init c) es = .ok W ∧ W.curLatencyIndex = 1 ∧ W.latencyCount = 0 ∧
        (W.latencyCount = min W.curLatencyIndex c.maxLatencyIndex.toNat ∧
          W.curLatencyIndex = ∑ w ∈ range c.workerCount.toNat, (W.workers w).streamsCompleted) := by
  intro c es
  have hW : World.run c (World.init c) es = .ok _ := rfl
  exact ⟨rfl, _, hW, rfl, rfl, latency_counters (Reachable.init.run hW)⟩

/-- **Latency samples** (neither repeat flag): in either back-end and under any runtime, when
`ConnectionCount * StreamCount ≤ MaxLatencyIndex`, every run keeps every sample: `LatencyCount`
equals `CurLatencyIndex`, which is the sum of the workers' `StreamsCompleted` and stays within
`MaxLatencyIndex`. -/
theorem latency_count_eq_completed {c : PerfClient} {W : World} (h : Reachable c W)
    (hrc : c.repeatConnections = false) (hrs : c.repeatStreams = false)
    (hroom : c.connectionCount.toNat * c.streamCount.toNat ≤ c.maxLatencyIndex.toNat) :
    W.latencyCount = W.curLatencyIndex ∧
      W.curLatencyIndex = ∑ w ∈ range c.workerCount.toNat, (W.workers w).streamsCompleted ∧
      W.curLatencyIndex ≤ c.maxLatencyIndex.toNat := by
  have hI := h.inv
  have hcur : W.curLatencyIndex = _ := hI.curLatencyIndex
  have hcount : W.latencyCount = _ := hI.latencyCount
  have hle : ∑ w ∈ range c.workerCount.toNat, (W.workers w).streamsCompleted ≤
      c.connectionCount.toNat * c.streamCount.toNat := by
    cases ht : c.useTCP
    · simpa using hI.streamsCompleted_le ht hrc hrs
    · rw [sum_eq_zero fun w _ => (h.unfinalized ht w).1]
      exact Nat.zero_le _
  simp only [World.books_workers, World.books_curLatencyIndex, World.books_latencyCount,
    PerfClientWorker.books] at hcur hcount
  refine ⟨?_, hcur, ?_⟩ <;> omega

/-- **Samples need room**: the law above, and `-target:server -runtime:500 -platency:1 -streams:1`,
which sizes `LatencyValues` from the runtime though neither repeat flag is set:
`MaxLatencyIndex = 500 / 1000 * PERF_MAX_REQUESTS_PER_SECOND = 0` below the one stream, and a run
whose stream finalizes with success counts it completed and drops its sample. -/
theorem latency_samples_need_room :
    (∀ {c : PerfClient} {W : World}, Reachable c W → c.repeatConnections = false →
      c.repeatStreams = false →
      c.connectionCount.toNat * c.streamCount.toNat ≤ c.maxLatencyIndex.toNat →
      W.latencyCount = W.curLatencyIndex ∧
        W.curLatencyIndex = ∑ w ∈ range c.workerCount.toNat, (W.workers w).streamsCompleted ∧
        W.curLatencyIndex ≤ c.maxLatencyIndex.toNat) ∧
    ∃ c, init ⟨4433, 65536, 2000000⟩ ⟨1, .success, fun _ => ⟨[], Nat.zero_le _⟩, fun _ => none, true, true⟩
        ⟨false, fun s => if s = "target" then some "server" else none,
          fun s => if s = "runtime" then some 500
            else if s = "platency" ∨ s = "streams" then some 1 else none⟩ = .ok c ∧
      c.printLatency = true ∧ c.repeatConnections = false ∧ c.repeatStreams = false ∧
      c.maxLatencyIndex = 0 ∧ c.connectionCount.toNat * c.streamCount.toNat = 1 ∧
      ∃ W, World.run c (World.init c)
          ([.queue, .startNewConnection 0 ⟨true, true, true, true, true, true, none, true⟩,
            .connected 0 0, .stream 0 0 (.receive 0 true), .stream 0 0 .sendShutdownComplete,
            .stream 0 0 .shutdownComplete].map (Prod.mk ⟨1, 10, fun _ => true⟩)) = .ok W ∧
        ∑ w ∈ range c.workerCount.toNat, (W.workers w).streamsCompleted = 1 ∧
        W.curLatencyIndex = 1 ∧ W.latencyCount = 0 :=
  ⟨fun h hrc hrs hroom => latency_count_eq_completed h hrc hrs hroom,
    _, rfl, rfl, rfl, rfl, rfl, rfl, _, rfl, by decide, rfl, rfl⟩

end SecNetPerf
