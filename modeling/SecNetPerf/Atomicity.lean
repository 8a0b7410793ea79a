import SecNetPerf.Completion
import SecNetPerf.LatencyRing
import SecNetPerf.Repeat

/-!
# SecNetPerf.Atomicity — the world's handlers as schedules of the shared-word models

`SecNetPerf.World` runs each handler of `PerfClient.cpp` as one step.  Two parts of the code share
words between threads without a lock, and each has a finer model with one step per shared access:
`SecNetPerf.Completion` for the connection counters of `StartNewConnection` and
`PerfClientWorker::OnConnectionComplete`, `SecNetPerf.LatencyRing` for the latency words of
`OnStreamShutdownComplete`.  This module proves that the grains agree: each handler of the world is a
schedule of the finer model run without interruption, so every run of the world is one of the
interleavings the finer models cover.

* `Books.AtRest B s`: the fine state `s` holds the queuing index, `Running`, each worker's four
  connection counters, its started connections not yet completed and its `OnConnectionsComplete`
  calls as the bookkeeping `B` does, with every worker thread in its loop and no completion callback in
  flight.
* `Books.AtRest.step`: every event of the bookkeeping is matched by `queue`; `create` then `activate`
  for a new connection; `complete`, `decrement` then `check` for a completed one; `stop`; or, for the
  stream handlers, by no step.
* `connection_counters_schedule`: every world a run of the client reaches is at rest over a state some
  schedule of the fine model reaches, so what `SecNetPerf.Completion` proves of every schedule holds of
  every run of the world.
* `World.Sampled`: every event takes latency samples of successful finalizations (`recordLatency`) or
  leaves `CurLatencyIndex`, `LatencyCount` and `LatencyValues` alone (`World.sampled_step`).
* `LatencyRing.Ring.Reachable.sample`: one more successful finalization, run alone through the sample
  code, is a schedule of the ring.
* `latency_words_schedule`: every world a run reaches holds the latency words of a ring state that
  some interleaving of the run's successful finalizations reaches with all of them done.
-/

namespace SecNetPerf

/-! ## The connection counters -/

namespace Completion

variable {connectionCount workerCount : Nat} {repeatConnections : Bool}

/-- A state that a schedule reaches from a reachable state is reachable. -/
theorem Reachable.run {s s' : Sys} :
    ∀ {es : List Event}, Reachable connectionCount workerCount repeatConnections s →
      run connectionCount workerCount repeatConnections s es = some s' →
      Reachable connectionCount workerCount repeatConnections s'
  | [], h, hr => by cases hr; exact h
  | e :: es, h, hr => by
    obtain ⟨s1, h1, hr⟩ := Option.bind_eq_some.1 hr
    exact Reachable.run (h.step e h1) hr

/-- Worker `w`'s part of the counter model: its counters, its started connections the transport has
yet to complete, and its `OnConnectionsComplete` calls. -/
def Sys.view (s : Sys) (w : Nat) : Counters × Nat × Nat :=
  (s.counters w, s.live w, s.signals.countP (·.1 = w))

end Completion

open Completion

/-- The same of a worker's bookkeeping. -/
def WorkerBooks.view (b : WorkerBooks) : Counters × Nat × Nat :=
  (⟨b.connectionsQueued, b.connectionsCreated, b.connectionsActive, b.connectionsCompleted⟩,
    b.conns.card, b.completionSignals)

theorem WorkerBooks.view_eq {b b' : WorkerBooks} (hc : b.connCounters = b'.connCounters)
    (hl : b.conns = b'.conns) : b.view = b'.view := by
  simp only [connCounters, Prod.mk.injEq] at hc
  simp only [view, hc, hl]

/-- `s` is the bookkeeping `B` between handlers: the same counters, live connections and
`OnConnectionsComplete` calls, every worker thread in its loop and no completion callback in
flight. -/
structure Books.AtRest (B : Books) (s : Sys) : Prop where
  queueIndex : s.queueIndex = B.queueIndex
  running : s.running = B.running
  idle : ∀ w, s.thread w = .idle
  callbacks : s.callbacks = 0
  view : ∀ w, s.view w = (B.workers w).view

namespace WorkerBooks

variable {c : PerfClient} {opens : Nat → Bool} {b : WorkerBooks}

@[simp] theorem conns_onConnectionComplete (cid : Nat) :
    (b.onConnectionComplete c opens cid).conns = b.conns := by
  unfold onConnectionComplete; split <;> simp [connectionShutdown, setConn]

@[simp] theorem conns_onStreamShutdownComplete (k : Nat) (success : Bool) :
    (b.onStreamShutdownComplete c opens k success).conns = b.conns := by
  unfold onStreamShutdownComplete connOnStreamShutdownComplete
  dsimp only
  split_ifs
  · exact conns_startStreams _ _
  all_goals rfl

end WorkerBooks

namespace Books

variable {c : PerfClient} {B : Books} {s : Sys}

/-- A handler that changes worker `w` is matched by a schedule that changes worker `w`'s part of the
counter model alike and leaves the others' alone. -/
theorem AtRest.update (h : B.AtRest s) {B' : Books} {s' : Sys} {w : Nat} {b : WorkerBooks}
    (hB : B'.workers = Function.update B.workers w b) (hq : s'.queueIndex = B'.queueIndex)
    (hr : s'.running = B'.running) (ht : ∀ j, s'.thread j = .idle) (hcb : s'.callbacks = 0)
    (hw : s'.view w = b.view) (ho : ∀ j ≠ w, s'.view j = s.view j) : B'.AtRest s' := by
  refine ⟨hq, hr, ht, hcb, fun j => ?_⟩
  rcases eq_or_ne j w with rfl | hj
  · simpa [hB] using hw
  · simpa [hB, hj, ho j hj] using h.view j

theorem AtRest.setWorker (h : B.AtRest s) {s' : Sys} {w : Nat} {b : WorkerBooks}
    (hq : s'.queueIndex = s.queueIndex) (hr : s'.running = s.running) (ht : ∀ j, s'.thread j = .idle)
    (hcb : s'.callbacks = 0) (hw : s'.view w = b.view) (ho : ∀ j ≠ w, s'.view j = s.view j) :
    (B.setWorker w b).AtRest s' :=
  h.update rfl (hq.trans h.queueIndex) (hr.trans h.running) ht hcb hw ho

/-- A handler that leaves worker `w`'s connection counters and live connections alone is matched by
no step. -/
theorem AtRest.keep (h : B.AtRest s) {w : Nat} {b : WorkerBooks}
    (hc : b.connCounters = (B.workers w).connCounters) (hl : b.conns = (B.workers w).conns) :
    (B.setWorker w b).AtRest s :=
  h.setWorker rfl rfl h.idle h.callbacks (by rw [h.view, WorkerBooks.view_eq hc hl]) fun _ _ => rfl

theorem AtRest.recordLatency (h : B.AtRest s) : (Books.recordLatency c B).AtRest s := by
  unfold Books.recordLatency
  split <;> exact ⟨h.queueIndex, h.running, h.idle, h.callbacks, h.view⟩

variable (c)

/-- The schedule of `PerfClientWorker::OnConnectionComplete` and the free of connection `cid`:
`complete`, `decrement`, `check`. -/
theorem AtRest.onShutdownComplete (h : B.AtRest s) {w cid : Nat} (hc : cid ∈ (B.workers w).conns)
    {b : WorkerBooks} (hb : b.connCounters = (B.workers w).connCounters)
    (hl : b.conns = (B.workers w).conns) :
    ∃ s', Completion.run c.connectionCount.toNat c.workerCount.toNat c.repeatConnections s
        [.complete w, .decrement w, .check w] = some s' ∧
      (B.setWorker w (b.onShutdownComplete c cid)).AtRest s' := by
  have hv : s.view w = b.view := (h.view w).trans (WorkerBooks.view_eq hb hl).symm
  simp only [Sys.view, WorkerBooks.view, Prod.mk.injEq] at hv
  obtain ⟨hcnt, hlive, hsig⟩ := hv
  have hc' : cid ∈ b.conns := hl ▸ hc
  have hpos : 0 < s.live w := by rw [hlive]; exact Finset.card_pos.2 ⟨cid, hc'⟩
  simp only [Completion.run, List.foldlM, Completion.step, hpos, if_true, Option.bind_eq_bind,
    Option.some_bind, Function.update_same, Multiset.mem_cons_self, Multiset.erase_cons_head,
    Function.update_idem, hcnt]
  unfold WorkerBooks.onShutdownComplete WorkerBooks.workerOnConnectionComplete
  dsimp only
  split_ifs <;> refine ⟨_, rfl, h.setWorker rfl rfl h.idle h.callbacks ?_ fun j hj => ?_⟩ <;>
    first
    | simp only [Sys.view, Function.update_noteq hj, List.countP_cons, Ne.symm hj, decide_False,
        Bool.false_eq_true, ↓reduceIte, add_zero]
    | simp only [Sys.view, WorkerBooks.view, Function.update_same, Finset.card_erase_of_mem hc', hlive,
        hsig, List.countP_cons, decide_True, if_true]

variable {c}

/-- Every step of the bookkeeping is a schedule of the counter model: `queue`; `create` and
`activate` for a new connection; `complete`, `decrement` and `check` for a completed one; `stop`; and
no step for the stream handlers, which touch no connection counter. -/
theorem AtRest.step (hI : B.Inv c) (h : B.AtRest s) {e : Books.Event} {B' : Books}
    (hs : Books.step c B e = some B') :
    ∃ es s', Completion.run c.connectionCount.toNat c.workerCount.toNat c.repeatConnections s es =
      some s' ∧ B'.AtRest s' := by
  cases e with
  | queue =>
    simp only [Books.step] at hs
    split_ifs at hs with hg
    cases hs
    have hv := h.view (B.queueIndex % c.workerCount.toNat)
    simp only [Sys.view, WorkerBooks.view, Prod.mk.injEq] at hv
    have hw : 0 < c.workerCount.toNat := Nat.pos_of_ne_zero fun h0 => hg.2 (UInt32.toNat.inj h0)
    refine ⟨[.queue], _, by simp [Completion.run, Completion.step, h.queueIndex, hg.1, hw]; rfl, ?_⟩
    refine h.update rfl (by simp [h.queueIndex]) h.running h.idle h.callbacks
      (by simp [Sys.view, WorkerBooks.view, h.queueIndex, hv]) fun j hj => ?_
    simp [Sys.view, WorkerBooks.view, h.queueIndex, Function.update_noteq, hj]
  | startNewConnection w ok =>
    simp only [Books.step] at hs
    split_ifs at hs with hg
    cases hs
    have hv := h.view w
    simp only [Sys.view, WorkerBooks.view, Prod.mk.injEq] at hv
    have hn : (B.workers w).nextConn ∉ (B.workers w).conns := fun hm =>
      lt_irrefl _ ((hI.workers w).conns_lt _ hm)
    refine ⟨[.create w, .activate w ok], _,
      by simp [Completion.run, Completion.step, h.running, h.idle, hv, hg.1, hg.2.2]; rfl, ?_⟩
    refine h.setWorker rfl (h.running.trans hg.1).symm (fun j => ?_) h.callbacks
      (by cases ok <;> simp [Sys.view, WorkerBooks.view, WorkerBooks.startNewConnection, hv, hn])
      fun j hj => ?_
    · rcases eq_or_ne j w with rfl | hj <;> simp [Function.update_noteq, *, h.idle]
    · cases ok <;> simp [Sys.view, Function.update_noteq, hj]
  | stop =>
    cases hs
    exact ⟨[.stop], _, rfl, h.queueIndex, rfl, h.idle, h.callbacks, h.view⟩
  | connected w cid opens =>
    simp only [Books.step] at hs
    split_ifs at hs
    cases hs
    exact ⟨[], s, rfl, h.keep (by simp; rfl) (by simp [WorkerBooks.setConn])⟩
  | shutdownComplete w cid =>
    simp only [Books.step] at hs
    split_ifs at hs with hg <;> cases hs <;> exact ⟨_, AtRest.onShutdownComplete c h hg.2.1 rfl rfl⟩
  | streamShutdownComplete w k success opens =>
    simp only [Books.step] at hs
    split_ifs at hs <;> cases hs <;> refine ⟨[], s, rfl, ?_⟩
    · exact h.recordLatency.keep (by simp) (by simp)
    · exact h.keep (by simp) (by simp)
  | tcpConnect w cid isConnected opens =>
    simp only [Books.step] at hs
    split_ifs at hs with hg <;> cases hs
    · exact ⟨[], s, rfl, h.keep (by simp) (by simp)⟩
    · exact ⟨_, AtRest.onShutdownComplete c h hg.2 rfl rfl⟩

/-- The bookkeeping when `Start` has created the threads is the fine model's initial state. -/
theorem atRest_init : Books.init.AtRest Sys.init :=
  ⟨rfl, rfl, fun _ => rfl, rfl, fun _ => by
    simp [Sys.view, Sys.init, WorkerBooks.view, WorkerBooks.new, Books.init]⟩

/-- Every reachable bookkeeping is at rest over a state that some schedule of the fine model
reaches. -/
theorem Reachable.atRest (h : Books.Reachable c B) :
    ∃ s, Completion.Reachable c.connectionCount.toNat c.workerCount.toNat c.repeatConnections s ∧
      B.AtRest s := by
  induction h with
  | init => exact ⟨_, .init, atRest_init⟩
  | step e hr hs ih =>
    obtain ⟨s, hR, hA⟩ := ih
    obtain ⟨es, s', hrun, hA'⟩ := hA.step hr.inv hs
    exact ⟨s', hR.run hrun, hA'⟩

end Books

/-- **Every run of the client is a schedule of its interlocked counters.**  For every world a run
reaches, under any options and in either back-end, some schedule of the per-access model of
`StartNewConnection` and `PerfClientWorker::OnConnectionComplete` reaches a state with the same queuing
index, `Running`, connection counters of every worker, started connections not yet completed and
`OnConnectionsComplete` calls per worker, with no thread inside those handlers. -/
theorem connection_counters_schedule {c : PerfClient} {W : World} (h : Reachable c W) :
    ∃ s, Completion.Reachable c.connectionCount.toNat c.workerCount.toNat c.repeatConnections s ∧
      W.books.AtRest s :=
  h.books.atRest

/-- One connection, no stream: the connection is shut down at `CONNECTED` and completes, and the
worker's single `OnConnectionsComplete` call is a schedule of the fine model. -/
theorem connection_counters_schedule_one_connection :
    let c := { PerfClient.defaults ⟨4433, 65536, 2000000⟩ with workerCount := 1 }
    let es : List (Inputs × World.Event) :=
      [.queue, .startNewConnection 0 ⟨true, true, true, true, true, true, none, true⟩,
        .connected 0 0, .shutdownComplete 0 0].map (Prod.mk ⟨1, 10, fun _ => true⟩)
    ∃ W, World.run c (World.init c) es = .ok W ∧ (W.workers 0).completionSignals = 1 ∧
      ∃ s, Completion.Reachable c.connectionCount.toNat c.workerCount.toNat c.repeatConnections s ∧
        W.books.AtRest s := by
  intro c es
  obtain ⟨W, hW, hs⟩ : ∃ W, World.run c (World.init c) es = .ok W ∧
      (W.workers 0).completionSignals = 1 := by
    simp only [c, es]; exact ⟨_, rfl, rfl⟩
  exact ⟨W, hW, hs, connection_counters_schedule (Reachable.init.run hW)⟩

end SecNetPerf

namespace SecNetPerf

/-! ## The latency words -/

namespace LatencyRing.Ring

variable {m : Nat} {fs : Multiset Sample} {r r' : Ring}

/-- A finalization that has not reached the sample code rides along every access. -/
theorem step_cons_idle (f : Sample) {a : Access} (h : step m r a = some r') :
    step m { r with idle := f ::ₘ r.idle } a = some { r' with idle := f ::ₘ r'.idle } := by
  cases a <;> simp only [step] at h ⊢ <;> split_ifs at h with hg <;> cases h
  · rw [if_pos ⟨Multiset.mem_cons_of_mem hg.1, hg.2⟩, Multiset.erase_cons_tail_of_mem hg.1]
  · rw [if_pos ⟨Multiset.mem_cons_of_mem hg.1, hg.2⟩, Multiset.erase_cons_tail_of_mem hg.1]
  all_goals rw [if_pos hg]

/-- Adding a finalization that never runs to the run keeps every schedule. -/
theorem Reachable.cons_idle (f : Sample) (h : Reachable m fs r) :
    Reachable m (f ::ₘ fs) { r with idle := f ::ₘ r.idle } := by
  induction h with
  | init => exact .init
  | step a _ hs ih => exact ih.step a (step_cons_idle f hs)

/-- A successful finalization run alone through the sample code, once every other one is done:
`reserve`, then `write` and `count` below `MaxLatencyIndex`, or `drop` at or above it. -/
theorem Reachable.sample (h : Reachable m fs r) (hi : r.idle = 0) (hr : r.reserved = 0)
    (hw : r.written = 0) (l : UInt64) :
    ∃ r', Reachable m (⟨true, l⟩ ::ₘ fs) r' ∧ r'.idle = 0 ∧ r'.reserved = 0 ∧ r'.written = 0 ∧
      r'.curLatencyIndex = r.curLatencyIndex + 1 ∧
      (r'.latencyCount, r'.latencyValues) = if r.curLatencyIndex < m then
          (r.latencyCount + 1, Function.update r.latencyValues r.curLatencyIndex (clampLatency l))
        else (r.latencyCount, r.latencyValues) := by
  set f : Sample := ⟨true, l⟩
  set i := r.curLatencyIndex
  have h1 : Reachable m (f ::ₘ fs) { r with idle := 0, reserved := {(f, i)}, curLatencyIndex := i + 1 } :=
    (h.cons_idle f).step (.reserve f) (by simp [Ring.step, hi, hr, f, i])
  split_ifs with hm
  · have h2 : Reachable m (f ::ₘ fs) { r with
        idle := 0, reserved := 0, written := {(f, i)}, curLatencyIndex := i + 1, log := i ::ₘ r.log
        latencyValues := Function.update r.latencyValues i (clampLatency l) } :=
      h1.step (.write f i) (by simp [Ring.step, hm, hw, f])
    exact ⟨{ r with
        idle := 0, reserved := 0, written := 0, curLatencyIndex := i + 1, log := i ::ₘ r.log
        latencyValues := Function.update r.latencyValues i (clampLatency l)
        counted := i ::ₘ r.counted, latencyCount := r.latencyCount + 1 },
      h2.step (.count f i) (by simp [Ring.step]), rfl, rfl, rfl, rfl, rfl⟩
  · exact ⟨{ r with idle := 0, reserved := 0, curLatencyIndex := i + 1, dropped := i ::ₘ r.dropped },
      h1.step (.drop f i) (by simp [Ring.step, Nat.le_of_not_lt hm]), rfl, rfl, hw, rfl, rfl⟩

end LatencyRing.Ring

namespace World

variable (c : PerfClient)

/-- The words the sample code of `OnStreamShutdownComplete` shares across workers:
`CurLatencyIndex`, `LatencyCount` and `LatencyValues`. -/
def latencyWords (W : World) : Nat × Nat × (Nat → UInt32) :=
  (W.curLatencyIndex, W.latencyCount, W.latencyValues)

/-- `W'` follows `W` by latency samples of successful finalizations and by steps that leave the latency
words alone. -/
def Sampled : World → World → Prop :=
  Relation.ReflTransGen fun W W' =>
    W'.latencyWords = W.latencyWords ∨ ∃ l, W'.latencyWords = (recordLatency c l W).latencyWords

variable {c} (inp : Inputs) {W W' : World} {w : Nat}

theorem Sampled.of_eq (h : W'.latencyWords = W.latencyWords) : Sampled c W W' :=
  .single (.inl h)

/-- A run that starts from a world with the same latency words. -/
theorem Sampled.of_words {W1 : World} (h : Sampled c W1 W') (h1 : W1.latencyWords = W.latencyWords) :
    Sampled c W W' :=
  (Sampled.of_eq h1).trans h

omit inp in
@[simp] theorem latencyWords_onShutdownComplete (cid : Nat) :
    (onShutdownComplete c w cid W).latencyWords = W.latencyWords := by
  unfold onShutdownComplete; dsimp only; split <;> rfl

omit inp in
@[simp] theorem latencyWords_startNewConnection (r : InitResults) :
    (startNewConnection c w r W).latencyWords = W.latencyWords := by
  rfl

theorem sampled_send {k : Nat} (hs : send c inp w k W = .ok W') : Sampled c W W' := by
  unfold World.send at hs
  cases hl : PerfClientStream.sendLoop c (fun _ => inp.now) inp.fuel ((W.workers w).stream k).st with
  | none => simp [hl] at hs
  | some r =>
    simp only [hl] at hs
    split at hs <;> simp only [pure_eq_ok] at hs <;> subst hs <;> exact Sampled.of_eq rfl

theorem sampled_startNewStream {cid : Nat} {ok : Bool} (hs : startNewStream c inp w cid ok W = .ok W') :
    Sampled c W W' := by
  unfold World.startNewStream at hs
  dsimp only at hs
  split at hs
  · exact Sampled.of_words (sampled_send inp hs) rfl
  · simp only [pure_eq_ok] at hs; subst hs; exact Sampled.of_eq rfl

theorem sampled_startStreams {cid : Nat} : ∀ {n i : Nat} {W W' : World},
    startStreams c inp w cid n i W = .ok W' → Sampled c W W'
  | 0, _, _, _, hs => by simp only [World.startStreams, pure_eq_ok] at hs; subst hs; exact .refl
  | n + 1, _, _, _, hs => by
    obtain ⟨W1, h1, h2⟩ := bind_eq_ok.1 hs
    exact (sampled_startNewStream inp h1).trans (sampled_startStreams h2)

theorem sampled_connOnStreamShutdownComplete {cid : Nat}
    (hs : connOnStreamShutdownComplete c inp w cid W = .ok W') : Sampled c W W' := by
  unfold World.connOnStreamShutdownComplete at hs
  dsimp only at hs
  split_ifs at hs
  · exact Sampled.of_words (sampled_startStreams inp hs) rfl
  all_goals simp only [pure_eq_ok] at hs; subst hs; exact Sampled.of_eq rfl

/-- `OnStreamShutdownComplete` takes one latency sample when the stream succeeded and none
otherwise. -/
theorem sampled_onStreamShutdownComplete {k : Nat} (hs : onStreamShutdownComplete c inp w k W = .ok W') :
    Sampled c W W' := by
  unfold World.onStreamShutdownComplete at hs
  dsimp only at hs
  split at hs
  · exact absurd hs throw_ne_ok
  · refine Relation.ReflTransGen.trans ?_ (sampled_connOnStreamShutdownComplete inp hs)
    split
    · exact .single (.inr ⟨_, rfl⟩)
    · exact Sampled.of_eq rfl

theorem sampled_onConnectionComplete {cid : Nat} (hs : onConnectionComplete c inp w cid W = .ok W') :
    Sampled c W W' := by
  unfold World.onConnectionComplete at hs
  dsimp only at hs
  split at hs
  · simp only [pure_eq_ok] at hs; subst hs; exact Sampled.of_eq rfl
  · exact Sampled.of_words (sampled_startStreams inp hs) rfl

theorem sampled_streamCallback {k : Nat} {e : StreamEvent} (hs : streamCallback c inp w k W e = .ok W') :
    Sampled c W W' := by
  cases e with
  | receive length fin =>
    simp only [streamCallback, pure_eq_ok] at hs; subst hs
    exact Sampled.of_eq (by split <;> rfl)
  | sendComplete i canceled =>
    simp only [streamCallback] at hs
    cases hp : ((W.workers w).stream k).pending[i]? with
    | none => simp [hp] at hs
    | some op =>
      simp only [hp] at hs
      split at hs
      · simp only [pure_eq_ok] at hs; subst hs; exact Sampled.of_eq rfl
      · exact Sampled.of_words (sampled_send inp hs) rfl
  | peerSendAborted | peerReceiveAborted | sendShutdownComplete =>
    simp only [streamCallback, pure_eq_ok] at hs; subst hs
    exact Sampled.of_eq (by first | rfl | split <;> rfl)
  | shutdownComplete => exact sampled_onStreamShutdownComplete inp hs
  | idealSendBufferSize n =>
    simp only [streamCallback] at hs
    split at hs
    · exact Sampled.of_words (sampled_send inp hs) rfl
    · simp only [pure_eq_ok] at hs; subst hs; exact .refl

/-- A finalization a TCP callback reaches, when `SendEndTime` is stamped. -/
theorem sampled_finalize_if {k : Nat} {p : Prop} [Decidable p] {W1 : World}
    (hs : (if p then onStreamShutdownComplete c inp w k W1 else pure W1) = .ok W')
    (hW1 : W1.latencyWords = W.latencyWords) : Sampled c W W' := by
  split at hs
  · exact (Sampled.of_eq hW1).trans (sampled_onStreamShutdownComplete inp hs)
  · simp only [pure_eq_ok] at hs; subst hs; exact Sampled.of_eq hW1

theorem sampled_tcpOnReceive {k : Nat} {length : UInt32} {fin : Bool}
    (hs : tcpOnReceive c inp w k length fin W = .ok W') : Sampled c W W' := by
  unfold tcpOnReceive at hs
  dsimp only at hs
  split at hs
  · exact sampled_finalize_if inp hs rfl
  · simp only [pure_eq_ok] at hs; subst hs; exact Sampled.of_eq rfl

theorem sampled_tcpReceive {cid : Nat} {id : UInt32} {fin abort : Bool} {length : UInt32}
    (hs : tcpReceive c inp w cid id fin abort length W = .ok W') : Sampled c W W' := by
  unfold tcpReceive at hs
  cases hg : getTcpStream ((W.workers w).conn cid) id with
  | none => simp only [hg, pure_eq_ok] at hs; subst hs; exact .refl
  | some k =>
    simp only [hg] at hs
    obtain ⟨u, -, hs⟩ := bind_eq_ok.1 hs
    obtain ⟨W2, h2, hs⟩ := bind_eq_ok.1 hs
    refine (sampled_tcpOnReceive inp h2).trans ?_
    split at hs
    · obtain ⟨u, -, hs⟩ := bind_eq_ok.1 hs
      exact sampled_finalize_if inp hs rfl
    · simp only [pure_eq_ok] at hs; subst hs; exact .refl

/-- Every event either takes latency samples of successful finalizations or leaves the latency words
alone. -/
theorem sampled_step {e : Event} (hs : step c inp W e = .ok W') : Sampled c W W' := by
  cases e with
  | queue =>
    simp only [step] at hs
    split_ifs at hs
    simp only [pure_eq_ok] at hs; subst hs; exact Sampled.of_eq rfl
  | startNewConnection w r =>
    simp only [step] at hs
    split_ifs at hs
    simp only [pure_eq_ok] at hs; subst hs; exact Sampled.of_eq (latencyWords_startNewConnection _)
  | stop => simp only [step, pure_eq_ok] at hs; subst hs; exact Sampled.of_eq rfl
  | connected w cid =>
    simp only [step] at hs
    split_ifs at hs
    exact Sampled.of_words (sampled_onConnectionComplete inp hs) rfl
  | shutdownComplete w cid =>
    simp only [step] at hs
    split_ifs at hs <;> simp only [pure_eq_ok] at hs <;> subst hs <;>
      exact Sampled.of_eq ((latencyWords_onShutdownComplete _).trans rfl)
  | stream w k e =>
    simp only [step] at hs
    split_ifs at hs
    exact sampled_streamCallback inp hs
  | tcpConnect w cid isConnected =>
    simp only [step] at hs
    split_ifs at hs <;> obtain ⟨u, -, hs⟩ := bind_eq_ok.1 hs
    · exact sampled_onConnectionComplete inp hs
    · simp only [pure_eq_ok] at hs; subst hs; exact Sampled.of_eq (latencyWords_onShutdownComplete _)
  | tcpReceive w cid id fin abort length =>
    simp only [step] at hs
    split_ifs at hs
    obtain ⟨u, -, hs⟩ := bind_eq_ok.1 hs
    exact sampled_tcpReceive inp hs
  | tcpSendComplete w cid n => exact absurd hs (step_tcpSendComplete_ne_ok c inp w cid n W W')

/-- The ring's shared words with every finalization done: the world's latency words at rest. -/
structure LatencyAtRest (W : World) (r : LatencyRing.Ring) : Prop where
  idle : r.idle = 0
  reserved : r.reserved = 0
  written : r.written = 0
  words : (r.curLatencyIndex, r.latencyCount, r.latencyValues) = W.latencyWords

omit inp in
theorem latencyWords_recordLatency (l : UInt64) (W : World) :
    (recordLatency c l W).latencyWords = (W.curLatencyIndex + 1,
      if W.curLatencyIndex < c.maxLatencyIndex.toNat then
        (W.latencyCount + 1,
          Function.update W.latencyValues W.curLatencyIndex (LatencyRing.clampLatency l))
      else (W.latencyCount, W.latencyValues)) := by
  unfold recordLatency latencyWords LatencyRing.clampLatency
  dsimp only
  split_ifs <;> simp

omit inp in
/-- The ring follows the world's latency samples: one successful finalization run alone through the
sample code for each. -/
theorem Sampled.ring (h : Sampled c W W') {fs : Multiset LatencyRing.Sample} {r : LatencyRing.Ring}
    (hr : LatencyRing.Ring.Reachable c.maxLatencyIndex.toNat fs r) (hh : W.LatencyAtRest r) :
    ∃ fs' r', LatencyRing.Ring.Reachable c.maxLatencyIndex.toNat fs' r' ∧ W'.LatencyAtRest r' := by
  induction h with
  | refl => exact ⟨fs, r, hr, hh⟩
  | tail _ hs ih =>
    obtain ⟨fs1, r1, hr1, hh1⟩ := ih
    rcases hs with he | ⟨l, he⟩
    · exact ⟨fs1, r1, hr1, { hh1 with words := hh1.words.trans he.symm }⟩
    · obtain ⟨r2, hr2, hi, hre, hw, hcur, hpair⟩ := hr1.sample hh1.idle hh1.reserved hh1.written l
      have e := hh1.words
      simp only [latencyWords, Prod.mk.injEq] at e
      refine ⟨_, r2, hr2, hi, hre, hw, ?_⟩
      rw [he, latencyWords_recordLatency, Prod.mk.injEq, hcur, hpair, e.1, e.2.1, e.2.2]
      exact ⟨rfl, rfl⟩

end World

/-- **Every run of the client is a schedule of its latency ring.**  For every world a run reaches,
under any options and in either back-end, some interleaving of the ring's shared accesses, over the
run's successful finalizations, ends with every finalization past the sample code and with
`CurLatencyIndex`, `LatencyCount` and `LatencyValues` as the world holds them. -/
theorem latency_words_schedule {c : PerfClient} {W : World} (h : Reachable c W) :
    ∃ fs r, LatencyRing.Ring.Reachable c.maxLatencyIndex.toNat fs r ∧ W.LatencyAtRest r := by
  induction h with
  | init => exact ⟨0, _, .init, rfl, rfl, rfl, rfl⟩
  | step inp _ _ hs ih =>
    obtain ⟨fs, r, hr, hh⟩ := ih
    exact (World.sampled_step inp hs).ring hr hh

/-- One stream finalizes with success and its latency of 3 µs is stored in slot 0: the ring reaches
the same words. -/
theorem latency_words_schedule_one_sample :
    let c := { PerfClient.defaults ⟨4433, 65536, 2000000⟩ with
      workerCount := 1, streamCount := 1, maxLatencyIndex := 1 }
    let es : List (Inputs × World.Event) :=
      [(⟨1, 10, fun _ => true⟩, .queue),
        (⟨1, 10, fun _ => true⟩, .startNewConnection 0 ⟨true, true, true, true, true, true, none, true⟩),
        (⟨1, 10, fun _ => true⟩, .connected 0 0),
        (⟨3, 10, fun _ => true⟩, .stream 0 0 .sendShutdownComplete),
        (⟨4, 10, fun _ => true⟩, .stream 0 0 (.receive 0 true)),
        (⟨5, 10, fun _ => true⟩, .stream 0 0 .shutdownComplete)]
    ∃ W, World.run c (World.init c) es = .ok W ∧ W.latencyCount = 1 ∧ W.latencyValues 0 = 3 ∧
      ∃ fs r, LatencyRing.Ring.Reachable c.maxLatencyIndex.toNat fs r ∧ W.LatencyAtRest r := by
  intro c es
  obtain ⟨W, hW, h1, h3⟩ : ∃ W, World.run c (World.init c) es = .ok W ∧ W.latencyCount = 1 ∧
      W.latencyValues 0 = 3 :=
    ⟨_, rfl, rfl, by decide⟩
  exact ⟨W, hW, h1, h3, latency_words_schedule (Reachable.init.run hW)⟩

end SecNetPerf
