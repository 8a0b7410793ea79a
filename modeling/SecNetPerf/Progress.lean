import SecNetPerf.Start
import SecNetPerf.Completion
import Mathlib.Algebra.Order.BigOperators.Group.Finset

/-!
# SecNetPerf.Progress — the completion signal, and that the client can always finish

Two results about the connection lifecycle of every run.

* **The signal is never lost** (`Books.Reachable.signalled`): a worker that has completed a
  connection, has none active and holds no token without a connection has called
  `Client->OnConnectionsComplete()`.  In the handler-at-a-time model `OnConnectionComplete` (428-438)
  runs its decrement and its test together, and every other handler that moves these counters
  (`QueueNewConnection`, `StartNewConnection`) leaves the worker with a token to create or a
  connection active.  The same holds of every interleaving of the counter accesses
  (`Completion.completion_not_lost`), where the test may also fire when it should not
  (`SecNetPerf.Completion`).

* **Nothing the client does blocks completion** (`completion_reachable`): over QUIC, without the
  repeat options and without throughput lines, from every world a run reaches while `Running` holds
  and no `Initialize` has failed, some continuation ends with `Start`'s loop done, every worker idle
  with a connection created and completed for each of its tokens, and each worker that got a token
  signalled.  The continuation is the transport tearing down what is live: `SHUTDOWN_COMPLETE` for
  each live stream, then `Start`'s remaining iterations, a successful `Initialize` for each token left,
  and `SHUTDOWN_COMPLETE` for each live connection.  Each phase lowers one measure (`drain`).  A failed
  `Initialize` keeps `ConnectionsActive` up for good, which is why the hypothesis is needed.
-/

namespace SecNetPerf

open Finset

/-! ## The completion signal -/

namespace WorkerBooks

variable {c : PerfClient} {opens : Nat → Bool} {b : WorkerBooks}

/-- The counters `PerfClientWorker::OnConnectionComplete` tests and writes. -/
def connCounters (b : WorkerBooks) : Nat × Nat × Nat × Nat × Nat :=
  (b.connectionsQueued, b.connectionsCreated, b.connectionsActive, b.connectionsCompleted,
    b.completionSignals)

/-- A worker that has completed a connection and is idle, with a connection created for every token
it holds, has called `OnConnectionsComplete`. -/
def Signalled (b : WorkerBooks) : Prop :=
  0 < b.connectionsCompleted → b.connectionsActive = 0 → b.connectionsCreated = b.connectionsQueued →
    0 < b.completionSignals

theorem Signalled.of_connCounters {b' : WorkerBooks} (h : b.Signalled)
    (e : b'.connCounters = b.connCounters) : b'.Signalled := by
  simp only [connCounters, Prod.mk.injEq] at e
  unfold Signalled
  rw [e.1, e.2.1, e.2.2.1, e.2.2.2.1, e.2.2.2.2]
  exact h

@[simp] theorem connCounters_startNewStream (cid : Nat) (ok : Bool) :
    (b.startNewStream c cid ok).connCounters = b.connCounters := by
  unfold startNewStream; split <;> rfl

@[simp] theorem connCounters_startStreams (cid n i : Nat) :
    (b.startStreams c opens cid n i).connCounters = b.connCounters :=
  startStreams_invariant _ (fun _ _ => connCounters_startNewStream _ _) _ _ _

@[simp] theorem connCounters_onStreamShutdownComplete (k : Nat) (success : Bool) :
    (b.onStreamShutdownComplete c opens k success).connCounters = b.connCounters := by
  unfold onStreamShutdownComplete connOnStreamShutdownComplete
  dsimp only
  split_ifs
  · rw [connCounters_startStreams]; rfl
  all_goals rfl

@[simp] theorem connCounters_onConnectionComplete (cid : Nat) :
    (b.onConnectionComplete c opens cid).connCounters = b.connCounters := by
  unfold onConnectionComplete
  split
  · rfl
  · rw [connCounters_startStreams]; rfl

/-- `OnConnectionComplete` signals whenever it leaves the worker idle with every token created. -/
theorem signalled_workerOnConnectionComplete (hle : b.connectionsCreated ≤ b.connectionsQueued) :
    (b.workerOnConnectionComplete c).Signalled := by
  unfold workerOnConnectionComplete Signalled
  dsimp only
  split_ifs <;> dsimp only <;> omega

/-- A worker that has just created a connection has one active. -/
theorem signalled_startNewConnection (ok : Bool) : (b.startNewConnection ok).Signalled := by
  unfold startNewConnection Signalled
  split <;> dsimp only <;> omega

end WorkerBooks

namespace Books

variable {c : PerfClient} {B B' : Books}

theorem signalled_setWorker {B0 : Books} (hS : ∀ w, (B0.workers w).Signalled) {w : Nat}
    {b : WorkerBooks} (hb : b.Signalled) (j : Nat) : ((B0.setWorker w b).workers j).Signalled := by
  rcases eq_or_ne j w with rfl | h
  · simpa using hb
  · simpa [setWorker, h] using hS j

/-- One event keeps every worker's signal. -/
theorem Inv.step_signalled (h : Inv c B) (hS : ∀ w, (B.workers w).Signalled) {e : Event}
    (hs : Books.step c B e = some B') : ∀ w, (B'.workers w).Signalled := by
  cases e with
  | queue =>
    simp only [Books.step] at hs
    split_ifs at hs
    cases hs
    refine signalled_setWorker hS fun _ _ hq => ?_
    have := (h.workers (B.queueIndex % c.workerCount.toNat)).created_le
    dsimp only at hq
    omega
  | startNewConnection w ok =>
    simp only [Books.step] at hs
    split_ifs at hs
    cases hs
    exact signalled_setWorker hS (WorkerBooks.signalled_startNewConnection ok)
  | stop =>
    simp only [Books.step, Option.some.injEq] at hs
    subst hs
    exact hS
  | connected w cid opens =>
    simp only [Books.step] at hs
    split_ifs at hs
    cases hs
    exact signalled_setWorker hS ((hS w).of_connCounters
      (by rw [WorkerBooks.connCounters_onConnectionComplete]; rfl))
  | shutdownComplete w cid =>
    simp only [Books.step] at hs
    split_ifs at hs <;> cases hs <;>
      exact signalled_setWorker hS (WorkerBooks.signalled_workerOnConnectionComplete (h.workers w).created_le)
  | streamShutdownComplete w k success opens =>
    simp only [Books.step] at hs
    split_ifs at hs <;> cases hs
    · exact signalled_setWorker (by simpa using hS) ((hS w).of_connCounters (by simp))
    · exact signalled_setWorker hS ((hS w).of_connCounters (by simp))
  | tcpConnect w cid isConnected opens =>
    simp only [Books.step] at hs
    split_ifs at hs <;> cases hs
    · exact signalled_setWorker hS ((hS w).of_connCounters (by simp))
    · exact signalled_setWorker hS (WorkerBooks.signalled_workerOnConnectionComplete (h.workers w).created_le)

/-- In every reachable bookkeeping, every worker's signal is where it should be. -/
theorem Reachable.signalled (h : Reachable c B) : ∀ w, (B.workers w).Signalled := by
  induction h with
  | init => intro w hc; simp [Books.init, WorkerBooks.new] at hc
  | step _ hr hs ih => exact hr.inv.step_signalled ih hs

end Books

/-- What the transport answers when every call of `Initialize` succeeds. -/
def InitResults.allSucceed : InitResults := ⟨true, true, true, true, true, true, none, true⟩

theorem isOk_initializeConnection_allSucceed (c : PerfClient) (localAddr : QuicAddr) :
    (initializeConnection c localAddr .allSucceed).isOk = true := by
  unfold initializeConnection InitResults.allSucceed
  by_cases h : c.useTCP <;>
    simp only [h, Bool.not_true, Bool.and_false, ↓reduceIte, Bool.false_eq_true, and_false]
  · rfl
  · split <;> rfl

namespace Books

/-- A count summed over the workers `Start` gave a thread. -/
def total (c : PerfClient) (g : WorkerBooks → Nat) (B : Books) : Nat :=
  ∑ w ∈ range c.workerCount.toNat, g (B.workers w)

variable {c : PerfClient} {g : WorkerBooks → Nat} {B : Books}

/-- Replacing one running worker's books changes the total by the change in its term. -/
theorem total_setWorker {B0 : Books} (h0 : B0.workers = B.workers) {w : Nat}
    (hw : w < c.workerCount.toNat) (b : WorkerBooks) :
    total c g (B0.setWorker w b) + g (B.workers w) = total c g B + g b := by
  unfold total setWorker
  rw [h0]
  exact sum_comp_update_add g B.workers b (mem_range.2 hw)

/-- A total is zero exactly when every running worker's term is. -/
theorem total_eq_zero : total c g B = 0 ↔ ∀ w < c.workerCount.toNat, g (B.workers w) = 0 := by
  simp [total, sum_eq_zero_iff]

theorem exists_of_total_pos (h : 0 < total c g B) : ∃ w < c.workerCount.toNat, 0 < g (B.workers w) := by
  by_contra hn
  push_neg at hn
  exact h.ne' (total_eq_zero.2 fun w hw => Nat.le_zero.1 (hn w hw))

@[simp] theorem recordLatency_running (B : Books) : (recordLatency c B).running = B.running := by
  unfold recordLatency; split <;> rfl

end Books

namespace WorkerBooks

variable {c : PerfClient} {opens : Nat → Bool} {b : WorkerBooks}

/-- Without `RepeatStreams`, finalizing stream `k` frees it and starts none. -/
theorem onStreamShutdownComplete_streams (hrs : c.repeatStreams = false) (k : Nat) (s : Bool) :
    (b.onStreamShutdownComplete c opens k s).streams = b.streams.erase k ∧
      (b.onStreamShutdownComplete c opens k s).failedInits = b.failedInits := by
  unfold onStreamShutdownComplete connOnStreamShutdownComplete
  simp only [hrs, Bool.false_eq_true, ↓reduceIte]
  split_ifs <;> exact ⟨rfl, rfl⟩

/-- Without `RepeatConnections`, completing connection `cid` frees it and touches no token. -/
theorem onShutdownComplete_conns (hrc : c.repeatConnections = false) (cid : Nat) :
    (b.onShutdownComplete c cid).conns = b.conns.erase cid ∧
      (b.onShutdownComplete c cid).streams = b.streams ∧
      (b.onShutdownComplete c cid).connectionsQueued = b.connectionsQueued ∧
      (b.onShutdownComplete c cid).connectionsCreated = b.connectionsCreated ∧
      (b.onShutdownComplete c cid).failedInits = b.failedInits := by
  unfold onShutdownComplete workerOnConnectionComplete
  simp only [hrc, Bool.false_eq_true, ↓reduceIte]
  split_ifs <;> exact ⟨rfl, rfl, rfl, rfl, rfl⟩

end WorkerBooks

namespace World

variable {c : PerfClient} {W : World}

/-- What every world of the continuation keeps: it is reachable, `Running` holds, and no
`Initialize` failed. -/
structure Live (c : PerfClient) (W : World) : Prop where
  reachable : Reachable c W
  running : W.running = true
  noFailedInits : ∀ w, (W.workers w).failedInits = 0

/-- Two runs, one after the other. -/
theorem run_append {W1 W2 : World} {es es' : List (Inputs × Event)} (h1 : run c W es = .ok W1)
    (h2 : run c W1 es' = .ok W2) : run c W (es ++ es') = .ok W2 := by
  induction es generalizing W with
  | nil => cases h1; exact h2
  | cons p es ih =>
    obtain ⟨W3, h3, h4⟩ := bind_eq_ok.1 h1
    exact bind_eq_ok.2 ⟨W3, h3, ih h4⟩

/-- A measure that some event of kind `E` lowers while `I` holds, and `I` survives, runs down to zero,
by events of that kind. -/
theorem drain_by (E : Event → Prop) (I : World → Prop) (μ : World → Nat)
    (hstep : ∀ W, I W → 0 < μ W → ∃ inp e W', E e ∧ step c inp W e = .ok W' ∧ I W' ∧ μ W' < μ W) :
    ∀ W, I W → ∃ es W', run c W es = .ok W' ∧ (∀ p ∈ es, E p.2) ∧ I W' ∧ μ W' = 0 := by
  intro W hI
  obtain ⟨n, hμ⟩ : ∃ n, μ W = n := ⟨_, rfl⟩
  induction n using Nat.strong_induction_on generalizing W with
  | _ n ih =>
    rcases Nat.eq_zero_or_pos n with h0 | hpos
    · exact ⟨[], W, rfl, fun _ h => absurd h (List.not_mem_nil _), hI, hμ.trans h0⟩
    · obtain ⟨inp, e, W1, he, h1, hI1, hlt⟩ := hstep W hI (hμ ▸ hpos)
      obtain ⟨es, W', h', hes, hI', h0⟩ := ih _ (hμ ▸ hlt) W1 hI1 rfl
      refine ⟨(inp, e) :: es, W', bind_eq_ok.2 ⟨W1, h1, h'⟩, fun p hp => ?_, hI', h0⟩
      rcases List.mem_cons.1 hp with rfl | hp
      · exact he
      · exact hes p hp

/-- A measure that some event lowers while `I` holds, and `I` survives, runs down to zero. -/
theorem drain (I : World → Prop) (μ : World → Nat)
    (hstep : ∀ W, I W → 0 < μ W → ∃ inp e W', step c inp W e = .ok W' ∧ I W' ∧ μ W' < μ W) :
    ∀ W, I W → ∃ es W', run c W es = .ok W' ∧ I W' ∧ μ W' = 0 := fun W hI =>
  let ⟨es, W', h1, _, h2⟩ := drain_by (fun _ => True) I μ
    (fun W hI hp => let ⟨inp, e, W', h⟩ := hstep W hI hp; ⟨inp, e, W', trivial, h⟩) W hI
  ⟨es, W', h1, h2⟩

variable (inp : Inputs)

theorem connOnStreamShutdownComplete_ok (hrs : c.repeatStreams = false) (w cid : Nat) (W : World) :
    ∃ W', connOnStreamShutdownComplete c inp w cid W = .ok W' := by
  unfold connOnStreamShutdownComplete
  simp only [hrs, Bool.false_eq_true, ↓reduceIte]
  split <;> exact ⟨_, rfl⟩

/-- Without throughput lines and `RepeatStreams`, finalizing a stream always returns. -/
theorem onStreamShutdownComplete_ok (hrs : c.repeatStreams = false)
    (hpt : c.printThroughput = false) (w k : Nat) (W : World) :
    ∃ W', onStreamShutdownComplete c inp w k W = .ok W' := by
  have hz : PerfClientStream.throughputDividesByZero c ((W.workers w).stream k).st = false := by
    simp [PerfClientStream.throughputDividesByZero, hpt]
  unfold onStreamShutdownComplete
  simp only [hz, Bool.false_eq_true, ↓reduceIte]
  exact connOnStreamShutdownComplete_ok inp hrs _ _ _

/-- Every event of the continuation replaces one running worker's books. -/
theorem Live.setWorker (hL : Live c W) {W' : World} (hR : Reachable c W') {B0 : Books} {w : Nat}
    {b : WorkerBooks} (hb : W'.books = B0.setWorker w b) (h0 : B0.workers = W.books.workers)
    (hr : B0.running = W.running) (hf : b.failedInits = (W.workers w).failedInits) : Live c W' where
  reachable := hR
  running := by rw [← books_running, hb]; exact hr.trans hL.running
  noFailedInits j := by
    have e := congrArg (fun B => (B.workers j).failedInits) hb
    simp only [books_workers, PerfClientWorker.books, Books.setWorker, Function.update_apply] at e
    rw [e]
    split_ifs with hj
    · rw [hf]; exact hL.noFailedInits w
    · rw [h0]; exact hL.noFailedInits j

/-- `SHUTDOWN_COMPLETE` of a live QUIC stream finalizes it. -/
theorem step_finalize (ht : c.useTCP = false) (hrs : c.repeatStreams = false)
    (hpt : c.printThroughput = false) {w k : Nat} (hk : k ∈ (W.workers w).streams) :
    ∃ W', step c inp W (.stream w k .shutdownComplete) = .ok W' ∧ ∃ s : Bool,
      W'.books = (if s then Books.recordLatency c W.books else W.books).setWorker w
        ((W.workers w).books.onStreamShutdownComplete c inp.openOk k s) := by
  obtain ⟨W', h⟩ := onStreamShutdownComplete_ok inp hrs hpt w k W
  exact ⟨W', by simpa [step, ht, hk, streamCallback] using h, _, books_onStreamShutdownComplete c inp h⟩

/-- An iteration of `Start`'s loop queues a token on worker `QueueIndex % WorkerCount`. -/
theorem step_queue_books (hw : c.workerCount ≠ 0) (hq : W.queueIndex < c.connectionCount.toNat) :
    ∃ W', step c inp W .queue = .ok W' ∧
      W'.books = ({ W.books with queueIndex := W.queueIndex + 1 } : Books).setWorker
        (W.queueIndex % c.workerCount.toNat)
        { (W.workers (W.queueIndex % c.workerCount.toNat)).books with
          connectionsQueued := (W.workers (W.queueIndex % c.workerCount.toNat)).connectionsQueued + 1 } :=
  ⟨_, by simp only [step, if_pos hq, if_neg hw]; rfl, by simp [books_setWorker, PerfClientWorker.books]; rfl⟩

/-- With `Running`, a worker with a token creates its connection, and `Initialize` succeeds. -/
theorem step_startNewConnection_books (hr : W.running = true) {w : Nat} (hw : w < c.workerCount.toNat)
    (hq : (W.workers w).connectionsCreated < (W.workers w).connectionsQueued) :
    ∃ W', step c inp W (.startNewConnection w .allSucceed) = .ok W' ∧
      W'.books = W.books.setWorker w ((W.workers w).books.startNewConnection true) :=
  ⟨_, by simp only [step, hr, hw, hq, and_self, if_true]; rfl, by
    rw [books_startNewConnection, isOk_initializeConnection_allSucceed]⟩

/-- `SHUTDOWN_COMPLETE` of a live QUIC connection with no live stream completes it. -/
theorem step_shutdownComplete_books (ht : c.useTCP = false) {w cid : Nat}
    (hc : cid ∈ (W.workers w).conns) (hs : (W.workers w).streams = ∅) :
    ∃ W', step c inp W (.shutdownComplete w cid) = .ok W' ∧ ∃ u : Nat,
      W'.books = W.books.setWorker w
        ({ (W.workers w).books with unrequestedCompletions := u }.onShutdownComplete c cid) := by
  have hg : (!c.useTCP) = true ∧ cid ∈ (W.workers w).conns ∧
      ∀ k ∈ (W.workers w).streams, ((W.workers w).stream k).conn ≠ cid := ⟨by simp [ht], hc, by simp [hs]⟩
  refine ⟨_, by simp only [step]; rw [if_pos hg]; rfl, ?_⟩
  split
  · refine ⟨(W.workers w).unrequestedCompletions + 1, ?_⟩
    rw [books_onShutdownComplete, books_setWorker, Books.setWorker_setWorker, setWorker_workers_self]
    rfl
  · exact ⟨_, books_onShutdownComplete c w cid W⟩

/-! ### The four phases -/

/-- An event that replaces one running worker's books moves a total by that worker's term. -/
theorem total_step {W' : World} {g : WorkerBooks → Nat} {B0 : Books} {w : Nat} {b : WorkerBooks}
    (hb : W'.books = B0.setWorker w b) (h0 : B0.workers = W.books.workers) (hw : w < c.workerCount.toNat) :
    Books.total c g W'.books + g (W.workers w).books = Books.total c g W.books + g b :=
  hb ▸ Books.total_setWorker h0 hw b

section Phases

include inp

/-- Phase one: the transport finalizes every live stream. -/
theorem finalize_all (ht : c.useTCP = false) (hrs : c.repeatStreams = false) (hpt : c.printThroughput = false) :
    ∀ W, Live c W → ∃ es W', run c W es = .ok W' ∧ Live c W' ∧
      Books.total c (fun b => b.streams.card) W'.books = 0 :=
  drain _ _ fun W hL hpos => by
    obtain ⟨w, hw, hpos⟩ := Books.exists_of_total_pos hpos
    obtain ⟨k, hk⟩ := card_pos.1 hpos
    obtain ⟨W', h1, s, hb⟩ := step_finalize inp ht hrs hpt hk
    have h0 : (if s then Books.recordLatency c W.books else W.books).workers = W.books.workers := by
      split <;> simp
    obtain ⟨hst, hfi⟩ := @WorkerBooks.onStreamShutdownComplete_streams c inp.openOk (W.workers w).books hrs k s
    have e := total_step (g := fun b => b.streams.card) hb h0 hw
    have hlt := card_erase_lt_of_mem hk
    simp only [hst] at e
    exact ⟨inp, _, W', h1, hL.setWorker (hL.reachable.step inp _ h1) hb h0 (by split <;> simp) hfi,
      by simp only [books_workers, PerfClientWorker.books] at e hlt; omega⟩

/-- Phase two: `Start`'s loop queues its remaining tokens. -/
theorem queue_all (hw : c.workerCount ≠ 0) :
    ∀ W, (Live c W ∧ Books.total c (fun b => b.streams.card) W.books = 0) →
      ∃ es W', run c W es = .ok W' ∧ (Live c W' ∧ Books.total c (fun b => b.streams.card) W'.books = 0) ∧
        c.connectionCount.toNat - W'.queueIndex = 0 :=
  drain _ _ fun W ⟨hL, hs⟩ hpos => by
    obtain ⟨W', h1, hb⟩ := step_queue_books inp hw (show W.queueIndex < c.connectionCount.toNat by omega)
    have hw' := Nat.mod_lt W.queueIndex (Nat.pos_of_ne_zero fun h0 => hw (UInt32.eq_of_val_eq (Fin.ext h0)))
    have hq : W'.queueIndex = W.queueIndex + 1 := congrArg Books.queueIndex hb
    have e := total_step (g := fun b => b.streams.card) hb rfl hw'
    dsimp only at e
    exact ⟨inp, _, W', h1, ⟨hL.setWorker (hL.reachable.step inp _ h1) hb rfl rfl rfl, by omega⟩, by omega⟩

/-- Phase three: with `Running`, every worker creates a connection for each token it holds. -/
theorem create_all :
    ∀ W, ((Live c W ∧ Books.total c (fun b => b.streams.card) W.books = 0) ∧
        W.queueIndex = c.connectionCount.toNat) →
      ∃ es W', run c W es = .ok W' ∧ ((Live c W' ∧ Books.total c (fun b => b.streams.card) W'.books = 0) ∧
        W'.queueIndex = c.connectionCount.toNat) ∧
        Books.total c (fun b => b.connectionsQueued - b.connectionsCreated) W'.books = 0 :=
  drain _ _ fun W ⟨⟨hL, hs⟩, hq⟩ hpos => by
    obtain ⟨w, hw, hpos⟩ := Books.exists_of_total_pos hpos
    obtain ⟨W', h1, hb⟩ := step_startNewConnection_books inp hL.running hw (by simpa using hpos)
    have hq' : W'.queueIndex = W.queueIndex := congrArg Books.queueIndex hb
    have e1 := total_step (g := fun b => b.streams.card) hb rfl hw
    have e2 := total_step (g := fun b => b.connectionsQueued - b.connectionsCreated) hb rfl hw
    simp only [WorkerBooks.startNewConnection, if_pos, books_workers, PerfClientWorker.books] at e1 e2 hpos
    exact ⟨inp, _, W', h1, ⟨⟨hL.setWorker (hL.reachable.step inp _ h1) hb rfl rfl rfl, by omega⟩,
      hq'.trans hq⟩, by omega⟩

/-- Phase four: the transport completes every live connection, none of which has a live stream. -/
theorem close_all (ht : c.useTCP = false) (hrc : c.repeatConnections = false) :
    ∀ W, (((Live c W ∧ Books.total c (fun b => b.streams.card) W.books = 0) ∧
        W.queueIndex = c.connectionCount.toNat) ∧
        Books.total c (fun b => b.connectionsQueued - b.connectionsCreated) W.books = 0) →
      ∃ es W', run c W es = .ok W' ∧ (((Live c W' ∧ Books.total c (fun b => b.streams.card) W'.books = 0) ∧
        W'.queueIndex = c.connectionCount.toNat) ∧
        Books.total c (fun b => b.connectionsQueued - b.connectionsCreated) W'.books = 0) ∧
        Books.total c (fun b => b.conns.card) W'.books = 0 :=
  drain _ _ fun W ⟨⟨⟨hL, hs⟩, hq⟩, htk⟩ hpos => by
    obtain ⟨w, hw, hpos⟩ := Books.exists_of_total_pos hpos
    obtain ⟨cid, hc⟩ := card_pos.1 hpos
    have hsw : (W.workers w).streams = ∅ := card_eq_zero.1 (Books.total_eq_zero.1 hs w hw)
    obtain ⟨W', h1, u, hb⟩ := step_shutdownComplete_books inp ht hc hsw
    obtain ⟨hcs, hst, hqd, hcr, hfi⟩ :=
      @WorkerBooks.onShutdownComplete_conns c { (W.workers w).books with unrequestedCompletions := u } hrc cid
    have hq' : W'.queueIndex = W.queueIndex := congrArg Books.queueIndex hb
    have e1 := total_step (g := fun b => b.streams.card) hb rfl hw
    have e2 := total_step (g := fun b => b.connectionsQueued - b.connectionsCreated) hb rfl hw
    have e3 := total_step (g := fun b => b.conns.card) hb rfl hw
    have hlt := card_erase_lt_of_mem hc
    simp only [hcs, hst, hqd, hcr] at e1 e2 e3
    simp only [books_workers, PerfClientWorker.books] at e1 e2 e3 hlt
    exact ⟨inp, _, W', h1, ⟨⟨⟨hL.setWorker (hL.reachable.step inp _ h1) hb rfl rfl hfi, by omega⟩,
      hq'.trans hq⟩, by omega⟩, by omega⟩

end Phases

end World

/-- **Completion is always reachable** (QUIC, no repeat options, no throughput lines): from every
world a run reaches while `Running` holds and no `Initialize` has failed, the transport can tear down
what is live so that `Start`'s loop ends, every worker holds no live connection or stream and no
active connection, has completed a connection for each of its tokens — `ConnectionCount` in all — and
has called `OnConnectionsComplete` if it got a token. -/
theorem completion_reachable {c : PerfClient} {W : World} (h : Reachable c W) (ht : c.useTCP = false)
    (hrs : c.repeatStreams = false) (hrc : c.repeatConnections = false)
    (hpt : c.printThroughput = false) (hw : 0 < c.workerCount.toNat) (hr : W.running = true)
    (hf : ∀ w, (W.workers w).failedInits = 0) :
    ∃ es W', World.run c W es = .ok W' ∧ W'.queueIndex = c.connectionCount.toNat ∧
      ∑ w ∈ range c.workerCount.toNat, (W'.workers w).connectionsCompleted = c.connectionCount.toNat ∧
      ∀ w < c.workerCount.toNat, (W'.workers w).conns = ∅ ∧ (W'.workers w).streams = ∅ ∧
        (W'.workers w).connectionsActive = 0 ∧
        (W'.workers w).connectionsCompleted = (W'.workers w).connectionsQueued ∧
        (0 < (W'.workers w).connectionsQueued → 0 < (W'.workers w).completionSignals) := by
  have hw0 : c.workerCount ≠ 0 := fun h0 => by simp [h0] at hw
  let inp : Inputs := ⟨0, 0, fun _ => true⟩
  obtain ⟨es1, W1, h1, hL1, hs1⟩ := World.finalize_all inp ht hrs hpt W ⟨h, hr, hf⟩
  obtain ⟨es2, W2, h2, ⟨hL2, hs2⟩, hq2⟩ := World.queue_all inp hw0 W1 ⟨hL1, hs1⟩
  have hq2 : W2.queueIndex = c.connectionCount.toNat := by
    have := hL2.reachable.inv.queueIndex_le; simp only [World.books_queueIndex] at this; omega
  obtain ⟨es3, W3, h3, hI3, htk3⟩ := World.create_all inp W2 ⟨⟨hL2, hs2⟩, hq2⟩
  obtain ⟨es4, W', h4, ⟨⟨⟨hL, hs⟩, hq⟩, htk⟩, hc⟩ := World.close_all inp ht hrc W3 ⟨hI3, htk3⟩
  have hI := hL.reachable.inv
  have hS := hL.reachable.books.signalled
  have hwk : ∀ w < c.workerCount.toNat, (W'.workers w).conns = ∅ ∧ (W'.workers w).streams = ∅ ∧
      (W'.workers w).connectionsActive = 0 ∧
      (W'.workers w).connectionsCompleted = (W'.workers w).connectionsQueued ∧
      (0 < (W'.workers w).connectionsQueued → 0 < (W'.workers w).completionSignals) := fun w hw => by
    have hcw : (W'.workers w).conns = ∅ := card_eq_zero.1 (Books.total_eq_zero.1 hc w hw)
    have hsw : (W'.workers w).streams = ∅ := card_eq_zero.1 (Books.total_eq_zero.1 hs w hw)
    have htw := Books.total_eq_zero.1 htk w hw
    have ha := (hI.workers w).active
    have hcr := (hI.workers w).completed
    have hle := (hI.workers w).created_le
    have hfw := hL.noFailedInits w
    have hsg := hS w
    simp only [World.books_workers, PerfClientWorker.books, WorkerBooks.Signalled, hcw, card_empty] at ha hcr hle htw hsg
    refine ⟨hcw, hsw, by omega, by omega, fun hpos => hsg (by omega) (by omega) (by omega)⟩
  refine ⟨es1 ++ (es2 ++ (es3 ++ es4)), W', World.run_append h1 (World.run_append h2 (World.run_append h3 h4)),
    hq, ?_, hwk⟩
  have hqd := hI.queued hrc
  simp only [World.books_workers, PerfClientWorker.books, World.books_queueIndex] at hqd
  rw [sum_congr rfl fun w hw => (hwk w (mem_range.1 hw)).2.2.2.1, hqd, hq]

/-- From the start of a run with three connections of two streams on two workers. -/
theorem completion_reachable_from_start :
    let c := { PerfClient.defaults ⟨4433, 65536, 2000000⟩ with
      workerCount := 2, connectionCount := 3, streamCount := 2 }
    ∃ es W', World.run c (World.init c) es = .ok W' ∧ W'.queueIndex = c.connectionCount.toNat ∧
      ∑ w ∈ range c.workerCount.toNat, (W'.workers w).connectionsCompleted = c.connectionCount.toNat ∧
      ∀ w < c.workerCount.toNat, (W'.workers w).conns = ∅ ∧ (W'.workers w).streams = ∅ ∧
        (W'.workers w).connectionsActive = 0 ∧
        (W'.workers w).connectionsCompleted = (W'.workers w).connectionsQueued ∧
        (0 < (W'.workers w).connectionsQueued → 0 < (W'.workers w).completionSignals) :=
  completion_reachable .init rfl rfl rfl rfl (by decide) rfl fun _ => rfl

end SecNetPerf
