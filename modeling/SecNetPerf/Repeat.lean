import SecNetPerf.Progress

/-!
# SecNetPerf.Repeat — the repeat options, and how often a connection is shut down

`-rconn` and `-rstream` turn the client from a batch into a steady load, and `ConnectionShutdown`
is how the client ends a connection.  Three results over every run.

* **`-rconn` keeps each worker's load** (`repeat_connections_load`):
  `PerfClientWorker::OnConnectionComplete` (427-438) queues a connection for each one that
  completes and never calls `OnConnectionsComplete`.  So a worker's live connections, its
  connections whose `Initialize` failed and its tokens not yet created always add up to its share of
  `Start`'s tokens: a failed `Initialize` (455-571) never completes, and holds its place for good.
* **`-rstream` keeps each connection's streams** (`repeat_streams_load`): over QUIC,
  `PerfClientConnection::OnStreamShutdownComplete` (624-636) starts streams until `StreamsActive` is
  back at `StreamCount`, and `StartNewStream` (594-617) counts a stream whose `StreamOpen` failed as
  active for good.  So a connected connection's live streams and failed opens always add up to
  `StreamCount`, and with streams the client never asks for the connection's shutdown.
* **One `ConnectionShutdown` per connection** (`connection_shutdown_once`): over QUIC, under any
  options, the client asks for a connection's shutdown at most once, and only after `CONNECTED`.
  `OnConnectionComplete` (573-583) asks once on the event the transport delivers once, and
  `OnStreamShutdownComplete` asks when the last active stream goes, after which none is left to go.
-/

namespace SecNetPerf

open Finset

namespace Books

/-- A property of every worker survives replacing one worker by books that have it. -/
theorem forall_setWorker {P : Nat → WorkerBooks → Prop} {B : Books} (hS : ∀ w, P w (B.workers w))
    {w : Nat} {b : WorkerBooks} (hb : P w b) (j : Nat) : P j ((B.setWorker w b).workers j) := by
  rcases eq_or_ne j w with rfl | h
  · simpa using hb
  · simpa [setWorker, h] using hS j

end Books

/-! ## `-rconn` -/

namespace WorkerBooks

variable {c : PerfClient} {opens : Nat → Bool} {b b' : WorkerBooks} {q : Nat}

/-- Under `-rconn`: the worker holds the `q` tokens `Start` dealt it and one for each connection it
completed, and it has never signalled completion. -/
def RepeatLoad (q : Nat) (b : WorkerBooks) : Prop :=
  b.connectionsQueued = q + b.connectionsCompleted ∧ b.completionSignals = 0

theorem RepeatLoad.of_connCounters (h : b.RepeatLoad q) (e : b'.connCounters = b.connCounters) :
    b'.RepeatLoad q := by
  simp only [connCounters, Prod.mk.injEq] at e
  unfold RepeatLoad
  rw [e.1, e.2.2.2.1, e.2.2.2.2]
  exact h

theorem RepeatLoad.startNewConnection (h : b.RepeatLoad q) (ok : Bool) :
    (b.startNewConnection ok).RepeatLoad q := by
  unfold WorkerBooks.startNewConnection; split <;> exact h

/-- Under `-rconn`, `OnConnectionComplete` queues a connection for the one that completed. -/
theorem RepeatLoad.onShutdownComplete (hrc : c.repeatConnections = true) (h : b.RepeatLoad q)
    (cid : Nat) : (b.onShutdownComplete c cid).RepeatLoad q := by
  unfold WorkerBooks.onShutdownComplete workerOnConnectionComplete RepeatLoad
  simp only [hrc, ↓reduceIte]
  exact ⟨by rw [h.1]; omega, h.2⟩

end WorkerBooks

namespace Books

variable {c : PerfClient} {B : Books}

/-- Under `-rconn`, every worker holds the tokens `Start`'s loop has dealt it and one for each
connection it completed, and none has signalled completion. -/
theorem Reachable.repeatLoad (h : Reachable c B) (hrc : c.repeatConnections = true) :
    ∀ j, (B.workers j).RepeatLoad (B.queueIndex.count (· % c.workerCount.toNat = j)) := by
  induction h with
  | init => intro j; simp [Books.init, WorkerBooks.new, WorkerBooks.RepeatLoad]
  | @step B0 B1 e _ hs ih =>
    cases e with
    | queue =>
      simp only [Books.step] at hs
      split_ifs at hs
      cases hs
      intro j
      simp only [WorkerBooks.RepeatLoad, Nat.count_succ, setWorker, Function.update_apply]
      by_cases hj : j = B0.queueIndex % c.workerCount.toNat
      · subst hj
        simp only [↓reduceIte]
        exact ⟨by rw [(ih _).1]; omega, (ih _).2⟩
      · simp only [if_neg hj, if_neg (Ne.symm hj), add_zero]
        exact ih j
    | stop => cases hs; exact ih
    | startNewConnection w ok =>
      simp only [Books.step] at hs
      split_ifs at hs
      cases hs
      exact forall_setWorker ih ((ih w).startNewConnection ok)
    | connected w cid opens =>
      simp only [Books.step] at hs
      split_ifs at hs
      cases hs
      exact forall_setWorker ih ((ih w).of_connCounters
        (by rw [WorkerBooks.connCounters_onConnectionComplete]; rfl))
    | shutdownComplete w cid =>
      simp only [Books.step] at hs
      split_ifs at hs <;> cases hs
      · refine forall_setWorker ih (WorkerBooks.RepeatLoad.onShutdownComplete hrc ?_ cid)
        exact ih w
      · exact forall_setWorker ih ((ih w).onShutdownComplete hrc cid)
    | streamShutdownComplete w k success opens =>
      simp only [Books.step] at hs
      split_ifs at hs <;> cases hs <;> rw [setWorker_queueIndex]
      · rw [recordLatency_queueIndex]
        exact forall_setWorker (by simpa using ih) ((ih w).of_connCounters (by simp))
      · exact forall_setWorker ih ((ih w).of_connCounters (by simp))
    | tcpConnect w cid isConnected opens =>
      simp only [Books.step] at hs
      split_ifs at hs <;> cases hs
      · exact forall_setWorker ih ((ih w).of_connCounters (by simp))
      · exact forall_setWorker ih ((ih w).onShutdownComplete hrc cid)

end Books

/-- **`-rconn` keeps each worker's load**: in every world a run reaches under `-rconn`, worker `j`'s
live connections, its connections whose `Initialize` failed and its tokens not yet created add up to
`⌊Q/W⌋ + [j < Q mod W]` for the `Q` tokens `Start` has queued so far if `j < W`, and to none
otherwise; and no worker has called `OnConnectionsComplete`. -/
theorem repeat_connections_load {c : PerfClient} {W : World} (h : Reachable c W)
    (hrc : c.repeatConnections = true) (j : Nat) :
    (W.workers j).conns.card + (W.workers j).failedInits +
        ((W.workers j).connectionsQueued - (W.workers j).connectionsCreated) =
      (if j < c.workerCount.toNat then roundRobinQuota W.queueIndex c.workerCount.toNat j else 0) ∧
      (W.workers j).completionSignals = 0 := by
  have hB := h.books
  obtain ⟨hq, hs⟩ := hB.repeatLoad hrc j
  refine ⟨?_, hs⟩
  split_ifs with hj
  · have hI := hB.inv.workers j
    have ha := hI.active
    have hc := hI.completed
    have hle := hI.created_le
    simp only [World.books_workers, World.books_queueIndex, PerfClientWorker.books] at hq ha hc hle
    rw [← count_mod_eq _ hj]
    omega
  · have hn := hB.inv.idle j (not_lt.1 hj)
    rw [World.books_workers] at hn
    have e := congrArg (fun b => b.conns.card + b.failedInits + (b.connectionsQueued - b.connectionsCreated)) hn
    simpa [PerfClientWorker.books, WorkerBooks.new] using e

/-- Three tokens on two workers under `-rconn`: once worker 0's first connection completes, the worker
holds a third token, for the connection it replaces, and two tokens not yet created, its share of
`Start`'s three. -/
theorem repeat_connections_load_after_completion :
    let c := { PerfClient.defaults ⟨4433, 65536, 2000000⟩ with
      workerCount := 2, connectionCount := 3, repeatConnections := true }
    let es : List (Inputs × World.Event) :=
      [.queue, .queue, .queue, .startNewConnection 0 ⟨true, true, true, true, true, true, none, true⟩,
        .connected 0 0, .shutdownComplete 0 0].map (Prod.mk ⟨1, 10, fun _ => true⟩)
    ∃ W, World.run c (World.init c) es = .ok W ∧ (W.workers 0).connectionsCompleted = 1 ∧
      (W.workers 0).connectionsQueued = 3 ∧
      ((W.workers 0).conns.card + (W.workers 0).failedInits +
          ((W.workers 0).connectionsQueued - (W.workers 0).connectionsCreated) =
        (if 0 < c.workerCount.toNat then roundRobinQuota W.queueIndex c.workerCount.toNat 0 else 0) ∧
        (W.workers 0).completionSignals = 0) := by
  intro c es
  obtain ⟨W, hW, h1, h3⟩ : ∃ W, World.run c (World.init c) es = .ok W ∧
      (W.workers 0).connectionsCompleted = 1 ∧ (W.workers 0).connectionsQueued = 3 := by
    simp only [c, es]; exact ⟨_, rfl, rfl, rfl⟩
  exact ⟨W, hW, h1, h3, repeat_connections_load (Reachable.init.run hW) rfl 0⟩

/-! ## What the handlers do to a connection's streams and shutdown -/

/-- What `CONNECTED` and `ConnectionShutdown` move on a connection. -/
def ConnBooks.shutdownState (x : ConnBooks) : Nat × Bool := (x.shutdownRequests, x.connected)

namespace WorkerBooks

variable {c : PerfClient} {opens : Nat → Bool} {b : WorkerBooks} {cid : Nat}

@[simp] theorem shutdownState_startNewStream (ok : Bool) (j : Nat) :
    ((b.startNewStream c cid ok).conn j).shutdownState = (b.conn j).shutdownState := by
  unfold startNewStream
  split <;> simp only [Function.update_apply] <;> split <;> subst_vars <;> rfl

@[simp] theorem shutdownState_startStreams (n i j : Nat) :
    ((b.startStreams c opens cid n i).conn j).shutdownState = (b.conn j).shutdownState :=
  startStreams_invariant (fun b => (b.conn j).shutdownState) (fun _ _ => shutdownState_startNewStream _ _)
    _ _ _

@[simp] theorem connected_startStreams (n i j : Nat) :
    ((b.startStreams c opens cid n i).conn j).connected = (b.conn j).connected :=
  congrArg Prod.snd (shutdownState_startStreams n i j)

@[simp] theorem shutdownRequests_startStreams (n i j : Nat) :
    ((b.startStreams c opens cid n i).conn j).shutdownRequests = (b.conn j).shutdownRequests :=
  congrArg Prod.fst (shutdownState_startStreams n i j)

@[simp] theorem streamsActive_startNewStream (ok : Bool) (j : Nat) :
    ((b.startNewStream c cid ok).conn j).streamsActive =
      (b.conn j).streamsActive + if j = cid then 1 else 0 := by
  unfold startNewStream
  split <;> rcases eq_or_ne j cid with rfl | hj <;> simp [Function.update_noteq, *]

theorem streamsActive_startStreams : ∀ (n i : Nat) (b : WorkerBooks) (j : Nat),
    ((b.startStreams c opens cid n i).conn j).streamsActive =
      (b.conn j).streamsActive + if j = cid then n else 0
  | 0, _, b, j => by simp [startStreams]
  | n + 1, i, b, j => by
    rw [startStreams, streamsActive_startStreams n, streamsActive_startNewStream]
    split <;> omega

@[simp] theorem conns_startStreams (n i : Nat) : (b.startStreams c opens cid n i).conns = b.conns :=
  startStreams_invariant _ (fun _ _ => conns_startNewStream _ _) _ _ _

/-- The streams `StartNewStream` adds belong to its connection. -/
theorem streamConn_mem_startStreams :
    ∀ (n i : Nat) (b : WorkerBooks), cid ∈ b.conns → (∀ k ∈ b.streams, b.streamConn k ∈ b.conns) →
      ∀ k ∈ (b.startStreams c opens cid n i).streams, (b.startStreams c opens cid n i).streamConn k ∈ b.conns
  | 0, _, _, _, h => h
  | n + 1, i, b, hc, h => by
    have hm := streamConn_mem_startStreams n (i + 1) (b.startNewStream c cid (opens i)) (by simpa using hc)
      fun k hk => by
        rw [conns_startNewStream]
        unfold startNewStream at hk ⊢
        split_ifs at hk ⊢ <;> dsimp only at hk ⊢
        · rcases mem_insert.1 hk with rfl | hk
          · simpa using hc
          · rw [Function.update_apply]; split <;> [exact hc; exact h k hk]
        · exact h k hk
    rw [conns_startNewStream] at hm
    exact hm

@[simp] theorem conn_onShutdownComplete : (b.onShutdownComplete c cid).conn = b.conn := by
  unfold onShutdownComplete workerOnConnectionComplete; dsimp only; split_ifs <;> rfl

@[simp] theorem streams_onShutdownComplete : (b.onShutdownComplete c cid).streams = b.streams := by
  unfold onShutdownComplete workerOnConnectionComplete; dsimp only; split_ifs <;> rfl

@[simp] theorem streamConn_onShutdownComplete :
    (b.onShutdownComplete c cid).streamConn = b.streamConn := by
  unfold onShutdownComplete workerOnConnectionComplete; dsimp only; split_ifs <;> rfl

@[simp] theorem conns_onShutdownComplete : (b.onShutdownComplete c cid).conns = b.conns.erase cid := by
  unfold onShutdownComplete workerOnConnectionComplete; dsimp only; split_ifs <;> rfl

/-- A live stream keeps its connection's shutdown unrequested: between events, over QUIC without
`-rstream`, the connection of a live stream is connected, has it active, and was never asked to shut
down. -/
theorem QuicInv.unrequested_of_live (h : QuicInv c b) (hI : b.Inv) {k : Nat} (hk : k ∈ b.streams) :
    (b.conn (b.streamConn k)).shutdownRequests = 0 ∧ (b.conn (b.streamConn k)).connected = true := by
  have hc := h.streamConn_mem k hk
  have hlive : 0 < (b.liveStreams (b.streamConn k)).card := card_pos.2 ⟨k, mem_filter.2 ⟨hk, rfl⟩⟩
  have ha := hI.streamsActive _ hc
  have hx := h.conn0 hc
  refine ⟨Nat.eq_zero_of_not_pos fun hp => ?_, ?_⟩
  · have := (hx.requested hp).1
    omega
  · by_contra hn
    have hcr := hx.streamsCreated
    have hfi := hx.finalized
    simp only [Bool.not_eq_true] at hn
    simp only [hn, Bool.false_eq_true, ↓reduceIte, add_zero] at hcr
    omega

/-! ## One `ConnectionShutdown` per connection -/

/-- Every connection was asked to shut down at most once, and only once connected. -/
def ShutdownOnce (b : WorkerBooks) : Prop :=
  ∀ j, (b.conn j).shutdownRequests ≤ if (b.conn j).connected then 1 else 0

theorem ShutdownOnce.of_shutdownState {b' : WorkerBooks} (h : b.ShutdownOnce)
    (e : ∀ j, (b'.conn j).shutdownState = (b.conn j).shutdownState) : b'.ShutdownOnce := fun j => by
  have := e j
  simp only [ConnBooks.shutdownState, Prod.mk.injEq] at this
  rw [this.1, this.2]
  exact h j

/-- The connection's first `ConnectionShutdown`, once it is connected. -/
theorem ShutdownOnce.connectionShutdown (h : b.ShutdownOnce) (h0 : (b.conn cid).shutdownRequests = 0)
    (hcon : (b.conn cid).connected = true) : (b.connectionShutdown cid).ShutdownOnce := fun j => by
  unfold WorkerBooks.connectionShutdown setConn
  rcases eq_or_ne j cid with rfl | hj
  · simp [h0, hcon]
  · simpa [Function.update_noteq hj] using h j

theorem ShutdownOnce.startNewConnection (h : b.ShutdownOnce) (ok : Bool) :
    (b.startNewConnection ok).ShutdownOnce := fun j => by
  unfold WorkerBooks.startNewConnection
  split <;>
  · dsimp only
    rcases eq_or_ne j b.nextConn with rfl | hj
    · simp [ConnBooks.new]
    · simpa [Function.update_noteq hj] using h j

/-- `CONNECTED`: a connection not yet connected was never asked to shut down, so the request
`OnConnectionComplete` makes without streams is its first. -/
theorem ShutdownOnce.connect (h : b.ShutdownOnce) (hn : (b.conn cid).connected = false) :
    ((b.setConn cid { b.conn cid with connected := true }).onConnectionComplete c opens cid).ShutdownOnce := by
  have h0 : (b.conn cid).shutdownRequests = 0 := by simpa [hn] using h cid
  have h1 : (b.setConn cid { b.conn cid with connected := true }).ShutdownOnce := fun j => by
    unfold setConn
    rcases eq_or_ne j cid with rfl | hj
    · simp [h0]
    · simpa [Function.update_noteq hj] using h j
  unfold onConnectionComplete
  split
  · exact ShutdownOnce.connectionShutdown h1 (by simp [setConn, h0]) (by simp [setConn])
  · exact ShutdownOnce.of_shutdownState h1 (by simp)

/-- `SHUTDOWN_COMPLETE` of a live stream: the connection is asked to shut down only without
`-rstream`, when its last active stream goes, and a connection with a live stream was never asked. -/
theorem ShutdownOnce.onStreamShutdownComplete (h : b.ShutdownOnce) (hq : c.repeatStreams = false → QuicInv c b)
    (hI : b.Inv) {k : Nat} (hk : k ∈ b.streams) (success : Bool) :
    (b.onStreamShutdownComplete c opens k success).ShutdownOnce := by
  have hs : ∀ j, (((b.retire k success).setConn (b.streamConn k) { (b.retire k success).conn (b.streamConn k) with
      streamsActive := ((b.retire k success).conn (b.streamConn k)).streamsActive - 1 }).conn j).shutdownState =
      (b.conn j).shutdownState := fun j => by
    unfold retire setConn
    simp only [Function.update_apply]
    split <;> subst_vars <;> rfl
  unfold WorkerBooks.onStreamShutdownComplete connOnStreamShutdownComplete
  dsimp only
  split_ifs with hrs
  · exact h.of_shutdownState fun j => by rw [shutdownState_startStreams]; exact hs j
  · obtain ⟨h0, hcon⟩ := (hq (by simpa using hrs)).unrequested_of_live hI hk
    have e := hs (b.streamConn k)
    simp only [ConnBooks.shutdownState, Prod.mk.injEq] at e
    exact (h.of_shutdownState hs).connectionShutdown (e.1.trans h0) (e.2.trans hcon)
  · exact h.of_shutdownState hs

end WorkerBooks

namespace Books

variable {c : PerfClient} {B B' : Books}

/-- Over QUIC, one event keeps every connection's shutdown requests at most one. -/
theorem Inv.step_shutdownOnce (h : Inv c B) (ht : c.useTCP = false)
    (hS : ∀ w, (B.workers w).ShutdownOnce) {e : Event} (hs : Books.step c B e = some B') :
    ∀ w, (B'.workers w).ShutdownOnce := by
  cases e with
  | queue =>
    simp only [Books.step] at hs
    split_ifs at hs
    cases hs
    exact forall_setWorker hS ((hS _).of_shutdownState fun _ => rfl)
  | startNewConnection w ok =>
    simp only [Books.step] at hs
    split_ifs at hs
    cases hs
    exact forall_setWorker hS ((hS w).startNewConnection ok)
  | stop => cases hs; exact hS
  | connected w cid opens =>
    simp only [Books.step] at hs
    split_ifs at hs with hg
    cases hs
    exact forall_setWorker hS ((hS w).connect (by simpa using hg.2.2))
  | shutdownComplete w cid =>
    simp only [Books.step] at hs
    split_ifs at hs <;> cases hs <;>
      exact forall_setWorker hS ((hS w).of_shutdownState fun _ => by simp)
  | streamShutdownComplete w k success opens =>
    simp only [Books.step] at hs
    split_ifs at hs with hk <;> cases hs <;>
      exact forall_setWorker (by simpa using hS)
        ((hS w).onStreamShutdownComplete (fun hrs => h.quic ht hrs w) (h.workers w) hk success)
  | tcpConnect w cid isConnected opens => simp [Books.step, ht] at hs

theorem Reachable.shutdownOnce (h : Reachable c B) (ht : c.useTCP = false) :
    ∀ w, (B.workers w).ShutdownOnce := by
  induction h with
  | init => intro w j; simp [Books.init, WorkerBooks.new, ConnBooks.new]
  | step _ hr hs ih => exact hr.inv.step_shutdownOnce ht ih hs

end Books

/-- **One `ConnectionShutdown` per connection**: over QUIC, in every world a run reaches, under any
options, the client has asked for each connection's shutdown at most once, and only once its
`CONNECTED` event arrived. -/
theorem connection_shutdown_once {c : PerfClient} {W : World} (h : Reachable c W) (ht : c.useTCP = false)
    (w cid : Nat) :
    ((W.workers w).conn cid).shutdownRequests ≤ 1 ∧
      (0 < ((W.workers w).conn cid).shutdownRequests → ((W.workers w).conn cid).connected = true) := by
  have := h.books.shutdownOnce ht w cid
  simp only [World.books_workers, PerfClientWorker.books, PerfClientConnection.books_shutdownRequests,
    PerfClientConnection.books_connected] at this
  split_ifs at this with hc
  · exact ⟨this, fun _ => hc⟩
  · omega

/-- One connection with its shutdown requested, by the finalization of its only stream. -/
theorem connection_shutdown_once_one_stream :
    let c := { PerfClient.defaults ⟨4433, 65536, 2000000⟩ with workerCount := 1, streamCount := 1 }
    let es : List (Inputs × World.Event) :=
      [.queue, .startNewConnection 0 ⟨true, true, true, true, true, true, none, true⟩, .connected 0 0,
        .stream 0 0 .shutdownComplete].map (Prod.mk ⟨1, 10, fun _ => true⟩)
    ∃ W, World.run c (World.init c) es = .ok W ∧ ((W.workers 0).conn 0).shutdownRequests = 1 ∧
      (((W.workers 0).conn 0).shutdownRequests ≤ 1 ∧
        (0 < ((W.workers 0).conn 0).shutdownRequests → ((W.workers 0).conn 0).connected = true)) := by
  intro c es
  obtain ⟨W, hW, h1⟩ : ∃ W, World.run c (World.init c) es = .ok W ∧
      ((W.workers 0).conn 0).shutdownRequests = 1 := by
    simp only [c, es]; exact ⟨_, rfl, rfl⟩
  exact ⟨W, hW, h1, connection_shutdown_once (Reachable.init.run hW) rfl 0 0⟩

/-! ## `-rstream` -/

namespace WorkerBooks

variable {c : PerfClient} {opens : Nat → Bool} {b : WorkerBooks} {cid : Nat}

@[simp] theorem setConn_conn' (x : ConnBooks) (j : Nat) :
    (b.setConn cid x).conn j = if j = cid then x else b.conn j := Function.update_apply _ _ _ _

@[simp] theorem retire_conn (k : Nat) (success : Bool) (j : Nat) :
    (b.retire k success).conn j =
      if j = b.streamConn k then { b.conn j with finalized := (b.conn j).finalized + 1 } else b.conn j := by
  unfold retire
  simp only [Function.update_apply]
  split <;> subst_vars <;> rfl

/-- Under `-rstream`: every live stream's connection is live, a live connection has `StreamCount`
streams active once connected and none before, and with streams no connection was asked to shut
down. -/
structure RepeatStreams (c : PerfClient) (b : WorkerBooks) : Prop where
  streamConn_mem : ∀ k ∈ b.streams, b.streamConn k ∈ b.conns
  active : ∀ j ∈ b.conns,
    (b.conn j).streamsActive = if (b.conn j).connected then c.streamCount.toNat else 0
  unrequested : c.streamCount ≠ 0 → ∀ j, (b.conn j).shutdownRequests = 0

theorem RepeatStreams.startNewConnection (h : RepeatStreams c b) (ok : Bool) :
    RepeatStreams c (b.startNewConnection ok) := by
  have hact : ∀ j ∈ insert b.nextConn b.conns,
      (Function.update b.conn b.nextConn .new j).streamsActive =
        if (Function.update b.conn b.nextConn .new j).connected then c.streamCount.toNat else 0 := by
    intro j hj
    rcases eq_or_ne j b.nextConn with rfl | hne
    · simp [ConnBooks.new]
    · rw [Function.update_noteq hne]; exact h.active j ((mem_insert.1 hj).resolve_left hne)
  have hreq : c.streamCount ≠ 0 → ∀ j, (Function.update b.conn b.nextConn .new j).shutdownRequests = 0 :=
    fun hS j => by
      rw [Function.update_apply]
      split
      · rfl
      · exact h.unrequested hS j
  unfold WorkerBooks.startNewConnection
  split
  · exact ⟨fun k hk => mem_insert_of_mem (h.streamConn_mem k hk), hact, hreq⟩
  · exact ⟨h.streamConn_mem, fun j hj => hact j (mem_insert_of_mem hj), hreq⟩

/-- `CONNECTED`: `OnConnectionComplete` starts `StreamCount` streams on a connection that had none,
or asks for its shutdown when there are to be none. -/
theorem RepeatStreams.connect (h : RepeatStreams c b) (hc : cid ∈ b.conns)
    (hn : (b.conn cid).connected = false) :
    RepeatStreams c ((b.setConn cid { b.conn cid with connected := true }).onConnectionComplete c opens cid) := by
  have h0 : (b.conn cid).streamsActive = 0 := by simpa [hn] using h.active cid hc
  unfold onConnectionComplete
  split
  · rename_i hS
    refine ⟨h.streamConn_mem, fun j hj => ?_, fun h' => absurd hS h'⟩
    unfold connectionShutdown
    rcases eq_or_ne j cid with rfl | hne
    · simp [h0, hS]
    · simpa [hne] using h.active j hj
  · refine ⟨?_, fun j hj => ?_, fun hS j => ?_⟩
    · rw [conns_startStreams]
      exact streamConn_mem_startStreams _ _ _ hc h.streamConn_mem
    · rw [conns_startStreams] at hj
      rw [streamsActive_startStreams, connected_startStreams]
      rcases eq_or_ne j cid with rfl | hne
      · simp [h0]
      · simpa [hne] using h.active j hj
    · rw [shutdownRequests_startStreams, setConn_conn']
      split <;> exact h.unrequested hS _

/-- Connection `SHUTDOWN_COMPLETE`: the connection goes, with no stream left on it. -/
theorem RepeatStreams.onShutdownComplete (h : RepeatStreams c b) (hno : ∀ k ∈ b.streams, b.streamConn k ≠ cid) :
    RepeatStreams c (b.onShutdownComplete c cid) := by
  refine ⟨fun k hk => ?_, fun j hj => ?_, fun hS j => ?_⟩
  · rw [streams_onShutdownComplete] at hk
    simp only [streamConn_onShutdownComplete, conns_onShutdownComplete, mem_erase]
    exact ⟨hno k hk, h.streamConn_mem k hk⟩
  · rw [conns_onShutdownComplete, mem_erase] at hj
    simpa using h.active j hj.2
  · simpa using h.unrequested hS j

/-- Stream `SHUTDOWN_COMPLETE` under `-rstream`: the connection, connected with `StreamCount`
streams active, loses one and starts one. -/
theorem RepeatStreams.onStreamShutdownComplete (h : RepeatStreams c b) (hI : b.Inv)
    (hrs : c.repeatStreams = true) {k : Nat} (hk : k ∈ b.streams) (success : Bool) :
    RepeatStreams c (b.onStreamShutdownComplete c opens k success) := by
  have hc := h.streamConn_mem k hk
  have hlive : 0 < (b.liveStreams (b.streamConn k)).card := card_pos.2 ⟨k, mem_filter.2 ⟨hk, rfl⟩⟩
  have ha := hI.streamsActive _ hc
  have hact := h.active _ hc
  have hcon : (b.conn (b.streamConn k)).connected = true := by
    by_contra hn
    simp only [Bool.not_eq_true] at hn
    simp only [hn, Bool.false_eq_true, ↓reduceIte] at hact
    omega
  rw [hcon, if_pos rfl] at hact
  unfold WorkerBooks.onStreamShutdownComplete connOnStreamShutdownComplete
  dsimp only
  rw [if_pos hrs]
  refine ⟨?_, fun j hj => ?_, fun hS j => ?_⟩
  · rw [conns_startStreams]
    refine streamConn_mem_startStreams _ _ _ hc fun k' hk' => ?_
    exact h.streamConn_mem k' (mem_of_mem_erase hk')
  · rw [conns_startStreams] at hj
    rw [streamsActive_startStreams, connected_startStreams]
    rcases eq_or_ne j (b.streamConn k) with rfl | hne
    · simp only [setConn_conn', retire_conn, ↓reduceIte, hcon, hact]
      omega
    · simpa [hne] using h.active j hj
  · rw [shutdownRequests_startStreams]
    simp only [setConn_conn', retire_conn]
    split_ifs <;> exact h.unrequested hS _

end WorkerBooks

namespace Books

variable {c : PerfClient} {B B' : Books}

/-- Over QUIC with `-rstream`, one event keeps every worker's streams. -/
theorem Inv.step_repeatStreams (h : Inv c B) (ht : c.useTCP = false) (hrs : c.repeatStreams = true)
    (hR : ∀ w, (B.workers w).RepeatStreams c) {e : Event} (hs : Books.step c B e = some B') :
    ∀ w, (B'.workers w).RepeatStreams c := by
  cases e with
  | queue =>
    simp only [Books.step] at hs
    split_ifs at hs
    cases hs
    exact forall_setWorker hR ⟨(hR _).1, (hR _).2, (hR _).3⟩
  | startNewConnection w ok =>
    simp only [Books.step] at hs
    split_ifs at hs
    cases hs
    exact forall_setWorker hR ((hR w).startNewConnection ok)
  | stop => cases hs; exact hR
  | connected w cid opens =>
    simp only [Books.step] at hs
    split_ifs at hs with hg
    cases hs
    exact forall_setWorker hR ((hR w).connect (by simpa using hg.2.1) (by simpa using hg.2.2))
  | shutdownComplete w cid =>
    simp only [Books.step] at hs
    split_ifs at hs with hg <;> cases hs <;>
      exact forall_setWorker hR (WorkerBooks.RepeatStreams.onShutdownComplete
        ⟨(hR w).1, (hR w).2, (hR w).3⟩ hg.2.2)
  | streamShutdownComplete w k success opens =>
    simp only [Books.step] at hs
    split_ifs at hs with hk <;> cases hs <;>
      exact forall_setWorker (by simpa using hR)
        ((hR w).onStreamShutdownComplete (h.workers w) hrs hk success)
  | tcpConnect w cid isConnected opens => simp [Books.step, ht] at hs

theorem Reachable.repeatStreams (h : Reachable c B) (ht : c.useTCP = false) (hrs : c.repeatStreams = true) :
    ∀ w, (B.workers w).RepeatStreams c := by
  induction h with
  | init => intro w; exact ⟨by simp [Books.init, WorkerBooks.new], by simp [Books.init, WorkerBooks.new],
      fun _ _ => rfl⟩
  | step _ hr hs ih => exact hr.inv.step_repeatStreams ht hrs ih hs

end Books

/-- **`-rstream` keeps each connection's streams**: over QUIC with `-rstream`, in every world a run
reaches, a live connection's live streams and its `StartNewStream` calls whose `StreamOpen` failed
add up to `StreamCount` once it is connected, and to none before; and when there are streams, the
client has never asked for its shutdown. -/
theorem repeat_streams_load {c : PerfClient} {W : World} (h : Reachable c W) (ht : c.useTCP = false)
    (hrs : c.repeatStreams = true) {w cid : Nat} (hc : cid ∈ (W.workers w).conns) :
    ((W.workers w).streams.filter fun k => ((W.workers w).stream k).conn = cid).card +
        ((W.workers w).conn cid).failedOpens =
      (if ((W.workers w).conn cid).connected then c.streamCount.toNat else 0) ∧
      (c.streamCount ≠ 0 → ((W.workers w).conn cid).shutdownRequests = 0) := by
  have hR := h.books.repeatStreams ht hrs w
  have ha := (h.inv.workers w).streamsActive cid hc
  have hact := hR.active cid hc
  have hreq := hR.unrequested
  simp only [World.books_workers, PerfClientWorker.books, WorkerBooks.liveStreams,
    PerfClientConnection.books_streamsActive, PerfClientConnection.books_failedOpens,
    PerfClientConnection.books_connected, PerfClientConnection.books_shutdownRequests] at ha hact hreq
  exact ⟨ha ▸ hact, fun hS => hreq hS cid⟩

/-- Two streams per connection under `-rstream`, the second `StreamOpen` failing: once the first
stream is finalized and replaced, the connection has one live stream and one failed open. -/
theorem repeat_streams_load_after_failed_open :
    let c := { PerfClient.defaults ⟨4433, 65536, 2000000⟩ with
      workerCount := 1, streamCount := 2, repeatStreams := true }
    let es : List (Inputs × World.Event) :=
      [(⟨1, 10, fun _ => true⟩, .queue),
        (⟨1, 10, fun _ => true⟩, .startNewConnection 0 ⟨true, true, true, true, true, true, none, true⟩),
        (⟨1, 10, fun i => i = 0⟩, .connected 0 0),
        (⟨1, 10, fun _ => true⟩, .stream 0 0 .shutdownComplete)]
    ∃ W, World.run c (World.init c) es = .ok W ∧ 0 ∈ (W.workers 0).conns ∧
      ((W.workers 0).conn 0).failedOpens = 1 ∧
      (((W.workers 0).streams.filter fun k => ((W.workers 0).stream k).conn = 0).card +
          ((W.workers 0).conn 0).failedOpens =
        (if ((W.workers 0).conn 0).connected then c.streamCount.toNat else 0) ∧
        (c.streamCount ≠ 0 → ((W.workers 0).conn 0).shutdownRequests = 0)) := by
  intro c es
  obtain ⟨W, hW, h0, h1⟩ : ∃ W, World.run c (World.init c) es = .ok W ∧ 0 ∈ (W.workers 0).conns ∧
      ((W.workers 0).conn 0).failedOpens = 1 := by
    simp only [c, es]; exact ⟨_, rfl, by decide, rfl⟩
  exact ⟨W, hW, h0, h1, repeat_streams_load (Reachable.init.run hW) rfl rfl h0⟩

end SecNetPerf
