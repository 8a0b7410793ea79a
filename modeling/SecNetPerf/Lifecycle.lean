import SecNetPerf.Refinement
import SecNetPerf.Accounting

/-!
# SecNetPerf.Lifecycle — what the counters of connections and streams mean, run after run

The invariants of `SecNetPerf.Accounting`, read back on every world a run of the client reaches
(`Reachable.inv`): a worker's `ConnectionsActive` counts its live connections and the connections
`Initialize` freed; a connection's `StreamsActive` counts its live streams and its failed
`StreamOpen` calls; over QUIC, a worker's `StreamsCompleted` is `StreamCount` per completed connection
plus what its live connections finalized.

The failed calls are where the code and the spec part: `Initialize` frees a connection without
`OnConnectionComplete`, and `StartNewStream` counts a stream `StreamOpen` refused.  Each gap is shown
on a run from `Start`, right after the law it breaks.  So is the TCP connect callback, which handles
`IsConnected` the wrong way round.
-/

namespace SecNetPerf

variable {c : PerfClient} {W : World}

/-- The bookkeeping invariant, on the worlds a run reaches. -/
theorem Reachable.inv (h : Reachable c W) : Books.Inv c W.books :=
  h.books.inv

/-! ## Connections -/

/-- **Connections**: `ConnectionsActive` is the number of the worker's live connections plus the
connections `Initialize` freed, and every created connection is active or completed. -/
theorem connections_active (h : Reachable c W) (w : Nat) :
    (W.workers w).connectionsActive = (W.workers w).conns.card + (W.workers w).failedInits ∧
      (W.workers w).connectionsCompleted + (W.workers w).connectionsActive =
        (W.workers w).connectionsCreated :=
  ⟨(h.inv.workers w).active, (h.inv.workers w).completed⟩

/-- The law on the run where `Initialize` fails: one freed connection, still active. -/
theorem connections_active_after_failed_initialize :
    let c := { PerfClient.defaults ⟨4433, 65536, 2000000⟩ with workerCount := 1 }
    let inp : Inputs := ⟨1, 10, fun _ => true⟩
    let es : List (Inputs × World.Event) :=
      [(inp, .queue), (inp, .startNewConnection 0 ⟨false, true, true, true, true, true, none, true⟩)]
    ∃ W, World.run c (World.init c) es = .ok W ∧
      ((W.workers 0).connectionsActive = (W.workers 0).conns.card + (W.workers 0).failedInits ∧
        (W.workers 0).connectionsCompleted + (W.workers 0).connectionsActive =
          (W.workers 0).connectionsCreated) := by
  intro c inp es
  have hW : World.run c (World.init c) es = .ok _ := rfl
  exact ⟨_, hW, connections_active (Reachable.init.run hW) 0⟩

/-- A connection whose `ConnectionOpen` fails is freed by `Initialize` and never reaches
`OnConnectionComplete`: its worker keeps `ConnectionsActive = 1` with no connection allocated. -/
theorem failed_initialize_stays_active :
    ∃ c, init ⟨4433, 65536, 2000000⟩ ⟨1, .success, fun _ => ⟨[], Nat.zero_le _⟩, fun _ => none, true, true⟩
        ⟨false, fun s => if s = "target" then some "server" else none, fun _ => none⟩ = .ok c ∧
      ∃ W, World.run c (World.init c)
          ([.queue, .startNewConnection 0 ⟨false, true, true, true, true, true, none, true⟩].map
            (Prod.mk ⟨1, 10, fun _ => true⟩)) = .ok W ∧
        (W.workers 0).connectionsActive = 1 ∧ (W.workers 0).conns = ∅ ∧
        (W.workers 0).connectionsCompleted = 0 :=
  ⟨_, rfl, _, rfl, rfl, rfl, rfl⟩

/-! ## Streams -/

/-- **Streams**: a live connection's `StreamsActive` is the number of its live streams plus its
`StartNewStream` calls whose `StreamOpen` failed. -/
theorem streams_active (h : Reachable c W) {w cid : Nat} (hc : cid ∈ (W.workers w).conns) :
    ((W.workers w).conn cid).streamsActive =
      ((W.workers w).streams.filter fun k => ((W.workers w).stream k).conn = cid).card +
        ((W.workers w).conn cid).failedOpens :=
  (h.inv.workers w).streamsActive cid hc

/-- The law on the run where the only `StreamOpen` fails. -/
theorem streams_active_after_failed_open :
    let c := { PerfClient.defaults ⟨4433, 65536, 2000000⟩ with workerCount := 1, streamCount := 1 }
    let inp : Inputs := ⟨1, 10, fun _ => true⟩
    let es : List (Inputs × World.Event) :=
      [(inp, .queue), (inp, .startNewConnection 0 ⟨true, true, true, true, true, true, none, true⟩),
        (⟨1, 10, fun _ => false⟩, .connected 0 0)]
    ∃ W, World.run c (World.init c) es = .ok W ∧ 0 ∈ (W.workers 0).conns ∧
      ((W.workers 0).conn 0).streamsActive =
        ((W.workers 0).streams.filter fun k => ((W.workers 0).stream k).conn = 0).card +
          ((W.workers 0).conn 0).failedOpens := by
  intro c inp es
  have hW : World.run c (World.init c) es = .ok _ := rfl
  exact ⟨_, hW, by decide, streams_active (Reachable.init.run hW) (by decide)⟩

/-- With `StreamCount = 1` and its `StreamOpen` failing, the connection keeps `StreamsActive = 1`
with no stream left to finalize, and has not requested its shutdown. -/
theorem failed_open_blocks_shutdown :
    ∃ c, init ⟨4433, 65536, 2000000⟩ ⟨1, .success, fun _ => ⟨[], Nat.zero_le _⟩, fun _ => none, true, true⟩
        ⟨false, fun s => if s = "target" then some "server" else none,
          fun s => if s = "streams" then some 1 else none⟩ = .ok c ∧
      ∃ W, World.run c (World.init c)
          ([.queue, .startNewConnection 0 ⟨true, true, true, true, true, true, none, true⟩,
            .connected 0 0].map (Prod.mk ⟨1, 10, fun _ => false⟩)) = .ok W ∧
        ((W.workers 0).conn 0).streamsActive = 1 ∧ (W.workers 0).streams = ∅ ∧
        ((W.workers 0).conn 0).shutdownRequests = 0 :=
  ⟨_, rfl, _, rfl, rfl, rfl, rfl⟩

/-! ## Completed streams over QUIC -/

/-- **Completion accounting** (QUIC, no `RepeatStreams`): while every finalization so far succeeded
and the transport completed only connections whose shutdown the client requested, a worker's
`StreamsCompleted` is `StreamCount` per completed connection plus the streams its live connections
finalized; with no live connection, `ConnectionsCompleted × StreamCount`. -/
theorem quic_streams_completed (h : Reachable c W) (ht : c.useTCP = false)
    (hrs : c.repeatStreams = false) (w : Nat) (hu : (W.workers w).unrequestedCompletions = 0)
    (hf : (W.workers w).failedFinalizations = 0) :
    (W.workers w).streamsCompleted = c.streamCount.toNat * (W.workers w).connectionsCompleted +
        ∑ j ∈ (W.workers w).conns, ((W.workers w).conn j).finalized ∧
      ((W.workers w).conns = ∅ →
        (W.workers w).streamsCompleted = (W.workers w).connectionsCompleted * c.streamCount.toNat) := by
  have hc := (h.inv.quic ht hrs w).completed hu
  simp only [Books.setWorker, World.books_workers, PerfClientWorker.books, hf, add_zero] at hc
  refine ⟨hc, fun he => ?_⟩
  rw [hc, he, Finset.sum_empty, add_zero, Nat.mul_comm]

/-- The law after a whole connection: one stream finalized with success, the connection shut down
on the client's request and completed. -/
theorem quic_streams_completed_one_connection :
    let c := { PerfClient.defaults ⟨4433, 65536, 2000000⟩ with workerCount := 1, streamCount := 1 }
    let inp : Inputs := ⟨1, 10, fun _ => true⟩
    let es : List (Inputs × World.Event) :=
      [(inp, .queue), (inp, .startNewConnection 0 ⟨true, true, true, true, true, true, none, true⟩),
        (inp, .connected 0 0), (inp, .stream 0 0 (.receive 0 true)),
        (inp, .stream 0 0 .sendShutdownComplete), (inp, .stream 0 0 .shutdownComplete),
        (inp, .shutdownComplete 0 0)]
    ∃ W, World.run c (World.init c) es = .ok W ∧ (W.workers 0).connectionsCompleted = 1 ∧
      ((W.workers 0).streamsCompleted = c.streamCount.toNat * (W.workers 0).connectionsCompleted +
          ∑ j ∈ (W.workers 0).conns, ((W.workers 0).conn j).finalized ∧
        ((W.workers 0).conns = ∅ →
          (W.workers 0).streamsCompleted = (W.workers 0).connectionsCompleted * c.streamCount.toNat)) := by
  intro c inp es
  have hW : World.run c (World.init c) es = .ok _ := rfl
  exact ⟨_, hW, rfl, quic_streams_completed (Reachable.init.run hW) rfl rfl 0 rfl rfl⟩

/-- Over TCP the connect callback completes the connection it was told is connected: with every call
succeeding, the worker counts a completed connection and no completed stream, against
`StreamCount = 1`. -/
theorem tcp_connect_completes_without_streams :
    ∃ c, init ⟨4433, 65536, 2000000⟩ ⟨1, .success, fun _ => ⟨[], Nat.zero_le _⟩, fun _ => none, true, true⟩
        ⟨false, fun s => if s = "target" then some "server" else none,
          fun s => if s = "tcp" ∨ s = "streams" then some 1 else none⟩ = .ok c ∧
      ∃ W, World.run c (World.init c)
          ([.queue, .startNewConnection 0 ⟨true, true, true, true, true, true, none, true⟩,
            .tcpConnect 0 0 true].map (Prod.mk ⟨1, 10, fun _ => true⟩)) = .ok W ∧
        c.streamCount = 1 ∧ (W.workers 0).connectionsCompleted = 1 ∧
        (W.workers 0).streamsCompleted = 0 ∧ (W.workers 0).conns = ∅ ∧
        (W.workers 0).failedInits = 0 ∧ (W.workers 0).failedOpens = 0 ∧
        (W.workers 0).failedFinalizations = 0 ∧ (W.workers 0).unrequestedCompletions = 0 :=
  ⟨_, rfl, _, rfl, rfl, rfl, rfl, rfl, rfl, rfl, rfl, rfl⟩

/-! ## The TCP connect callback -/

/-- `TcpConnectCallback` runs `OnShutdownComplete` for `IsConnected = true`, so a connection that
connects is counted completed and freed, never connected; and for `IsConnected = false` it runs
`OnConnectionComplete`, whose shutdown (with `StreamCount = 0`) goes to `MsQuic->ConnectionShutdown`
on the connection's QUIC handle. -/
theorem tcp_connect_callback_inverted :
    ∃ c, init ⟨4433, 65536, 2000000⟩ ⟨1, .success, fun _ => ⟨[], Nat.zero_le _⟩, fun _ => none, true, true⟩
        ⟨false, fun s => if s = "target" then some "server" else none,
          fun s => if s = "tcp" then some 1 else none⟩ = .ok c ∧
      (∃ W, World.run c (World.init c)
          ([.queue, .startNewConnection 0 ⟨true, true, true, true, true, true, none, true⟩,
            .tcpConnect 0 0 true].map (Prod.mk ⟨1, 10, fun _ => true⟩)) = .ok W ∧
        (W.workers 0).connectionsConnected = 0 ∧ (W.workers 0).connectionsCompleted = 1 ∧
        (W.workers 0).conns = ∅) ∧
      ∃ W, World.run c (World.init c)
          ([.queue, .startNewConnection 0 ⟨true, true, true, true, true, true, none, true⟩,
            .tcpConnect 0 0 false].map (Prod.mk ⟨1, 10, fun _ => true⟩)) = .ok W ∧
        (W.workers 0).connectionsConnected = 1 ∧ W.calls = [.connectionShutdown 0 0] :=
  ⟨_, rfl, ⟨_, rfl, rfl, rfl, rfl⟩, _, rfl, rfl, rfl⟩

end SecNetPerf
