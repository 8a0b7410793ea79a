import SecNetPerf.Lifecycle

/-!
# SecNetPerf.Tcp — the TCP back-end's send completions and stream table

`TcpSendCompleteCallback` walks the chain of completed descriptors, but it moves to `Data->Next`
before it reads `StreamId`: each descriptor credits the stream of the next one, and the last one reads
through a null pointer.  A stream's `SendEndTime` is stamped only there, so a TCP stream never reaches
`OnStreamShutdownComplete` through a callback that returns; and when the chain does finalize a stream
on its way, the stream stays in its connection's `StreamTable`, where the next descriptor finds it
freed.

`World.Unfinalized` says that no stream has a `SendEndTime` and no worker has finalized a stream; every
handler keeps it over TCP, so it holds on every world a TCP run reaches (`tcp_never_finalizes`).  Each
failure is also shown on a run from `Start`, for the command line `-target:server -tcp:1 -streams:1`
(one worker, one connection, one stream), timed where the cut-off of a receive matters.
-/

namespace SecNetPerf

/-! ## No TCP stream is finalized -/

/-- No stream of the worker has stamped `SendEndTime`, and the worker has finalized none. -/
structure PerfClientWorker.Unfinalized (wk : PerfClientWorker) : Prop where
  streamsCompleted : wk.streamsCompleted = 0
  failedFinalizations : wk.failedFinalizations = 0
  sendEndTime : ∀ k, (wk.stream k).st.sendEndTime = 0

/-- No worker has finalized a stream or stamped a stream's `SendEndTime`. -/
def World.Unfinalized (W : World) : Prop := ∀ w, (W.workers w).Unfinalized

namespace World

variable {c : PerfClient} {inp : Inputs} {W W' : World} {w : Nat}

theorem Unfinalized.setWorker (h : W.Unfinalized) {wk : PerfClientWorker} (hw : wk.Unfinalized) :
    (W.setWorker w wk).Unfinalized := by
  intro w'
  unfold World.setWorker setAt
  dsimp only
  split
  · exact hw
  · exact h w'

/-- A worker update that keeps the worker's completion counters and streams. -/
theorem Unfinalized.setWorker_same (h : W.Unfinalized) {wk : PerfClientWorker}
    (hc : wk.streamsCompleted = (W.workers w).streamsCompleted)
    (hf : wk.failedFinalizations = (W.workers w).failedFinalizations)
    (hs : wk.stream = (W.workers w).stream) : (W.setWorker w wk).Unfinalized :=
  h.setWorker ⟨hc.trans (h w).1, hf.trans (h w).2, fun k => by rw [hs]; exact (h w).3 k⟩

theorem Unfinalized.setStream (h : W.Unfinalized) {k : Nat} {sl : StreamSlot}
    (hs : sl.st.sendEndTime = 0) : (W.setStream w k sl).Unfinalized :=
  h.setWorker ⟨(h w).1, (h w).2, fun k' => by
    unfold setAt; dsimp only; split
    · exact hs
    · exact (h w).3 k'⟩

theorem Unfinalized.setConn (h : W.Unfinalized) {cid : Nat} {cn : PerfClientConnection} :
    (W.setConn w cid cn).Unfinalized :=
  h.setWorker_same rfl rfl rfl

theorem Unfinalized.send (h : W.Unfinalized) {k : Nat} (hs : send c inp w k W = .ok W') :
    W'.Unfinalized := by
  unfold World.send at hs
  cases hl : PerfClientStream.sendLoop c (fun _ => inp.now) inp.fuel ((W.workers w).stream k).st with
  | none => simp [hl] at hs
  | some r =>
    simp only [hl] at hs
    have he : r.1.sendEndTime = 0 := (PerfClientStream.sendLoop_sendEndTime c _ _ _ hl).trans ((h w).3 k)
    split at hs <;> simp only [pure_eq_ok] at hs <;> subst hs
    · exact (h.setStream he).setConn
    · exact h.setStream he

theorem Unfinalized.startNewStream (h : W.Unfinalized) {cid : Nat} {ok : Bool}
    (hs : startNewStream c inp w cid ok W = .ok W') : W'.Unfinalized := by
  unfold World.startNewStream at hs
  split at hs
  · refine Unfinalized.send ?_ hs
    refine h.setWorker ⟨(h w).1, (h w).2, fun k' => ?_⟩
    unfold setAt; dsimp only; split
    · split <;> rfl
    · exact (h w).3 k'
  · simp only [pure_eq_ok] at hs; subst hs; exact h.setWorker_same rfl rfl rfl

theorem Unfinalized.startStreams {cid : Nat} : ∀ {n i : Nat} {W W' : World}, W.Unfinalized →
    startStreams c inp w cid n i W = .ok W' → W'.Unfinalized
  | 0, _, _, _, h, hs => by simp only [World.startStreams, pure_eq_ok] at hs; exact hs ▸ h
  | n + 1, _, _, _, h, hs => by
    obtain ⟨W1, h1, h2⟩ := bind_eq_ok.1 hs
    exact Unfinalized.startStreams (h.startNewStream h1) h2

theorem Unfinalized.connectionShutdown (h : W.Unfinalized) {cid : Nat} :
    (connectionShutdown w cid W).Unfinalized :=
  h.setConn

theorem Unfinalized.onConnectionComplete (h : W.Unfinalized) {cid : Nat}
    (hs : onConnectionComplete c inp w cid W = .ok W') : W'.Unfinalized := by
  unfold World.onConnectionComplete at hs
  dsimp only at hs
  have h1 : (W.setWorker w { W.workers w with
      connectionsConnected := (W.workers w).connectionsConnected + 1 }).Unfinalized :=
    h.setWorker_same rfl rfl rfl
  split at hs
  · simp only [pure_eq_ok] at hs; subst hs; exact h1.connectionShutdown
  · exact h1.startStreams hs

theorem Unfinalized.workerOnConnectionComplete (h : W.Unfinalized) :
    (workerOnConnectionComplete c w W).Unfinalized := by
  unfold World.workerOnConnectionComplete
  dsimp only
  refine h.setWorker_same ?_ ?_ ?_ <;> split_ifs <;> rfl

theorem Unfinalized.onShutdownComplete (h : W.Unfinalized) {cid : Nat} :
    (onShutdownComplete c w cid W).Unfinalized := by
  unfold World.onShutdownComplete
  dsimp only
  have h0 : (if c.printConnections then W.call (.printConnectionStatistics w cid) else W).Unfinalized := by
    split <;> exact h
  exact h0.workerOnConnectionComplete.setWorker_same rfl rfl rfl

theorem Unfinalized.startNewConnection (h : W.Unfinalized) {r : InitResults} :
    (startNewConnection c w r W).Unfinalized := by
  unfold World.startNewConnection
  dsimp only
  split <;> exact h.setWorker_same rfl rfl rfl

/-- A TCP receive never finalizes: `SendEndTime` is not stamped. -/
theorem Unfinalized.tcpOnReceive (h : W.Unfinalized) {k : Nat} {length : UInt32} {fin : Bool}
    (hs : tcpOnReceive c inp w k length fin W = .ok W') : W'.Unfinalized := by
  unfold World.tcpOnReceive at hs
  dsimp only at hs
  have he := (PerfClientStream.onReceive_sendEndTime c ((W.workers w).stream k).st length.toUInt64 fin
    inp.now).trans ((h w).3 k)
  generalize ((W.workers w).stream k).st.onReceive c length.toUInt64 fin inp.now = r at hs he
  obtain ⟨st, cut⟩ := r
  have h1 : (W.setSt w k st).Unfinalized := h.setStream he
  dsimp only at hs
  split at hs
  · split at hs
    · exact absurd he ‹_›
    · simp only [pure_eq_ok] at hs; subst hs; exact h1.setConn
  · simp only [pure_eq_ok] at hs; subst hs; exact h1

theorem Unfinalized.tcpReceive (h : W.Unfinalized) {cid : Nat} {id : UInt32} {fin abort : Bool}
    {length : UInt32} (hs : tcpReceive c inp w cid id fin abort length W = .ok W') : W'.Unfinalized := by
  unfold World.tcpReceive at hs
  cases hg : getTcpStream ((W.workers w).conn cid) id with
  | none => simp only [hg, pure_eq_ok] at hs; exact hs ▸ h
  | some k =>
    simp only [hg] at hs
    obtain ⟨u, -, hs⟩ := bind_eq_ok.1 hs
    obtain ⟨W2, h2, hs⟩ := bind_eq_ok.1 hs
    have hW2 := h.tcpOnReceive h2
    split at hs
    · obtain ⟨u, -, hs⟩ := bind_eq_ok.1 hs
      split at hs <;> split at hs
      all_goals first
        | exact absurd ((hW2 w).3 k) ‹_›
        | simp only [pure_eq_ok] at hs; subst hs; exact hW2.setStream ((hW2 w).3 k)
    · simp only [pure_eq_ok] at hs; exact hs ▸ hW2

/-- Over TCP no event finalizes a stream or stamps a `SendEndTime`. -/
theorem Unfinalized.step (ht : c.useTCP = true) (h : W.Unfinalized) {e : Event}
    (hs : World.step c inp W e = .ok W') : W'.Unfinalized := by
  cases e with
  | queue =>
    simp only [World.step] at hs
    split_ifs at hs
    simp only [pure_eq_ok] at hs; subst hs; exact h.setWorker_same rfl rfl rfl
  | startNewConnection w r =>
    simp only [World.step] at hs
    split_ifs at hs
    simp only [pure_eq_ok] at hs; subst hs; exact h.startNewConnection
  | stop => simp only [World.step, pure_eq_ok] at hs; subst hs; exact h
  | connected w cid | shutdownComplete w cid | stream w k e =>
    simp only [World.step, ht, Bool.not_true, Bool.false_eq_true, false_and, ↓reduceIte, throw_ne_ok] at hs
  | tcpConnect w cid isConnected =>
    simp only [World.step, ht, ↓reduceIte] at hs
    obtain ⟨u, -, hs⟩ := bind_eq_ok.1 hs
    split at hs
    · exact h.onConnectionComplete hs
    · simp only [pure_eq_ok] at hs; subst hs; exact h.onShutdownComplete
  | tcpReceive w cid id fin abort length =>
    simp only [World.step, ht, ↓reduceIte] at hs
    obtain ⟨u, -, hs⟩ := bind_eq_ok.1 hs
    exact h.tcpReceive hs
  | tcpSendComplete w cid n => exact absurd hs (step_tcpSendComplete_ne_ok c inp w cid n W W')

end World

theorem Reachable.unfinalized {c : PerfClient} {W : World} (h : Reachable c W) (ht : c.useTCP = true) :
    W.Unfinalized := by
  induction h with
  | init => exact fun _ => ⟨rfl, rfl, fun _ => rfl⟩
  | step inp e _ hs ih => exact ih.step ht hs


/-- **No finalization over TCP**: in every world a TCP run reaches, no stream has stamped
`SendEndTime`, no worker has finalized a stream, and no latency sample was taken. -/
theorem tcp_never_finalizes {c : PerfClient} {W : World} (h : Reachable c W) (ht : c.useTCP = true)
    (w : Nat) :
    (W.workers w).streamsCompleted = 0 ∧ (W.workers w).failedFinalizations = 0 ∧
      (∀ k, ((W.workers w).stream k).st.sendEndTime = 0) ∧ W.latencyCount = 0 := by
  have hu := h.unfinalized ht
  have hI := h.inv
  have hcur : W.curLatencyIndex = 0 :=
    hI.curLatencyIndex.trans (Finset.sum_eq_zero fun w _ => (hu w).1)
  have hcount : W.latencyCount = _ := hI.latencyCount
  exact ⟨(hu w).1, (hu w).2, (hu w).3, by rw [hcount, World.books_curLatencyIndex, hcur, Nat.zero_min]⟩

/-- The law on a run where the stream has sent its `Fin` descriptor and received the peer's `Fin`. -/
theorem tcp_never_finalizes_after_fin :
    let c := { PerfClient.defaults ⟨4433, 65536, 2000000⟩ with
      workerCount := 1, useTCP := true, streamCount := 1 }
    let es : List (Inputs × World.Event) :=
      [.queue, .startNewConnection 0 ⟨true, true, true, true, true, true, none, true⟩,
        .tcpConnect 0 0 false, .tcpReceive 0 0 0 true false 0].map (Prod.mk ⟨1, 10, fun _ => true⟩)
    ∃ W, World.run c (World.init c) es = .ok W ∧ ((W.workers 0).stream 0).st.recvEndTime ≠ 0 ∧
      ((W.workers 0).streamsCompleted = 0 ∧ (W.workers 0).failedFinalizations = 0 ∧
        (∀ k, ((W.workers 0).stream k).st.sendEndTime = 0) ∧ W.latencyCount = 0) := by
  intro c es
  have hW : World.run c (World.init c) es = .ok _ := rfl
  exact ⟨_, hW, by decide, tcp_never_finalizes (Reachable.init.run hW) rfl 0⟩

/-- The peer's `Fin` stamps `RecvEndTime`; the completion of the stream's `Fin` descriptor, which
would stamp `SendEndTime` and finalize the stream, faults first. -/
theorem tcp_fin_never_finalizes :
    ∃ c, init ⟨4433, 65536, 2000000⟩ ⟨1, .success, fun _ => ⟨[], Nat.zero_le _⟩, fun _ => none, true, true⟩
        ⟨false, fun s => if s = "target" then some "server" else none,
          fun s => if s = "tcp" ∨ s = "streams" then some 1 else none⟩ = .ok c ∧
      ∃ W, World.run c (World.init c)
          ([.queue, .startNewConnection 0 ⟨true, true, true, true, true, true, none, true⟩,
            .tcpConnect 0 0 false, .tcpReceive 0 0 0 true false 0].map (Prod.mk ⟨1, 10, fun _ => true⟩)) =
            .ok W ∧
        ((W.workers 0).stream 0).st.recvEndTime ≠ 0 ∧ ((W.workers 0).stream 0).st.sendEndTime = 0 ∧
        0 ∈ (W.workers 0).streams ∧ (W.workers 0).streamsCompleted = 0 ∧
        World.step c ⟨1, 10, fun _ => true⟩ W (.tcpSendComplete 0 0 1) = .error .nullDereference :=
  ⟨_, rfl, _, rfl, by decide, rfl, by decide, rfl, rfl⟩

/-! ## Completions of a stream's sends -/

/-- The transport hands back the stream's only descriptor, and the callback faults on the null `Next`
before it credits any byte: the stream keeps `BytesOutstanding = 8` with every send completed. -/
theorem tcp_send_completion_faults :
    ∃ c, init ⟨4433, 65536, 2000000⟩ ⟨1, .success, fun _ => ⟨[], Nat.zero_le _⟩, fun _ => none, true, true⟩
        ⟨false, fun s => if s = "target" then some "server" else none,
          fun s => if s = "tcp" ∨ s = "streams" then some 1 else none⟩ = .ok c ∧
      ∃ W, World.run c (World.init c)
          ([.queue, .startNewConnection 0 ⟨true, true, true, true, true, true, none, true⟩,
            .tcpConnect 0 0 false].map (Prod.mk ⟨1, 10, fun _ => true⟩)) = .ok W ∧
        ((W.workers 0).stream 0).st.bytesOutstanding = 8 ∧
        ((W.workers 0).conn 0).tcpQueue.length = 1 ∧
        World.step c ⟨1, 10, fun _ => true⟩ W (.tcpSendComplete 0 0 1) = .error .nullDereference :=
  ⟨_, rfl, _, rfl, rfl, rfl, rfl⟩

/-- Two streams of one connection each send one 8-byte `Fin` descriptor, and the transport hands
back both in one chain.  The first iteration of the callback's loop credits the first descriptor's
bytes to the stream of the second (and stamps that stream's `SendEndTime`), the second iteration
reads through the null `Next` of the last descriptor: the first stream is never credited. -/
theorem tcp_completion_credits_next_stream :
    ∃ c, init ⟨4433, 65536, 2000000⟩ ⟨1, .success, fun _ => ⟨[], Nat.zero_le _⟩, fun _ => none, true, true⟩
        ⟨false, fun s => if s = "target" then some "server" else none,
          fun s => if s = "tcp" then some 1 else if s = "streams" then some 2 else none⟩ = .ok c ∧
      ∃ W, World.run c (World.init c)
          ([.queue, .startNewConnection 0 ⟨true, true, true, true, true, true, none, true⟩,
            .tcpConnect 0 0 false].map (Prod.mk ⟨1, 10, fun _ => true⟩)) = .ok W ∧
        ∃ d₀ d₁, ((W.workers 0).conn 0).tcpQueue = [d₀, d₁] ∧ d₀.streamId = 0 ∧ d₁.streamId = 1 ∧
          d₀.length = 8 ∧
          (∃ W', World.tcpSendCompleteStep c ⟨1, 10, fun _ => true⟩ 0 0 d₀ d₁ W = .ok W' ∧
            ((W'.workers 0).stream 0).st.bytesAcked = 0 ∧ ((W'.workers 0).stream 1).st.bytesAcked = 8 ∧
            ((W'.workers 0).stream 1).st.sendEndTime ≠ 0) ∧
          World.step c ⟨1, 10, fun _ => true⟩ W (.tcpSendComplete 0 0 2) = .error .nullDereference :=
  ⟨_, rfl, _, rfl, _, _, rfl, rfl, rfl, rfl, ⟨_, rfl, rfl, rfl, by decide⟩, rfl⟩

/-! ## The stream table -/

/-- Timed, with no upload and no download time: the stream sends one `Fin` descriptor, and each
receive passes the cut-off and queues an `Abort` descriptor.  Completing the three, the first
finalizes and frees the stream (both end times are now set); the second looks its signature up in
the `StreamTable`, which still holds the freed stream. -/
theorem tcp_stream_table_keeps_freed_stream :
    ∃ c, init ⟨4433, 65536, 2000000⟩ ⟨1, .success, fun _ => ⟨[], Nat.zero_le _⟩, fun _ => none, true, true⟩
        ⟨false, fun s => if s = "target" then some "server" else none,
          fun s => if s = "tcp" ∨ s = "streams" ∨ s = "timed" then some 1 else none⟩ = .ok c ∧
      ∃ W, World.run c (World.init c)
          ([.queue, .startNewConnection 0 ⟨true, true, true, true, true, true, none, true⟩,
            .tcpConnect 0 0 false, .tcpReceive 0 0 0 false false 0, .tcpReceive 0 0 0 false false 0].map
            (Prod.mk ⟨1, 10, fun _ => true⟩)) = .ok W ∧
        ((W.workers 0).conn 0).tcpQueue.map (fun d => (d.streamId, d.fin, d.abort)) =
          [(0, true, false), (0, false, true), (0, false, true)] ∧
        World.getTcpStream ((W.workers 0).conn 0) 0 = some 0 ∧
        World.step c ⟨1, 10, fun _ => true⟩ W (.tcpSendComplete 0 0 3) = .error .useAfterFree :=
  ⟨_, rfl, _, rfl, rfl, rfl, rfl⟩

end SecNetPerf
