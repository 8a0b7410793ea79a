import SecNetPerf.Slots
import SecNetPerf.Lifecycle

/-!
# SecNetPerf.Finalize — what a stream's finalization reads

`OnStreamShutdownComplete` judges a stream by its counters and its four timestamps: `SendSuccess`
needs `SendEndTime` and, when uploading, at least `max(8, Upload)` acknowledged bytes (8 in timed
mode); `RecvSuccess` needs both receive times; with `PrintThroughput` it divides by
`1000 * ElapsedMicroseconds`.

* The stream callbacks write the timestamps behind a zero test, except two: `SEND_SHUTDOWN_COMPLETE`
  stamps `SendEndTime` unconditionally, and `OnReceive` stamps `RecvEndTime` on every `FIN` and past
  the timed cut-off.  `stream_event_keeps_stamps` proves that these are the only writes to a
  nonzero timestamp of a live QUIC stream; `send_end_time_overwritten` is a run where one happens.
* An upload below eight bytes is sent, acknowledged and ended, and still fails `SendSuccess`
  (`small_upload_fails`): `TotalBytes < sizeof(uint64_t)` is the spec's own threshold, which every
  completed upload of eight bytes or more meets (`SecNetPerf.StreamSends`).
* Nothing keeps the clock from reading the same value at a stream's start and at its send's end:
  then a successful upload divides by zero (`upload_throughput_divides_by_zero`).
-/

namespace SecNetPerf

/-! ## Timestamps -/

namespace PerfClientStream

/-- `s'` keeps every timestamp that `s` has written, except that `SendEndTime` may move when
`sendEnd` holds and `RecvEndTime` when `recvEnd` holds; `StartTime` never moves. -/
structure KeepsStamps (s s' : PerfClientStream) (sendEnd recvEnd : Prop) : Prop where
  startTime : s'.startTime = s.startTime
  recvStartTime : s.recvStartTime ≠ 0 → s'.recvStartTime = s.recvStartTime
  sendEndTime : s.sendEndTime ≠ 0 → ¬sendEnd → s'.sendEndTime = s.sendEndTime
  recvEndTime : s.recvEndTime ≠ 0 → ¬recvEnd → s'.recvEndTime = s.recvEndTime

namespace KeepsStamps

variable {s s' s'' : PerfClientStream} {p q p' q' : Prop}

/-- The four timestamps are unchanged. -/
theorem of_eq (h1 : s'.startTime = s.startTime) (h2 : s'.sendEndTime = s.sendEndTime)
    (h3 : s'.recvStartTime = s.recvStartTime) (h4 : s'.recvEndTime = s.recvEndTime) :
    KeepsStamps s s' p q :=
  ⟨h1, fun _ => h3, fun _ _ => h2, fun _ _ => h4⟩

theorem trans (h : KeepsStamps s s' p q) (h' : KeepsStamps s' s'' p q) : KeepsStamps s s'' p q where
  startTime := h'.startTime.trans h.startTime
  recvStartTime hs := (h'.recvStartTime (h.recvStartTime hs ▸ hs)).trans (h.recvStartTime hs)
  sendEndTime hs hp := (h'.sendEndTime (h.sendEndTime hs hp ▸ hs) hp).trans (h.sendEndTime hs hp)
  recvEndTime hs hq := (h'.recvEndTime (h.recvEndTime hs hq ▸ hs) hq).trans (h.recvEndTime hs hq)

theorem mono (h : KeepsStamps s s' p q) (hp : p → p') (hq : q → q') : KeepsStamps s s' p' q' :=
  ⟨h.startTime, h.recvStartTime, fun hs hp' => h.sendEndTime hs (mt hp hp'),
    fun hs hq' => h.recvEndTime hs (mt hq hq')⟩

end KeepsStamps

variable (c : PerfClient)

/-- `Send` writes no timestamp. -/
theorem sendLoop_keepsStamps : ∀ (n : Nat) (clock : Nat → UInt64) (s : PerfClientStream)
    {r : PerfClientStream × List SendOp}, sendLoop c clock n s = some r → KeepsStamps s r.1 p q :=
  fun n clock s r => @sendLoop_induction c (fun s' _ => KeepsStamps s s' p q)
    (fun _ _ _ h _ => h.trans (.of_eq rfl rfl rfl rfl)) n clock s [] r (.of_eq rfl rfl rfl rfl)

theorem onSendComplete_keepsStamps (s : PerfClientStream) (length : UInt32) (canceled : Bool) :
    KeepsStamps s (onSendComplete s length canceled) p q := by
  cases canceled <;> exact .of_eq rfl rfl rfl rfl

/-- `OnReceive` stamps `RecvStartTime` only when it is zero, and may move `RecvEndTime`. -/
theorem onReceive_keepsStamps (s : PerfClientStream) (length : UInt64) (finished : Bool)
    (now : UInt64) : KeepsStamps s (onReceive c s length finished now).1 p True := by
  unfold onReceive
  dsimp only
  refine ⟨?_, fun h => ?_, fun _ _ => ?_, fun _ h => absurd trivial h⟩ <;> split_ifs <;> simp_all

end PerfClientStream

namespace World

variable {c : PerfClient} {inp : Inputs} {W W' : World} {w k : Nat} {p q : Prop}

@[simp] theorem stream_call (W : World) (a : ApiCall) (w : Nat) :
    ((W.call a).workers w).stream = (W.workers w).stream := rfl

@[simp] theorem stream_setSt (W : World) (w k : Nat) (st : PerfClientStream) (w' k' : Nat) :
    ((W.setSt w k st).workers w').stream k' =
      if w' = w ∧ k' = k then { (W.workers w).stream k with st := st } else (W.workers w').stream k' :=
  stream_setStream _ _ _ _ _ _

theorem setSt_st (W : World) (w k : Nat) (st : PerfClientStream) :
    ((W.setSt w k st).workers w).stream k = { (W.workers w).stream k with st := st } := by
  simp

theorem send_keepsStamps (hs : send c inp w k W = .ok W') :
    PerfClientStream.KeepsStamps ((W.workers w).stream k).st ((W'.workers w).stream k).st p q := by
  unfold send at hs
  cases hl : PerfClientStream.sendLoop c (fun _ => inp.now) inp.fuel ((W.workers w).stream k).st with
  | none => simp [hl] at hs
  | some r =>
    simp only [hl] at hs
    split at hs <;> simp only [pure_eq_ok] at hs <;> subst hs <;>
      simpa using PerfClientStream.sendLoop_keepsStamps c _ _ _ hl

end World

/-- On a live QUIC stream, a stream event never moves `StartTime` or a written `RecvStartTime`; a
written `SendEndTime` moves only at `SEND_SHUTDOWN_COMPLETE`, a written `RecvEndTime` only at a
receive. -/
theorem stream_event_keeps_stamps {c : PerfClient} {inp : Inputs} {W W' : World} (h : Reachable c W)
    {w k : Nat} {e : World.StreamEvent} (hs : World.step c inp W (.stream w k e) = .ok W') :
    PerfClientStream.KeepsStamps ((W.workers w).stream k).st ((W'.workers w).stream k).st
      (e = .sendShutdownComplete) (∃ length fin, e = .receive length fin) := by
  simp only [World.step] at hs
  split at hs
  · next hk =>
    cases e with
    | receive length fin =>
      simp only [World.streamCallback, pure_eq_ok] at hs
      subst hs
      split <;> simp only [World.stream_call, World.setSt_st] <;>
        exact (PerfClientStream.onReceive_keepsStamps c _ _ _ _).mono id fun _ => ⟨length, fin, rfl⟩
    | sendComplete i canceled =>
      cases hop : ((W.workers w).stream k).pending[i]? with
      | none => simp [World.streamCallback, hop] at hs
      | some op =>
        simp only [World.streamCallback, hop] at hs
        split at hs
        · simp only [pure_eq_ok] at hs; subst hs
          simpa using PerfClientStream.onSendComplete_keepsStamps _ _ _
        · refine .trans ?_ (World.send_keepsStamps hs)
          simpa using PerfClientStream.onSendComplete_keepsStamps _ _ _
    | peerSendAborted | peerReceiveAborted =>
      simp only [World.streamCallback, pure_eq_ok] at hs
      subst hs
      simp only [World.stream_call, World.setSt_st]
      refine ⟨?_, fun _ => ?_, fun h0 _ => ?_, fun h0 _ => ?_⟩ <;> split_ifs <;> first | rfl | contradiction
    | sendShutdownComplete =>
      simp only [World.streamCallback, pure_eq_ok] at hs
      subst hs
      split <;> simp only [World.stream_call, World.setSt_st] <;>
        exact ⟨rfl, fun _ => rfl, fun _ h1 => by simp at h1, fun _ _ => rfl⟩
    | shutdownComplete =>
      have hlt := (h.inv.workers w).streams_lt k hk.2
      rw [(World.KeepsSlots.onStreamShutdownComplete hs).stream_eq w k hlt]
      exact .of_eq rfl rfl rfl rfl
    | idealSendBufferSize n =>
      simp only [World.streamCallback] at hs
      split at hs
      · exact .trans (by simpa using .of_eq rfl rfl rfl rfl) (World.send_keepsStamps hs)
      · simp only [pure_eq_ok] at hs; subst hs; exact .of_eq rfl rfl rfl rfl
  · exact absurd hs throw_ne_ok

/-- The law at a `PEER_SEND_ABORTED` after a `PEER_RECEIVE_ABORTED` that stamped `SendEndTime`. -/
theorem stream_event_keeps_stamps_after_abort :
    let c := { PerfClient.defaults ⟨4433, 65536, 2000000⟩ with workerCount := 1, streamCount := 1 }
    let es : List (Inputs × World.Event) :=
      [(⟨1, 10, fun _ => true⟩, .queue),
        (⟨1, 10, fun _ => true⟩, .startNewConnection 0 ⟨true, true, true, true, true, true, none, true⟩),
        (⟨1, 10, fun _ => true⟩, .connected 0 0),
        (⟨2, 10, fun _ => true⟩, .stream 0 0 .peerReceiveAborted)]
    ∃ W W', World.run c (World.init c) es = .ok W ∧
      World.step c ⟨3, 10, fun _ => true⟩ W (.stream 0 0 .peerSendAborted) = .ok W' ∧
      ((W.workers 0).stream 0).st.sendEndTime = 2 ∧
      PerfClientStream.KeepsStamps ((W.workers 0).stream 0).st ((W'.workers 0).stream 0).st
        (World.StreamEvent.peerSendAborted = .sendShutdownComplete)
        (∃ length fin, World.StreamEvent.peerSendAborted = .receive length fin) := by
  intro c es
  obtain ⟨W, hW, h2, W', hs⟩ : ∃ W, World.run c (World.init c) es = .ok W ∧
      ((W.workers 0).stream 0).st.sendEndTime = 2 ∧
      ∃ W', World.step c ⟨3, 10, fun _ => true⟩ W (.stream 0 0 .peerSendAborted) = .ok W' :=
    ⟨_, rfl, rfl, _, rfl⟩
  exact ⟨W, W', hW, hs, h2, stream_event_keeps_stamps (Reachable.init.run hW) hs⟩

/-- `-streams:1`: `PEER_RECEIVE_ABORTED` at time 2 stamps `SendEndTime`; the
`SEND_SHUTDOWN_COMPLETE` that follows at time 3 stamps it again. -/
theorem send_end_time_overwritten :
    ∃ c, init ⟨4433, 65536, 2000000⟩ ⟨1, .success, fun _ => ⟨[], Nat.zero_le _⟩, fun _ => none, true, true⟩
        ⟨false, fun s => if s = "target" then some "server" else none,
          fun s => if s = "streams" then some 1 else none⟩ = .ok c ∧
      ∃ W, World.run c (World.init c)
          [(⟨0, 10, fun _ => true⟩, .queue),
            (⟨0, 10, fun _ => true⟩, .startNewConnection 0 ⟨true, true, true, true, true, true, none, true⟩),
            (⟨1, 10, fun _ => true⟩, .connected 0 0),
            (⟨2, 10, fun _ => true⟩, .stream 0 0 .peerReceiveAborted)] = .ok W ∧
        ((W.workers 0).stream 0).st.sendEndTime = 2 ∧
        ∃ W', World.step c ⟨3, 10, fun _ => true⟩ W (.stream 0 0 .sendShutdownComplete) = .ok W' ∧
          ((W'.workers 0).stream 0).st.sendEndTime = 3 :=
  ⟨_, rfl, _, rfl, rfl, _, rfl, rfl⟩

/-! ## Runs that break the finalization's assumptions -/

/-- `-upload:5`: the stream sends its five bytes with `FIN`, the send completes, the send side shuts
down and the server's `FIN` arrives, with the clock advancing at every event; the finalization then
counts the stream as failed, since five acknowledged bytes are fewer than eight. -/
theorem small_upload_fails :
    ∃ c, init ⟨4433, 65536, 2000000⟩ ⟨1, .success, fun _ => ⟨[], Nat.zero_le _⟩, fun _ => none, true, true⟩
        ⟨false, fun s => if s = "target" then some "server" else none,
          fun s => if s = "upload" then some 5 else none⟩ = .ok c ∧
      ∃ W, World.run c (World.init c)
          [(⟨0, 10, fun _ => true⟩, .queue),
            (⟨0, 10, fun _ => true⟩, .startNewConnection 0 ⟨true, true, true, true, true, true, none, true⟩),
            (⟨1, 10, fun _ => true⟩, .connected 0 0),
            (⟨2, 10, fun _ => true⟩, .stream 0 0 (.sendComplete 0 false)),
            (⟨3, 10, fun _ => true⟩, .stream 0 0 .sendShutdownComplete),
            (⟨4, 10, fun _ => true⟩, .stream 0 0 (.receive 0 true))] = .ok W ∧
        ((W.workers 0).stream 0).pending = [] ∧
        ((W.workers 0).stream 0).st.bytesAcked = c.upload ∧
        ((W.workers 0).stream 0).st.sendEndTime ≠ 0 ∧
        PerfClientStream.sendSuccess c ((W.workers 0).stream 0).st = false ∧
        ∃ W', World.step c ⟨5, 10, fun _ => true⟩ W (.stream 0 0 .shutdownComplete) = .ok W' ∧
          (W'.workers 0).failedFinalizations = 1 ∧ (W'.workers 0).streamsCompleted = 0 :=
  ⟨_, rfl, _, rfl, rfl, rfl, by decide, rfl, _, rfl, rfl, rfl⟩

/-- `-upload:8 -ptput:1`, with the clock reading 1 at every event: the upload succeeds, and its
`ElapsedMicroseconds` is zero, so the throughput line divides by zero. -/
theorem upload_throughput_divides_by_zero :
    ∃ c, init ⟨4433, 65536, 2000000⟩ ⟨1, .success, fun _ => ⟨[], Nat.zero_le _⟩, fun _ => none, true, true⟩
        ⟨false, fun s => if s = "target" then some "server" else none,
          fun s => if s = "upload" then some 8 else if s = "ptput" then some 1 else none⟩ = .ok c ∧
      ∃ W, World.run c (World.init c)
          ([.queue, .startNewConnection 0 ⟨true, true, true, true, true, true, none, true⟩,
            .connected 0 0, .stream 0 0 (.sendComplete 0 false), .stream 0 0 .sendShutdownComplete,
            .stream 0 0 (.receive 0 true)].map (Prod.mk ⟨1, 10, fun _ => true⟩)) = .ok W ∧
        PerfClientStream.sendSuccess c ((W.workers 0).stream 0).st = true ∧
        1000 * (((W.workers 0).stream 0).st.sendEndTime - ((W.workers 0).stream 0).st.startTime) = 0 ∧
        World.step c ⟨1, 10, fun _ => true⟩ W (.stream 0 0 .shutdownComplete) = .error .divideByZero :=
  ⟨_, rfl, _, rfl, rfl, rfl, rfl⟩

end SecNetPerf
