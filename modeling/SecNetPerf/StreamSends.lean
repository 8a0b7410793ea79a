import SecNetPerf.Sending

/-!
# SecNetPerf.StreamSends — what every stream of a run sends

`SecNetPerf.Sending` describes the send side of one stream as a run of its own (`SendRun`): `Send`
on the stream `StartNewStream` allocates, then any sequence of buffer-size updates, completions and
aborts.  Here those runs are tied to the worlds.  Over QUIC, every live stream of every world a run
reaches has the send side of such a run, with its pending sends among the run's sends
(`Reachable.sendsRun`): `StartNewStream` is the run's start (`World.startNewStream_sendLoop`), a
send event is one more event of the run (`World.streamCallback_sendReact`), and every other handler
leaves the send side of the live streams alone.

* `stream_sends`: what the sends of every run are, and that every live QUIC stream is such a run.
* `upload_send_success`: an upload of at least eight bytes, or a timed one, whose sends all
  complete without cancellation, passes `OnStreamShutdownComplete`'s `SendSuccess` test once
  `SendEndTime` is stamped.
-/

namespace SecNetPerf

open PerfClientStream

/-! ## Live streams are runs of the send side -/

/-- The send side of slot `sl` is where a run of the stream's send side ends, and the slot's pending
sends are among the run's sends. -/
def StreamSlot.SentBy (c : PerfClient) (sl : StreamSlot) : Prop :=
  ∃ es s ops, SendRun c es s ops ∧ s.sendSide = sl.st.sendSide ∧ sl.pending.Sublist ops

/-- Every live stream of every worker is where a run of its send side ends. -/
def World.SendsRun (c : PerfClient) (W : World) : Prop :=
  ∀ w, ∀ k ∈ (W.workers w).streams, ((W.workers w).stream k).SentBy c

/-- `OnReceive` leaves the send side alone. -/
theorem PerfClientStream.onReceive_sendSide (c : PerfClient) (s : PerfClientStream) (length : UInt64)
    (finished : Bool) (now : UInt64) : (s.onReceive c length finished now).1.sendSide = s.sendSide := by
  unfold onReceive
  dsimp only
  split_ifs <;> rfl

/-- The pending sends a send event leaves are among the stream's pending sends. -/
theorem World.sendEventOf_sublist {c : PerfClient} {sl : StreamSlot} {e : World.StreamEvent}
    {e' : SendEvent} {p : List SendOp} (he : World.sendEventOf c sl e = some (e', p)) :
    p.Sublist sl.pending := by
  cases e with
  | sendComplete i canceled =>
    simp only [World.sendEventOf, Option.map_eq_some', Prod.mk.injEq] at he
    obtain ⟨_, _, -, rfl⟩ := he
    exact List.eraseIdx_sublist _ _
  | peerReceiveAborted | idealSendBufferSize =>
    simp only [World.sendEventOf, Option.some.injEq, Prod.mk.injEq] at he
    exact he.2 ▸ List.Sublist.refl _
  | receive | peerSendAborted | sendShutdownComplete | shutdownComplete =>
    simp [World.sendEventOf] at he

namespace StreamSlot.SentBy

variable {c : PerfClient} {sl : StreamSlot}

/-- New fields with the same send side. -/
theorem withSt (h : sl.SentBy c) {st : PerfClientStream} (hst : st.sendSide = sl.st.sendSide) :
    ({ sl with st := st } : StreamSlot).SentBy c := by
  obtain ⟨es, s, ops, hr, hs, hp⟩ := h
  exact ⟨es, s, ops, hr, hs.trans hst.symm, hp⟩

/-- A send event on the slot is one more event of its run. -/
theorem react (h : sl.SentBy c) {e : World.StreamEvent} {e' : SendEvent} {p : List SendOp}
    (he : World.sendEventOf c sl e = some (e', p)) {clock : Nat → UInt64} {fuel : Nat}
    {now : UInt64} {st : PerfClientStream} {ops : List SendOp}
    (hs : sendReact c clock fuel now sl.st e' = some (st, ops)) :
    ({ sl with st := st, pending := p ++ ops } : StreamSlot).SentBy c := by
  obtain ⟨es, s, ops0, hr, hside, hp⟩ := h
  obtain ⟨s', hs', hside'⟩ := sendReact_of_sendSide_eq c hside hs
  exact ⟨es ++ [e'], s', ops0 ++ ops, hr.react clock fuel now e' hs', hside',
    ((World.sendEventOf_sublist he).trans hp).append (List.Sublist.refl ops)⟩

end StreamSlot.SentBy

namespace World.SendsRun

variable {c : PerfClient} {inp : Inputs} {W W' : World} {w : Nat}

/-! ### Handlers that leave the live streams alone -/

theorem of_workers (h : W.SendsRun c) (hw : W'.workers = W.workers) : W'.SendsRun c := by
  unfold World.SendsRun
  rwa [hw]

theorem setWorker (h : W.SendsRun c) {wk : PerfClientWorker}
    (hs : ∀ k ∈ wk.streams, (wk.stream k).SentBy c) : (W.setWorker w wk).SendsRun c := by
  intro w' k hk
  by_cases hw : w' = w
  · subst hw
    simp only [World.setWorker, setAt, if_true] at hk ⊢
    exact hs k hk
  · simp only [World.setWorker, setAt, if_neg hw] at hk ⊢
    exact h w' k hk

/-- A worker update that keeps the worker's slots and starts no stream. -/
theorem setWorker_sub (h : W.SendsRun c) {wk : PerfClientWorker}
    (hst : wk.streams ⊆ (W.workers w).streams) (hsl : wk.stream = (W.workers w).stream) :
    (W.setWorker w wk).SendsRun c :=
  h.setWorker fun k hk => hsl ▸ h w k (hst hk)

theorem setWorker_same (h : W.SendsRun c) {wk : PerfClientWorker}
    (hst : wk.streams = (W.workers w).streams) (hsl : wk.stream = (W.workers w).stream) :
    (W.setWorker w wk).SendsRun c :=
  h.setWorker_sub (fun _ hx => hst ▸ hx) hsl

theorem setStream (h : W.SendsRun c) {k : Nat} {sl : StreamSlot}
    (hs : k ∈ (W.workers w).streams → sl.SentBy c) : (W.setStream w k sl).SendsRun c :=
  h.setWorker fun k' hk' => by
    simp only [setAt]
    split
    · subst k'
      exact hs hk'
    · exact h w k' hk'

theorem setConn (h : W.SendsRun c) {cid : Nat} {cn : PerfClientConnection} :
    (W.setConn w cid cn).SendsRun c :=
  h.setWorker_same rfl rfl

theorem call (h : W.SendsRun c) {a : ApiCall} : (W.call a).SendsRun c := h

theorem connectionShutdown (h : W.SendsRun c) {cid : Nat} :
    (connectionShutdown w cid W).SendsRun c :=
  h.setConn

theorem recordLatency (h : W.SendsRun c) {l : UInt64} : (recordLatency c l W).SendsRun c :=
  h.of_workers (recordLatency_workers c l W)

theorem workerOnConnectionComplete (h : W.SendsRun c) :
    (workerOnConnectionComplete c w W).SendsRun c := by
  unfold World.workerOnConnectionComplete
  dsimp only
  refine h.setWorker_same ?_ ?_ <;> split_ifs <;> rfl

theorem onShutdownComplete (h : W.SendsRun c) {cid : Nat} :
    (onShutdownComplete c w cid W).SendsRun c := by
  unfold World.onShutdownComplete
  dsimp only
  have h0 : (if c.printConnections then W.call (.printConnectionStatistics w cid) else W).SendsRun c := by
    split <;> exact h
  exact h0.workerOnConnectionComplete.setWorker_same rfl rfl

theorem startNewConnection (h : W.SendsRun c) {r : InitResults} :
    (startNewConnection c w r W).SendsRun c := by
  unfold World.startNewConnection
  dsimp only
  split <;> exact h.setWorker_same rfl rfl

/-! ### Handlers that start, change or free a stream -/

section Quic

variable (ht : c.useTCP = false)
include ht

/-- `StartNewStream` starts the run of the stream it allocates. -/
theorem startNewStream (h : W.SendsRun c) {cid : Nat} {ok : Bool}
    (hs : startNewStream c inp w cid ok W = .ok W') : W'.SendsRun c := by
  cases ok with
  | false =>
    unfold World.startNewStream at hs
    simp only [ht, Bool.false_or, Bool.false_eq_true, if_false, pure_eq_ok] at hs
    subst hs
    exact h.setWorker_same rfl rfl
  | true =>
    obtain ⟨st, ops, hl, hstr, hstream, hother⟩ := startNewStream_sendLoop ht hs
    intro w' k hk
    by_cases hw : w' = w
    · subst hw
      rw [hstr, Finset.mem_insert] at hk
      rw [hstream]
      simp only [setAt]
      split
      · exact ⟨[], st, ops, .start _ _ _ _ hl, rfl, List.Sublist.refl _⟩
      · exact h w' k (hk.resolve_left ‹_›)
    · rw [hother w' hw] at hk ⊢
      exact h w' k hk

theorem startStreams {cid : Nat} : ∀ {n i : Nat} {W W' : World}, W.SendsRun c →
    startStreams c inp w cid n i W = .ok W' → W'.SendsRun c
  | 0, _, _, _, h, hs => by simp only [World.startStreams, pure_eq_ok] at hs; exact hs ▸ h
  | n + 1, _, _, _, h, hs => by
    obtain ⟨W1, h1, h2⟩ := bind_eq_ok.1 hs
    exact startStreams (startNewStream ht h h1) h2

theorem onConnectionComplete (h : W.SendsRun c) {cid : Nat}
    (hs : onConnectionComplete c inp w cid W = .ok W') : W'.SendsRun c := by
  unfold World.onConnectionComplete at hs
  dsimp only at hs
  have h1 : (W.setWorker w { W.workers w with
      connectionsConnected := (W.workers w).connectionsConnected + 1 }).SendsRun c :=
    h.setWorker_same rfl rfl
  split at hs
  · simp only [pure_eq_ok] at hs; subst hs; exact h1.connectionShutdown
  · exact startStreams ht h1 hs

theorem connOnStreamShutdownComplete (h : W.SendsRun c) {cid : Nat}
    (hs : connOnStreamShutdownComplete c inp w cid W = .ok W') : W'.SendsRun c := by
  unfold World.connOnStreamShutdownComplete at hs
  dsimp only at hs
  split at hs
  · exact startStreams ht h.setConn hs
  · split at hs <;> simp only [pure_eq_ok] at hs <;> subst hs
    · exact h.setConn.connectionShutdown
    · exact h.setConn

/-- Finalizing a stream frees it, and the streams `-rstream` starts again start their runs. -/
theorem onStreamShutdownComplete (h : W.SendsRun c) {k : Nat}
    (hs : onStreamShutdownComplete c inp w k W = .ok W') : W'.SendsRun c := by
  unfold World.onStreamShutdownComplete at hs
  dsimp only at hs
  split at hs
  · exact absurd hs throw_ne_ok
  · simp only [pure_bind] at hs
    refine connOnStreamShutdownComplete ht ?_ hs
    refine World.SendsRun.setWorker_sub ?_ (Finset.erase_subset _ _) rfl
    split
    · exact h.recordLatency.setWorker_same rfl rfl
    · exact h.setWorker_same rfl rfl

/-- A send event of a live stream is one more event of its run. -/
theorem streamCallback_send (h : W.SendsRun c) {k : Nat} (hk : k ∈ (W.workers w).streams)
    {e : StreamEvent} (hs : streamCallback c inp w k W e = .ok W') {e' : SendEvent} {p : List SendOp}
    (he : sendEventOf c ((W.workers w).stream k) e = some (e', p)) : W'.SendsRun c := by
  obtain ⟨st, ops, hr, hw⟩ := streamCallback_sendReact ht he hs
  exact (h.setStream fun _ => (h w k hk).react he hr).of_workers hw

/-- Every event of a live stream: the send events extend its run, the others leave its send side
alone or free it. -/
theorem streamCallback (h : W.SendsRun c) {k : Nat} (hk : k ∈ (W.workers w).streams)
    {e : StreamEvent} (hs : streamCallback c inp w k W e = .ok W') : W'.SendsRun c := by
  have hst : ∀ st : PerfClientStream, st.sendSide = ((W.workers w).stream k).st.sendSide →
      (W.setSt w k st).SendsRun c := fun st hst =>
    h.setStream fun _ => (h w k hk).withSt hst
  cases e with
  | receive length fin =>
    simp only [World.streamCallback, pure_eq_ok] at hs
    have hr := PerfClientStream.onReceive_sendSide c ((W.workers w).stream k).st length fin inp.now
    generalize ((W.workers w).stream k).st.onReceive c length fin inp.now = r at hs hr
    obtain ⟨st, cut⟩ := r
    subst hs
    split <;> exact hst st hr
  | sendComplete i canceled =>
    cases hop : ((W.workers w).stream k).pending[i]? with
    | none => simp [World.streamCallback, hop] at hs
    | some op => exact streamCallback_send ht h hk hs (by rw [sendEventOf, hop]; rfl)
  | peerSendAborted =>
    simp only [World.streamCallback, pure_eq_ok] at hs
    subst hs
    exact (hst _ (by split <;> rfl)).call
  | peerReceiveAborted => exact streamCallback_send ht h hk hs rfl
  | sendShutdownComplete =>
    simp only [World.streamCallback, pure_eq_ok] at hs
    subst hs
    split <;> exact hst _ rfl
  | shutdownComplete => exact onStreamShutdownComplete ht h hs
  | idealSendBufferSize n => exact streamCallback_send ht h hk hs rfl

/-- Every event of a QUIC run. -/
theorem step (h : W.SendsRun c) {e : Event} (hs : World.step c inp W e = .ok W') : W'.SendsRun c := by
  cases e with
  | queue =>
    simp only [World.step] at hs
    split_ifs at hs
    simp only [pure_eq_ok] at hs; subst hs; exact h.setWorker_same rfl rfl
  | startNewConnection w r =>
    simp only [World.step] at hs
    split_ifs at hs
    simp only [pure_eq_ok] at hs; subst hs; exact h.startNewConnection
  | stop => simp only [World.step, pure_eq_ok] at hs; subst hs; exact h
  | connected w cid =>
    simp only [World.step] at hs
    split_ifs at hs
    exact onConnectionComplete ht h.setConn hs
  | shutdownComplete w cid =>
    simp only [World.step] at hs
    split_ifs at hs <;> simp only [pure_eq_ok] at hs <;> subst hs
    · refine World.SendsRun.onShutdownComplete ?_
      exact h.setWorker_same rfl rfl
    · exact h.onShutdownComplete
  | stream w k e =>
    simp only [World.step] at hs
    split_ifs at hs with hg
    exact streamCallback ht h hg.2 hs
  | tcpConnect w cid isConnected | tcpReceive w cid id fin abort length | tcpSendComplete w cid n =>
    simp only [World.step, ht, Bool.false_eq_true, ↓reduceIte, throw_ne_ok] at hs

end Quic

end World.SendsRun

/-- Over QUIC, every live stream of every world a run reaches is where a run of its send side
ends. -/
theorem Reachable.sendsRun {c : PerfClient} {W : World} (h : Reachable c W) (ht : c.useTCP = false) :
    W.SendsRun c := by
  induction h with
  | init => intro w k hk; simp [World.init, PerfClientWorker.new] at hk
  | step inp e _ hs ih => exact ih.step ht hs

/-! ## The laws of a stream's sends -/

/-- **The sends of a stream** (`IoSize ≥ 256`), over every run of its send side: no send but the
last carries `FIN`; a `FIN` send sets `SendComplete`, after which no event issues a send and
`SendComplete` stays set; every send without `FIN` has `IoSize` bytes.  In a non-timed run the
sends start the spec's sequence `uploadSends`, are all of it, with `BytesSent` at `Upload` (or 8),
once `SendComplete` is set without an abort, and only the first TCP descriptor has `Open` set.  In
a timed run only the first descriptor has `Open` set until `BytesSent` passes `2^64`.  And over QUIC
every live stream of every world a run reaches is where such a run ends, with its pending sends
among the run's sends. -/
theorem stream_sends {c : PerfClient} (hS : 256 ≤ c.ioSize.toNat) :
    (∀ {es : List SendEvent} {s : PerfClientStream} {ops : List SendOp}, SendRun c es s ops →
      (∀ op ∈ ops.dropLast, op.fin = false) ∧
      (∀ op ∈ ops, op.fin = true → s.sendComplete = true) ∧
      (s.sendComplete = true → ∀ clock fuel now e,
        ∃ s', sendReact c clock fuel now s e = some (s', []) ∧ s'.sendComplete = true) ∧
      (∀ op ∈ ops, op.fin = false → op.length = c.ioSize) ∧
      (c.timed = false →
        ops.map sendShape <+: uploadSends c.upload.toNat c.ioSize.toNat ∧
        (s.sendComplete = true → SendEvent.peerReceiveAborted ∉ es →
          ops.map sendShape = uploadSends c.upload.toNat c.ioSize.toNat ∧
          s.bytesSent.toNat = if c.upload = 0 then 8 else c.upload.toNat) ∧
        ∀ i op, ops[i]? = some op → ((World.tcpDescriptor s op).isOpen = true ↔ i = 0)) ∧
      (c.timed = true → ∀ i op, ops[i]? = some op → (i + 1) * c.ioSize.toNat < 2 ^ 64 →
        ((World.tcpDescriptor s op).isOpen = true ↔ i = 0))) ∧
    (c.useTCP = false → ∀ {W : World}, Reachable c W → ∀ w, ∀ k ∈ (W.workers w).streams,
      ∃ es s ops, SendRun c es s ops ∧ s.sendSide = ((W.workers w).stream k).st.sendSide ∧
        ((W.workers w).stream k).pending.Sublist ops) := by
  refine ⟨fun h => ?_, fun ht _ hR => hR.sendsRun ht⟩
  have hI := h.sendInv
  have hS8 : 8 ≤ c.ioSize.toNat := by omega
  refine ⟨hI.finLast, hI.finComplete, fun hc => sendReact_of_sendComplete c hc, hI.length,
    fun ht => ?_, fun ht i op hi hw => (h.timedSends ht).first_iff (by omega) hi hw⟩
  obtain ⟨m, done, hU⟩ := h.untimedSends ht hS8
  refine ⟨hU.isPrefix_uploadSends hS8, fun hc hn => ?_, hU.first⟩
  have hd := hU.done_of_fin (hI.completeFin hc hn)
  refine ⟨hU.eq_uploadSends hS8 hd, ?_⟩
  rw [hU.sent, if_pos hd, uploadTotal_toNat]

/-- The law on a stream of `-upload:100000` (`IoSize = 65536`): its first send, then that send's
completion and the `FIN` send of the other 34464 bytes. -/
theorem stream_sends_two_sends :
    ∃ c, init ⟨4433, 65536, 2000000⟩ ⟨1, .success, fun _ => ⟨[], Nat.zero_le _⟩, fun _ => none, true, true⟩
        ⟨false, fun s => if s = "target" then some "server" else none,
          fun s => if s = "upload" then some 100000 else none⟩ = .ok c ∧
      ∃ s ops, 256 ≤ c.ioSize.toNat ∧ SendRun c [.sendComplete 65536 false] s ops ∧
        ops.map sendShape = [(65536, false), (34464, true)] ∧
        ((∀ op ∈ ops.dropLast, op.fin = false) ∧
          (∀ op ∈ ops, op.fin = true → s.sendComplete = true) ∧
          (s.sendComplete = true → ∀ clock fuel now e,
            ∃ s', sendReact c clock fuel now s e = some (s', []) ∧ s'.sendComplete = true) ∧
          (∀ op ∈ ops, op.fin = false → op.length = c.ioSize) ∧
          (c.timed = false →
            ops.map sendShape <+: uploadSends c.upload.toNat c.ioSize.toNat ∧
            (s.sendComplete = true → SendEvent.peerReceiveAborted ∉ [.sendComplete 65536 false] →
              ops.map sendShape = uploadSends c.upload.toNat c.ioSize.toNat ∧
              s.bytesSent.toNat = if c.upload = 0 then 8 else c.upload.toNat) ∧
            ∀ i op, ops[i]? = some op → ((World.tcpDescriptor s op).isOpen = true ↔ i = 0)) ∧
          (c.timed = true → ∀ i op, ops[i]? = some op → (i + 1) * c.ioSize.toNat < 2 ^ 64 →
            ((World.tcpDescriptor s op).isOpen = true ↔ i = 0))) := by
  obtain ⟨c, hc, hS, s, ops, h0, s', ops', h1, hops⟩ :
      ∃ c, init ⟨4433, 65536, 2000000⟩
          ⟨1, .success, fun _ => ⟨[], Nat.zero_le _⟩, fun _ => none, true, true⟩
          ⟨false, fun s => if s = "target" then some "server" else none,
            fun s => if s = "upload" then some 100000 else none⟩ = .ok c ∧ 256 ≤ c.ioSize.toNat ∧
        ∃ s ops, sendLoop c (fun _ => 0) 4 { new c 0 with signature := 0 } = some (s, ops) ∧
          ∃ s' ops', sendReact c (fun _ => 0) 4 0 s (.sendComplete 65536 false) = some (s', ops') ∧
            (ops ++ ops').map sendShape = [(65536, false), (34464, true)] :=
    ⟨_, rfl, by decide, _, _, rfl, _, _, rfl, rfl⟩
  have h := SendRun.react (fun _ => 0) 4 0 (.sendComplete 65536 false)
    (SendRun.start (fun _ => 0) 4 0 0 h0) h1
  exact ⟨c, hc, s', ops ++ ops', hS, h, hops, (stream_sends hS).1 h⟩

/-- **A completed upload passes the test** (`IoSize ≥ 256`, `Upload ≥ 8` or timed): over every run of
a stream's send side with no canceled completion and nothing outstanding, whose `FIN` send went out
if it is not timed and which has sent fewer than `2^64` bytes if it is, a stream with that send side
and a nonzero `SendEndTime` has `SendSuccess`: its `BytesAcked` is at least 8, and at least `Upload`
when not timed. -/
theorem upload_send_success {c : PerfClient} (hS : 256 ≤ c.ioSize.toNat)
    (hU : c.timed = true ∨ 8 ≤ c.upload.toNat) {es : List SendEvent} {s : PerfClientStream}
    {ops : List SendOp} (h : SendRun c es s ops)
    (hc : ∀ length, SendEvent.sendComplete length true ∉ es) (ho : s.bytesOutstanding = 0)
    (hfin : c.timed = false → ∃ op ∈ ops, op.fin = true)
    (hw : c.timed = true → ops.length * c.ioSize.toNat < 2 ^ 64)
    {st : PerfClientStream} (hst : st.sendSide = s.sendSide) (he : st.sendEndTime ≠ 0) :
    sendSuccess c st = true := by
  have hacked : st.bytesAcked = s.bytesSent := by
    have := h.bytesAcked_add_bytesOutstanding hc
    rw [ho, add_zero] at this
    exact (congrArg PerfClientStream.bytesAcked hst).trans this
  have h8 : 8 ≤ st.bytesAcked.toNat ∧ (c.timed = false → c.upload.toNat ≤ st.bytesAcked.toNat) := by
    rw [hacked]
    cases ht : c.timed
    · obtain ⟨m, done, hU'⟩ := h.untimedSends ht (by omega)
      have hu : 8 ≤ c.upload.toNat := hU.resolve_left (by simp [ht])
      rw [hU'.sent, if_pos (hU'.done_of_fin (hfin ht)), uploadTotal, if_neg (by omega)]
      exact ⟨hu, fun _ => le_rfl⟩
    · have hn := List.length_pos.2 (h.ops_ne_nil (by omega))
      rw [(h.timedSends ht).sent, Nat.mod_eq_of_lt (hw ht)]
      exact ⟨le_trans (by omega) (Nat.mul_le_mul_right c.ioSize.toNat hn), nofun⟩
  have h1 : ¬st.bytesAcked < 8 := fun hlt => by
    have : st.bytesAcked.toNat < 8 := hlt
    omega
  unfold sendSuccess
  cases ht : c.timed
  · have h2 : ¬st.bytesAcked < c.upload := fun hlt => by
      have : st.bytesAcked.toNat < c.upload.toNat := hlt
      have := h8.2 ht
      omega
    simp [he, h1, h2]
  · simp [he, h1]

/-- The law on a stream of `-upload:100000` whose two sends, of 65536 and 34464 bytes, complete,
with `SendEndTime` stamped at 1. -/
theorem upload_send_success_two_sends :
    ∃ c, init ⟨4433, 65536, 2000000⟩ ⟨1, .success, fun _ => ⟨[], Nat.zero_le _⟩, fun _ => none, true, true⟩
        ⟨false, fun s => if s = "target" then some "server" else none,
          fun s => if s = "upload" then some 100000 else none⟩ = .ok c ∧
      256 ≤ c.ioSize.toNat ∧ (c.timed = true ∨ 8 ≤ c.upload.toNat) ∧
      ∃ es s ops, SendRun c es s ops ∧ (∀ length, SendEvent.sendComplete length true ∉ es) ∧
        s.bytesOutstanding = 0 ∧ (c.timed = false → ∃ op ∈ ops, op.fin = true) ∧
        (c.timed = true → ops.length * c.ioSize.toNat < 2 ^ 64) ∧
        ({ s with sendEndTime := 1 } : PerfClientStream).sendSide = s.sendSide ∧
        ({ s with sendEndTime := 1 } : PerfClientStream).sendEndTime ≠ 0 ∧
        sendSuccess c { s with sendEndTime := 1 } = true := by
  obtain ⟨c, hc, hS, ht, hU, s0, ops0, h0, s1, ops1, h1, s2, ops2, h2, ho, hf⟩ :
      ∃ c, init ⟨4433, 65536, 2000000⟩
          ⟨1, .success, fun _ => ⟨[], Nat.zero_le _⟩, fun _ => none, true, true⟩
          ⟨false, fun s => if s = "target" then some "server" else none,
            fun s => if s = "upload" then some 100000 else none⟩ = .ok c ∧ 256 ≤ c.ioSize.toNat ∧
        c.timed = false ∧ 8 ≤ c.upload.toNat ∧
        ∃ s0 ops0, sendLoop c (fun _ => 0) 4 { new c 0 with signature := 0 } = some (s0, ops0) ∧
          ∃ s1 ops1, sendReact c (fun _ => 0) 4 0 s0 (.sendComplete 65536 false) = some (s1, ops1) ∧
            ∃ s2 ops2, sendReact c (fun _ => 0) 4 0 s1 (.sendComplete 34464 false) = some (s2, ops2) ∧
              s2.bytesOutstanding = 0 ∧ ∃ op ∈ ops0 ++ ops1 ++ ops2, op.fin = true :=
    ⟨_, rfl, by decide, rfl, by decide, _, _, rfl, _, _, rfl, _, _, rfl, rfl, by decide⟩
  have h := SendRun.react (fun _ => 0) 4 0 (.sendComplete 34464 false)
    (SendRun.react (fun _ => 0) 4 0 (.sendComplete 65536 false) (SendRun.start (fun _ => 0) 4 0 0 h0) h1) h2
  have hc' : ∀ length, SendEvent.sendComplete length true ∉
      ([] ++ [.sendComplete 65536 false] ++ [.sendComplete 34464 false] : List SendEvent) := by
    simp
  have hw : c.timed = true → (ops0 ++ ops1 ++ ops2).length * c.ioSize.toNat < 2 ^ 64 := by
    simp [ht]
  have he : (1 : UInt64) ≠ 0 := by decide
  exact ⟨c, hc, hS, .inr hU, _, _, _, h, hc', ho, fun _ => hf, hw, rfl, he,
    upload_send_success hS (.inr hU) h hc' ho (fun _ => hf) hw rfl he⟩

end SecNetPerf
