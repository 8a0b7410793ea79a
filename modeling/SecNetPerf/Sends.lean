import SecNetPerf.Slots

/-!
# SecNetPerf.Sends — what a QUIC stream has outstanding

`Send` adds each send's `DataLength` to `BytesOutstanding` and hands the buffer to `StreamSend`; the
send's `SEND_COMPLETE` subtracts a length that `StreamCallback` works out again: `LastBuffer.Length`
for the last buffer, `IoSize` for the shared request buffer.  `StreamSlot.Balanced` says that the
two agree: `BytesOutstanding` is the (64-bit) sum of the lengths of the sends still pending, each
pending send has the length its completion subtracts, and a pending last buffer means
`SendComplete` is set, so that no later send rewrites `LastBuffer.Length`.

One iteration of `Send` keeps it (`Balanced.sendStep`), hence the whole loop (`Balanced.sendLoop`);
the stream callbacks keep it one by one, and the frame of `SecNetPerf.Slots` does the rest, so it
holds on every slot of every world a QUIC run reaches (`quic_bytes_outstanding`).
-/

namespace SecNetPerf

/-- The lengths of some sends added up as `Send` adds them to `BytesOutstanding`. -/
def sendBytes (ops : List SendOp) : UInt64 := (ops.map fun op => op.length.toUInt64).sum

@[simp] theorem sendBytes_nil : sendBytes [] = 0 := rfl

@[simp] theorem sendBytes_cons (op : SendOp) (ops : List SendOp) :
    sendBytes (op :: ops) = op.length.toUInt64 + sendBytes ops := rfl

@[simp] theorem sendBytes_append (p q : List SendOp) :
    sendBytes (p ++ q) = sendBytes p + sendBytes q := by
  simp [sendBytes]

/-- Removing the `i`-th send takes its length off the sum. -/
theorem sendBytes_eraseIdx : ∀ {p : List SendOp} {i : Nat} {op : SendOp}, p[i]? = some op →
    sendBytes (p.eraseIdx i) + op.length.toUInt64 = sendBytes p
  | [], _, _, h => by cases h
  | a :: p, 0, op, h => by
    rw [List.getElem?_cons_zero, Option.some.injEq] at h
    subst h
    rw [List.eraseIdx_cons_zero, sendBytes_cons, add_comm]
  | a :: p, i + 1, op, h => by
    rw [List.getElem?_cons_succ] at h
    rw [List.eraseIdx_cons_succ, sendBytes_cons, sendBytes_cons, add_assoc, sendBytes_eraseIdx h]

namespace PerfClientStream

variable (c : PerfClient)

/-- `nextSend` picks the last buffer with `FIN`, or the request buffer with `IoSize` bytes. -/
theorem nextSend_cases (s : PerfClientStream) (now : UInt64) :
    ((nextSend c s now).1 = .last ∧ (nextSend c s now).2.2 = true) ∨
      ((nextSend c s now).1 = .request ∧ (nextSend c s now).2.1 = c.ioSize) := by
  unfold nextSend
  dsimp only
  split_ifs
  · exact .inl ⟨rfl, rfl⟩
  · exact .inr ⟨rfl, rfl⟩

/-- `OnSendComplete` takes the length off `BytesOutstanding` and leaves the rest of the send books. -/
theorem onSendComplete_sendBooks (s : PerfClientStream) (length : UInt32) (canceled : Bool) :
    (onSendComplete s length canceled).bytesOutstanding = s.bytesOutstanding - length.toUInt64 ∧
      (onSendComplete s length canceled).lastBufferLength = s.lastBufferLength ∧
      (onSendComplete s length canceled).sendComplete = s.sendComplete := by
  unfold onSendComplete
  dsimp only
  split <;> exact ⟨rfl, rfl, rfl⟩

/-- `OnReceive` leaves the send books alone. -/
theorem onReceive_sendBooks (s : PerfClientStream) (length : UInt64) (finished : Bool)
    (now : UInt64) :
    (onReceive c s length finished now).1.bytesOutstanding = s.bytesOutstanding ∧
      (onReceive c s length finished now).1.lastBufferLength = s.lastBufferLength ∧
      (onReceive c s length finished now).1.sendComplete = s.sendComplete := by
  unfold onReceive
  dsimp only
  split_ifs <;> exact ⟨rfl, rfl, rfl⟩

end PerfClientStream

/-- The send books of a stream slot agree with its pending sends. -/
structure StreamSlot.Balanced (c : PerfClient) (sl : StreamSlot) : Prop where
  /-- `BytesOutstanding` is the sum of the lengths of the pending sends. -/
  outstanding : sl.st.bytesOutstanding = sendBytes sl.pending
  /-- Each pending send has the length its `SEND_COMPLETE` subtracts. -/
  length : ∀ op ∈ sl.pending,
    op.length = if op.buffer = .last then sl.st.lastBufferLength else c.ioSize
  /-- A pending last buffer means the stream is done sending. -/
  sendComplete : ∀ op ∈ sl.pending, op.buffer = .last → sl.st.sendComplete = true

namespace StreamSlot.Balanced

variable {c : PerfClient} {sl : StreamSlot}

/-- New fields that keep `BytesOutstanding` and `LastBuffer.Length` and do not clear
`SendComplete`. -/
theorem withSt (h : sl.Balanced c) {st : PerfClientStream}
    (hb : st.bytesOutstanding = sl.st.bytesOutstanding)
    (hl : st.lastBufferLength = sl.st.lastBufferLength)
    (hc : sl.st.sendComplete = true → st.sendComplete = true) :
    ({ sl with st := st } : StreamSlot).Balanced c :=
  ⟨hb.trans h.outstanding, fun op hop => hl ▸ h.length op hop,
    fun op hop hl => hc (h.sendComplete op hop hl)⟩

/-- One iteration of `Send` on a stream that wants to send: the send joins the pending ones. -/
theorem sendStep (h : sl.Balanced c) (hw : sl.st.wantsToSend = true) (now : UInt64) :
    ({ sl with st := (sl.st.sendStep c now).1, pending := sl.pending ++ [(sl.st.sendStep c now).2] } :
      StreamSlot).Balanced c := by
  have hsc : sl.st.sendComplete = false := by
    simp only [PerfClientStream.wantsToSend, Bool.and_eq_true, Bool.not_eq_true'] at hw; exact hw.1
  have hreq : ∀ op ∈ sl.pending, op.buffer ≠ .last := fun op hop hl => by
    simpa [hsc] using h.sendComplete op hop hl
  have hn := PerfClientStream.nextSend_cases c sl.st now
  unfold PerfClientStream.sendStep
  generalize PerfClientStream.nextSend c sl.st now = r at hn
  obtain ⟨buf, len, fin⟩ := r
  refine ⟨by simp [h.outstanding], fun op hop => ?_, fun op hop hl => ?_⟩
  · rcases List.mem_append.1 hop with hop | hop
    · rw [if_neg (hreq op hop)]; simpa [hreq op hop] using h.length op hop
    · rw [List.mem_singleton.1 hop]
      rcases hn with ⟨rfl, -⟩ | ⟨rfl, rfl⟩ <;> simp
  · rcases List.mem_append.1 hop with hop | hop
    · exact absurd hl (hreq op hop)
    · rw [List.mem_singleton.1 hop] at hl
      rcases hn with ⟨-, rfl⟩ | ⟨rfl, -⟩
      · simp
      · cases hl

/-- `Send`: every send it issues joins the pending ones. -/
theorem sendLoop : ∀ (n : Nat) (clock : Nat → UInt64) {sl : StreamSlot}
    {r : PerfClientStream × List SendOp}, sl.Balanced c → sl.st.sendLoop c clock n = some r →
      (⟨sl.conn, r.1, sl.pending ++ r.2⟩ : StreamSlot).Balanced c :=
  fun n clock sl r => @PerfClientStream.sendLoop_induction c
    (fun s ops => (⟨sl.conn, s, ops⟩ : StreamSlot).Balanced c)
    (fun _ _ now h hw => h.sendStep hw now) n clock sl.st sl.pending r

/-- `SEND_COMPLETE` of the `i`-th pending send subtracts that send's length. -/
theorem onSendComplete (h : sl.Balanced c) {i : Nat} {op : SendOp} (hop : sl.pending[i]? = some op)
    (canceled : Bool) :
    ({ sl with
        st := sl.st.onSendComplete
          (if op.buffer = .last then sl.st.lastBufferLength else c.ioSize) canceled
        pending := sl.pending.eraseIdx i } : StreamSlot).Balanced c := by
  rw [← h.length op (List.getElem?_mem hop)]
  obtain ⟨hb, hl, hc⟩ := PerfClientStream.onSendComplete_sendBooks sl.st op.length canceled
  refine ⟨?_, fun op' hop' => ?_, fun op' hop' hlast => ?_⟩
  · rw [hb, h.outstanding, ← sendBytes_eraseIdx hop, add_sub_cancel_right]
  · rw [hl]; exact h.length op' (List.mem_of_mem_eraseIdx hop')
  · rw [hc]; exact h.sendComplete op' (List.mem_of_mem_eraseIdx hop') hlast

end StreamSlot.Balanced

/-! ## Every slot of a QUIC run -/

/-- Over QUIC, a fresh slot is balanced and `Send` keeps every slot balanced. -/
theorem SlotInvariant.balanced {c : PerfClient} (ht : c.useTCP = false) (inp : Inputs) :
    SlotInvariant (StreamSlot.Balanced c) c inp where
  new _ _ := ⟨rfl, fun _ hop => absurd hop (List.not_mem_nil _),
    fun _ hop => absurd hop (List.not_mem_nil _)⟩
  send {W W' w k} h hs := by
    unfold World.send at hs
    cases hl : ((W.workers w).stream k).st.sendLoop c (fun _ => inp.now) inp.fuel with
    | none => simp [hl] at hs
    | some r =>
      simp only [hl, ht, Bool.false_eq_true, ↓reduceIte, pure_eq_ok] at hs
      subst hs
      exact h.setStream (StreamSlot.Balanced.sendLoop _ _ (h w k) hl)

namespace World.AllSlots

variable {c : PerfClient} {inp : Inputs} {W W' : World} {w k : Nat}

/-- New fields for stream `k` that keep its send books. -/
theorem setSt_balanced (h : W.AllSlots (StreamSlot.Balanced c)) {st : PerfClientStream}
    (hb : st.bytesOutstanding = ((W.workers w).stream k).st.bytesOutstanding)
    (hl : st.lastBufferLength = ((W.workers w).stream k).st.lastBufferLength)
    (hc : ((W.workers w).stream k).st.sendComplete = true → st.sendComplete = true) :
    (W.setSt w k st).AllSlots (StreamSlot.Balanced c) :=
  h.setStream ((h w k).withSt hb hl hc)

/-- Over QUIC every stream event keeps every slot balanced. -/
theorem streamCallback_balanced (ht : c.useTCP = false) (h : W.AllSlots (StreamSlot.Balanced c))
    {e : StreamEvent} (hs : streamCallback c inp w k W e = .ok W') :
    W'.AllSlots (StreamSlot.Balanced c) := by
  have hP := SlotInvariant.balanced ht inp
  cases e with
  | receive length fin =>
    simp only [World.streamCallback, pure_eq_ok] at hs
    have hb := PerfClientStream.onReceive_sendBooks c ((W.workers w).stream k).st length fin inp.now
    generalize ((W.workers w).stream k).st.onReceive c length fin inp.now = r at hs hb
    obtain ⟨st, cut⟩ := r
    have h1 := h.setSt_balanced hb.1 hb.2.1 fun h' => hb.2.2.trans h'
    subst hs
    split <;> exact h1
  | sendComplete i canceled =>
    simp only [World.streamCallback] at hs
    split at hs
    · rename_i op hop
      split at hs
      · simp only [pure_eq_ok] at hs; subst hs
        exact h.setStream ((h w k).onSendComplete hop canceled)
      · refine hP.send ?_ hs
        exact h.setStream ((h w k).onSendComplete hop canceled)
    · exact absurd hs throw_ne_ok
  | peerSendAborted =>
    simp only [World.streamCallback, pure_eq_ok] at hs
    subst hs
    refine (h.setSt_balanced ?_ ?_ ?_).call <;> split <;> simp
  | peerReceiveAborted =>
    simp only [World.streamCallback, pure_eq_ok] at hs
    subst hs
    refine (h.setSt_balanced ?_ ?_ fun _ => rfl).call <;> split <;> rfl
  | sendShutdownComplete =>
    simp only [World.streamCallback, pure_eq_ok] at hs
    subst hs
    split <;> exact h.setSt_balanced rfl rfl id
  | shutdownComplete => exact h.onStreamShutdownComplete hP hs
  | idealSendBufferSize n =>
    simp only [World.streamCallback] at hs
    split at hs
    · refine hP.send ?_ hs
      exact h.setSt_balanced rfl rfl id
    · simp only [pure_eq_ok] at hs; exact hs ▸ h

end World.AllSlots

theorem Reachable.balanced {c : PerfClient} {W : World} (h : Reachable c W)
    (ht : c.useTCP = false) :
    W.AllSlots (StreamSlot.Balanced c) :=
  h.allSlots ht (fun _ _ => ⟨rfl, fun _ hop => absurd hop (List.not_mem_nil _),
      fun _ hop => absurd hop (List.not_mem_nil _)⟩)
    (SlotInvariant.balanced ht) fun _ _ _ _ _ _ h hs => h.streamCallback_balanced ht hs

/-- **Outstanding bytes** (QUIC): in every world a run reaches, every stream's `BytesOutstanding` is
the 64-bit sum of the lengths of its sends not yet completed, each of those sends has the length its
`SEND_COMPLETE` subtracts, and a stream with no send pending has no byte outstanding. -/
theorem quic_bytes_outstanding {c : PerfClient} {W : World} (ht : c.useTCP = false)
    (h : Reachable c W) (w k : Nat) :
    ((W.workers w).stream k).st.bytesOutstanding = sendBytes ((W.workers w).stream k).pending ∧
      (∀ op ∈ ((W.workers w).stream k).pending, op.length =
        if op.buffer = .last then ((W.workers w).stream k).st.lastBufferLength else c.ioSize) ∧
      (((W.workers w).stream k).pending = [] →
        ((W.workers w).stream k).st.bytesOutstanding = 0) :=
  have hb := h.balanced ht w k
  ⟨hb.outstanding, hb.length, fun hp => by rw [hb.outstanding, hp, sendBytes_nil]⟩

/-- The law on a run whose one stream has issued its one 8-byte send, not yet completed. -/
theorem quic_bytes_outstanding_one_send :
    let c := { PerfClient.defaults ⟨4433, 65536, 2000000⟩ with workerCount := 1, streamCount := 1 }
    let es : List (Inputs × World.Event) :=
      [.queue, .startNewConnection 0 ⟨true, true, true, true, true, true, none, true⟩,
        .connected 0 0].map (Prod.mk ⟨1, 10, fun _ => true⟩)
    ∃ W, World.run c (World.init c) es = .ok W ∧
      ((W.workers 0).stream 0).st.bytesOutstanding = 8 ∧
      (((W.workers 0).stream 0).st.bytesOutstanding = sendBytes ((W.workers 0).stream 0).pending ∧
        (∀ op ∈ ((W.workers 0).stream 0).pending, op.length =
          if op.buffer = .last then ((W.workers 0).stream 0).st.lastBufferLength else c.ioSize) ∧
        (((W.workers 0).stream 0).pending = [] →
          ((W.workers 0).stream 0).st.bytesOutstanding = 0)) := by
  intro c es
  have hW : World.run c (World.init c) es = .ok _ := rfl
  exact ⟨_, hW, rfl, quic_bytes_outstanding rfl (Reachable.init.run hW) 0 0⟩

end SecNetPerf
