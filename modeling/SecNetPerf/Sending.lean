import SecNetPerf.Sends
import SecNetPerf.Finalize

/-!
# SecNetPerf.Sending — the sends of one stream

`PerfClientStream::Send` runs once `StartNewStream` has allocated the stream, and again from
`StreamCallback` after every `SEND_COMPLETE` that was not canceled and after every
`IDEAL_SEND_BUFFER_SIZE` that changes the send buffer of an upload without send buffering;
`PEER_RECEIVE_ABORTED` sets `SendComplete`.  `SendRun` is the send side of one stream under any
sequence of these events, with every send issued so far.  None of them reads the receive side or
`SendEndTime`, so streams with the same `sendSide` react alike (`sendReact_of_sendSide_eq`).
`World.startNewStream_sendLoop` and `World.streamCallback_sendReact` tie the first `Send` and the
send events to the QUIC handlers; `SecNetPerf.StreamSends` lifts the runs to the worlds.

Over every run (`SendInv`) no send but the last carries `FIN`, a `FIN` send sets `SendComplete`,
after which no event issues a send, and every send without `FIN` has `IoSize` bytes.  In a non-timed
run the sends follow `uploadSends`, the spec's `⌈U/S⌉ − 1` full sends and a `FIN` send of the rest
(`UntimedSends`): they are a prefix of it, all of it once the stream is done without an abort, and
only the first has `Open` set in its TCP descriptor.  In a timed run every send has `IoSize` bytes
and `Open` is `BytesSent == DataLength` over the 64-bit sum (`TimedSends`): only the first send has it
until the sum wraps, and with `IoSize = 65536` send number `2^48` has it again.  Without a canceled
completion, what was sent is what was acknowledged plus what is outstanding
(`SendRun.bytesAcked_add_bytesOutstanding`).

`Send` itself returns from any state, whatever the transport signals as `IdealSendBuffer`: each
iteration but the last adds `IoSize` below `IdealSendBuffer`, so `BytesOutstanding` ends at most
`IoSize - 1` above it, or where it stood when the signal shrank the buffer (`send_pacing`).
-/

namespace SecNetPerf

namespace PerfClientStream

variable (c : PerfClient)

/-! ## The send side of a stream -/

/-- What reaches the send side of a stream: `QUIC_STREAM_EVENT_IDEAL_SEND_BUFFER_SIZE`, a completed
send with the length `OnSendComplete` takes off and whether it was canceled, and
`QUIC_STREAM_EVENT_PEER_RECEIVE_ABORTED`. -/
inductive SendEvent
  | idealSendBufferSize (byteCount : UInt64)
  | sendComplete (length : UInt32) (canceled : Bool)
  | peerReceiveAborted
  deriving DecidableEq, Repr

/-- The send side of `StreamCallback`: the stream after the event and the sends its `Send` issues
(`none` when `Send` runs past `fuel`). -/
def sendReact (clock : Nat → UInt64) (fuel : Nat) (now : UInt64) (s : PerfClientStream) :
    SendEvent → Option (PerfClientStream × List SendOp)
  | .idealSendBufferSize n =>
    if c.upload ≠ 0 ∧ !c.useSendBuffering ∧ s.idealSendBuffer ≠ n then
      sendLoop c clock fuel { s with idealSendBuffer := n }
    else some (s, [])
  | .sendComplete length canceled =>
    if canceled then some (s.onSendComplete length canceled, [])
    else sendLoop c clock fuel (s.onSendComplete length canceled)
  | .peerReceiveAborted =>
    let s := if s.sendEndTime = 0 then { s with sendEndTime := now } else s
    some ({ s with sendComplete := true }, [])

/-- The send side of one stream: `Send` on the stream `StartNewStream` allocates (with any
`Entry.Signature`), then one event after another, with every send issued so far. -/
inductive SendRun : List SendEvent → PerfClientStream → List SendOp → Prop
  | start (clock : Nat → UInt64) (fuel : Nat) (now : UInt64) (sig : UInt32)
      {s : PerfClientStream} {ops : List SendOp} :
      sendLoop c clock fuel { new c now with signature := sig } = some (s, ops) → SendRun [] s ops
  | react {es : List SendEvent} {s : PerfClientStream} {ops : List SendOp}
      (clock : Nat → UInt64) (fuel : Nat) (now : UInt64) (e : SendEvent)
      {s' : PerfClientStream} {ops' : List SendOp} :
      SendRun es s ops → sendReact c clock fuel now s e = some (s', ops') →
      SendRun (es ++ [e]) s' (ops ++ ops')

/-- A send as the spec lists it: its length and whether it carries `FIN`. -/
def sendShape (op : SendOp) : Nat × Bool := (op.length.toNat, op.fin)

@[simp] theorem onSendComplete_bytesSent (s : PerfClientStream) (length : UInt32) (canceled : Bool) :
    (s.onSendComplete length canceled).bytesSent = s.bytesSent := by
  cases canceled <;> rfl

/-! ## The send side of a stream's fields -/

/-- A stream's fields with the receive side and `SendEndTime` cleared: what `Send` and the send
events read and write. -/
def sendSide (s : PerfClientStream) : PerfClientStream :=
  { s with sendEndTime := 0, recvStartTime := 0, recvEndTime := 0, bytesReceived := 0 }

@[simp] theorem sendSide_sendSide (s : PerfClientStream) : s.sendSide.sendSide = s.sendSide := rfl
@[simp] theorem idealSendBuffer_sendSide (s : PerfClientStream) :
    s.sendSide.idealSendBuffer = s.idealSendBuffer := rfl
@[simp] theorem sendEndTime_sendSide (s : PerfClientStream) : s.sendSide.sendEndTime = 0 := rfl

theorem wantsToSend_sendSide (s : PerfClientStream) : s.sendSide.wantsToSend = s.wantsToSend := rfl

theorem sendStep_sendSide (s : PerfClientStream) (now : UInt64) :
    sendStep c s.sendSide now = ((sendStep c s now).1.sendSide, (sendStep c s now).2) := rfl

theorem sendLoop_sendSide (clock : Nat → UInt64) (n : Nat) (s : PerfClientStream) :
    sendLoop c clock n s.sendSide = (sendLoop c clock n s).map fun r => (r.1.sendSide, r.2) := by
  induction n generalizing clock s with
  | zero => simp only [sendLoop, wantsToSend_sendSide]; split <;> rfl
  | succ n ih =>
    simp only [sendLoop, wantsToSend_sendSide, sendStep_sendSide, ih, Option.map_map]
    split
    · simp only [Option.map_map]; rfl
    · rfl

theorem onSendComplete_sendSide (s : PerfClientStream) (length : UInt32) (canceled : Bool) :
    s.sendSide.onSendComplete length canceled = (s.onSendComplete length canceled).sendSide := by
  cases canceled <;> rfl

theorem sendReact_sendSide (clock : Nat → UInt64) (fuel : Nat) (now : UInt64) (s : PerfClientStream)
    (e : SendEvent) :
    (sendReact c clock fuel now s.sendSide e).map (fun r => (r.1.sendSide, r.2)) =
      (sendReact c clock fuel now s e).map fun r => (r.1.sendSide, r.2) := by
  cases e with
  | idealSendBufferSize n =>
    simp only [sendReact, idealSendBuffer_sendSide]
    split
    · change Option.map _ (sendLoop c clock fuel { s with idealSendBuffer := n }.sendSide) = _
      rw [sendLoop_sendSide, Option.map_map]
      rfl
    · rfl
  | sendComplete length canceled =>
    simp only [sendReact, onSendComplete_sendSide]
    split
    · rfl
    · rw [sendLoop_sendSide, Option.map_map]; rfl
  | peerReceiveAborted =>
    simp only [sendReact, sendEndTime_sendSide, if_true]
    split <;> rfl

/-- Streams with the same send side react alike to every send event. -/
theorem sendReact_of_sendSide_eq {s t : PerfClientStream} (h : s.sendSide = t.sendSide)
    {clock : Nat → UInt64} {fuel : Nat} {now : UInt64} {e : SendEvent} {t' : PerfClientStream}
    {ops : List SendOp} (ht : sendReact c clock fuel now t e = some (t', ops)) :
    ∃ s', sendReact c clock fuel now s e = some (s', ops) ∧ s'.sendSide = t'.sendSide := by
  have hm : (sendReact c clock fuel now s e).map (fun r => (r.1.sendSide, r.2)) =
      some (t'.sendSide, ops) := by
    rw [← sendReact_sendSide, h, sendReact_sendSide, ht]
    rfl
  obtain ⟨⟨s', ops'⟩, hs, he⟩ := Option.map_eq_some'.1 hm
  simp only [Prod.mk.injEq] at he
  exact ⟨s', he.2 ▸ hs, he.1⟩

/-- `Send` issues nothing once `SendComplete` is set. -/
theorem sendLoop_of_sendComplete {s : PerfClientStream} (hs : s.sendComplete = true)
    (clock : Nat → UInt64) (n : Nat) : sendLoop c clock n s = some (s, []) := by
  cases n <;> simp [sendLoop, wantsToSend, hs]

/-- No event issues a send once `SendComplete` is set, and `SendComplete` stays set. -/
theorem sendReact_of_sendComplete {s : PerfClientStream} (hs : s.sendComplete = true)
    (clock : Nat → UInt64) (fuel : Nat) (now : UInt64) (e : SendEvent) :
    ∃ s', sendReact c clock fuel now s e = some (s', []) ∧ s'.sendComplete = true := by
  cases e with
  | idealSendBufferSize n =>
    simp only [sendReact]
    split
    · exact ⟨_, sendLoop_of_sendComplete c (s := { s with idealSendBuffer := n }) hs clock fuel, hs⟩
    · exact ⟨s, rfl, hs⟩
  | sendComplete length canceled =>
    have hc := (onSendComplete_sendBooks s length canceled).2.2.trans hs
    simp only [sendReact]
    split
    · exact ⟨_, rfl, hc⟩
    · exact ⟨_, sendLoop_of_sendComplete c hc clock fuel, hc⟩
  | peerReceiveAborted => exact ⟨_, rfl, rfl⟩

/-! ## Every run -/

/-- What the sends of every stream keep: no send but the last carries `FIN`, a `FIN` send sets
`SendComplete`, which otherwise only an abort sets, and every send without `FIN` has `IoSize`
bytes. -/
structure SendInv (es : List SendEvent) (s : PerfClientStream) (ops : List SendOp) : Prop where
  finLast : ∀ op ∈ ops.dropLast, op.fin = false
  finComplete : ∀ op ∈ ops, op.fin = true → s.sendComplete = true
  completeFin : s.sendComplete = true → SendEvent.peerReceiveAborted ∉ es → ∃ op ∈ ops, op.fin = true
  length : ∀ op ∈ ops, op.fin = false → op.length = c.ioSize

namespace SendInv

variable {c} {es : List SendEvent} {s : PerfClientStream} {ops : List SendOp}

theorem init (now : UInt64) (sig : UInt32) : SendInv c [] { new c now with signature := sig } [] :=
  ⟨by simp, by simp, fun h => by simp [new] at h, by simp⟩

theorem withSt (h : SendInv c es s ops) {s' : PerfClientStream}
    (hc : s'.sendComplete = s.sendComplete) : SendInv c es s' ops :=
  ⟨h.finLast, fun op hop hf => hc.trans (h.finComplete op hop hf),
    fun h' => h.completeFin (hc.symm.trans h'), h.length⟩

theorem append_event (h : SendInv c es s ops) (e : SendEvent) : SendInv c (es ++ [e]) s ops :=
  ⟨h.finLast, h.finComplete, fun h' hn => h.completeFin h' fun hm => hn (List.mem_append_left _ hm),
    h.length⟩

/-- One iteration of `Send`, on a stream that wants to send. -/
theorem sendStep (h : SendInv c es s ops) (hw : s.wantsToSend = true) (now : UInt64) :
    SendInv c es (s.sendStep c now).1 (ops ++ [(s.sendStep c now).2]) := by
  have hsc : s.sendComplete = false := by
    simp only [wantsToSend, Bool.and_eq_true, Bool.not_eq_true'] at hw; exact hw.1
  have hnf : ∀ op ∈ ops, op.fin = false := fun op hop =>
    Bool.eq_false_iff.2 fun hf => by simpa [hsc] using h.finComplete op hop hf
  have hn := nextSend_cases c s now
  unfold PerfClientStream.sendStep
  generalize nextSend c s now = r at hn
  obtain ⟨buf, len, fin⟩ := r
  refine ⟨by simpa using hnf, fun op hop hf => ?_, fun h' _ => ?_, fun op hop hf => ?_⟩
  · rcases List.mem_append.1 hop with hop | hop
    · simp [hnf op hop] at hf
    · simp_all
  · simp only [hsc, Bool.false_or] at h'
    exact ⟨_, List.mem_append_right _ (List.mem_singleton_self _), h'⟩
  · rcases List.mem_append.1 hop with hop | hop
    · exact h.length op hop hf
    · rw [List.mem_singleton.1 hop] at hf ⊢
      rcases hn with ⟨-, rfl⟩ | ⟨-, rfl⟩
      · cases hf
      · rfl

theorem sendLoop (h : SendInv c es s ops) {clock : Nat → UInt64} {n : Nat}
    {r : PerfClientStream × List SendOp} (hs : PerfClientStream.sendLoop c clock n s = some r) :
    SendInv c es r.1 (ops ++ r.2) :=
  sendLoop_induction c (SendInv c es) (fun _ _ now h hw => h.sendStep hw now) n clock h hs

/-- One event. -/
theorem react (h : SendInv c es s ops) {clock : Nat → UInt64} {fuel : Nat} {now : UInt64}
    {e : SendEvent} {s' : PerfClientStream} {ops' : List SendOp}
    (hs : sendReact c clock fuel now s e = some (s', ops')) : SendInv c (es ++ [e]) s' (ops ++ ops') := by
  cases e with
  | idealSendBufferSize n =>
    simp only [sendReact] at hs
    split at hs
    · refine (sendLoop ?_ hs).append_event _
      exact h.withSt rfl
    · cases hs; rw [List.append_nil]; exact h.append_event _
  | sendComplete length canceled =>
    have h1 := h.withSt (onSendComplete_sendBooks s length canceled).2.2
    simp only [sendReact] at hs
    split at hs
    · cases hs; rw [List.append_nil]; exact h1.append_event _
    · exact (h1.sendLoop hs).append_event _
  | peerReceiveAborted =>
    simp only [sendReact, Option.some.injEq, Prod.mk.injEq] at hs
    obtain ⟨rfl, rfl⟩ := hs
    rw [List.append_nil]
    exact ⟨h.finLast, fun _ _ _ => rfl,
      fun _ hn => absurd (List.mem_append_right _ (List.mem_singleton_self _)) hn, h.length⟩

end SendInv

theorem SendRun.sendInv {es : List SendEvent} {s : PerfClientStream} {ops : List SendOp}
    (h : SendRun c es s ops) : SendInv c es s ops := by
  induction h with
  | start clock fuel now sig hs => simpa using (SendInv.init now sig).sendLoop hs
  | react clock fuel now e _ hs ih => exact ih.react hs

/-! ## Non-timed runs -/

/-- Modelled from the spec: the bytes a non-timed stream sends, `Upload`, or the 8 bytes
`BytesLeftToSend` gives a stream without upload. -/
def uploadTotal (U : Nat) : Nat := if U = 0 then 8 else U

/-- Modelled from the spec: the sends of a non-timed stream as (length, `FIN`) pairs.  With
`Upload = U > 0` and `IoSize = S`, `⌈U/S⌉ − 1` sends of `S` bytes and then one `FIN` send of
`U − S·(⌈U/S⌉ − 1)` bytes; without upload, one 8-byte `FIN` send. -/
def uploadSends (U S : Nat) : List (Nat × Bool) :=
  if U = 0 then [(8, true)]
  else List.replicate ((U + S - 1) / S - 1) (S, false) ++ [(U - S * ((U + S - 1) / S - 1), true)]

/-- Below 8 bytes there is no room for a full send. -/
theorem eq_zero_of_mul_lt_eight {m S : Nat} (hS : 8 ≤ S) (h : m * S < 8) : m = 0 := by
  rcases m with _ | m
  · rfl
  · rw [Nat.succ_mul] at h; omega

/-- `m` full sends below the total and a rest of at most `S` bytes: the spec's sequence is those
`m` sends and the rest. -/
theorem uploadSends_eq {U S m : Nat} (hS : 8 ≤ S) (h1 : m * S < uploadTotal U)
    (h2 : uploadTotal U ≤ m * S + S) :
    uploadSends U S = List.replicate m (S, false) ++ [(uploadTotal U - m * S, true)] := by
  unfold uploadTotal at h1 h2 ⊢
  unfold uploadSends
  split_ifs at h1 h2 ⊢ with hU
  · obtain rfl := eq_zero_of_mul_lt_eight hS h1
    simp
  · have hq : (U + S - 1) / S = m + 1 :=
      Nat.div_eq_of_lt_le (by rw [Nat.succ_mul]; omega) (by rw [Nat.succ_mul, Nat.succ_mul]; omega)
    rw [hq, Nat.add_sub_cancel, Nat.mul_comm S m]

example : uploadSends 100000 65536 = [(65536, false), (34464, true)] := by decide

/-- `m` full sends below the total start the spec's sequence. -/
theorem replicate_prefix_uploadSends {U S m : Nat} (hS : 8 ≤ S) (h : m * S < uploadTotal U) :
    List.replicate m (S, false) <+: uploadSends U S := by
  unfold uploadTotal at h
  unfold uploadSends
  split_ifs at h ⊢ with hU
  · obtain rfl := eq_zero_of_mul_lt_eight hS h
    exact List.nil_prefix
  · have hm : m + 1 ≤ (U + S - 1) / S :=
      (Nat.le_div_iff_mul_le (by omega)).2 (by rw [Nat.succ_mul]; omega)
    obtain ⟨d, hd⟩ := Nat.exists_eq_add_of_le (show m ≤ (U + S - 1) / S - 1 by omega)
    rw [hd, List.replicate_add, List.append_assoc]
    exact List.prefix_append _ _

theorem uploadTotal_pos (U : UInt64) : 0 < uploadTotal U.toNat := by
  unfold uploadTotal; split_ifs <;> omega

theorem uploadTotal_lt (U : UInt64) : uploadTotal U.toNat < 2 ^ 64 := by
  unfold uploadTotal; split_ifs
  · omega
  · exact U.toNat_lt_size

/-- The sends of a non-timed stream so far: `m` sends of `IoSize` bytes, together below the bytes to
send, then, once `done`, the `FIN` send of the rest; `BytesSent` adds them up, the `FIN` send has
set `SendComplete`, and only the first send has `first` set. -/
structure UntimedSends (s : PerfClientStream) (ops : List SendOp) (m : Nat) (done : Bool) : Prop where
  below : m * c.ioSize.toNat < uploadTotal c.upload.toNat
  shape : ops.map sendShape = List.replicate m (c.ioSize.toNat, false) ++
    if done then [(uploadTotal c.upload.toNat - m * c.ioSize.toNat, true)] else []
  sent : s.bytesSent.toNat = if done then uploadTotal c.upload.toNat else m * c.ioSize.toNat
  last : done = true → uploadTotal c.upload.toNat ≤ m * c.ioSize.toNat + c.ioSize.toNat
  complete : done = true → s.sendComplete = true
  first : ∀ i op, ops[i]? = some op → (op.first = true ↔ i = 0)

variable {c}

/-- `BytesLeftToSend` of a non-timed stream `m` full sends in. -/
theorem bytesLeftToSend_untimed (ht : c.timed = false) (hS : 8 ≤ c.ioSize.toNat)
    {s : PerfClientStream} {m : Nat} (hsent : s.bytesSent.toNat = m * c.ioSize.toNat)
    (hb : m * c.ioSize.toNat < uploadTotal c.upload.toNat) :
    (bytesLeftToSend c s).toNat = uploadTotal c.upload.toNat - m * c.ioSize.toNat := by
  unfold bytesLeftToSend uploadTotal at *
  by_cases hu : c.upload = 0
  · have hu' : c.upload.toNat = 0 := by rw [hu]; rfl
    rw [if_pos hu'] at hb ⊢
    rw [eq_zero_of_mul_lt_eight hS hb]
    simp [ht, hu]
  · have hu' : c.upload.toNat ≠ 0 := fun h0 => hu (UInt64.toNat.inj h0)
    rw [if_neg hu'] at hb ⊢
    have hle : s.bytesSent ≤ c.upload := show s.bytesSent.toNat ≤ c.upload.toNat by omega
    simp only [ht, hu, Bool.false_eq_true, if_false, ne_eq, not_false_eq_true, if_true]
    rw [UInt64.toNat_sub_of_le _ _ hle, hsent]

/-- `Open` of a send, `BytesSent == DataLength` after it: nothing was sent before, as long as
`BytesSent` does not wrap. -/
theorem sent_eq_length_iff (b : UInt64) (len : UInt32) (hb : b.toNat + len.toNat < 2 ^ 64) :
    b + len.toUInt64 = len.toUInt64 ↔ b.toNat = 0 := by
  have hadd : (b + len.toUInt64).toNat = b.toNat + len.toNat := Nat.mod_eq_of_lt hb
  constructor
  · intro h
    have := congrArg UInt64.toNat h
    rw [hadd] at this
    exact Nat.add_right_cancel (this.trans (Nat.zero_add _).symm)
  · intro h
    exact UInt64.toNat.inj (by rw [hadd, h, Nat.zero_add]; rfl)

/-- A send appended as number `ops.length` has `first` set exactly when `P` holds of its number. -/
theorem first_append {P : Nat → Prop} {ops : List SendOp} {op' : SendOp}
    (h : ∀ i op, ops[i]? = some op → (op.first = true ↔ P i))
    (h' : op'.first = true ↔ P ops.length) :
    ∀ i op, (ops ++ [op'])[i]? = some op → (op.first = true ↔ P i) := by
  intro i op hi
  rcases Nat.lt_or_ge i ops.length with hlt | hge
  · rw [List.getElem?_append_left hlt] at hi
    exact h i op hi
  · rw [List.getElem?_append_right hge] at hi
    rcases hk : i - ops.length with _ | k <;> rw [hk] at hi
    · cases hi
      rw [show i = ops.length by omega]
      exact h'
    · cases hi

namespace UntimedSends

variable {s : PerfClientStream} {ops : List SendOp} {m : Nat} {done : Bool}

/-- One iteration of `Send` in a non-timed run: a full send while more than `IoSize` bytes are left,
else the `FIN` send of the rest. -/
theorem sendStep (ht : c.timed = false) (hS : 8 ≤ c.ioSize.toNat)
    (h : UntimedSends c s ops m done) (hw : s.wantsToSend = true) (now : UInt64) :
    ∃ m' done', UntimedSends c (s.sendStep c now).1 (ops ++ [(s.sendStep c now).2]) m' done' := by
  have hsc : s.sendComplete = false := by
    simp only [wantsToSend, Bool.and_eq_true, Bool.not_eq_true'] at hw; exact hw.1
  obtain rfl : done = false := by
    cases done
    · rfl
    · simp [h.complete rfl] at hsc
  obtain ⟨hb, hshape, hsent, -, -, hfirst⟩ := h
  simp only [Bool.false_eq_true, if_false, List.append_nil] at hshape hsent
  have hlen : ops.length = m := by simpa using congrArg List.length hshape
  have hleft := bytesLeftToSend_untimed ht hS hsent hb
  have hS32 : c.ioSize.toNat < 2 ^ 32 := c.ioSize.toNat_lt_size
  have hT := uploadTotal_lt c.upload
  unfold PerfClientStream.sendStep nextSend
  by_cases hle : uploadTotal c.upload.toNat - m * c.ioSize.toNat ≤ c.ioSize.toNat
  · have hc : bytesLeftToSend c s ≤ c.ioSize.toUInt64 :=
      show (bytesLeftToSend c s).toNat ≤ c.ioSize.toNat by omega
    have hl : (bytesLeftToSend c s).toUInt32.toNat =
        uploadTotal c.upload.toNat - m * c.ioSize.toNat := by
      show (bytesLeftToSend c s).toNat % 2 ^ 32 = _
      rw [hleft]; exact Nat.mod_eq_of_lt (by omega)
    simp only [hc, if_true]
    refine ⟨m, true, hb, ?_, ?_, fun _ => by omega, fun _ => by simp, first_append hfirst ?_⟩
    · simp [hshape, sendShape, hl]
    · show (s.bytesSent.toNat + (bytesLeftToSend c s).toUInt32.toNat) % 2 ^ 64 = _
      rw [hsent, hl, if_pos rfl, Nat.add_sub_cancel' hb.le]; exact Nat.mod_eq_of_lt hT
    · rw [decide_eq_true_iff,
        sent_eq_length_iff s.bytesSent (bytesLeftToSend c s).toUInt32 (by rw [hsent, hl]; omega), hsent, hlen,
        Nat.mul_eq_zero]
      omega
  · have hc : ¬ bytesLeftToSend c s ≤ c.ioSize.toUInt64 :=
      show ¬ (bytesLeftToSend c s).toNat ≤ c.ioSize.toNat by omega
    simp only [hc, if_false, ht, Bool.false_and]
    refine ⟨m + 1, false, by rw [Nat.succ_mul]; omega, ?_, ?_, by simp, by simp,
      first_append hfirst ?_⟩
    · simp [hshape, sendShape, List.replicate_succ']
    · show (s.bytesSent.toNat + c.ioSize.toNat) % 2 ^ 64 = _
      rw [hsent, if_neg (by simp), Nat.succ_mul]; exact Nat.mod_eq_of_lt (by omega)
    · rw [decide_eq_true_iff, sent_eq_length_iff s.bytesSent c.ioSize (by rw [hsent]; omega), hsent, hlen,
        Nat.mul_eq_zero]
      omega

theorem init (now : UInt64) (sig : UInt32) :
    UntimedSends c { new c now with signature := sig } [] 0 false :=
  ⟨by simpa using uploadTotal_pos c.upload, by simp, by simp [new], nofun, nofun, by simp⟩

theorem withSt (h : UntimedSends c s ops m done) {s' : PerfClientStream}
    (hb : s'.bytesSent = s.bytesSent) (hc : s.sendComplete = true → s'.sendComplete = true) :
    UntimedSends c s' ops m done :=
  ⟨h.below, h.shape, hb ▸ h.sent, h.last, fun hd => hc (h.complete hd), h.first⟩

theorem sendLoop (ht : c.timed = false) (hS : 8 ≤ c.ioSize.toNat) (h : UntimedSends c s ops m done)
    {clock : Nat → UInt64} {n : Nat} {r : PerfClientStream × List SendOp}
    (hs : PerfClientStream.sendLoop c clock n s = some r) :
    ∃ m' done', UntimedSends c r.1 (ops ++ r.2) m' done' :=
  sendLoop_induction c (fun s ops => ∃ m done, UntimedSends c s ops m done)
    (fun _ _ now ⟨_, _, h⟩ hw => h.sendStep ht hS hw now) n clock ⟨m, done, h⟩ hs

/-- One event. -/
theorem react (ht : c.timed = false) (hS : 8 ≤ c.ioSize.toNat) (h : UntimedSends c s ops m done)
    {clock : Nat → UInt64} {fuel : Nat} {now : UInt64} {e : SendEvent} {s' : PerfClientStream}
    {ops' : List SendOp} (hs : sendReact c clock fuel now s e = some (s', ops')) :
    ∃ m' done', UntimedSends c s' (ops ++ ops') m' done' := by
  cases e with
  | idealSendBufferSize n =>
    simp only [sendReact] at hs
    split at hs
    · have h1 : UntimedSends c { s with idealSendBuffer := n } ops m done := h.withSt rfl id
      exact h1.sendLoop ht hS hs
    · cases hs; exact ⟨m, done, by rwa [List.append_nil]⟩
  | sendComplete length canceled =>
    have h1 := h.withSt (onSendComplete_bytesSent s length canceled)
      fun hc => (onSendComplete_sendBooks s length canceled).2.2.trans hc
    simp only [sendReact] at hs
    split at hs
    · cases hs; exact ⟨m, done, by rwa [List.append_nil]⟩
    · exact h1.sendLoop ht hS hs
  | peerReceiveAborted =>
    simp only [sendReact, Option.some.injEq, Prod.mk.injEq] at hs
    obtain ⟨rfl, rfl⟩ := hs
    refine ⟨m, done, ?_⟩
    rw [List.append_nil]
    exact h.withSt (by split <;> rfl) fun _ => rfl

/-- A `FIN` send among them means the `FIN` send of the rest was issued. -/
theorem done_of_fin (h : UntimedSends c s ops m done) (hf : ∃ op ∈ ops, op.fin = true) :
    done = true := by
  obtain ⟨op, hop, hfin⟩ := hf
  cases done
  · have hmem := List.mem_map_of_mem sendShape hop
    rw [h.shape] at hmem
    simp [sendShape, hfin] at hmem
  · rfl

/-- The sends issued so far start the spec's sequence. -/
theorem isPrefix_uploadSends (hS : 8 ≤ c.ioSize.toNat) (h : UntimedSends c s ops m done) :
    ops.map sendShape <+: uploadSends c.upload.toNat c.ioSize.toNat := by
  rw [h.shape]
  cases done
  · rw [if_neg Bool.false_ne_true, List.append_nil]
    exact replicate_prefix_uploadSends hS h.below
  · rw [if_pos rfl, ← uploadSends_eq hS h.below (h.last rfl)]

/-- Once the `FIN` send is out, the sends are the spec's sequence. -/
theorem eq_uploadSends (hS : 8 ≤ c.ioSize.toNat) (h : UntimedSends c s ops m done)
    (hd : done = true) : ops.map sendShape = uploadSends c.upload.toNat c.ioSize.toNat := by
  rw [h.shape, if_pos hd, uploadSends_eq hS h.below (h.last hd)]

end UntimedSends

theorem SendRun.untimedSends (ht : c.timed = false) (hS : 8 ≤ c.ioSize.toNat)
    {es : List SendEvent} {s : PerfClientStream} {ops : List SendOp} (h : SendRun c es s ops) :
    ∃ m done, UntimedSends c s ops m done := by
  induction h with
  | start clock fuel now sig hs => simpa using (UntimedSends.init now sig).sendLoop ht hS hs
  | react clock fuel now e _ hs ih =>
    obtain ⟨m, done, ih⟩ := ih
    exact ih.react ht hS hs

theorem uploadTotal_toNat (U : UInt64) : uploadTotal U.toNat = if U = 0 then 8 else U.toNat := by
  by_cases hU : U = 0
  · subst hU; rfl
  · rw [uploadTotal, if_neg hU, if_neg (show U.toNat ≠ 0 from fun h0 => hU (UInt64.toNat.inj h0))]

/-! ## Timed runs -/

section TimedRuns

variable (c)

/-- The sends of a timed stream so far: each has `IoSize` bytes, `BytesSent` is their 64-bit sum,
and send `i` has `Open` set exactly when that sum after it is back at `IoSize`. -/
structure TimedSends (s : PerfClientStream) (ops : List SendOp) : Prop where
  length : ∀ op ∈ ops, op.length = c.ioSize
  sent : s.bytesSent.toNat = ops.length * c.ioSize.toNat % 2 ^ 64
  first : ∀ i op, ops[i]? = some op →
    (op.first = true ↔ (i + 1) * c.ioSize.toNat % 2 ^ 64 = c.ioSize.toNat)

variable {c}

/-- A timed stream never runs short of bytes to send: every iteration sends `IoSize` bytes from the
request buffer. -/
theorem nextSend_timed (ht : c.timed = true) (s : PerfClientStream) (now : UInt64) :
    (nextSend c s now).1 = .request ∧ (nextSend c s now).2.1 = c.ioSize := by
  have h : ¬bytesLeftToSend c s ≤ c.ioSize.toUInt64 := fun hle => by
    have h1 : c.ioSize.toNat < 2 ^ 32 := c.ioSize.toNat_lt_size
    have h2 : (bytesLeftToSend c s).toNat ≤ c.ioSize.toNat := hle
    rw [bytesLeftToSend, if_pos ht] at h2
    exact absurd h2 (by rw [show uint64Max.toNat = 2 ^ 64 - 1 from rfl]; omega)
  simp [nextSend, h]

namespace TimedSends

variable {s : PerfClientStream} {ops : List SendOp}

theorem sendStep (ht : c.timed = true) (h : TimedSends c s ops) (now : UInt64) :
    TimedSends c (s.sendStep c now).1 (ops ++ [(s.sendStep c now).2]) := by
  obtain ⟨hb, hl⟩ := nextSend_timed ht s now
  have hS : c.ioSize.toNat < 2 ^ 32 := c.ioSize.toNat_lt_size
  unfold PerfClientStream.sendStep
  generalize nextSend c s now = r at hb hl
  obtain ⟨buf, len, fin⟩ := r
  dsimp only at hb hl ⊢
  subst hb hl
  have hsent : (s.bytesSent + c.ioSize.toUInt64).toNat = (ops.length + 1) * c.ioSize.toNat % 2 ^ 64 := by
    show (s.bytesSent.toNat + c.ioSize.toNat) % 2 ^ 64 = _
    rw [h.sent, Nat.mod_add_mod, Nat.succ_mul]
  refine ⟨fun op hop => ?_, by simpa using hsent, first_append h.first ?_⟩
  · rcases List.mem_append.1 hop with hop | hop
    · exact h.length op hop
    · rw [List.mem_singleton.1 hop]
  · rw [decide_eq_true_iff, ← hsent]
    exact ⟨fun he => by rw [he]; rfl, fun he => UInt64.toNat.inj (he.trans rfl)⟩

theorem init (now : UInt64) (sig : UInt32) : TimedSends c { new c now with signature := sig } [] :=
  ⟨by simp, by simp [new], by simp⟩

theorem withSt (h : TimedSends c s ops) {s' : PerfClientStream} (hb : s'.bytesSent = s.bytesSent) :
    TimedSends c s' ops :=
  ⟨h.length, hb ▸ h.sent, h.first⟩

theorem sendLoop (ht : c.timed = true) (h : TimedSends c s ops) {clock : Nat → UInt64} {n : Nat}
    {r : PerfClientStream × List SendOp} (hs : PerfClientStream.sendLoop c clock n s = some r) :
    TimedSends c r.1 (ops ++ r.2) :=
  sendLoop_induction c (TimedSends c) (fun _ _ now h _ => h.sendStep ht now) n clock h hs

/-- One event. -/
theorem react (ht : c.timed = true) (h : TimedSends c s ops) {clock : Nat → UInt64} {fuel : Nat}
    {now : UInt64} {e : SendEvent} {s' : PerfClientStream} {ops' : List SendOp}
    (hs : sendReact c clock fuel now s e = some (s', ops')) : TimedSends c s' (ops ++ ops') := by
  cases e with
  | idealSendBufferSize n =>
    simp only [sendReact] at hs
    split at hs
    · exact (h.withSt rfl : TimedSends c { s with idealSendBuffer := n } ops).sendLoop ht hs
    · cases hs; rwa [List.append_nil]
  | sendComplete length canceled =>
    have h1 := h.withSt (onSendComplete_bytesSent s length canceled)
    simp only [sendReact] at hs
    split at hs
    · cases hs; rwa [List.append_nil]
    · exact h1.sendLoop ht hs
  | peerReceiveAborted =>
    simp only [sendReact, Option.some.injEq, Prod.mk.injEq] at hs
    obtain ⟨rfl, rfl⟩ := hs
    rw [List.append_nil]
    exact h.withSt (by split <;> rfl)

/-- Before `BytesSent` wraps, only the first timed send has `Open` set. -/
theorem first_iff (h : TimedSends c s ops) (hS : 0 < c.ioSize.toNat) {i : Nat} {op : SendOp}
    (hi : ops[i]? = some op) (hw : (i + 1) * c.ioSize.toNat < 2 ^ 64) : op.first = true ↔ i = 0 := by
  rw [h.first i op hi, Nat.mod_eq_of_lt hw]
  constructor
  · intro he
    have : (i + 1) * c.ioSize.toNat = 1 * c.ioSize.toNat := by rw [he, Nat.one_mul]
    have := Nat.eq_of_mul_eq_mul_right hS this
    omega
  · rintro rfl; rw [Nat.zero_add, Nat.one_mul]

end TimedSends

theorem SendRun.timedSends (ht : c.timed = true) {es : List SendEvent} {s : PerfClientStream}
    {ops : List SendOp} (h : SendRun c es s ops) : TimedSends c s ops := by
  induction h with
  | start clock fuel now sig hs => simpa using (TimedSends.init now sig).sendLoop ht hs
  | react clock fuel now e _ hs ih => exact ih.react ht hs

/-- Without a canceled completion, what a stream has sent is what was acknowledged and what is still
outstanding. -/
theorem SendRun.bytesAcked_add_bytesOutstanding {es : List SendEvent} {s : PerfClientStream}
    {ops : List SendOp} (h : SendRun c es s ops)
    (hc : ∀ length, SendEvent.sendComplete length true ∉ es) :
    s.bytesAcked + s.bytesOutstanding = s.bytesSent := by
  have hloop : ∀ {clock n} {s : PerfClientStream} {r : PerfClientStream × List SendOp},
      s.bytesAcked + s.bytesOutstanding = s.bytesSent → sendLoop c clock n s = some r →
        r.1.bytesAcked + r.1.bytesOutstanding = r.1.bytesSent := fun {clock n s r} h0 hs =>
    @sendLoop_induction c (fun s _ => s.bytesAcked + s.bytesOutstanding = s.bytesSent)
      (fun s _ _ h _ => by show s.bytesAcked + (s.bytesOutstanding + _) = s.bytesSent + _
                           rw [← add_assoc, h]) n clock s [] r h0 hs
  induction h with
  | start clock fuel now sig hs => exact hloop rfl hs
  | react clock fuel now e _ hs ih =>
    have ih := ih fun length hm => hc length (List.mem_append_left _ hm)
    cases e with
    | idealSendBufferSize n =>
      simp only [sendReact] at hs
      split at hs
      · exact hloop (by exact ih) hs
      · cases hs; exact ih
    | sendComplete length canceled =>
      cases canceled
      · simp only [sendReact, Bool.false_eq_true, if_false] at hs
        refine hloop ?_ hs
        show _ + length.toUInt64 + (_ - length.toUInt64) = _
        rw [add_add_sub_cancel, ih]
        rfl
      · exact absurd (List.mem_append_right _ (List.mem_singleton_self _)) (hc length)
    | peerReceiveAborted =>
      simp only [sendReact, Option.some.injEq, Prod.mk.injEq] at hs
      obtain ⟨rfl, rfl⟩ := hs
      split <;> exact ih

/-- `Send` on a fresh stream issues at least one send. -/
theorem SendRun.ops_ne_nil (hS : 0 < c.ioSize.toNat) {es : List SendEvent} {s : PerfClientStream}
    {ops : List SendOp} (h : SendRun c es s ops) : ops ≠ [] := by
  induction h with
  | start clock fuel now sig hs =>
    have hw : ({ new c now with signature := sig } : PerfClientStream).wantsToSend = true := by
      simpa [wantsToSend, new] using (show (0 : UInt64).toNat < c.ioSize.toUInt64.toNat from hS)
    cases fuel with
    | zero => simp [sendLoop, hw] at hs
    | succ n =>
      simp only [sendLoop, hw, if_true] at hs
      obtain ⟨r, -, hr⟩ := Option.map_eq_some'.1 hs
      cases hr
      exact List.cons_ne_nil _ _
  | react clock fuel now e _ hs ih => exact List.append_ne_nil_of_left_ne_nil ih _

end TimedRuns

/-! ## The pacing bound -/

section Pacing

variable (c)

/-- One iteration of `Send`'s loop, at any clock reading. -/
def SendsOnce (s s' : PerfClientStream) : Prop :=
  s.wantsToSend = true ∧ ∃ now, s' = (sendStep c s now).1

/-- A send is never longer than `IoSize`: the last buffer holds `BytesLeftToSend ≤ IoSize`. -/
theorem nextSend_length_le (s : PerfClientStream) (now : UInt64) :
    (nextSend c s now).2.1.toNat ≤ c.ioSize.toNat := by
  unfold nextSend
  dsimp only
  split_ifs with h
  · exact (Nat.mod_le _ _).trans (show (bytesLeftToSend c s).toNat ≤ c.ioSize.toNat from h)
  · exact le_rfl

@[simp] theorem sendStep_idealSendBuffer (s : PerfClientStream) (now : UInt64) :
    (sendStep c s now).1.idealSendBuffer = s.idealSendBuffer := rfl

theorem sendLoop_of_not_wantsToSend {s : PerfClientStream} (hw : s.wantsToSend = false)
    (clock : Nat → UInt64) (n : Nat) : sendLoop c clock n s = some (s, []) := by
  cases n <;> simp [sendLoop, hw]

variable {c}

theorem lt_of_wantsToSend {s : PerfClientStream} (hw : s.wantsToSend = true) :
    s.bytesOutstanding.toNat < s.idealSendBuffer.toNat := by
  simp only [wantsToSend, Bool.and_eq_true, decide_eq_true_eq] at hw; exact hw.2

/-- `Send` stops with `SendComplete` set or `BytesOutstanding ≥ IdealSendBuffer`. -/
theorem done_of_not_wantsToSend {s : PerfClientStream} (hw : s.wantsToSend = false) :
    s.sendComplete = true ∨ s.idealSendBuffer ≤ s.bytesOutstanding := by
  simp only [wantsToSend, Bool.and_eq_false_iff, Bool.not_eq_false', decide_eq_false_iff_not] at hw
  exact hw.imp id fun h => show s.idealSendBuffer.toNat ≤ s.bytesOutstanding.toNat by
    have : ¬s.bytesOutstanding.toNat < s.idealSendBuffer.toNat := h
    omega

/-- An iteration adds its send to `BytesOutstanding` without wrapping, when one more `IoSize` fits
above `IdealSendBuffer`. -/
theorem sendStep_bytesOutstanding {s : PerfClientStream} (hw : s.wantsToSend = true)
    (hI : s.idealSendBuffer.toNat + c.ioSize.toNat ≤ 2 ^ 64 - 1) (now : UInt64) :
    (sendStep c s now).1.bytesOutstanding.toNat =
      s.bytesOutstanding.toNat + (nextSend c s now).2.1.toNat := by
  have hlt := lt_of_wantsToSend hw
  have hlen := nextSend_length_le c s now
  have e : (sendStep c s now).1.bytesOutstanding.toNat =
      (s.bytesOutstanding.toNat + (nextSend c s now).2.1.toNat) % 2 ^ 64 := rfl
  rw [e, Nat.mod_eq_of_lt (by omega)]

/-- An iteration that leaves `SendComplete` clear sent `IoSize` bytes. -/
theorem sendStep_length_of_not_complete {s : PerfClientStream} {now : UInt64}
    (h : (sendStep c s now).1.sendComplete = false) : (nextSend c s now).2.1 = c.ioSize := by
  rcases nextSend_cases c s now with ⟨-, hf⟩ | ⟨-, hl⟩
  · simp [sendStep, hf] at h
  · exact hl

/-- `Send` returns within `IdealSendBuffer - BytesOutstanding` iterations, whatever the clock reads:
each iteration but the last adds `IoSize ≥ 1` below `IdealSendBuffer`. -/
theorem sendLoop_terminates (hS : 0 < c.ioSize.toNat) (n : Nat) :
    ∀ (clock : Nat → UInt64) (s : PerfClientStream),
      s.idealSendBuffer.toNat + c.ioSize.toNat ≤ 2 ^ 64 - 1 →
      s.idealSendBuffer.toNat - s.bytesOutstanding.toNat ≤ n →
      ∃ r, sendLoop c clock n s = some r ∧
        (r.1.sendComplete = true ∨ s.idealSendBuffer ≤ r.1.bytesOutstanding) ∧
        Relation.ReflTransGen (SendsOnce c) s r.1 := by
  induction n with
  | zero =>
    intro clock s _ hn
    have hw : s.wantsToSend = false := by
      simp only [wantsToSend, Bool.and_eq_false_iff, Bool.not_eq_false', decide_eq_false_iff_not]
      exact .inr fun h => by have : s.bytesOutstanding.toNat < s.idealSendBuffer.toNat := h; omega
    exact ⟨(s, []), sendLoop_of_not_wantsToSend c hw clock 0, done_of_not_wantsToSend hw, .refl⟩
  | succ m ih =>
    intro clock s hI hn
    cases hw : s.wantsToSend
    · exact ⟨(s, []), sendLoop_of_not_wantsToSend c hw clock _, done_of_not_wantsToSend hw, .refl⟩
    have hstep : SendsOnce c s (sendStep c s (clock 0)).1 := ⟨hw, _, rfl⟩
    have hloop : sendLoop c clock (m + 1) s =
        (sendLoop c (fun k => clock (k + 1)) m (sendStep c s (clock 0)).1).map
          fun r => (r.1, (sendStep c s (clock 0)).2 :: r.2) := by
      simp only [sendLoop, hw, if_true]
    cases hc : (sendStep c s (clock 0)).1.sendComplete
    · have hout := sendStep_bytesOutstanding hw hI (clock 0)
      rw [sendStep_length_of_not_complete hc] at hout
      obtain ⟨r, hr, hex, hrt⟩ := ih (fun k => clock (k + 1)) (sendStep c s (clock 0)).1
        (by rw [sendStep_idealSendBuffer]; exact hI) (by rw [sendStep_idealSendBuffer]; omega)
      rw [sendStep_idealSendBuffer] at hex
      exact ⟨(r.1, _ :: r.2), by rw [hloop, hr]; rfl, hex, .head hstep hrt⟩
    · exact ⟨(_, [_]), by rw [hloop, sendLoop_of_sendComplete c hc]; rfl, .inl hc, .single hstep⟩

/-- No iteration, at any clock, takes `BytesOutstanding` past `IdealSendBuffer + IoSize - 1` from
below `IdealSendBuffer`, and none changes `IdealSendBuffer`. -/
theorem sendsOnce_bound {s : PerfClientStream}
    (hI : s.idealSendBuffer.toNat + c.ioSize.toNat ≤ 2 ^ 64 - 1) {s' : PerfClientStream}
    (h : Relation.ReflTransGen (SendsOnce c) s s') :
    s'.idealSendBuffer = s.idealSendBuffer ∧ s'.bytesOutstanding.toNat ≤
      max s.bytesOutstanding.toNat (s.idealSendBuffer.toNat + c.ioSize.toNat - 1) := by
  induction h with
  | refl => exact ⟨rfl, le_max_left _ _⟩
  | @tail b _ _ hstep ih =>
    obtain ⟨hw, now, rfl⟩ := hstep
    obtain ⟨hid, -⟩ := ih
    have hlt := lt_of_wantsToSend hw
    have hlen := nextSend_length_le c b now
    rw [hid] at hlt
    rw [sendStep_idealSendBuffer, sendStep_bytesOutstanding hw (by rw [hid]; exact hI) now]
    exact ⟨hid, by omega⟩

end Pacing

end PerfClientStream

open PerfClientStream

/-- **The pacing bound of `Send`** (`IoSize ≥ 256`, one more `IoSize` fits above
`IdealSendBuffer`), from any stream state: `Send` returns, whatever the clock reads, within
`IdealSendBuffer - BytesOutstanding` iterations, with `SendComplete` set or
`BytesOutstanding ≥ IdealSendBuffer`; and no state its iterations reach has `BytesOutstanding`
above `max(BytesOutstanding on entry, IdealSendBuffer + IoSize - 1)`. -/
theorem send_pacing {c : PerfClient} {s : PerfClientStream} (hS : 256 ≤ c.ioSize.toNat)
    (hI : s.idealSendBuffer.toNat + c.ioSize.toNat ≤ 2 ^ 64 - 1) :
    (∀ (clock : Nat → UInt64) (n : Nat), s.idealSendBuffer.toNat - s.bytesOutstanding.toNat ≤ n →
      ∃ r, sendLoop c clock n s = some r ∧
        (r.1.sendComplete = true ∨ s.idealSendBuffer ≤ r.1.bytesOutstanding) ∧
        Relation.ReflTransGen (SendsOnce c) s r.1) ∧
    ∀ s', Relation.ReflTransGen (SendsOnce c) s s' → s'.bytesOutstanding.toNat ≤
      max s.bytesOutstanding.toNat (s.idealSendBuffer.toNat + c.ioSize.toNat - 1) :=
  ⟨fun clock n hn => sendLoop_terminates (by omega) n clock s hI hn,
    fun _ h => (sendsOnce_bound hI h).2⟩

/-- The bound on the stream `StartNewStream` allocates under the defaults (`IoSize = 65536`):
`Send` returns within `65536` iterations. -/
theorem send_pacing_new_stream :
    ∃ c, init ⟨4433, 65536, 2000000⟩ ⟨1, .success, fun _ => ⟨[], Nat.zero_le _⟩, fun _ => none, true, true⟩
        ⟨false, fun s => if s = "target" then some "server" else none,
          fun s => if s = "upload" then some 100000 else none⟩ = .ok c ∧
      ∃ r, sendLoop c (fun _ => 0) 65536 (new c 0) = some r ∧
        (r.1.sendComplete = true ∨ (new c 0).idealSendBuffer ≤ r.1.bytesOutstanding) ∧
        Relation.ReflTransGen (SendsOnce c) (new c 0) r.1 := by
  obtain ⟨c, hc, hio⟩ : ∃ c, init ⟨4433, 65536, 2000000⟩
      ⟨1, .success, fun _ => ⟨[], Nat.zero_le _⟩, fun _ => none, true, true⟩
      ⟨false, fun s => if s = "target" then some "server" else none,
        fun s => if s = "upload" then some 100000 else none⟩ = .ok c ∧ c.ioSize = 65536 := ⟨_, rfl, rfl⟩
  have hI : (new c 0).idealSendBuffer.toNat + c.ioSize.toNat ≤ 2 ^ 64 - 1 := by
    simp only [new, hio]; decide
  exact ⟨c, hc, (send_pacing (by rw [hio]; decide) hI).1 _ 65536 (by simp only [new, hio]; decide)⟩

/-! ## The QUIC stream callback -/

namespace World

variable {c : PerfClient} {inp : Inputs} {W W' : World} {w k : Nat}

@[simp] theorem setStream_setStream (W : World) (w k : Nat) (a b : StreamSlot) :
    (W.setStream w k a).setStream w k b = W.setStream w k b := by
  simp [setStream, setWorker, Function.update_idem]

@[simp] theorem setStream_self (W : World) (w k : Nat) :
    W.setStream w k ((W.workers w).stream k) = W := by
  simp [setStream, setWorker]

/-- `Send` on a QUIC stream: `sendLoop` on the stream's fields, whose sends join the pending ones;
nothing else changes. -/
theorem send_quic (ht : c.useTCP = false) (hs : send c inp w k W = .ok W') :
    ∃ st ops, sendLoop c (fun _ => inp.now) inp.fuel ((W.workers w).stream k).st = some (st, ops) ∧
      W' = W.setStream w k
        { (W.workers w).stream k with st := st, pending := ((W.workers w).stream k).pending ++ ops } := by
  unfold send at hs
  cases hl : sendLoop c (fun _ => inp.now) inp.fuel ((W.workers w).stream k).st with
  | none => simp [hl] at hs
  | some r =>
    simp only [hl, ht, Bool.false_eq_true, if_false, pure_eq_ok] at hs
    exact ⟨r.1, r.2, rfl, hs.symm⟩

/-- The send event a QUIC stream event is on slot `sl`, with the pending sends left before `Send`
runs; `none` for the events that do not reach the send side. -/
def sendEventOf (c : PerfClient) (sl : StreamSlot) : StreamEvent → Option (SendEvent × List SendOp)
  | .sendComplete i canceled => sl.pending[i]?.map fun op =>
    (.sendComplete (if op.buffer = .last then sl.st.lastBufferLength else c.ioSize) canceled,
      sl.pending.eraseIdx i)
  | .peerReceiveAborted => some (.peerReceiveAborted, sl.pending)
  | .idealSendBufferSize n => some (.idealSendBufferSize n, sl.pending)
  | _ => none

/-- On a QUIC stream, `StreamCallback`'s send events are `sendReact` on the stream's fields: the
stream takes the fields it returns, the sends it issues join the pending ones the event leaves, and
no other stream changes. -/
theorem streamCallback_sendReact (ht : c.useTCP = false) {e : StreamEvent} {e' : SendEvent}
    {p : List SendOp} (he : sendEventOf c ((W.workers w).stream k) e = some (e', p))
    (hs : streamCallback c inp w k W e = .ok W') :
    ∃ st ops, sendReact c (fun _ => inp.now) inp.fuel inp.now ((W.workers w).stream k).st e' =
        some (st, ops) ∧
      W'.workers = (W.setStream w k { (W.workers w).stream k with st := st, pending := p ++ ops }).workers := by
  cases e with
  | sendComplete i canceled =>
    simp only [sendEventOf, Option.map_eq_some', Prod.mk.injEq] at he
    obtain ⟨op, hop, rfl, rfl⟩ := he
    simp only [streamCallback, hop] at hs
    split at hs
    next hc =>
      subst hc
      simp only [pure_eq_ok] at hs
      subst hs
      exact ⟨_, [], rfl, by rw [List.append_nil]⟩
    next hc =>
      obtain ⟨st, ops, hl, rfl⟩ := send_quic ht hs
      simp only [stream_setStream, and_self, if_true, setStream_setStream] at hl ⊢
      exact ⟨st, ops, by simpa [sendReact, hc] using hl, rfl⟩
  | peerReceiveAborted =>
    simp only [sendEventOf, Option.some.injEq, Prod.mk.injEq] at he
    obtain ⟨rfl, rfl⟩ := he
    simp only [streamCallback, pure_eq_ok] at hs
    subst hs
    exact ⟨_, [], rfl, by rw [List.append_nil]; rfl⟩
  | idealSendBufferSize n =>
    simp only [sendEventOf, Option.some.injEq, Prod.mk.injEq] at he
    obtain ⟨rfl, rfl⟩ := he
    simp only [streamCallback] at hs
    split at hs
    next hc =>
      obtain ⟨st, ops, hl, rfl⟩ := send_quic ht hs
      simp only [setSt, stream_setStream, and_self, if_true, setStream_setStream] at hl ⊢
      exact ⟨st, ops, by simp only [sendReact]; rw [if_pos hc]; exact hl, rfl⟩
    next hc =>
      simp only [pure_eq_ok] at hs
      subst hs
      exact ⟨_, [], by simp only [sendReact]; rw [if_neg hc], by rw [List.append_nil, setStream_self]⟩
  | receive | peerSendAborted | sendShutdownComplete | shutdownComplete => simp [sendEventOf] at he

/-- `StartNewStream` on a QUIC connection whose `StreamOpen` succeeds: the first `Send` of the new
stream is the one `SendRun.start` takes, its sends are the stream's pending ones, and no other
stream changes. -/
theorem startNewStream_sendLoop (ht : c.useTCP = false) {cid : Nat}
    (hs : startNewStream c inp w cid true W = .ok W') :
    ∃ st ops, sendLoop c (fun _ => inp.now) inp.fuel { new c inp.now with signature := 0 } =
        some (st, ops) ∧
      (W'.workers w).streams = insert (W.workers w).nextStream (W.workers w).streams ∧
      (W'.workers w).stream = setAt (W.workers w).stream (W.workers w).nextStream ⟨cid, st, ops⟩ ∧
      ∀ w' ≠ w, W'.workers w' = W.workers w' := by
  unfold startNewStream at hs
  simp only [ht, Bool.false_or, if_true, Bool.false_eq_true, if_false] at hs
  obtain ⟨st, ops, hl, rfl⟩ := send_quic ht hs
  simp only [setWorker, setAt, if_true] at hl
  refine ⟨st, ops, hl, ?_, ?_, fun w' hw => ?_⟩
  · simp [setStream, setWorker]
  · simp [setStream, setWorker, Function.update_idem]
  · simp [setStream, setWorker, hw]

end World

/-! ## A timed stream that wraps -/

namespace PerfClientStream

theorem ofNat_add_ofNat (a b : Nat) : UInt64.ofNat a + UInt64.ofNat b = UInt64.ofNat (a + b) :=
  UInt64.toNat.inj (by show (a % 2 ^ 64 + b % 2 ^ 64) % 2 ^ 64 = (a + b) % 2 ^ 64; omega)

section Timed

/-! A timed stream of `-upload:1` with `IoSize = 65536` whose clock stands at `StartTime`: `Send`
never reaches its cut-off, so each completion of `65536` bytes frees the send buffer for one more
request of `IoSize` bytes, and `BytesSent` grows without bound. -/

variable {c : PerfClient} (ht : c.timed = true) (hu : c.upload = 1) (hio : c.ioSize = 65536)
include ht hu hio

theorem sendLoop_timed_new :
    sendLoop c (fun _ => 0) 1 { new c 0 with signature := 0 } =
      some ({ new c 0 with bytesSent := UInt64.ofNat 65536, bytesOutstanding := 65536 },
        [⟨.request, 65536, false, true⟩]) := by
  have h1 : UInt32.toUInt64 65536 = 65536 := rfl
  simp [sendLoop, sendStep, nextSend, bytesLeftToSend, wantsToSend, new, ht, hu, hio, h1, uint64Max,
    msToUs, timeDiff]

theorem sendReact_timed (a b : UInt64) :
    sendReact c (fun _ => 0) 1 0
        { new c 0 with bytesSent := a, bytesOutstanding := 65536, bytesAcked := b }
        (.sendComplete 65536 false) =
      some ({ new c 0 with bytesSent := a + 65536, bytesOutstanding := 65536, bytesAcked := b + 65536 },
        [⟨.request, 65536, false, decide (a + 65536 = 65536)⟩]) := by
  have h1 : UInt32.toUInt64 65536 = 65536 := rfl
  simp [sendReact, onSendComplete, sendLoop, sendStep, nextSend, bytesLeftToSend, wantsToSend,
    new, ht, hu, hio, h1, uint64Max, msToUs, timeDiff]

/-- After the first send and `n` completions, `n + 1` requests are out; the last has `Open` set
exactly when `BytesSent` is back at `65536`. -/
theorem sendRun_timed (n : Nat) :
    ∃ es ops, SendRun c es
        { new c 0 with
          bytesSent := UInt64.ofNat ((n + 1) * 65536), bytesOutstanding := 65536,
          bytesAcked := UInt64.ofNat (n * 65536) } ops ∧
      ops.length = n + 1 ∧
      ops[n]? = some ⟨.request, 65536, false, decide (UInt64.ofNat ((n + 1) * 65536) = 65536)⟩ := by
  induction n with
  | zero =>
    exact ⟨[], _, SendRun.start (fun _ => 0) 1 0 0 (sendLoop_timed_new ht hu hio), rfl, rfl⟩
  | succ n ih =>
    obtain ⟨es, ops, h, hlen, -⟩ := ih
    have hs := sendReact_timed ht hu hio (UInt64.ofNat ((n + 1) * 65536)) (UInt64.ofNat (n * 65536))
    have hadd (a : Nat) : UInt64.ofNat a + 65536 = UInt64.ofNat (a + 65536) := ofNat_add_ofNat a 65536
    simp only [hadd] at hs
    rw [show (n + 1) * 65536 + 65536 = (n + 1 + 1) * 65536 by omega,
      show n * 65536 + 65536 = (n + 1) * 65536 by omega] at hs
    refine ⟨_, _, SendRun.react _ _ _ _ h hs, by simp [hlen], ?_⟩
    rw [List.getElem?_append_right (by omega), hlen, Nat.sub_self]
    rfl

end Timed

end PerfClientStream

/-- A timed TCP stream (`-tcp:1 -timed:1 -upload:1`, `IoSize = 65536`) whose clock stands still:
its send number `2^48`, after as many completions, brings the 64-bit `BytesSent` back to its own
length, and its descriptor has `Open` set. -/
theorem timed_send_reopens :
    ∃ c, init ⟨4433, 65536, 2000000⟩ ⟨1, .success, fun _ => ⟨[], Nat.zero_le _⟩, fun _ => none, true, true⟩
        ⟨false, fun s => if s = "target" then some "server" else none,
          fun s => if s = "tcp" ∨ s = "timed" ∨ s = "upload" then some 1 else none⟩ = .ok c ∧
      c.useTCP = true ∧ c.timed = true ∧ 256 ≤ c.ioSize.toNat ∧
      ∃ es s ops op, SendRun c es s ops ∧ ops[2 ^ 48]? = some op ∧
        (World.tcpDescriptor s op).isOpen = true := by
  obtain ⟨c, hc, htcp, ht, hS, hu, hio⟩ :
      ∃ c, init ⟨4433, 65536, 2000000⟩
          ⟨1, .success, fun _ => ⟨[], Nat.zero_le _⟩, fun _ => none, true, true⟩
          ⟨false, fun s => if s = "target" then some "server" else none,
            fun s => if s = "tcp" ∨ s = "timed" ∨ s = "upload" then some 1 else none⟩ = .ok c ∧
        c.useTCP = true ∧ c.timed = true ∧ 256 ≤ c.ioSize.toNat ∧ c.upload = 1 ∧ c.ioSize = 65536 :=
    ⟨_, rfl, rfl, rfl, by decide, rfl, rfl⟩
  obtain ⟨es, ops, h, -, hop⟩ := sendRun_timed ht hu hio (2 ^ 48)
  exact ⟨c, hc, htcp, ht, hS, es, _, ops, _, h, hop,
    (by decide : decide (UInt64.ofNat ((2 ^ 48 + 1) * 65536) = 65536) = true)⟩

end SecNetPerf
