import SecNetPerf.Sending

/-!
# SecNetPerf.SendBuffering — what `-sendbuf:1` does

`-sendbuf` sets `UseSendBuffering`, which the source reads in two places.

* `Init` (175-185) updates the configuration's settings when `-sendbuf` or `-pacing` differs from
  its default, but its only call on send buffering, `SetSendBufferingEnabled(UseSendBuffering != 0)`,
  stands under `if (!UseSendBuffering)`: it can turn MsQuic's send buffering off, never on
  (`settingsUpdate`).
* `StreamCallback` (745-750) follows `IDEAL_SEND_BUFFER_SIZE` only without `UseSendBuffering`, so a
  stream keeps the `IdealSendBuffer` it starts with, `IoSize`.

So with `-sendbuf:1` MsQuic's send buffering stays as the configuration had it, and every stream keeps
a single send in flight (`StreamSlot.StopAndWait`): `Send` stops as soon as a full send is pending —
it fills `IdealSendBuffer` — and issues the next one only when that one's `SEND_COMPLETE` arrives.
`send_buffering_stop_and_wait` states both on every world a QUIC run reaches.
-/

namespace SecNetPerf

/-- The two settings of `MsQuicSettings` that `Init` may change. -/
structure QuicSettings where
  sendBufferingEnabled : Bool
  pacingEnabled : Bool
  deriving DecidableEq, Repr

/-- The settings update of `Init` (175-185) on the settings `Configuration.GetSettings` reads: what
`Configuration.SetSettings` writes back, or `none` when `-sendbuf` and `-pacing` keep their
defaults. -/
def settingsUpdate (c : PerfClient) (s : QuicSettings) : Option QuicSettings :=
  if c.useSendBuffering || !c.usePacing then
    let s := if !c.useSendBuffering then { s with sendBufferingEnabled := c.useSendBuffering } else s
    some (if !c.usePacing then { s with pacingEnabled := c.usePacing } else s)
  else none

/-- With `UseSendBuffering` set, the update writes the settings back with send buffering as it was;
only `-pacing:0` changes them. -/
theorem settingsUpdate_of_useSendBuffering {c : PerfClient} (hsb : c.useSendBuffering = true)
    (s : QuicSettings) :
    settingsUpdate c s = some { s with pacingEnabled := s.pacingEnabled && c.usePacing } := by
  unfold settingsUpdate
  cases hp : c.usePacing <;> simp [hsb, hp]

/-- A stream that keeps at most one send in flight: its send books balance, `IdealSendBuffer` is at
most `IoSize`, and at most one send, of at most `IoSize` bytes, is pending. -/
structure StreamSlot.StopAndWait (c : PerfClient) (sl : StreamSlot) : Prop where
  balanced : sl.Balanced c
  ideal : sl.st.idealSendBuffer.toNat ≤ c.ioSize.toNat
  pending : sl.pending.length ≤ 1
  length : ∀ op ∈ sl.pending, op.length.toNat ≤ c.ioSize.toNat

@[simp] theorem PerfClientStream.onSendComplete_idealSendBuffer (s : PerfClientStream) (length : UInt32)
    (canceled : Bool) : (s.onSendComplete length canceled).idealSendBuffer = s.idealSendBuffer := by
  cases canceled <;> rfl

namespace StreamSlot.StopAndWait

variable {c : PerfClient} {sl : StreamSlot}

/-- At most `IoSize` bytes are outstanding. -/
theorem outstanding_le (h : sl.StopAndWait c) : sl.st.bytesOutstanding.toNat ≤ c.ioSize.toNat := by
  have ho := h.balanced.outstanding
  match hp : sl.pending, h.pending, h.length with
  | [], _, _ => rw [ho, hp]; exact Nat.zero_le _
  | [op], _, hl =>
    rw [ho, hp, sendBytes_cons, sendBytes_nil, add_zero]
    exact hl op (List.mem_singleton_self op)

/-- A stream that wants to send has nothing pending: a pending full send fills `IdealSendBuffer`,
and a pending last buffer has set `SendComplete`. -/
theorem pending_eq_nil (h : sl.StopAndWait c) (hw : sl.st.wantsToSend = true) : sl.pending = [] := by
  have hsc : sl.st.sendComplete = false := by
    simp only [PerfClientStream.wantsToSend, Bool.and_eq_true, Bool.not_eq_true'] at hw; exact hw.1
  have hlt := PerfClientStream.lt_of_wantsToSend hw
  match hp : sl.pending, h.pending with
  | [], _ => rfl
  | [op], _ =>
    have hop : op ∈ sl.pending := hp ▸ List.mem_singleton_self op
    by_cases hb : op.buffer = .last
    · exact absurd (h.balanced.sendComplete op hop hb) (by rw [hsc]; decide)
    · have hl := h.balanced.length op hop
      rw [if_neg hb] at hl
      have ho : sl.st.bytesOutstanding.toNat = c.ioSize.toNat := by
        rw [h.balanced.outstanding, hp, sendBytes_cons, sendBytes_nil, add_zero, hl]; rfl
      have := h.ideal
      omega

/-- One iteration of `Send`: the stream had nothing pending, and now has the one send. -/
theorem sendStep (h : sl.StopAndWait c) (hw : sl.st.wantsToSend = true) (now : UInt64) :
    ({ sl with st := (sl.st.sendStep c now).1, pending := sl.pending ++ [(sl.st.sendStep c now).2] } :
      StreamSlot).StopAndWait c := by
  have hp := h.pending_eq_nil hw
  refine ⟨h.balanced.sendStep hw now, h.ideal, by simp [hp], fun op hop => ?_⟩
  simp only [hp, List.nil_append, List.mem_singleton] at hop
  subst hop
  have hn := PerfClientStream.nextSend_length_le c sl.st now
  unfold PerfClientStream.sendStep
  generalize PerfClientStream.nextSend c sl.st now = r at hn
  exact hn

/-- `Send` issues at most one send, and only with nothing pending. -/
theorem sendLoop : ∀ (n : Nat) (clock : Nat → UInt64) {sl : StreamSlot}
    {r : PerfClientStream × List SendOp}, sl.StopAndWait c → sl.st.sendLoop c clock n = some r →
      (⟨sl.conn, r.1, sl.pending ++ r.2⟩ : StreamSlot).StopAndWait c :=
  fun n clock sl r => @PerfClientStream.sendLoop_induction c
    (fun s ops => (⟨sl.conn, s, ops⟩ : StreamSlot).StopAndWait c)
    (fun _ _ now h hw => h.sendStep hw now) n clock sl.st sl.pending r

/-- New fields that keep the send books and `IdealSendBuffer`. -/
theorem withSt (h : sl.StopAndWait c) {st : PerfClientStream}
    (hb : st.bytesOutstanding = sl.st.bytesOutstanding)
    (hl : st.lastBufferLength = sl.st.lastBufferLength)
    (hc : sl.st.sendComplete = true → st.sendComplete = true)
    (hi : st.idealSendBuffer = sl.st.idealSendBuffer) :
    ({ sl with st := st } : StreamSlot).StopAndWait c :=
  ⟨h.balanced.withSt hb hl hc, hi ▸ h.ideal, h.pending, h.length⟩

/-- `SEND_COMPLETE` of a pending send. -/
theorem onSendComplete (h : sl.StopAndWait c) {i : Nat} {op : SendOp} (hop : sl.pending[i]? = some op)
    (canceled : Bool) :
    ({ sl with
        st := sl.st.onSendComplete
          (if op.buffer = .last then sl.st.lastBufferLength else c.ioSize) canceled
        pending := sl.pending.eraseIdx i } : StreamSlot).StopAndWait c :=
  ⟨h.balanced.onSendComplete hop canceled, by simpa using h.ideal,
    (List.length_eraseIdx_le _ _).trans h.pending,
    fun op' hop' => h.length op' (List.mem_of_mem_eraseIdx hop')⟩

end StreamSlot.StopAndWait

/-- Over QUIC, a fresh slot keeps one send in flight, and so does every slot after `Send`. -/
theorem SlotInvariant.stopAndWait {c : PerfClient} (ht : c.useTCP = false) (inp : Inputs) :
    SlotInvariant (StreamSlot.StopAndWait c) c inp where
  new cid sig := ⟨(SlotInvariant.balanced ht inp).new cid sig,
    le_rfl, by simp, by simp⟩
  send {W W' w k} h hs := by
    unfold World.send at hs
    cases hl : ((W.workers w).stream k).st.sendLoop c (fun _ => inp.now) inp.fuel with
    | none => simp [hl] at hs
    | some r =>
      simp only [hl, ht, Bool.false_eq_true, ↓reduceIte, pure_eq_ok] at hs
      subst hs
      exact h.setStream (StreamSlot.StopAndWait.sendLoop _ _ (h w k) hl)

namespace World.AllSlots

variable {c : PerfClient} {inp : Inputs} {W W' : World} {w k : Nat}

/-- Over QUIC with `UseSendBuffering`, every stream event keeps one send in flight on every slot:
`IDEAL_SEND_BUFFER_SIZE` changes nothing. -/
theorem streamCallback_stopAndWait (ht : c.useTCP = false) (hsb : c.useSendBuffering = true)
    (h : W.AllSlots (StreamSlot.StopAndWait c)) {e : StreamEvent}
    (hs : streamCallback c inp w k W e = .ok W') : W'.AllSlots (StreamSlot.StopAndWait c) := by
  have hP := SlotInvariant.stopAndWait ht inp
  have hset : ∀ {st : PerfClientStream},
      st.bytesOutstanding = ((W.workers w).stream k).st.bytesOutstanding →
      st.lastBufferLength = ((W.workers w).stream k).st.lastBufferLength →
      (((W.workers w).stream k).st.sendComplete = true → st.sendComplete = true) →
      st.idealSendBuffer = ((W.workers w).stream k).st.idealSendBuffer →
      (W.setSt w k st).AllSlots (StreamSlot.StopAndWait c) :=
    fun hb hl hc hi => h.setStream ((h w k).withSt hb hl hc hi)
  cases e with
  | receive length fin =>
    simp only [World.streamCallback, pure_eq_ok] at hs
    have hb := PerfClientStream.onReceive_sendBooks c ((W.workers w).stream k).st length fin inp.now
    have hi : (((W.workers w).stream k).st.onReceive c length fin inp.now).1.idealSendBuffer =
        ((W.workers w).stream k).st.idealSendBuffer := by
      unfold PerfClientStream.onReceive; dsimp only; split_ifs <;> rfl
    generalize ((W.workers w).stream k).st.onReceive c length fin inp.now = r at hs hb hi
    obtain ⟨st, cut⟩ := r
    subst hs
    split <;> exact hset hb.1 hb.2.1 (fun h' => hb.2.2.trans h') hi
  | sendComplete i canceled =>
    simp only [World.streamCallback] at hs
    split at hs
    · rename_i op hop
      split at hs
      · simp only [pure_eq_ok] at hs; subst hs
        exact h.setStream ((h w k).onSendComplete hop canceled)
      · exact hP.send (h.setStream ((h w k).onSendComplete hop canceled)) hs
    · exact absurd hs throw_ne_ok
  | peerSendAborted =>
    simp only [World.streamCallback, pure_eq_ok] at hs
    subst hs
    refine (hset ?_ ?_ ?_ ?_).call <;> split <;> simp
  | peerReceiveAborted =>
    simp only [World.streamCallback, pure_eq_ok] at hs
    subst hs
    refine (hset ?_ ?_ (fun _ => rfl) ?_).call <;> split <;> rfl
  | sendShutdownComplete =>
    simp only [World.streamCallback, pure_eq_ok] at hs
    subst hs
    split <;> exact hset rfl rfl id rfl
  | shutdownComplete => exact h.onStreamShutdownComplete hP hs
  | idealSendBufferSize n =>
    simp only [World.streamCallback, hsb, Bool.not_true, Bool.false_eq_true, false_and, and_false,
      ↓reduceIte, pure_eq_ok] at hs
    exact hs ▸ h

end World.AllSlots

/-- **`-sendbuf:1` is stop-and-wait** (QUIC): with `UseSendBuffering` set, `Init`'s settings update
leaves MsQuic's send buffering as the configuration had it, and in every world a run reaches every
stream keeps `IdealSendBuffer` at most `IoSize` whatever `IDEAL_SEND_BUFFER_SIZE` the transport
signals, has at most one send pending, and has at most `IoSize` bytes outstanding. -/
theorem send_buffering_stop_and_wait {c : PerfClient} {W : World} (ht : c.useTCP = false)
    (hsb : c.useSendBuffering = true) (h : Reachable c W) (w k : Nat) :
    (∀ s, settingsUpdate c s = some { s with pacingEnabled := s.pacingEnabled && c.usePacing }) ∧
      ((W.workers w).stream k).st.idealSendBuffer.toNat ≤ c.ioSize.toNat ∧
      ((W.workers w).stream k).pending.length ≤ 1 ∧
      ((W.workers w).stream k).st.bytesOutstanding.toNat ≤ c.ioSize.toNat := by
  have hs := h.allSlots ht (fun _ _ => ⟨⟨rfl, fun _ hop => absurd hop (List.not_mem_nil _),
      fun _ hop => absurd hop (List.not_mem_nil _)⟩, Nat.zero_le _, Nat.zero_le _,
      fun _ hop => absurd hop (List.not_mem_nil _)⟩)
    (SlotInvariant.stopAndWait ht) fun _ _ _ _ _ _ h hs => h.streamCallback_stopAndWait ht hsb hs
  exact ⟨settingsUpdate_of_useSendBuffering hsb, (hs w k).ideal, (hs w k).pending,
    (hs w k).outstanding_le⟩

/-- A 300000-byte upload with `-sendbuf:1`: after an `IDEAL_SEND_BUFFER_SIZE` of 1000000 and the
first send's completion, one 65536-byte send is pending. -/
theorem send_buffering_stop_and_wait_upload :
    let c := { PerfClient.defaults ⟨4433, 65536, 2000000⟩ with
      workerCount := 1, streamCount := 1, upload := 300000, useSendBuffering := true }
    let es : List (Inputs × World.Event) :=
      [.queue, .startNewConnection 0 ⟨true, true, true, true, true, true, none, true⟩, .connected 0 0,
        .stream 0 0 (.idealSendBufferSize 1000000), .stream 0 0 (.sendComplete 0 false)].map
        (Prod.mk ⟨1, 10, fun _ => true⟩)
    ∃ W, World.run c (World.init c) es = .ok W ∧ ((W.workers 0).stream 0).pending.length = 1 ∧
      ((W.workers 0).stream 0).st.bytesOutstanding = 65536 ∧
      ((∀ s, settingsUpdate c s = some { s with pacingEnabled := s.pacingEnabled && c.usePacing }) ∧
        ((W.workers 0).stream 0).st.idealSendBuffer.toNat ≤ c.ioSize.toNat ∧
        ((W.workers 0).stream 0).pending.length ≤ 1 ∧
        ((W.workers 0).stream 0).st.bytesOutstanding.toNat ≤ c.ioSize.toNat) := by
  intro c es
  obtain ⟨W, hW, h1, h2⟩ : ∃ W, World.run c (World.init c) es = .ok W ∧
      ((W.workers 0).stream 0).pending.length = 1 ∧
      ((W.workers 0).stream 0).st.bytesOutstanding = 65536 := by
    simp only [c, es]; exact ⟨_, rfl, rfl, rfl⟩
  exact ⟨W, hW, h1, h2, send_buffering_stop_and_wait rfl rfl (Reachable.init.run hW) 0 0⟩

/-- Without `-sendbuf` the same signal opens the window: the four other sends of the upload are
pending at once. -/
example :
    let c := { PerfClient.defaults ⟨4433, 65536, 2000000⟩ with
      workerCount := 1, streamCount := 1, upload := 300000 }
    let es : List (Inputs × World.Event) :=
      [.queue, .startNewConnection 0 ⟨true, true, true, true, true, true, none, true⟩, .connected 0 0,
        .stream 0 0 (.idealSendBufferSize 1000000), .stream 0 0 (.sendComplete 0 false)].map
        (Prod.mk ⟨1, 10, fun _ => true⟩)
    ∃ W, World.run c (World.init c) es = .ok W ∧ ((W.workers 0).stream 0).pending.length = 4 :=
  ⟨_, rfl, rfl⟩

end SecNetPerf
