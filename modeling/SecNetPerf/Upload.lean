import SecNetPerf.SendBuffering
import SecNetPerf.Progress

/-!
# SecNetPerf.Upload — a QUIC upload always finishes once the transport completes its sends

`Send` (758-800) stops when `BytesOutstanding` reaches `IdealSendBuffer`, and only `StreamCallback`'s
`SEND_COMPLETE` (717-756), through `OnSendComplete` (802-812) and `Send` again, moves a non-timed
stream's upload on.  A slip in that loop (a send not re-issued after a completion, `BytesOutstanding`
drifting from what is pending, a wrap in `BytesLeftToSend`) would stall the upload for good.
`upload_completes` rules that out: over QUIC, from every world a run reaches, the transport completing
a non-timed stream's first pending send, again and again, leads to `SendComplete` with nothing
pending and nothing outstanding.

The measure is `PerfClientStream.sendsLeft`, a bound on the sends still to issue.  Each iteration of
`Send` turns one of them into a pending send (`sendsLeft_sendStep`), so `Send` returns within that
many iterations (`sendLoop_of_sendsLeft_le`), and each completion lowers pending plus left by one
(`World.step_sendComplete`).  It ends with `SendComplete` set because `Send` never stops with nothing
outstanding below a nonzero `IdealSendBuffer` (`StreamSlot.Balanced`).
-/

namespace SecNetPerf

/-- Adding `i` to what is subtracted takes `i` off a 64-bit difference that exceeds it. -/
theorem uint64_sub_add_toNat (u b i : UInt64) (h : i.toNat < (u - b).toNat) :
    (u - (b + i)).toNat = (u - b).toNat - i.toNat := by
  have e1 : (u - b).toNat = (2 ^ 64 - b.toNat + u.toNat) % 2 ^ 64 := rfl
  have e2 : (u - (b + i)).toNat = (2 ^ 64 - (b.toNat + i.toNat) % 2 ^ 64 + u.toNat) % 2 ^ 64 := rfl
  have := u.toNat_lt_size
  have := b.toNat_lt_size
  have := i.toNat_lt_size
  simp only [UInt64.size] at *
  omega

namespace PerfClientStream

variable (c : PerfClient)

/-- A bound on the sends a non-timed stream still issues: none once `SendComplete` is set, otherwise
one for each `IoSize` of `BytesLeftToSend` and one more. -/
def sendsLeft (s : PerfClientStream) : Nat :=
  if s.sendComplete then 0 else (bytesLeftToSend c s).toNat / c.ioSize.toNat + 1

variable {c}

theorem sendsLeft_eq_zero_iff {s : PerfClientStream} : sendsLeft c s = 0 ↔ s.sendComplete = true := by
  unfold sendsLeft; split <;> simp_all

/-- A full send of a non-timed stream takes `IoSize` off `BytesLeftToSend` and leaves
`SendComplete`. -/
theorem sendStep_of_full (htm : c.timed = false) (hS : 8 ≤ c.ioSize.toNat) {s : PerfClientStream}
    (hl : ¬bytesLeftToSend c s ≤ c.ioSize.toUInt64) (now : UInt64) :
    (bytesLeftToSend c (sendStep c s now).1).toNat = (bytesLeftToSend c s).toNat - c.ioSize.toNat ∧
      (sendStep c s now).1.sendComplete = s.sendComplete := by
  have hlt : c.ioSize.toUInt64.toNat < (bytesLeftToSend c s).toNat := by
    have : ¬(bytesLeftToSend c s).toNat ≤ c.ioSize.toUInt64.toNat := hl
    omega
  unfold sendStep
  simp only [nextSend, if_neg hl, htm, Bool.false_and, Bool.or_false, and_true]
  unfold bytesLeftToSend at hlt ⊢
  simp only [htm, Bool.false_eq_true, ↓reduceIte] at hlt ⊢
  split_ifs at hlt ⊢ with hu
  · exact uint64_sub_add_toNat _ _ _ hlt
  · exact absurd hlt (by change ¬(c.ioSize.toNat < 8); omega)

/-- An iteration of `Send` on a non-timed stream issues one of the sends left. -/
theorem sendsLeft_sendStep (htm : c.timed = false) (hS : 8 ≤ c.ioSize.toNat) {s : PerfClientStream}
    (hw : s.wantsToSend = true) (now : UInt64) :
    sendsLeft c (sendStep c s now).1 + 1 ≤ sendsLeft c s := by
  have hsc : s.sendComplete = false := by
    simp only [wantsToSend, Bool.and_eq_true, Bool.not_eq_true'] at hw; exact hw.1
  by_cases hl : bytesLeftToSend c s ≤ c.ioSize.toUInt64
  · have hc : (sendStep c s now).1.sendComplete = true := by
      simp [sendStep, nextSend, hl]
    simp [sendsLeft, hc, hsc]
  · obtain ⟨hb, hc⟩ := sendStep_of_full htm hS hl now
    have hlt : c.ioSize.toNat < (bytesLeftToSend c s).toNat := by
      have : ¬(bytesLeftToSend c s).toNat ≤ c.ioSize.toUInt64.toNat := hl
      exact Nat.lt_of_not_le this
    simp only [sendsLeft, hc, hsc, hb, Bool.false_eq_true, ↓reduceIte]
    rw [Nat.div_eq_sub_div (by omega) hlt.le]

section Loop

variable (htm : c.timed = false) (hS : 8 ≤ c.ioSize.toNat)
include htm hS

/-- `Send` issues at most the sends left, and what it leaves is the rest. -/
theorem sendsLeft_sendLoop (n : Nat) (clock : Nat → UInt64) {s : PerfClientStream}
    {r : PerfClientStream × List SendOp} (h : sendLoop c clock n s = some r) :
    sendsLeft c r.1 + r.2.length ≤ sendsLeft c s := by
  simpa using @sendLoop_induction c (fun s' ops => sendsLeft c s' + ops.length ≤ sendsLeft c s)
    (fun s' ops now hP hw => by
      have := sendsLeft_sendStep htm hS hw now
      simp only [List.length_append, List.length_singleton]
      omega) n clock s [] r (by simp) h

/-- With as much fuel as sends left, `Send` returns. -/
theorem sendLoop_of_sendsLeft_le : ∀ (n : Nat) (clock : Nat → UInt64) (s : PerfClientStream),
    sendsLeft c s ≤ n → ∃ r, sendLoop c clock n s = some r
  | 0, clock, s, hn => by
    have hsc : s.sendComplete = true := sendsLeft_eq_zero_iff.1 (Nat.le_zero.1 hn)
    exact ⟨_, sendLoop_of_not_wantsToSend c (by simp [wantsToSend, hsc]) clock 0⟩
  | n + 1, clock, s, hn => by
    cases hw : s.wantsToSend
    · exact ⟨_, sendLoop_of_not_wantsToSend c hw clock _⟩
    · obtain ⟨r, hr⟩ := sendLoop_of_sendsLeft_le n (fun k => clock (k + 1)) (sendStep c s (clock 0)).1
        (by have := sendsLeft_sendStep htm hS hw (clock 0); omega)
      exact ⟨_, by simp only [sendLoop, hw, if_true, hr]; rfl⟩

end Loop

/-- `Send` returns only when the stream no longer wants to send. -/
theorem wantsToSend_sendLoop : ∀ (n : Nat) (clock : Nat → UInt64) {s : PerfClientStream}
    {r : PerfClientStream × List SendOp}, sendLoop c clock n s = some r → r.1.wantsToSend = false
  | 0, _, s, r, h => by
    unfold sendLoop at h
    split at h
    · cases h
    · rename_i hw; cases h; exact Bool.eq_false_iff.2 hw
  | n + 1, clock, s, r, h => by
    unfold sendLoop at h
    split at h
    · obtain ⟨r', h', rfl⟩ := Option.map_eq_some'.1 h
      exact wantsToSend_sendLoop (r := r') n _ h'
    · rename_i hw; cases h; exact Bool.eq_false_iff.2 hw

/-- `OnSendComplete` leaves `SendComplete` and `BytesSent`. -/
theorem sendsLeft_onSendComplete (s : PerfClientStream) (length : UInt32) (canceled : Bool) :
    sendsLeft c (s.onSendComplete length canceled) = sendsLeft c s := by
  cases canceled <;> rfl

/-- `Send` leaves `IdealSendBuffer`. -/
theorem sendLoop_idealSendBuffer (n : Nat) (clock : Nat → UInt64) {s : PerfClientStream}
    {r : PerfClientStream × List SendOp} (h : sendLoop c clock n s = some r) :
    r.1.idealSendBuffer = s.idealSendBuffer :=
  @sendLoop_induction c (fun s' _ => s'.idealSendBuffer = s.idealSendBuffer)
    (fun _ _ _ h _ => (sendStep_idealSendBuffer c _ _).trans h) n clock s [] r rfl h

end PerfClientStream
namespace World

open PerfClientStream

variable {c : PerfClient} {W : World} {w k : Nat}

@[simp] theorem streams_setStream (W : World) (w k : Nat) (sl : StreamSlot) (w' : Nat) :
    ((W.setStream w k sl).workers w').streams = (W.workers w').streams := by
  simp only [setStream, setWorker, setAt]
  split <;> simp_all

/-- The transport completes the first pending send of a live QUIC stream, with fuel for every send
left: `OnSendComplete` and `Send` retire it and issue what the window allows, lowering the pending
sends plus the sends left, and leave a stream that no longer wants to send. -/
theorem step_sendComplete (ht : c.useTCP = false) (htm : c.timed = false) (hS : 8 ≤ c.ioSize.toNat)
    (now : UInt64) (hk : k ∈ (W.workers w).streams) {op : SendOp} {rest : List SendOp}
    (hp : ((W.workers w).stream k).pending = op :: rest) :
    ∃ W', step c ⟨now, sendsLeft c ((W.workers w).stream k).st, fun _ => true⟩ W
        (.stream w k (.sendComplete 0 false)) = .ok W' ∧
      (W'.workers w).streams = (W.workers w).streams ∧
      ((W'.workers w).stream k).pending.length + sendsLeft c ((W'.workers w).stream k).st <
        ((W.workers w).stream k).pending.length + sendsLeft c ((W.workers w).stream k).st ∧
      ((W'.workers w).stream k).st.wantsToSend = false ∧
      ((W'.workers w).stream k).st.idealSendBuffer = ((W.workers w).stream k).st.idealSendBuffer := by
  set sl := (W.workers w).stream k with hsl
  obtain ⟨r, hr⟩ := sendLoop_of_sendsLeft_le htm hS (sendsLeft c sl.st) (fun _ => now)
    (sl.st.onSendComplete (if op.buffer = .last then sl.st.lastBufferLength else c.ioSize) false)
    (sendsLeft_onSendComplete _ _ _).le
  have hg : (!c.useTCP) = true ∧ k ∈ (W.workers w).streams := ⟨by simp [ht], hk⟩
  have hle := sendsLeft_sendLoop htm hS _ _ hr
  rw [sendsLeft_onSendComplete] at hle
  refine ⟨(W.setStream w k { sl with
      st := sl.st.onSendComplete (if op.buffer = .last then sl.st.lastBufferLength else c.ioSize) false
      pending := rest }).setStream w k ⟨sl.conn, r.1, rest ++ r.2⟩, ?_, ?_, ?_, ?_, ?_⟩
  · simp only [step, if_pos hg, streamCallback, ← hsl, hp, List.getElem?_cons_zero, Bool.false_eq_true,
      ↓reduceIte, List.eraseIdx_cons_zero, send, stream_setStream, and_self, hr, ht, Bool.not_false, hk]
    rfl
  · simp
  · simp only [stream_setStream, and_self, ↓reduceIte, List.length_append, hp, List.length_cons]
    omega
  · simpa using wantsToSend_sendLoop _ _ hr
  · simpa using sendLoop_idealSendBuffer _ _ hr

end World

/-- **A QUIC upload always finishes** (non-timed, `IoSize ≥ 8` as `Init` ensures): from every world a
run reaches, a live stream with a nonzero `IdealSendBuffer` that has a send pending or no longer wants
to send reaches, by the transport completing its first pending send again and again, a world where it
is still live, has `SendComplete` set, and has no send pending and no byte outstanding. -/
theorem upload_completes {c : PerfClient} {W : World} (h : Reachable c W) (ht : c.useTCP = false)
    (htm : c.timed = false) (hS : 8 ≤ c.ioSize.toNat) {w k : Nat} (hk : k ∈ (W.workers w).streams)
    (hi : 0 < ((W.workers w).stream k).st.idealSendBuffer.toNat)
    (hw : ((W.workers w).stream k).pending ≠ [] ∨ ((W.workers w).stream k).st.wantsToSend = false) :
    ∃ es W', World.run c W es = .ok W' ∧ (∀ p ∈ es, p.2 = .stream w k (.sendComplete 0 false)) ∧
      k ∈ (W'.workers w).streams ∧ ((W'.workers w).stream k).pending = [] ∧
      ((W'.workers w).stream k).st.sendComplete = true ∧
      ((W'.workers w).stream k).st.bytesOutstanding = 0 := by
  have hb : ∀ {W : World}, Reachable c W → ((W.workers w).stream k).pending = [] →
      ((W.workers w).stream k).st.bytesOutstanding = 0 := fun h hp => by
    rw [(h.balanced ht w k).outstanding, hp, sendBytes_nil]
  obtain ⟨es, W', hr, hes, ⟨hR, hk', -, -⟩, h0⟩ := World.drain_by (c := c)
    (fun e => e = .stream w k (.sendComplete 0 false))
    (fun W => Reachable c W ∧ k ∈ (W.workers w).streams ∧
      0 < ((W.workers w).stream k).st.idealSendBuffer.toNat ∧
      (((W.workers w).stream k).pending ≠ [] ∨ ((W.workers w).stream k).st.wantsToSend = false))
    (fun W => ((W.workers w).stream k).pending.length +
      PerfClientStream.sendsLeft c ((W.workers w).stream k).st)
    (fun W ⟨hR, hk, hi, hw⟩ hpos => by
      cases hp : ((W.workers w).stream k).pending with
      | cons op rest =>
        obtain ⟨W', hs, hst, hlt, hw', hi'⟩ := World.step_sendComplete ht htm hS 0 hk hp
        exact ⟨_, _, W', rfl, hs, ⟨hR.step _ _ hs, hst ▸ hk, hi' ▸ hi, .inr hw'⟩, hlt⟩
      | nil =>
        have hd := PerfClientStream.done_of_not_wantsToSend (hw.resolve_left (not_not.2 hp))
        have ho := hb hR hp
        rcases hd with hd | hd
        · simp [hp, PerfClientStream.sendsLeft_eq_zero_iff.2 hd] at hpos
        · rw [ho] at hd
          exact absurd (show ((W.workers w).stream k).st.idealSendBuffer.toNat ≤ 0 from hd) (by omega))
    W ⟨h, hk, hi, hw⟩
  have hp : ((W'.workers w).stream k).pending = [] := List.length_eq_zero.1 (by omega)
  exact ⟨es, W', hr, hes, hk', hp, (PerfClientStream.sendsLeft_eq_zero_iff (c := c)).1 (by omega),
    hb hR hp⟩

/-- A 300000-byte upload in 65536-byte sends: right after `CONNECTED` its first send is pending, and
the transport's completions take it to the end. -/
theorem upload_completes_after_connect :
    let c := { PerfClient.defaults ⟨4433, 65536, 2000000⟩ with
      workerCount := 1, streamCount := 1, upload := 300000 }
    let es : List (Inputs × World.Event) :=
      [.queue, .startNewConnection 0 ⟨true, true, true, true, true, true, none, true⟩,
        .connected 0 0].map (Prod.mk ⟨1, 10, fun _ => true⟩)
    ∃ W, World.run c (World.init c) es = .ok W ∧ 0 ∈ (W.workers 0).streams ∧
      0 < ((W.workers 0).stream 0).st.idealSendBuffer.toNat ∧ ((W.workers 0).stream 0).pending ≠ [] ∧
      ∃ es' W', World.run c W es' = .ok W' ∧ (∀ p ∈ es', p.2 = .stream 0 0 (.sendComplete 0 false)) ∧
        0 ∈ (W'.workers 0).streams ∧ ((W'.workers 0).stream 0).pending = [] ∧
        ((W'.workers 0).stream 0).st.sendComplete = true ∧
        ((W'.workers 0).stream 0).st.bytesOutstanding = 0 := by
  intro c es
  obtain ⟨W, hW, hk, hi, hp⟩ : ∃ W, World.run c (World.init c) es = .ok W ∧ 0 ∈ (W.workers 0).streams ∧
      0 < ((W.workers 0).stream 0).st.idealSendBuffer.toNat ∧ ((W.workers 0).stream 0).pending ≠ [] := by
    simp only [c, es]; exact ⟨_, rfl, by decide, by decide, by decide⟩
  exact ⟨W, hW, hk, hi, hp, upload_completes (Reachable.init.run hW) rfl rfl (by decide) hk hi (.inl hp)⟩

end SecNetPerf
