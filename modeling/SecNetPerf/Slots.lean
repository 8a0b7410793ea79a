import SecNetPerf.Refinement

/-!
# SecNetPerf.Slots — a property of every stream slot, kept by the handlers

`World.AllSlots P` says that every stream slot of every worker satisfies `P`.  Most handlers leave
the stream pools alone; `StartNewStream` fills a slot with a fresh stream and no pending send and
then calls `Send`, and the stream callbacks change one slot.  So an invariant of one slot has two
obligations of its own (`SlotInvariant`: a fresh slot satisfies it, `Send` keeps it), and with them
every handler but the stream callbacks keeps it; this module proves that once, for every `P`.
-/

namespace SecNetPerf

/-- Every stream slot of every worker satisfies `P`. -/
def World.AllSlots (P : StreamSlot → Prop) (W : World) : Prop := ∀ w k, P ((W.workers w).stream k)

/-- What an invariant of one slot has to show for itself: the slot `StartNewStream` fills satisfies
it (a fresh stream, with its TCP signature, and no pending send), and `Send` keeps it. -/
structure SlotInvariant (P : StreamSlot → Prop) (c : PerfClient) (inp : Inputs) : Prop where
  new : ∀ (cid : Nat) (sig : UInt32),
    P ⟨cid, { PerfClientStream.new c inp.now with signature := sig }, []⟩
  send : ∀ {W W' : World} {w k : Nat},
    W.AllSlots P → World.send c inp w k W = .ok W' → W'.AllSlots P

namespace World.AllSlots

variable {P : StreamSlot → Prop} {c : PerfClient} {inp : Inputs} {W W' : World} {w : Nat}

/-! ## Updates -/

theorem setWorker (h : W.AllSlots P) {wk : PerfClientWorker} (hs : ∀ k, P (wk.stream k)) :
    (W.setWorker w wk).AllSlots P := by
  intro w' k
  unfold World.setWorker setAt
  dsimp only
  split
  · exact hs k
  · exact h w' k

/-- A worker update that keeps the worker's streams. -/
theorem setWorker_same (h : W.AllSlots P) {wk : PerfClientWorker}
    (hs : wk.stream = (W.workers w).stream) : (W.setWorker w wk).AllSlots P :=
  h.setWorker fun k => hs ▸ h w k

theorem setStream (h : W.AllSlots P) {k : Nat} {sl : StreamSlot} (hs : P sl) :
    (W.setStream w k sl).AllSlots P :=
  h.setWorker fun k' => by
    unfold setAt; dsimp only; split
    · exact hs
    · exact h w k'

theorem setConn (h : W.AllSlots P) {cid : Nat} {cn : PerfClientConnection} :
    (W.setConn w cid cn).AllSlots P :=
  h.setWorker_same rfl

theorem call (h : W.AllSlots P) {a : ApiCall} : (W.call a).AllSlots P := h

theorem connectionShutdown (h : W.AllSlots P) {cid : Nat} :
    (connectionShutdown w cid W).AllSlots P :=
  h.setConn

theorem recordLatency (h : W.AllSlots P) {l : UInt64} : (recordLatency c l W).AllSlots P := by
  unfold AllSlots; rw [recordLatency_workers]; exact h

/-! ## Handlers that never touch a stream -/

theorem workerOnConnectionComplete (h : W.AllSlots P) :
    (workerOnConnectionComplete c w W).AllSlots P := by
  unfold World.workerOnConnectionComplete
  dsimp only
  refine h.setWorker_same ?_
  split_ifs <;> rfl

theorem onShutdownComplete (h : W.AllSlots P) {cid : Nat} :
    (onShutdownComplete c w cid W).AllSlots P := by
  unfold World.onShutdownComplete
  dsimp only
  have h0 : (if c.printConnections then W.call (.printConnectionStatistics w cid) else W).AllSlots
      P := by
    split <;> exact h
  exact h0.workerOnConnectionComplete.setWorker_same rfl

theorem startNewConnection (h : W.AllSlots P) {r : InitResults} :
    (startNewConnection c w r W).AllSlots P := by
  unfold World.startNewConnection
  dsimp only
  split <;> exact h.setWorker_same rfl

/-! ## Handlers that start streams -/

section Invariant

variable (hP : SlotInvariant P c inp)
include hP

theorem startNewStream (h : W.AllSlots P) {cid : Nat} {ok : Bool}
    (hs : startNewStream c inp w cid ok W = .ok W') : W'.AllSlots P := by
  unfold World.startNewStream at hs
  split at hs
  · refine hP.send (h.setWorker fun k' => ?_) hs
    unfold setAt; dsimp only; split
    · split
      · exact hP.new cid _
      · exact hP.new cid 0
    · exact h w k'
  · simp only [pure_eq_ok] at hs; subst hs; exact h.setWorker_same rfl

theorem startStreams {cid : Nat} : ∀ {n i : Nat} {W W' : World}, W.AllSlots P →
    startStreams c inp w cid n i W = .ok W' → W'.AllSlots P
  | 0, _, _, _, h, hs => by simp only [World.startStreams, pure_eq_ok] at hs; exact hs ▸ h
  | n + 1, _, _, _, h, hs => by
    obtain ⟨W1, h1, h2⟩ := bind_eq_ok.1 hs
    exact startStreams (startNewStream hP h h1) h2

theorem onConnectionComplete (h : W.AllSlots P) {cid : Nat}
    (hs : onConnectionComplete c inp w cid W = .ok W') : W'.AllSlots P := by
  unfold World.onConnectionComplete at hs
  dsimp only at hs
  have h1 : (W.setWorker w { W.workers w with
      connectionsConnected := (W.workers w).connectionsConnected + 1 }).AllSlots P :=
    h.setWorker_same rfl
  split at hs
  · simp only [pure_eq_ok] at hs; subst hs; exact h1.connectionShutdown
  · exact startStreams hP h1 hs

theorem connOnStreamShutdownComplete (h : W.AllSlots P) {cid : Nat}
    (hs : connOnStreamShutdownComplete c inp w cid W = .ok W') : W'.AllSlots P := by
  unfold World.connOnStreamShutdownComplete at hs
  dsimp only at hs
  split at hs
  · exact startStreams hP h.setConn hs
  · split at hs <;> simp only [pure_eq_ok] at hs <;> subst hs
    · exact h.setConn.connectionShutdown
    · exact h.setConn

/-- Finalizing a stream frees its id but leaves its slot as it was. -/
theorem onStreamShutdownComplete (h : W.AllSlots P) {k : Nat}
    (hs : onStreamShutdownComplete c inp w k W = .ok W') : W'.AllSlots P := by
  unfold World.onStreamShutdownComplete at hs
  dsimp only at hs
  split at hs
  · exact absurd hs throw_ne_ok
  · simp only [pure_bind] at hs
    refine connOnStreamShutdownComplete hP ?_ hs
    refine AllSlots.setWorker_same ?_ rfl
    split
    · exact h.recordLatency.setWorker_same rfl
    · exact h.setWorker_same rfl

/-- Over QUIC, a slot invariant that the stream callbacks keep is kept by every event. -/
theorem step_quic (ht : c.useTCP = false)
    (hcb : ∀ {W W' : World} {w k : Nat} {e : StreamEvent}, W.AllSlots P →
      streamCallback c inp w k W e = .ok W' → W'.AllSlots P)
    (h : W.AllSlots P) {e : Event} (hs : World.step c inp W e = .ok W') : W'.AllSlots P := by
  cases e with
  | queue =>
    simp only [World.step] at hs
    split_ifs at hs
    simp only [pure_eq_ok] at hs; subst hs; exact h.setWorker_same rfl
  | startNewConnection w r =>
    simp only [World.step] at hs
    split_ifs at hs
    simp only [pure_eq_ok] at hs; subst hs; exact h.startNewConnection
  | stop => simp only [World.step, pure_eq_ok] at hs; subst hs; exact h
  | connected w cid =>
    simp only [World.step] at hs
    split_ifs at hs
    exact h.setConn.onConnectionComplete hP hs
  | shutdownComplete w cid =>
    simp only [World.step] at hs
    split_ifs at hs <;> simp only [pure_eq_ok] at hs <;> subst hs
    · refine AllSlots.onShutdownComplete ?_
      exact h.setWorker_same rfl
    · exact h.onShutdownComplete
  | stream w k e =>
    simp only [World.step] at hs
    split_ifs at hs
    exact hcb h hs
  | tcpConnect w cid isConnected | tcpReceive w cid id fin abort length | tcpSendComplete w cid n =>
    simp only [World.step, ht, Bool.false_eq_true, ↓reduceIte, throw_ne_ok] at hs

end Invariant

end World.AllSlots

/-- Over QUIC, a slot invariant of the first world whose obligations hold at every input and that
the stream callbacks keep holds on every world a run reaches. -/
theorem Reachable.allSlots {P : StreamSlot → Prop} {c : PerfClient} {W : World} (h : Reachable c W)
    (ht : c.useTCP = false) (h0 : (World.init c).AllSlots P) (hP : ∀ inp, SlotInvariant P c inp)
    (hcb : ∀ inp {W W' : World} {w k : Nat} {e : World.StreamEvent}, W.AllSlots P →
      World.streamCallback c inp w k W e = .ok W' → W'.AllSlots P) :
    W.AllSlots P := by
  induction h with
  | init => exact h0
  | step inp e _ hs ih => exact World.AllSlots.step_quic (hP inp) ht (hcb inp) ih hs

/-! ## Slots a handler leaves alone -/

/-- `W'` has handed out every stream id that `W` has, and keeps the slots of those ids. -/
structure World.KeepsSlots (W W' : World) : Prop where
  nextStream_le : ∀ w, (W.workers w).nextStream ≤ (W'.workers w).nextStream
  stream_eq : ∀ w k, k < (W.workers w).nextStream → (W'.workers w).stream k = (W.workers w).stream k

namespace World

variable {c : PerfClient} {inp : Inputs} {W W' W'' : World} {w : Nat}

@[simp] theorem stream_setStream (W : World) (w k : Nat) (sl : StreamSlot) (w' k' : Nat) :
    ((W.setStream w k sl).workers w').stream k' =
      if w' = w ∧ k' = k then sl else (W.workers w').stream k' := by
  simp only [setStream, setWorker, setAt]
  by_cases hw : w' = w <;> simp [hw, Function.update_apply]

@[simp] theorem stream_enqueue (W : World) (w cid : Nat) (ds : List TcpSendData) (w' : Nat) :
    ((W.enqueue w cid ds).workers w').stream = (W.workers w').stream := by
  simp only [enqueue, setConn, setWorker, setAt]
  split_ifs with hw <;> [subst hw; skip] <;> rfl

/-- `Send` on stream `k` writes slot `k` only. -/
theorem send_stream_of_ne {k : Nat} (hs : send c inp w k W = .ok W') {w' k' : Nat}
    (hne : w' ≠ w ∨ k' ≠ k) : (W'.workers w').stream k' = (W.workers w').stream k' := by
  unfold send at hs
  cases hl : PerfClientStream.sendLoop c (fun _ => inp.now) inp.fuel ((W.workers w).stream k).st with
  | none => simp [hl] at hs
  | some r =>
    simp only [hl] at hs
    have hne : ¬(w' = w ∧ k' = k) := by tauto
    split at hs <;> simp only [pure_eq_ok] at hs <;> subst hs <;>
      simp only [setSt, stream_enqueue, stream_setStream, if_neg hne]

theorem send_nextStream {k : Nat} (hs : send c inp w k W = .ok W') (w' : Nat) :
    (W'.workers w').nextStream = (W.workers w').nextStream :=
  congrArg (fun B => (B.workers w').nextStream) (books_send c inp hs)

namespace KeepsSlots

theorem refl (W : World) : W.KeepsSlots W := ⟨fun _ => le_rfl, fun _ _ _ => rfl⟩

theorem trans (h : W.KeepsSlots W') (h' : W'.KeepsSlots W'') : W.KeepsSlots W'' :=
  ⟨fun w => (h.nextStream_le w).trans (h'.nextStream_le w), fun w k hk =>
    (h'.stream_eq w k (lt_of_lt_of_le hk (h.nextStream_le w))).trans (h.stream_eq w k hk)⟩

/-- A worker update that keeps the worker's slots below its next id, which it does not lower. -/
theorem setWorker {wk : PerfClientWorker} (hn : (W.workers w).nextStream ≤ wk.nextStream)
    (hs : ∀ k, k < (W.workers w).nextStream → wk.stream k = (W.workers w).stream k) :
    W.KeepsSlots (W.setWorker w wk) := by
  refine ⟨fun w' => ?_, fun w' k hk => ?_⟩ <;> simp only [World.setWorker, setAt] <;> split_ifs with h
  · exact h ▸ hn
  · exact le_rfl
  · subst h; exact hs k hk
  · rfl

theorem setWorker_same {wk : PerfClientWorker} (hs : wk.stream = (W.workers w).stream)
    (hn : wk.nextStream = (W.workers w).nextStream) : W.KeepsSlots (W.setWorker w wk) :=
  setWorker hn.ge fun k _ => congrFun hs k

theorem setConn {cid : Nat} {cn : PerfClientConnection} : W.KeepsSlots (W.setConn w cid cn) :=
  setWorker_same rfl rfl

theorem call (h : W.KeepsSlots W') {a : ApiCall} : W.KeepsSlots (W'.call a) := ⟨h.1, h.2⟩

theorem connectionShutdown {cid : Nat} : W.KeepsSlots (World.connectionShutdown w cid W) :=
  setConn.call

theorem recordLatency {l : UInt64} : W.KeepsSlots (World.recordLatency c l W) := by
  constructor <;> simp

/-- `Send` on a stream id that `W` has not handed out. -/
theorem send_of_le {k : Nat} (h : W.KeepsSlots W') (hk : (W.workers w).nextStream ≤ k)
    (hs : send c inp w k W' = .ok W'') : W.KeepsSlots W'' := by
  refine ⟨fun w' => (h.nextStream_le w').trans (send_nextStream hs w').ge, fun w' k' hk' => ?_⟩
  have hne : w' ≠ w ∨ k' ≠ k := by
    rcases eq_or_ne w' w with rfl | hw
    · exact .inr (by omega)
    · exact .inl hw
  rw [send_stream_of_ne hs hne, h.stream_eq w' k' hk']

theorem startNewStream {cid : Nat} {ok : Bool} (hs : startNewStream c inp w cid ok W = .ok W') :
    W.KeepsSlots W' := by
  unfold World.startNewStream at hs
  dsimp only at hs
  split at hs
  · refine send_of_le (setWorker (Nat.le_succ _) fun k hk => ?_) le_rfl hs
    simp only [setAt]
    exact if_neg hk.ne
  · simp only [pure_eq_ok] at hs; subst hs
    exact setWorker (Nat.le_succ _) fun _ _ => rfl

theorem startStreams {cid : Nat} : ∀ {n i : Nat} {W W' : World},
    startStreams c inp w cid n i W = .ok W' → W.KeepsSlots W'
  | 0, _, _, _, hs => by simp only [World.startStreams, pure_eq_ok] at hs; exact hs ▸ refl _
  | n + 1, _, _, _, hs => by
    obtain ⟨W1, h1, h2⟩ := bind_eq_ok.1 hs
    exact (startNewStream h1).trans (startStreams h2)

theorem connOnStreamShutdownComplete {cid : Nat}
    (hs : connOnStreamShutdownComplete c inp w cid W = .ok W') : W.KeepsSlots W' := by
  unfold World.connOnStreamShutdownComplete at hs
  dsimp only at hs
  split at hs
  · exact setConn.trans (startStreams hs)
  · split at hs <;> simp only [pure_eq_ok] at hs <;> subst hs
    · exact setConn.trans connectionShutdown
    · exact setConn

/-- Finalizing a stream frees its id and keeps every slot. -/
theorem onStreamShutdownComplete {k : Nat} (hs : onStreamShutdownComplete c inp w k W = .ok W') :
    W.KeepsSlots W' := by
  unfold World.onStreamShutdownComplete at hs
  dsimp only at hs
  split at hs
  · exact absurd hs throw_ne_ok
  · simp only [pure_bind] at hs
    refine .trans ?_ (connOnStreamShutdownComplete hs)
    refine .trans ?_ (setWorker_same rfl rfl)
    split
    · exact recordLatency.trans (setWorker_same rfl rfl)
    · exact setWorker_same rfl rfl

end KeepsSlots

end World

end SecNetPerf
