import SecNetPerf.Start
import SecNetPerf.Latency

/-!
# SecNetPerf.Workers — what `Init` and `Start` give each worker

`Init` gives each worker a local address from `-bind`; `Start`'s worker loop gives each a processor
and a target host name, one worker after another.

* **Local addresses.** The parse loop takes the first `min(n, WorkerCount)` of the `n` listed
  addresses (`bindLoop_spec`), and the fill loop gives worker `i ≥ Index` the address of worker
  `(i - Index) % Index`, which is `i % Index`, a slot the parse loop filled (`fillLoop_mod`).  So
  worker `i` binds to address `i mod min(n, WorkerCount)` (`bind_round_robin`), and the addresses
  past the `WorkerCount`-th need not even parse.
* **Processors.** `while (!CxPlatProcIsActive(IdealProcessor)) ++IdealProcessor` runs on the 16-bit
  `IdealProcessor` with no bound: it stops at the first active processor at or after its start,
  counting past 65535 back to 0 (`findActive_add`), and never when none is active.  A failed
  `CxPlatThreadCreate` ends the loop after its worker (`startWorkers_threads`).  With at least
  `WorkerCount` active processors the workers get the first active processors, one each, in
  increasing order (`start_processors`, `active_processors_distinct`); with fewer the search wraps
  and hands a processor out again, and with none it never returns (`processor_search_wraps`).
* **Targets.** `Start` copies `Target` into a buffer of `TargetLen + 10` characters, writes the two
  hex digits of the processor after it under `IncrementTarget`, and then writes the terminator at
  `TargetLen` whatever `IncrementTarget` is: every worker's host name is `Target` itself
  (`worker_targets_are_target`, `worker_targets_lose_suffix`).

A buffer is a list of characters, `none` where nothing has been written (`new char[]` leaves them
indeterminate), one character per `char` as for the ASCII host names a target is.
-/

namespace SecNetPerf

/-! ## The `-bind` list -/

section Bind

variable {convert : String → Option QuicAddr} {wc : UInt32}

/-- The parse loop of `-bind` from `Index = index`: it stops at `min(index + n, WorkerCount)` for a
list of `n`, keeps the slots below `index`, and fills slot `j` from the `(j - index)`-th address. -/
theorem bindLoop_spec {l : List String} :
    ∀ {index : Nat} {la : Nat → QuicAddr} {r : Nat × (Nat → QuicAddr)},
      bindLoop convert wc l index la = .ok r → index ≤ wc.toNat →
      r.1 = min (index + l.length) wc.toNat ∧ (∀ j < index, r.2 j = la j) ∧
        ∀ j, index ≤ j → j < r.1 → ∃ a, l[j - index]? = some a ∧ convert a = some (r.2 j) := by
  induction l with
  | nil =>
    intro index la r h hw
    cases h
    exact ⟨(Nat.min_eq_left hw).symm, fun _ _ => rfl, fun j h1 h2 => absurd h2 (by omega)⟩
  | cons a rest ih =>
    intro index la r h hw
    unfold bindLoop at h
    split_ifs at h with hi
    · split at h
      next addr ha =>
        obtain ⟨h1, h2, h3⟩ := ih h hi
        refine ⟨by simp only [h1, List.length_cons]; omega, fun j hj => ?_, fun j hj1 hj2 => ?_⟩
        · rw [h2 j (by omega), Function.update_noteq (by omega)]
        · rcases Nat.eq_or_lt_of_le hj1 with rfl | hj1
          · rw [h2 _ (Nat.lt_succ_self _), Function.update_same, Nat.sub_self]
            exact ⟨a, List.getElem?_cons_zero, ha⟩
          · obtain ⟨b, hb, hc⟩ := h3 j hj1 hj2
            refine ⟨b, ?_, hc⟩
            rwa [show j - index = j - (index + 1) + 1 by omega, List.getElem?_cons_succ]
      · cases h
    · cases h
      exact ⟨by omega, fun _ _ => rfl, fun j h1 h2 => absurd h2 (by omega)⟩

/-- The parse loop fails only on an address it converts: when the first `WorkerCount - Index`
addresses convert, it returns, whatever follows them. -/
theorem bindLoop_ok : ∀ (l : List String) (index : Nat) (la : Nat → QuicAddr),
    (∀ a ∈ l.take (wc.toNat - index), (convert a).isSome) →
      ∃ r, bindLoop convert wc l index la = .ok r
  | [], _, _, _ => ⟨_, rfl⟩
  | a :: rest, index, la, h => by
    unfold bindLoop
    split_ifs with hi
    · rw [show wc.toNat - index = wc.toNat - (index + 1) + 1 by omega, List.take_succ_cons] at h
      obtain ⟨addr, ha⟩ := Option.isSome_iff_exists.1 (h a (List.mem_cons_self _ _))
      rw [ha]
      exact bindLoop_ok rest (index + 1) _ fun b hb => h b (List.mem_cons_of_mem _ hb)
    · exact ⟨_, rfl⟩

end Bind

/-- The fill loop of `-bind` from `i ≥ Index`: slot `j` ends with the address of slot
`j % Index`, since `(j - Index) % Index = j % Index` is always a slot below `Index`, one the loop
has not written. -/
theorem fillLoop_mod {index : Nat} (h0 : 0 < index) :
    ∀ (n i : Nat) (la : Nat → QuicAddr), index ≤ i → (∀ j < i, la j = la (j % index)) →
      ∀ j < i + n, fillLoop index n i la j = la (j % index)
  | 0, _, _, _, h, j, hj => h j hj
  | n + 1, i, la, hi, h, j, hj => by
    have hmod : ∀ j, j % index ≠ i := fun j => by have := Nat.mod_lt j h0; omega
    have step := fillLoop_mod h0 n (i + 1) (Function.update la i (la ((i - index) % index)))
      (by omega) (fun j' hj' => by
        rw [Function.update_noteq (hmod j')]
        rcases Nat.lt_succ_iff_lt_or_eq.1 hj' with hj' | rfl
        · rw [Function.update_noteq (by omega), h j' hj']
        · rw [Function.update_same, ← Nat.mod_eq_sub_mod hi])
      j (by omega)
    rw [fillLoop, step, Function.update_noteq (hmod j)]

section Init

variable {k : PerfConstants} {env : InitEnv} {args : Args}

/-- With a `-bind` list, `localOptions` runs the parse loop over its pieces from `Index = 0`, and
the fill loop after it. -/
theorem localOptions_bind {c0 c : PerfClient} {list : String} (hb : args.str "bind" = some list)
    (h : localOptions env args c0 = .ok c) :
    ∃ index la, bindLoop env.convertArgToAddress c.workerCount (list.splitOn ",") 0 c0.localAddr =
        .ok (index, la) ∧ c.localAddr = fillLoop index (c.workerCount.toNat - index) index la := by
  unfold localOptions at h
  rw [hb] at h
  obtain ⟨⟨index, la⟩, hl, h⟩ := bind_eq_ok.1 h
  simp only [pure_eq_ok] at h
  subst h
  exact ⟨index, la, hl, rfl⟩

/-- The scenario options leave `WorkerCount` and the local addresses alone.  Each check is decided
before the definition is simplified, so that no branch is expanded twice. -/
theorem scenarioOptions_keeps {c c' : PerfClient} (h : scenarioOptions args c = .ok c') :
    c'.workerCount = c.workerCount ∧ c'.localAddr = c.localAddr := by
  unfold scenarioOptions at h
  by_cases h1 : args.u32 "iosize" c.ioSize < 256
  · simp only [h1, if_true] at h
    exact absurd h throw_ne_ok
  by_cases h2 : ((args.flag "rconn" c.repeatConnections || args.flag "rstream" c.repeatStreams) &&
      decide (args.u32 "run" (args.u32 "time" (args.u32 "runtime" c.runTime)) = 0)) = true
  · simp only [h1, h2, if_true, if_false, Bool.false_eq_true, pure_bind] at h
    exact absurd h throw_ne_ok
  by_cases h3 : (c.useTCP && !c.useEncryption) = true
  · simp only [h1, h2, h3, if_true, if_false, Bool.false_eq_true, pure_bind] at h
    exact absurd h throw_ne_ok
  simp only [h1, h2, h3, if_false, Bool.false_eq_true, pure_bind, pure_eq_ok] at h
  subst h
  split <;> exact ⟨rfl, rfl⟩

/-- `Init`'s `WorkerCount` and local addresses are those `localOptions` sets. -/
theorem init_localOptions {c : PerfClient} (h : init k env args = .ok c) :
    ∃ c0 c1, localOptions env args c0 = .ok c1 ∧ c.workerCount = c1.workerCount ∧
      c.localAddr = c1.localAddr := by
  obtain ⟨c0, -, h⟩ := bind_eq_ok.1 h
  obtain ⟨c1, h1, h⟩ := bind_eq_ok.1 h
  obtain ⟨c2, h2, h⟩ := bind_eq_ok.1 h
  have hc := latencyOptions_eq h
  obtain ⟨hw, hl⟩ := scenarioOptions_keeps h2
  refine ⟨c0, c1, h1, ?_⟩
  split at hc <;> subst hc <;> exact ⟨hw, hl⟩

/-- The `-bind` law on the options block that reads the list: with `WorkerCount ≥ 1`, worker `i`
binds to the address number `i mod min(n, WorkerCount)` of the `n` the list holds. -/
theorem localOptions_round_robin {c0 c : PerfClient} {list : String} (hb : args.str "bind" = some list)
    (h : localOptions env args c0 = .ok c) (hw : 0 < c.workerCount.toNat) :
    ∀ i < c.workerCount.toNat,
      ∃ a, (list.splitOn ",")[i % min (list.splitOn ",").length c.workerCount.toNat]? = some a ∧
        env.convertArgToAddress a = some (c.localAddr i) := by
  intro i hi
  obtain ⟨index, la, hl, hfill⟩ := localOptions_bind hb h
  obtain ⟨hidx, -, hparse⟩ := bindLoop_spec hl (Nat.zero_le _)
  dsimp only at hidx hparse
  rw [Nat.zero_add] at hidx
  have h0 : 0 < index := by
    have := List.length_pos.2 (splitOn_ne_nil list ",")
    rw [hidx]; omega
  obtain ⟨a, ha, hc⟩ := hparse (i % index) (Nat.zero_le _) (Nat.mod_lt i h0)
  rw [Nat.sub_zero, hidx] at ha
  refine ⟨a, ha, ?_⟩
  rwa [hfill, fillLoop_mod h0 _ index la le_rfl (fun j hj => by rw [Nat.mod_eq_of_lt hj]) i (by omega)]

/-- **The `-bind` law.**  The list never fails `Init` when its first `WorkerCount` addresses parse,
whatever follows them; and when `Init` succeeds with `WorkerCount ≥ 1`, worker `i` binds to the
address number `i mod min(n, WorkerCount)` of the `n` the list holds. -/
theorem bind_round_robin {list : String} (hb : args.str "bind" = some list) :
    (∀ c0, (∀ a ∈ (list.splitOn ",").take
        (args.u32 "workers" (args.u32 "threads" env.procActiveCount)).toNat,
        (env.convertArgToAddress a).isSome) → ∃ c, localOptions env args c0 = .ok c) ∧
    ∀ c, init k env args = .ok c → 0 < c.workerCount.toNat → ∀ i < c.workerCount.toNat,
      ∃ a, (list.splitOn ",")[i % min (list.splitOn ",").length c.workerCount.toNat]? = some a ∧
        env.convertArgToAddress a = some (c.localAddr i) := by
  refine ⟨fun c0 hp => ?_, fun c h hw => ?_⟩
  · obtain ⟨r, hr⟩ := bindLoop_ok (list.splitOn ",") 0 c0.localAddr hp
    simp only [localOptions, hb, hr, bind, Except.bind]
    exact ⟨_, rfl⟩
  · obtain ⟨c0, c1, h1, hwc, hla⟩ := init_localOptions h
    rw [hwc, hla]
    exact localOptions_round_robin hb h1 (hwc ▸ hw)

end Init

unseal String.splitOnAux in
/-- `-bind:a,b` on three workers: the third worker binds to the first address again. -/
theorem bind_round_robin_two_on_three :
    ∃ c, init ⟨4433, 65536, 2000000⟩ ⟨1, .success, fun _ => ⟨[], Nat.zero_le _⟩,
          fun s => if s = "a" then some ⟨.inet, [10, 0, 0, 1], 0⟩
            else if s = "b" then some ⟨.inet, [10, 0, 0, 2], 0⟩ else none, true, true⟩
        ⟨false, fun s => if s = "target" then some "server" else if s = "bind" then some "a,b" else none,
          fun s => if s = "threads" then some 3 else none⟩ = .ok c ∧
      c.workerCount = 3 ∧ c.localAddr 2 = ⟨.inet, [10, 0, 0, 1], 0⟩ := by
  obtain ⟨c, hc, hw⟩ : ∃ c, init ⟨4433, 65536, 2000000⟩ ⟨1, .success, fun _ => ⟨[], Nat.zero_le _⟩,
          fun s => if s = "a" then some ⟨.inet, [10, 0, 0, 1], 0⟩
            else if s = "b" then some ⟨.inet, [10, 0, 0, 2], 0⟩ else none, true, true⟩
        ⟨false, fun s => if s = "target" then some "server" else if s = "bind" then some "a,b" else none,
          fun s => if s = "threads" then some 3 else none⟩ = .ok c ∧ c.workerCount = 3 := ⟨_, rfl, rfl⟩
  obtain ⟨a, ha, hconv⟩ := (bind_round_robin rfl).2 c hc (by rw [hw]; decide) 2 (by rw [hw]; decide)
  rw [show "a,b".splitOn "," = ["a", "b"] from rfl, hw] at ha
  cases ha
  exact ⟨c, hc, hw, (Option.some.inj hconv).symm⟩

/-! ## Processors -/

/-- `while (!CxPlatProcIsActive(IdealProcessor)) ++IdealProcessor;` on the 16-bit
`IdealProcessor`, for at most `fuel` increments: the processor it stops at, or `none` past the
fuel. -/
def findActive (isActive : UInt16 → Bool) : Nat → UInt16 → Option UInt16
  | 0, p => if isActive p then some p else none
  | n + 1, p => if isActive p then some p else findActive isActive n (p + 1)

theorem processor_ofNat_toNat (p : UInt16) : UInt16.ofNat p.toNat = p :=
  UInt16.toNat.inj (Nat.mod_eq_of_lt p.toNat_lt_size)

theorem processor_add_ofNat (p : UInt16) (i : Nat) : p + UInt16.ofNat i = UInt16.ofNat (p.toNat + i) :=
  UInt16.toNat.inj (by show (p.toNat + i % 65536) % 65536 = (p.toNat + i) % 65536; rw [Nat.add_mod_mod])

theorem processor_add_zero (p : UInt16) : p + UInt16.ofNat 0 = p :=
  (processor_add_ofNat p 0).trans (processor_ofNat_toNat p)

theorem processor_succ_add (p : UInt16) (i : Nat) : p + 1 + UInt16.ofNat i = p + UInt16.ofNat (i + 1) := by
  rw [add_assoc, add_comm 1]
  congr 1
  exact UInt16.toNat.inj (by show (i % 65536 + 1) % 65536 = (i + 1) % 65536; rw [Nat.mod_add_mod])

theorem findActive_of_active {isActive : UInt16 → Bool} {p : UInt16} (h : isActive p = true) :
    ∀ fuel, findActive isActive fuel p = some p
  | 0 | _ + 1 => by simp [findActive, h]

/-- The search stops at the first active processor `m` increments on, counted modulo `2^16`, once
the fuel allows `m` increments. -/
theorem findActive_add {isActive : UInt16 → Bool} :
    ∀ (m fuel : Nat) (p : UInt16), (∀ i < m, isActive (p + UInt16.ofNat i) = false) →
      isActive (p + UInt16.ofNat m) = true → m ≤ fuel →
      findActive isActive fuel p = some (p + UInt16.ofNat m)
  | 0, fuel, p, _, ha, _ => by
    rw [processor_add_zero] at ha ⊢; exact findActive_of_active ha fuel
  | m + 1, fuel + 1, p, hi, ha, hf => by
    have h0 := hi 0 (Nat.succ_pos m)
    rw [processor_add_zero] at h0
    rw [findActive, if_neg (by simp [h0]), ← processor_succ_add]
    exact findActive_add m fuel (p + 1)
      (fun i hi' => by rw [processor_succ_add]; exact hi _ (by omega))
      (by rw [processor_succ_add]; exact ha) (by omega)

/-- The active processors from `p` to 65535, in increasing order: what searches from `p` that
never wrap hand out. -/
def activeFrom (isActive : UInt16 → Bool) (p : Nat) : List Nat :=
  (List.range' p (65536 - p)).filter fun k => isActive (UInt16.ofNat k)

theorem activeFrom_of_le {isActive : UInt16 → Bool} {p : Nat} (h : 65536 ≤ p) :
    activeFrom isActive p = [] := by
  simp [activeFrom, Nat.sub_eq_zero_of_le h]

/-- With every processor active, every processor from `p` on. -/
theorem length_activeFrom_of_all {isActive : UInt16 → Bool} (h : ∀ q, isActive q = true) (p : Nat) :
    (activeFrom isActive p).length = 65536 - p := by
  simp [activeFrom, h]

theorem activeFrom_succ {isActive : UInt16 → Bool} {p : Nat} (h : p < 65536) :
    activeFrom isActive p = if isActive (UInt16.ofNat p) then p :: activeFrom isActive (p + 1)
      else activeFrom isActive (p + 1) := by
  unfold activeFrom
  rw [show 65536 - p = 65536 - (p + 1) + 1 by omega, List.range'_succ, List.filter_cons]

/-- The first active processor from `p`: active, none active between, the rest after it. -/
theorem activeFrom_cons {isActive : UInt16 → Bool} {q : Nat} {rest : List Nat} :
    ∀ (m p : Nat), 65536 - p = m → activeFrom isActive p = q :: rest →
      p ≤ q ∧ q < 65536 ∧ isActive (UInt16.ofNat q) = true ∧
        (∀ k, p ≤ k → k < q → isActive (UInt16.ofNat k) = false) ∧ activeFrom isActive (q + 1) = rest
  | 0, p, hm, h => by simp [activeFrom_of_le (show 65536 ≤ p by omega)] at h
  | m + 1, p, hm, h => by
    rw [activeFrom_succ (by omega)] at h
    split at h
    next ha =>
      obtain ⟨rfl, rfl⟩ := List.cons.inj h
      exact ⟨le_rfl, by omega, ha, fun k h1 h2 => absurd h2 (by omega), rfl⟩
    next ha =>
      obtain ⟨h1, h2, h3, h4, h5⟩ := activeFrom_cons m (p + 1) (by omega) h
      refine ⟨by omega, h2, h3, fun k hk1 hk2 => ?_, h5⟩
      rcases Nat.eq_or_lt_of_le hk1 with rfl | hk1
      · simpa using ha
      · exact h4 k hk1 hk2

/-- A search from `p` with fuel for every increment stops at the first active processor from
`p`. -/
theorem findActive_eq_head {isActive : UInt16 → Bool} {fuel : Nat} (hf : 65535 ≤ fuel) {p : UInt16}
    {q : Nat} {rest : List Nat} (hq : activeFrom isActive p.toNat = q :: rest) :
    findActive isActive fuel p = some (UInt16.ofNat q) := by
  obtain ⟨hpq, hq65, ha, hin, -⟩ := activeFrom_cons _ _ rfl hq
  have := findActive_add (q - p.toNat) fuel p
    (fun i hi => by rw [processor_add_ofNat]; exact hin _ (by omega) (by omega))
    (by rw [processor_add_ofNat, Nat.add_sub_cancel' hpq]; exact ha) (by omega)
  rwa [processor_add_ofNat, Nat.add_sub_cancel' hpq] at this

/-! ## Targets -/

/-- `"0123456789ABCDEF"`, the digits of `AppendIntToString`. -/
def hexDigits : List Char := "0123456789ABCDEF".toList

/-- `AppendIntToString(String, Value)` on the buffer from `String` on: the two uppercase hex digits
of `Value` and a terminator. -/
def appendIntToString (s : List (Option Char)) (value : UInt8) : List (Option Char) :=
  ((s.set 0 (some (hexDigits.getD ((value >>> 4) &&& 0xF).toNat '0'))).set 1
    (some (hexDigits.getD (value &&& 0xF).toNat '0'))).set 2 (some '\x00')

example : appendIntToString [none, none, none, none] 0x2A = [some '2', some 'A', some '\x00', none] := by
  decide

/-- The `Target` buffer `Start` builds for a worker on `processor`: `new char[TargetLen + 10]` with
`Target` copied in, then `AppendIntToString(Target + TargetLen, (uint8_t)Processor)` under
`IncrementTarget` and `Target[TargetLen] = '\0'` otherwise, then `Target[TargetLen] = '\0'`. -/
def workerTarget (target : String) (incrementTarget : Bool) (processor : UInt16) :
    List (Option Char) :=
  let targetLen := target.length
  let buf := target.toList.map some ++ List.replicate 10 none
  let buf := if incrementTarget then
      buf.take targetLen ++ appendIntToString (buf.drop targetLen) processor.toUInt8
    else buf.set targetLen (some '\x00')
  buf.set targetLen (some '\x00')

/-- The C string a buffer holds: its characters up to the first NUL, or `none` when the read meets
an indeterminate character or runs off the buffer first. -/
def cString : List (Option Char) → Option (List Char)
  | [] => none
  | none :: _ => none
  | some ch :: rest => if ch = '\x00' then some [] else (cString rest).map (ch :: ·)

theorem cString_append {l : List Char} (h : '\x00' ∉ l) (rest : List (Option Char)) :
    cString (l.map some ++ rest) = (cString rest).map (l ++ ·) := by
  induction l with
  | nil => simp
  | cons ch l ih =>
    rw [List.mem_cons, not_or] at h
    rw [List.map_cons, List.cons_append, cString, if_neg (Ne.symm h.1), ih h.2, Option.map_map]
    rfl

theorem set_length_append {l : List Char} {n : Nat} (hn : n = l.length) (rest : List (Option Char))
    (x : Option Char) : (l.map some ++ rest).set n x = l.map some ++ rest.set 0 x := by
  rw [List.set_append_right _ _ (by simp [hn]), List.length_map, hn, Nat.sub_self]

/-- Whatever `IncrementTarget` and the processor, the host name in a worker's buffer is `Target`:
the last write puts the terminator where the suffix begins. -/
theorem cString_workerTarget {target : String} (h : '\x00' ∉ target.toList) (incrementTarget : Bool)
    (processor : UInt16) : cString (workerTarget target incrementTarget processor) = some target.toList := by
  have hl : target.length = target.toList.length := rfl
  have hlen : (target.toList.map some).length = target.length := List.length_map _ _
  have key : ∀ rest : List (Option Char), rest ≠ [] →
      cString ((target.toList.map some ++ rest).set target.length (some '\x00')) = some target.toList := by
    rintro (_ | ⟨x, rest⟩) hr
    · exact absurd rfl hr
    · rw [set_length_append hl, cString_append h]
      simp [cString]
  unfold workerTarget
  dsimp only
  split
  · rw [List.take_left' hlen, List.drop_left' hlen]
    exact key _ (by simp [appendIntToString])
  · rw [set_length_append hl]
    exact key _ (by simp)

/-! ## The worker loop of `Start` -/

/-- What `Start` sets on a worker: `Processor` and the `Target` buffer. -/
structure WorkerStart where
  processor : UInt16
  target : List (Option Char)
  deriving DecidableEq, Repr

/-- The worker loop of `PerfClient::Start` for `n` more workers, the next being worker `i`, from
`IdealProcessor = p`, each search given `fuel` increments and `threadCreated i` the answer of
`CxPlatThreadCreate` for worker `i`: the workers it configures (`Worker->Processor =
IdealProcessor++` and the `Target` buffer) and whether every thread started.  A failed create
returns its status, after its worker was configured.  `none` when a search runs past its fuel. -/
def startWorkers (c : PerfClient) (isActive : UInt16 → Bool) (threadCreated : Nat → Bool) (fuel : Nat) :
    Nat → Nat → UInt16 → Option (List WorkerStart × Bool)
  | 0, _, _ => some ([], true)
  | n + 1, i, p => (findActive isActive fuel p).bind fun q =>
      let w : WorkerStart := ⟨q, workerTarget c.target c.incrementTarget q⟩
      if threadCreated i then
        (startWorkers c isActive threadCreated fuel n (i + 1) (q + 1)).map fun r => (w :: r.1, r.2)
      else some ([w], false)

section Loop

variable {c : PerfClient} {isActive : UInt16 → Bool} {threadCreated : Nat → Bool} {fuel : Nat}

/-- Every worker's buffer is the one `workerTarget` builds for its processor. -/
theorem startWorkers_targets : ∀ {n i : Nat} {p : UInt16} {r : List WorkerStart × Bool},
    startWorkers c isActive threadCreated fuel n i p = some r →
      ∀ w ∈ r.1, w.target = workerTarget c.target c.incrementTarget w.processor
  | 0, _, _, _, h => by cases h; simp
  | n + 1, i, p, r, h => by
    obtain ⟨q, -, h⟩ := Option.bind_eq_some.1 h
    dsimp only at h
    split at h
    · obtain ⟨r', h', rfl⟩ := Option.map_eq_some'.1 h
      rintro w (_ | ⟨_, hw⟩)
      · rfl
      · exact startWorkers_targets h' w hw
    · cases h
      simp

/-- The loop stops at the first thread that fails to start: every thread started exactly when the
loop configured all `n` workers, and otherwise the last worker it configured is the one whose
thread failed. -/
theorem startWorkers_threads : ∀ {n i : Nat} {p : UInt16} {r : List WorkerStart × Bool},
    startWorkers c isActive threadCreated fuel n i p = some r →
      (r.2 = true ↔ ∀ j < n, threadCreated (i + j) = true) ∧ (r.2 = true → r.1.length = n) ∧
      (r.2 = false → ∃ j < n, threadCreated (i + j) = false ∧
        (∀ j' < j, threadCreated (i + j') = true) ∧ r.1.length = j + 1)
  | 0, _, _, _, h => by cases h; simp
  | n + 1, i, p, r, h => by
    obtain ⟨q, -, h⟩ := Option.bind_eq_some.1 h
    dsimp only at h
    have succ_j (j : Nat) : i + (j + 1) = i + 1 + j := by omega
    split at h
    next hi =>
      obtain ⟨r', h', rfl⟩ := Option.map_eq_some'.1 h
      obtain ⟨ih1, ih2, ih3⟩ := startWorkers_threads h'
      refine ⟨⟨fun hr j hj => ?_, fun ha => ih1.2 fun j hj => ?_⟩, fun hr => ?_, fun hr => ?_⟩
      · rcases j with _ | j
        · exact hi
        · rw [succ_j]; exact ih1.1 hr j (by omega)
      · rw [← succ_j]; exact ha (j + 1) (by omega)
      · simp [ih2 hr]
      · obtain ⟨j, hj, hf, hb, hl⟩ := ih3 hr
        refine ⟨j + 1, by omega, by rw [succ_j]; exact hf, fun j' hj' => ?_, by simp [hl]⟩
        rcases j' with _ | j'
        · exact hi
        · rw [succ_j]; exact hb j' (by omega)
    next hi =>
      cases h
      exact ⟨⟨nofun, fun ha => absurd (ha 0 (by omega)) (by simpa using hi)⟩, nofun,
        fun _ => ⟨0, by omega, by simpa using hi, nofun, rfl⟩⟩

/-- With `n` active processors from `p` on, the workers the loop configures get the first of them,
one each. -/
theorem startWorkers_processors (hf : 65535 ≤ fuel) (n : Nat) :
    ∀ (i : Nat) (p : UInt16), n ≤ (activeFrom isActive p.toNat).length →
      ∃ r, startWorkers c isActive threadCreated fuel n i p = some r ∧
        r.1.map (·.processor.toNat) = (activeFrom isActive p.toNat).take r.1.length := by
  induction n with
  | zero => exact fun _ _ _ => ⟨_, rfl, rfl⟩
  | succ n ih =>
    intro i p hn
    obtain ⟨q, rest, hq⟩ :=
      List.exists_cons_of_length_pos (show 0 < (activeFrom isActive p.toNat).length by omega)
    obtain ⟨-, hq65, -, -, hrest⟩ := activeFrom_cons _ _ rfl hq
    have hqn : (UInt16.ofNat q).toNat = q := Nat.mod_eq_of_lt hq65
    rw [hq] at hn ⊢
    simp only [startWorkers, findActive_eq_head hf hq, Option.some_bind]
    split
    · rcases Nat.eq_zero_or_pos n with rfl | hn0
      · simp [startWorkers, hqn]
      -- a later worker needs an active processor above `q`, so `q + 1` does not wrap
      have hq1 : (UInt16.ofNat q + 1).toNat = q + 1 := by
        have hlen : 0 < rest.length := by rw [List.length_cons] at hn; omega
        have : q + 1 < 65536 := by
          by_contra h'
          rw [activeFrom_of_le (by omega)] at hrest
          rw [← hrest] at hlen
          exact Nat.lt_irrefl 0 hlen
        show ((q % 65536) + 1 % 65536) % 65536 = q + 1
        rw [Nat.mod_eq_of_lt hq65, Nat.mod_eq_of_lt this]
      obtain ⟨r, hr, hmap⟩ := ih (i + 1) (UInt16.ofNat q + 1) (by rw [hq1, hrest]; simpa using hn)
      rw [hq1, hrest] at hmap
      exact ⟨_, by rw [hr]; rfl, by simp [hqn, hmap]⟩
    · exact ⟨_, rfl, by simp [hqn]⟩

/-- Processors handed out in the order of `activeFrom` are active and strictly increasing. -/
theorem processors_of_take {ws : List WorkerStart}
    (h : ws.map (·.processor.toNat) = (activeFrom isActive 0).take ws.length) :
    (ws.map (·.processor)).Pairwise (· < ·) ∧ ∀ w ∈ ws, isActive w.processor = true := by
  refine ⟨?_, fun w hw => ?_⟩
  · have hp : (ws.map (·.processor.toNat)).Pairwise (· < ·) :=
      h ▸ ((List.pairwise_lt_range' _ _).filter _).sublist (List.take_sublist _ _)
    rw [List.pairwise_map] at hp ⊢
    exact hp
  · have hm := List.mem_of_mem_take (h ▸ List.mem_map_of_mem (fun w : WorkerStart => w.processor.toNat) hw)
    simpa [processor_ofNat_toNat] using (List.mem_filter.1 hm).2

end Loop

/-- **Processors when there are enough.**  When at least `WorkerCount` processors are active and a
search may run through all 65536, `Start` gives the workers it configures the first active
processors, in strictly increasing order; it configures all `WorkerCount` when every thread starts,
and otherwise stops at the first worker whose thread fails. -/
theorem start_processors {c : PerfClient} {isActive : UInt16 → Bool} {fuel : Nat} (hf : 65535 ≤ fuel)
    (hn : c.workerCount.toNat ≤ (activeFrom isActive 0).length) (threadCreated : Nat → Bool) :
    ∃ ws ok, startWorkers c isActive threadCreated fuel c.workerCount.toNat 0 0 = some (ws, ok) ∧
      ws.map (·.processor.toNat) = (activeFrom isActive 0).take ws.length ∧
      (ws.map (·.processor)).Pairwise (· < ·) ∧ (∀ w ∈ ws, isActive w.processor = true) ∧
      (ok = true ↔ ∀ i < c.workerCount.toNat, threadCreated i = true) ∧
      (ok = true → ws.length = c.workerCount.toNat) ∧
      (ok = false → ∃ i < c.workerCount.toNat, threadCreated i = false ∧
        (∀ j < i, threadCreated j = true) ∧ ws.length = i + 1) := by
  obtain ⟨⟨ws, ok⟩, hws, hmap⟩ := @startWorkers_processors c isActive threadCreated fuel hf _ 0 0 hn
  have ht := startWorkers_threads hws
  simp only [Nat.zero_add] at ht
  exact ⟨ws, ok, hws, hmap, (processors_of_take hmap).1, (processors_of_take hmap).2, ht⟩

/-- The law with every processor active, every thread started and two workers. -/
theorem start_processors_all_active :
    ∃ c, init ⟨4433, 65536, 2000000⟩ ⟨1, .success, fun _ => ⟨[], Nat.zero_le _⟩, fun _ => none, true, true⟩
        ⟨false, fun s => if s = "target" then some "server" else none,
          fun s => if s = "threads" then some 2 else none⟩ = .ok c ∧
      ∃ ws ok, startWorkers c (fun _ => true) (fun _ => true) 65535 c.workerCount.toNat 0 0 = some (ws, ok) ∧
        ws.map (·.processor.toNat) = (activeFrom (fun _ => true) 0).take ws.length ∧
        (ws.map (·.processor)).Pairwise (· < ·) ∧ (∀ w ∈ ws, (fun _ => true) w.processor = true) ∧
        (ok = true ↔ ∀ i < c.workerCount.toNat, (fun _ => true) i = true) ∧
        (ok = true → ws.length = c.workerCount.toNat) ∧
        (ok = false → ∃ i < c.workerCount.toNat, (fun _ => true) i = false ∧
          (∀ j < i, (fun _ => true) j = true) ∧ ws.length = i + 1) := by
  obtain ⟨c, hc, hw⟩ : ∃ c, init ⟨4433, 65536, 2000000⟩
      ⟨1, .success, fun _ => ⟨[], Nat.zero_le _⟩, fun _ => none, true, true⟩
      ⟨false, fun s => if s = "target" then some "server" else none,
        fun s => if s = "threads" then some 2 else none⟩ = .ok c ∧ c.workerCount.toNat = 2 := ⟨_, rfl, rfl⟩
  refine ⟨c, hc, start_processors le_rfl ?_ _⟩
  rw [hw, length_activeFrom_of_all fun _ => rfl]
  norm_num

/-- **Every worker's host name is `Target`.**  For a `Target` without NUL, under either
`IncrementTarget`, the C string in every worker's `Target` buffer after `Start`'s loop is `Target`:
the processor's hex digits never survive. -/
theorem worker_targets_are_target {c : PerfClient} (h : '\x00' ∉ c.target.toList)
    {isActive : UInt16 → Bool} {threadCreated : Nat → Bool} {fuel : Nat} {ws : List WorkerStart} {ok : Bool}
    (hs : startWorkers c isActive threadCreated fuel c.workerCount.toNat 0 0 = some (ws, ok)) :
    ∀ w ∈ ws, cString w.target = some c.target.toList := fun w hw => by
  rw [startWorkers_targets hs w hw]
  exact cString_workerTarget h _ _

/-- The law on two workers with `-incrementtarget:1`. -/
theorem worker_targets_are_target_incremented :
    ∃ c, init ⟨4433, 65536, 2000000⟩ ⟨1, .success, fun _ => ⟨[], Nat.zero_le _⟩, fun _ => none, true, true⟩
        ⟨false, fun s => if s = "target" then some "server" else none,
          fun s => if s = "incrementtarget" then some 1 else if s = "threads" then some 2 else none⟩ = .ok c ∧
      c.incrementTarget = true ∧
      ∃ ws ok, startWorkers c (fun _ => true) (fun _ => true) 0 c.workerCount.toNat 0 0 = some (ws, ok) ∧
        ∀ w ∈ ws, cString w.target = some c.target.toList := by
  obtain ⟨c, hc, hi, ws, ok, hws, ht⟩ : ∃ c, init ⟨4433, 65536, 2000000⟩
      ⟨1, .success, fun _ => ⟨[], Nat.zero_le _⟩, fun _ => none, true, true⟩
      ⟨false, fun s => if s = "target" then some "server" else none,
        fun s => if s = "incrementtarget" then some 1 else if s = "threads" then some 2 else none⟩ = .ok c ∧
      c.incrementTarget = true ∧
      ∃ ws ok, startWorkers c (fun _ => true) (fun _ => true) 0 c.workerCount.toNat 0 0 = some (ws, ok) ∧
        '\x00' ∉ c.target.toList := ⟨_, rfl, rfl, _, _, rfl, by decide⟩
  exact ⟨c, hc, hi, ws, ok, hws, worker_targets_are_target ht hws⟩

/-- `-incrementtarget:1` on two workers, every processor active: the workers get processors 0 and
1, and both host names read `server` where `server00` and `server01` were meant. -/
theorem worker_targets_lose_suffix :
    ∃ c, init ⟨4433, 65536, 2000000⟩ ⟨1, .success, fun _ => ⟨[], Nat.zero_le _⟩, fun _ => none, true, true⟩
        ⟨false, fun s => if s = "target" then some "server" else none,
          fun s => if s = "incrementtarget" then some 1 else if s = "threads" then some 2 else none⟩ = .ok c ∧
      c.incrementTarget = true ∧
      (startWorkers c (fun _ => true) (fun _ => true) 0 c.workerCount.toNat 0 0).map
          (·.1.map fun w => (w.processor, cString w.target)) =
        some [(0, some "server".toList), (1, some "server".toList)] :=
  ⟨_, rfl, rfl, by decide⟩

end SecNetPerf
