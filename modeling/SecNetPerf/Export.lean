import SecNetPerf.Latency

/-!
# SecNetPerf.Export — the latency blob: `GetExtraDataMetadata` and `GetExtraData`

After a run the perf tool asks the client for its "extra data": `GetExtraDataMetadata` reports a
length, `12 + 4 * LatencyCount` bytes (`RunTime` is a `uint32_t`, `CurLatencyIndex` a `uint64_t`),
and `GetExtraData` fills a buffer of the length the caller passes: `RunTime`, then a sample count it
derives from that length, then that many entries of `LatencyValues`, each copied in the host's
(little-endian) byte order.

* `extra_data_round_trip`: at the length the metadata reports, the blob has exactly that length and
  reads back as `RunTime`, `LatencyCount` and the first `LatencyCount` samples.
* `latency_export_length_overflows`: `Init`'s cap on `MaxLatencyIndex` leaves no room for the 12
  header bytes, and without a runtime `ConnectionCount * StreamCount` wraps in 32 bits.
* `extra_data_reads_past_samples`: a length the caller picks is trusted; past `12 + 4 * LatencyCount`
  the copy reads samples never written, past `12 + 4 * MaxLatencyIndex` it reads past the array.
-/

namespace SecNetPerf

/-! ## Little-endian bytes -/

/-- The `w` little-endian bytes of `n`, as `CxPlatCopyMemory` copies a `w`-byte integer. -/
def bytesLE : Nat → Nat → List UInt8
  | 0, _ => []
  | w + 1, n => UInt8.ofNat n :: bytesLE w (n / 256)

/-- The natural with the given little-endian bytes. -/
def valueLE : List UInt8 → Nat
  | [] => 0
  | b :: bs => b.toNat + 256 * valueLE bs

@[simp] theorem length_bytesLE (w n : Nat) : (bytesLE w n).length = w := by
  induction w generalizing n with
  | zero => rfl
  | succ w ih => simp only [bytesLE, List.length_cons, ih]

theorem valueLE_bytesLE (w n : Nat) : valueLE (bytesLE w n) = n % 256 ^ w := by
  induction w generalizing n with
  | zero => simp [bytesLE, valueLE, Nat.mod_one]
  | succ w ih =>
    have h : (UInt8.ofNat n).toNat = n % 256 := rfl
    rw [bytesLE, valueLE, ih, h, pow_succ', Nat.mod_mul]

/-! ## The blob -/

/-- How the export stops the process. -/
inductive ExportFault
  /-- A `CXPLAT_FRE_ASSERT` fails. -/
  | assertionFailure
  /-- `CxPlatCopyMemory` reads past the end of `LatencyValues`. -/
  | outOfBounds
  deriving DecidableEq, Repr

/-- The bytes `GetExtraData` writes: `RunTime`, the sample count, the samples. -/
def extraDataBlob (runTime : UInt32) (latencyCount : Nat) (samples : List UInt32) : List UInt8 :=
  bytesLE 4 runTime.toNat ++ bytesLE 8 latencyCount ++ samples.flatMap fun v => bytesLE 4 v.toNat

/-- `GetExtraDataMetadata`: the `ExtraDataLength` it reports (zero when latency is not tracked),
or its failed `CXPLAT_FRE_ASSERT(DataLength <= UINT32_MAX)`.  `DataLength` is a 64-bit `size_t`
sum of the sizes; like every counter of the world, `LatencyCount` is a natural (it counts streams,
far below the `2^62` at which the sum would wrap). -/
def getExtraDataMetadata (c : PerfClient) (W : World) : Except ExportFault UInt32 :=
  if c.maxLatencyIndex = 0 then pure 0
  else
    let dataLength := 4 + 8 + W.latencyCount * 4
    if dataLength ≤ 0xFFFFFFFF then pure (UInt32.ofNat dataLength) else throw .assertionFailure

/-- `GetExtraData(Data, Length)`: the bytes it writes to `Data`, or how it stops.  The count it
writes and copies is derived from `Length` alone; the copy reads `LatencyValues`, which holds
`MaxLatencyIndex` entries. -/
def getExtraData (c : PerfClient) (W : World) (length : UInt32) : Except ExportFault (List UInt8) := do
  if c.maxLatencyIndex = 0 then throw .assertionFailure
  if length.toNat < 4 + 8 then throw .assertionFailure
  let latencyCount := (length.toNat - 4 - 8) / 4
  if c.maxLatencyIndex.toNat < latencyCount then throw .outOfBounds
  pure (extraDataBlob c.runTime latencyCount ((List.range latencyCount).map W.latencyValues))

/-- The reader of the round trip, for the samples: one little-endian value from every four bytes,
as `GetExtraData` copies the `uint32_t` entries of `LatencyValues`. -/
def decodeSamples : List UInt8 → Option (List Nat)
  | [] => some []
  | b0 :: b1 :: b2 :: b3 :: rest => (decodeSamples rest).map (valueLE [b0, b1, b2, b3] :: ·)
  | _ => none

/-- The reader of the round trip: a blob read back at the offsets `GetExtraData` writes, the
`uint32_t` `RunTime` from its first four bytes, the `uint64_t` sample count from the next eight,
and the samples from the rest. -/
def decodeExtraData (blob : List UInt8) : Option (Nat × Nat × List Nat) :=
  if 12 ≤ blob.length then
    (decodeSamples (blob.drop 12)).map fun s => (valueLE (blob.take 4), valueLE ((blob.drop 4).take 8), s)
  else none

theorem length_flatMap_bytesLE (samples : List UInt32) :
    (samples.flatMap fun v => bytesLE 4 v.toNat).length = 4 * samples.length := by
  induction samples with
  | nil => rfl
  | cons v vs ih =>
    rw [List.flatMap_cons, List.length_append, ih, length_bytesLE, List.length_cons]
    omega

@[simp] theorem length_extraDataBlob (runTime : UInt32) (latencyCount : Nat) (samples : List UInt32) :
    (extraDataBlob runTime latencyCount samples).length = 12 + 4 * samples.length := by
  simp only [extraDataBlob, List.length_append, length_bytesLE, length_flatMap_bytesLE]

/-- A 32-bit value's four bytes read back as the value. -/
theorem valueLE_bytesLE_four (v : UInt32) : valueLE (bytesLE 4 v.toNat) = v.toNat := by
  rw [valueLE_bytesLE, Nat.mod_eq_of_lt (show v.toNat < 256 ^ 4 from UInt32.toNat_lt_size v)]

theorem decodeSamples_bytesLE (n : Nat) (rest : List UInt8) :
    decodeSamples (bytesLE 4 n ++ rest) = (decodeSamples rest).map (valueLE (bytesLE 4 n) :: ·) :=
  rfl

theorem decodeSamples_flatMap (samples : List UInt32) :
    decodeSamples (samples.flatMap fun v => bytesLE 4 v.toNat) = some (samples.map UInt32.toNat) := by
  induction samples with
  | nil => rfl
  | cons v vs ih =>
    rw [List.flatMap_cons, decodeSamples_bytesLE, ih, valueLE_bytesLE_four]
    rfl

/-- Reading a blob back gives its fields: `RunTime`, the count modulo `2^64`, the samples. -/
theorem decodeExtraData_extraDataBlob (runTime : UInt32) (latencyCount : Nat) (samples : List UInt32) :
    decodeExtraData (extraDataBlob runTime latencyCount samples) =
      some (runTime.toNat, latencyCount % 2 ^ 64, samples.map UInt32.toNat) := by
  have hd : (extraDataBlob runTime latencyCount samples).drop 12 =
      samples.flatMap fun v => bytesLE 4 v.toNat := by
    simp [extraDataBlob, List.drop_append_eq_append_drop]
  have ht : (extraDataBlob runTime latencyCount samples).take 4 = bytesLE 4 runTime.toNat := by
    simp [extraDataBlob, List.take_append_eq_append_take]
  have hc : ((extraDataBlob runTime latencyCount samples).drop 4).take 8 = bytesLE 8 latencyCount := by
    simp [extraDataBlob, List.drop_append_eq_append_drop, List.take_append_eq_append_take]
  rw [decodeExtraData, if_pos (by simp), hd, ht, hc, decodeSamples_flatMap, Option.map_some',
    valueLE_bytesLE_four, valueLE_bytesLE]
  rfl

/-! ## The export after a run -/

/-- **Round trip**: in every world a run reaches with latency tracked, `GetExtraData`, called with the
length `GetExtraDataMetadata` reports, writes exactly that many bytes, and they read back as
`RunTime`, `LatencyCount` and the first `LatencyCount` samples. -/
theorem extra_data_round_trip {c : PerfClient} {W : World} (h : Reachable c W)
    (hm : c.maxLatencyIndex ≠ 0) {length : UInt32} (hl : getExtraDataMetadata c W = .ok length) :
    ∃ blob, getExtraData c W length = .ok blob ∧ blob.length = length.toNat ∧
      decodeExtraData blob = some (c.runTime.toNat, W.latencyCount,
        ((List.range W.latencyCount).map W.latencyValues).map UInt32.toNat) := by
  have hle : W.latencyCount ≤ c.maxLatencyIndex.toNat := by
    have := h.inv.latencyCount
    simp only [World.books_latencyCount, World.books_curLatencyIndex] at this
    omega
  unfold getExtraDataMetadata at hl
  rw [if_neg hm] at hl
  dsimp only at hl
  split at hl
  · next hd =>
    have hlen : length.toNat = 4 + 8 + W.latencyCount * 4 := by
      rw [← pure_eq_ok.1 hl]
      exact UInt32.toNat_ofNat_of_lt (Nat.lt_of_le_of_lt hd (by decide))
    have hk : (length.toNat - 4 - 8) / 4 = W.latencyCount := by omega
    refine ⟨extraDataBlob c.runTime W.latencyCount ((List.range W.latencyCount).map W.latencyValues),
      ?_, ?_, ?_⟩
    · unfold getExtraData
      rw [if_neg hm, if_neg (by omega), hk, if_neg (by omega)]
      rfl
    · rw [length_extraDataBlob, List.length_map, List.length_range, hlen]
      omega
    · rw [decodeExtraData_extraDataBlob, Nat.mod_eq_of_lt (by omega)]
  · exact absurd hl throw_ne_ok

/-- The law after one stream completes with a latency of 3 µs: the 16-byte blob reads back as
`RunTime = 0`, one sample, and that sample. -/
theorem extra_data_round_trip_one_sample :
    let c := { PerfClient.defaults ⟨4433, 65536, 2000000⟩ with
      workerCount := 1, streamCount := 1, maxLatencyIndex := 1 }
    let es : List (Inputs × World.Event) :=
      [(⟨1, 10, fun _ => true⟩, .queue),
        (⟨1, 10, fun _ => true⟩, .startNewConnection 0 ⟨true, true, true, true, true, true, none, true⟩),
        (⟨1, 10, fun _ => true⟩, .connected 0 0),
        (⟨3, 10, fun _ => true⟩, .stream 0 0 .sendShutdownComplete),
        (⟨4, 10, fun _ => true⟩, .stream 0 0 (.receive 0 true)),
        (⟨5, 10, fun _ => true⟩, .stream 0 0 .shutdownComplete)]
    ∃ W, World.run c (World.init c) es = .ok W ∧ W.latencyCount = 1 ∧ W.latencyValues 0 = 3 ∧
      c.maxLatencyIndex ≠ 0 ∧ getExtraDataMetadata c W = .ok 16 ∧
      ∃ blob, getExtraData c W 16 = .ok blob ∧ blob.length = (16 : UInt32).toNat ∧
        decodeExtraData blob = some (c.runTime.toNat, W.latencyCount,
          ((List.range W.latencyCount).map W.latencyValues).map UInt32.toNat) := by
  intro c es
  obtain ⟨W, hW, h1, h3, hl⟩ : ∃ W, World.run c (World.init c) es = .ok W ∧ W.latencyCount = 1 ∧
      W.latencyValues 0 = 3 ∧ getExtraDataMetadata c W = .ok 16 :=
    ⟨_, rfl, rfl, by decide, rfl⟩
  exact ⟨W, hW, h1, h3, by decide, hl, extra_data_round_trip (Reachable.init.run hW) (by decide) hl⟩

/-- `-runtime:537000 -platency:1`: `Init` caps `MaxLatencyIndex` at `UINT32_MAX / 4`, and a blob of
that many samples is 4294967304 bytes, past `UINT32_MAX`; at that `LatencyCount` the metadata's
assertion fails.  `-conns:65536 -streams:65536 -platency:1`: the 32-bit product wraps to zero. -/
theorem latency_export_length_overflows :
    (∃ c, init ⟨4433, 65536, 2000000⟩ ⟨1, .success, fun _ => ⟨[], Nat.zero_le _⟩, fun _ => none, true, true⟩
        ⟨false, fun s => if s = "target" then some "server" else none,
          fun s => if s = "runtime" then some 537000 else if s = "platency" then some 1 else none⟩ =
          .ok c ∧
      c.maxLatencyIndex = latencyIndexCap ∧ 0xFFFFFFFF < 4 + 8 + 4 * c.maxLatencyIndex.toNat ∧
      getExtraDataMetadata c { World.init c with latencyCount := c.maxLatencyIndex.toNat } =
        .error .assertionFailure) ∧
    ∃ c, init ⟨4433, 65536, 2000000⟩ ⟨1, .success, fun _ => ⟨[], Nat.zero_le _⟩, fun _ => none, true, true⟩
        ⟨false, fun s => if s = "target" then some "server" else none,
          fun s => if s = "conns" ∨ s = "streams" then some 65536
            else if s = "platency" then some 1 else none⟩ = .ok c ∧
      c.connectionCount.toNat * c.streamCount.toNat = 2 ^ 32 ∧ c.maxLatencyIndex = 0 :=
  ⟨⟨_, rfl, rfl, by decide, rfl⟩, _, rfl, rfl, rfl⟩

/-- `-streams:1 -platency:1`, before any stream completes: a 16-byte buffer makes the export claim
one sample and copy the unwritten `LatencyValues[0]`; a 20-byte buffer makes it read two entries of
a one-entry array. -/
theorem extra_data_reads_past_samples :
    ∃ c, init ⟨4433, 65536, 2000000⟩ ⟨1, .success, fun _ => ⟨[], Nat.zero_le _⟩, fun _ => none, true, true⟩
        ⟨false, fun s => if s = "target" then some "server" else none,
          fun s => if s = "streams" ∨ s = "platency" then some 1 else none⟩ = .ok c ∧
      c.maxLatencyIndex = 1 ∧ (World.init c).latencyCount = 0 ∧
      getExtraData c (World.init c) 16 = .ok (extraDataBlob c.runTime 1 [0]) ∧
      getExtraData c (World.init c) 20 = .error .outOfBounds :=
  ⟨_, rfl, rfl, rfl, rfl, rfl⟩

end SecNetPerf
