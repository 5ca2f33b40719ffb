import TinyEnvSensor.Identity.DeviceIdentity

/-! # What the runtime identity keeps of the chip

Both derivations start from the factory words and lose nothing of them before the hash. The serial
number spells the two device id words in hexadecimal, so it tells two chips apart. The seed lays
four words side by side, so each can be read back, and the id is cut from the hash of that seed. -/
namespace TinyEnvSensor
open Memory
set_option autoImplicit false

/-! ## The seed -/

/-- What `sys_put_le32` promises: four bytes from the destination hold the word, lowest byte
first, and no other byte changes. -/
structure PutsLe32 (sysPutLe32 : SysPutLe32) : Prop where
  value : ∀ val dst mem, leValue (read (sysPutLe32 val dst mem) dst 4) = val.toNat
  frame : ∀ val dst mem i, i < dst ∨ dst + 4 ≤ i → sysPutLe32 val dst mem i = mem i

theorem putsLe32_leBytes : PutsLe32 fun val dst mem => write mem dst (leBytes 4 val.toNat) where
  value val dst mem := by
    have hval : val.toNat < 256 ^ 4 := calc
      val.toNat < 2 ^ 32 := val.toNat_lt
      _ = 256 ^ 4 := by norm_num
    have hread : read (write mem dst (leBytes 4 val.toNat)) dst (leBytes 4 val.toNat).length =
        leBytes 4 val.toNat := read_write
    rw [length_leBytes] at hread
    rw [hread, leValue_leBytes, Nat.mod_eq_of_lt hval]
  frame val dst mem i h := by
    obtain hbefore | hafter := h
    · exact write_before hbefore
    · exact write_after ((length_leBytes 4 val.toNat).symm ▸ hafter)

section Seed
variable {sysPutLe32 : SysPutLe32}

theorem PutsLe32.read_of_disjoint (hput : PutsLe32 sysPutLe32) {a dst : ℕ}
    (h : a + 4 ≤ dst ∨ dst + 4 ≤ a) (val : UInt32) (mem : ℕ → UInt8) :
    read (sysPutLe32 val dst mem) a 4 = read mem a 4 :=
  read_congr fun j hj => hput.frame val dst mem (a + j) (by omega)

theorem seed_word (hput : PutsLe32 sysPutLe32) (ficr : Ficr) (seed : ℕ → UInt8) (k : Fin 4) :
    leValue (read (getHardwareIdentitySeed sysPutLe32 ficr seed) (4 * k) 4) =
      (ficr.words k).toNat := by
  unfold getHardwareIdentitySeed
  match k with
  | 0 =>
    rw [hput.read_of_disjoint (by decide), hput.read_of_disjoint (by decide),
      hput.read_of_disjoint (by decide)]
    exact hput.value _ _ _
  | 1 =>
    rw [hput.read_of_disjoint (by decide), hput.read_of_disjoint (by decide)]
    exact hput.value _ _ _
  | 2 =>
    rw [hput.read_of_disjoint (by decide)]
    exact hput.value _ _ _
  | 3 => exact hput.value _ _ _

theorem seed_frame (hput : PutsLe32 sysPutLe32) (ficr : Ficr) (seed : ℕ → UInt8) {i : ℕ}
    (hi : 16 ≤ i) : getHardwareIdentitySeed sysPutLe32 ficr seed i = seed i := by
  unfold getHardwareIdentitySeed
  rw [hput.frame _ _ _ _ (by omega), hput.frame _ _ _ _ (by omega),
    hput.frame _ _ _ _ (by omega), hput.frame _ _ _ _ (by omega)]

/-- The seed without what the memory held before. -/
def seedBytes (sysPutLe32 : SysPutLe32) (ficr : Ficr) (seed : ℕ → UInt8) : List UInt8 :=
  read (getHardwareIdentitySeed sysPutLe32 ficr seed) 0 kMatterRuntimeIdentitySeedLen

theorem seedBytes_word (hput : PutsLe32 sysPutLe32) (ficr : Ficr) (seed : ℕ → UInt8) (k : Fin 4) :
    leValue (((seedBytes sysPutLe32 ficr seed).drop (4 * k)).take 4) = (ficr.words k).toNat := by
  have hinside : 4 * k.val + 4 ≤ kMatterRuntimeIdentitySeedLen := by
    unfold kMatterRuntimeIdentitySeedLen
    omega
  rw [seedBytes, ← read_inside hinside, Nat.zero_add]
  exact seed_word hput ficr seed k

theorem seedBytes_inj (hput : PutsLe32 sysPutLe32) {ficr ficr' : Ficr} {seed seed' : ℕ → UInt8} :
    seedBytes sysPutLe32 ficr' seed' = seedBytes sysPutLe32 ficr seed ↔ ficr' = ficr := by
  constructor
  · intro h
    refine Ficr.words_inj.mp (funext fun k => UInt32.toNat_inj.mp ?_)
    rw [← seedBytes_word hput ficr' seed' k, h, seedBytes_word hput]
  · rintro rfl
    have hwords : ∀ k < 4,
        read (getHardwareIdentitySeed sysPutLe32 ficr' seed') (0 + 4 * k) 4 =
          read (getHardwareIdentitySeed sysPutLe32 ficr' seed) (0 + 4 * k) 4 := by
      intro k hk
      rw [Nat.zero_add]
      apply leValue_injective (length_read.trans length_read.symm)
      rw [seed_word hput ficr' seed' ⟨k, hk⟩, seed_word hput ficr' seed ⟨k, hk⟩]
    exact read_words hwords

end Seed

/-! ## The rotating id -/

section RotatingId
variable {sysPutLe32 : SysPutLe32} {hash : HashSha256} {ficr : Ficr} {seed : ℕ → UInt8}
  {span : MutableByteSpan}

theorem rotatingId_of_fits (hsize : 16 ≤ span.size) :
    getRuntimeRotatingIdUniqueId sysPutLe32 hash ficr seed span =
      match hash (seedBytes sysPutLe32 ficr seed) with
      | .error err => (some err, span)
      | .ok digest => (none, { data := write span.data 0 (digest.toList.take 16), size := 16 }) :=
  dif_pos hsize

theorem rotatingId_of_small (hsize : ¬ 16 ≤ span.size) :
    getRuntimeRotatingIdUniqueId sysPutLe32 hash ficr seed span = (some .bufferTooSmall, span) :=
  dif_neg hsize

/-- The three ways a call can end: too small a span, a hash that fails, or the first bytes of the
digest in a span cut to them. -/
theorem rotatingId_cases :
    (¬ 16 ≤ span.size ∧
      getRuntimeRotatingIdUniqueId sysPutLe32 hash ficr seed span =
        (some .bufferTooSmall, span)) ∨
    (∃ err, hash (seedBytes sysPutLe32 ficr seed) = .error err ∧
      getRuntimeRotatingIdUniqueId sysPutLe32 hash ficr seed span = (some err, span)) ∨
    (16 ≤ span.size ∧ ∃ digest, hash (seedBytes sysPutLe32 ficr seed) = .ok digest ∧
      getRuntimeRotatingIdUniqueId sysPutLe32 hash ficr seed span =
        (none, { data := write span.data 0 (digest.toList.take 16), size := 16 })) := by
  by_cases hsize : 16 ≤ span.size
  · cases hhash : hash (seedBytes sysPutLe32 ficr seed) with
    | error err => exact Or.inr (Or.inl ⟨err, rfl, by rw [rotatingId_of_fits hsize, hhash]⟩)
    | ok digest =>
      exact Or.inr (Or.inr ⟨hsize, digest, rfl, by rw [rotatingId_of_fits hsize, hhash]⟩)
  · exact Or.inl ⟨hsize, rotatingId_of_small hsize⟩

theorem rotatingId_success_iff :
    (getRuntimeRotatingIdUniqueId sysPutLe32 hash ficr seed span).1 = none ↔
      16 ≤ span.size ∧ ∃ digest, hash (seedBytes sysPutLe32 ficr seed) = .ok digest := by
  obtain ⟨hsize, hout⟩ | ⟨err, hhash, hout⟩ | ⟨hsize, digest, hhash, hout⟩ :=
    @rotatingId_cases sysPutLe32 hash ficr seed span
  · rw [hout]
    exact ⟨fun h => absurd h (by simp), fun h => absurd h.1 hsize⟩
  · rw [hout, hhash]
    simp
  · rw [hout]
    exact ⟨fun _ => ⟨hsize, digest, hhash⟩, fun _ => rfl⟩

theorem rotatingId_unchanged
    (herr : (getRuntimeRotatingIdUniqueId sysPutLe32 hash ficr seed span).1 ≠ none) :
    (getRuntimeRotatingIdUniqueId sysPutLe32 hash ficr seed span).2 = span := by
  obtain ⟨-, hout⟩ | ⟨err, -, hout⟩ | ⟨-, digest, -, hout⟩ :=
    @rotatingId_cases sysPutLe32 hash ficr seed span
  · rw [hout]
  · rw [hout]
  · rw [hout] at herr
    exact absurd rfl herr

theorem read_digest (digest : Vector UInt8 32) (data : ℕ → UInt8) :
    read (write data 0 (digest.toList.take 16)) 0 16 = digest.toList.take 16 ∧
      ∀ i, 16 ≤ i → write data 0 (digest.toList.take 16) i = data i := by
  have hlength : (digest.toList.take 16).length = 16 := by
    rw [List.length_take, Vector.length_toList]
    rfl
  have hread : read (write data 0 (digest.toList.take 16)) 0 (digest.toList.take 16).length =
      digest.toList.take 16 := read_write
  rw [hlength] at hread
  exact ⟨hread, fun i hi => write_after (by rwa [hlength, Nat.zero_add])⟩

theorem rotatingId_success
    (h : (getRuntimeRotatingIdUniqueId sysPutLe32 hash ficr seed span).1 = none) :
    ∃ digest, hash (seedBytes sysPutLe32 ficr seed) = .ok digest ∧
      (getRuntimeRotatingIdUniqueId sysPutLe32 hash ficr seed span).2.size = 16 ∧
      read (getRuntimeRotatingIdUniqueId sysPutLe32 hash ficr seed span).2.data 0 16 =
        digest.toList.take 16 ∧
      ∀ i, 16 ≤ i →
        (getRuntimeRotatingIdUniqueId sysPutLe32 hash ficr seed span).2.data i = span.data i := by
  obtain ⟨hsize, digest, hhash⟩ := rotatingId_success_iff.mp h
  obtain ⟨hread, hbeyond⟩ := read_digest digest span.data
  rw [rotatingId_of_fits hsize, hhash]
  exact ⟨digest, rfl, rfl, hread, hbeyond⟩

end RotatingId

/-- **The unique id is all or nothing.** The four words can be read back from the seed, and nothing
else enters it. A call succeeds iff the span is long enough and the hash does; the span is then the
first bytes of the digest, and otherwise it is untouched. -/
theorem rotating_id {sysPutLe32 : SysPutLe32} (hput : PutsLe32 sysPutLe32) (hash : HashSha256)
    (ficr : Ficr) (seed : ℕ → UInt8) (span : MutableByteSpan) :
    let written := getHardwareIdentitySeed sysPutLe32 ficr seed
    let bytes := read written 0 16
    let out := getRuntimeRotatingIdUniqueId sysPutLe32 hash ficr seed span
    (leValue (bytes.take 4) = (ficr.deviceid 0).toNat ∧
      leValue ((bytes.drop 4).take 4) = (ficr.deviceid 1).toNat ∧
      leValue ((bytes.drop 8).take 4) = (ficr.deviceaddr 0).toNat ∧
      leValue ((bytes.drop 12).take 4) = (ficr.deviceaddr 1).toNat) ∧
    (∀ i, 16 ≤ i → written i = seed i) ∧
    (∀ ficr' seed', read (getHardwareIdentitySeed sysPutLe32 ficr' seed') 0 16 = bytes ↔
      ficr' = ficr) ∧
    (out.1 = none ↔ 16 ≤ span.size ∧ ∃ digest, hash bytes = .ok digest) ∧
    (out.1 = none → ∃ digest, hash bytes = .ok digest ∧ out.2.size = 16 ∧
      read out.2.data 0 16 = digest.toList.take 16 ∧
      ∀ i, 16 ≤ i → out.2.data i = span.data i) ∧
    (out.1 ≠ none → out.2 = span) := by
  intro written bytes out
  have hword : ∀ k : Fin 4, leValue ((bytes.drop (4 * k)).take 4) = (ficr.words k).toNat :=
    seedBytes_word hput ficr seed
  exact ⟨⟨hword 0, hword 1, hword 2, hword 3⟩, fun i hi => seed_frame hput ficr seed hi,
    fun _ _ => seedBytes_inj hput, rotatingId_success_iff, rotatingId_success,
    rotatingId_unchanged⟩

/-- The bytes `1` to `16` and their SHA-256 digest. -/
theorem rotating_id_sixteen_bytes :
    let put : SysPutLe32 := fun val dst mem => write mem dst (leBytes 4 val.toNat)
    let digest : Vector UInt8 32 := #v[
      93, 251, 171, 238, 223, 49, 139, 243, 60, 9, 39, 196, 61, 118, 48, 245, 27, 130, 243, 81,
      116, 3, 1, 53, 79, 163, 215, 252, 81, 240, 19, 46]
    let hash : HashSha256 := fun l =>
      if l = [1, 2, 3, 4, 5, 6, 7, 8, 9, 10, 11, 12, 13, 14, 15, 16] then .ok digest
      else .error .internal
    let ficr : Ficr :=
      { deviceid := ![0x04030201, 0x08070605], deviceaddr := ![0x0c0b0a09, 0x100f0e0d] }
    let out := getRuntimeRotatingIdUniqueId put hash ficr (fun _ => 0)
      { data := fun _ => 255, size := 20 }
    PutsLe32 put ∧ out.1 = none ∧ out.2.size = 16 ∧ read out.2.data 0 16 = digest.toList.take 16 ∧
      out.2.data 16 = 255 := by
  intro put digest hash ficr out
  obtain ⟨-, -, -, hsuccess, hdone, -⟩ :=
    rotating_id putsLe32_leBytes hash ficr (fun _ => 0) { data := fun _ => 255, size := 20 }
  have hhash : hash (read (getHardwareIdentitySeed put ficr fun _ => 0) 0 16) = .ok digest :=
    if_pos (by decide)
  have hnone : out.1 = none := hsuccess.mpr ⟨by decide, digest, hhash⟩
  obtain ⟨digest', hhash', hlength, hread, hbeyond⟩ := hdone hnone
  obtain rfl : digest = digest' := Except.ok.inj (hhash.symm.trans hhash')
  exact ⟨putsLe32_leBytes, hnone, hlength, hread, hbeyond 16 (le_refl 16)⟩

/-! ## The serial number -/

section Serial
variable {ficr : Ficr} {buf : ℕ → Char} {n : ℕ}

theorem serialNumber_success_iff :
    (tinyEnvGetRuntimeSerialNumber ficr buf n).1 = none ↔ 29 ≤ n := by
  rw [serialNumber_result]
  split
  · rename_i hsize
    exact iff_of_true rfl hsize
  · rename_i hsize
    exact iff_of_false (Option.some_ne_none _) hsize

theorem serialNumber_too_small (hn : n < 29) :
    (tinyEnvGetRuntimeSerialNumber ficr buf n).1 = some .bufferTooSmall := by
  rw [serialNumber_result, if_neg (not_le.mpr hn)]

theorem serialNumber_frame {i : ℕ} (hi : n ≤ i) :
    (tinyEnvGetRuntimeSerialNumber ficr buf n).2 i = buf i := by
  rw [serialNumber_buf]
  exact snprintf_frame hi _

theorem serialNumber_fits (hn : 29 ≤ n) :
    IsCString nulChar (tinyEnvGetRuntimeSerialNumber ficr buf n).2 (serialText ficr) := by
  have hprinted : IsCString nulChar (snprintf nulChar buf n (serialText ficr)).2
      ((serialText ficr).take (n - 1)) :=
    isCString_snprintf (by omega) (nulChar_not_mem_serialText ficr)
  have hwhole : (serialText ficr).take (n - 1) = serialText ficr := by
    apply List.take_of_length_le
    rw [serialText_length]
    omega
  rwa [hwhole, ← serialNumber_buf] at hprinted

theorem serialNumber_cut (hn : n < 29) (hpos : 0 < n) :
    ∃ s, IsCString nulChar (tinyEnvGetRuntimeSerialNumber ficr buf n).2 s ∧
      s <+: serialText ficr ∧ s ≠ serialText ficr := by
  refine ⟨(serialText ficr).take (n - 1), ?_, List.take_prefix _ _, ?_⟩
  · rw [serialNumber_buf]
    exact isCString_snprintf hpos (nulChar_not_mem_serialText ficr)
  · intro hwhole
    have hlength := congrArg List.length hwhole
    rw [List.length_take, serialText_length] at hlength
    omega

theorem configure_of_fits {kMaxSerialNumberLength : ℕ} (hmax : 28 ≤ kMaxSerialNumberLength)
    {sysPutLe32 : SysPutLe32} {hash : HashSha256} {seed : ℕ → UInt8} {serial : ℕ → Char}
    {provider : DeviceInstanceInfoProvider} :
    tinyEnvConfigureRuntimeMatterIdentity sysPutLe32 hash ficr seed kMaxSerialNumberLength serial
      provider = (none, runtimeDeviceInstanceInfoProvider sysPutLe32 hash ficr seed) := by
  have hnone : (tinyEnvGetRuntimeSerialNumber ficr serial (kMaxSerialNumberLength + 1)).1 = none :=
    serialNumber_success_iff.mpr (Nat.succ_le_succ hmax)
  unfold tinyEnvConfigureRuntimeMatterIdentity
  split
  · rename_i err _ hserial
    rw [hserial] at hnone
    cases hnone
  · rfl

end Serial

/-- **The serial number spells the device id.** A buffer with room for the terminator gets all of
it, and both words can be read back; a shorter one gets an error and a terminated part. The
configuration at start-up never fails. -/
theorem serial_number (ficr : Ficr) (buf : ℕ → Char) (n : ℕ) :
    let out := tinyEnvGetRuntimeSerialNumber ficr buf n
    (out.1 = none ↔ 29 ≤ n) ∧
    (29 ≤ n → ∃ high low, IsCString nulChar out.2 ("TINYENV-NRF-".toList ++ high ++ low) ∧
      high.length = 8 ∧ low.length = 8 ∧ (∀ c ∈ high ++ low, c ∈ "0123456789ABCDEF".toList) ∧
      Hex.decode high = some (ficr.deviceid 1).toNat ∧
      Hex.decode low = some (ficr.deviceid 0).toNat) ∧
    (29 ≤ n → ∀ ficr' buf' n', 29 ≤ n' →
      ((∃ s, IsCString nulChar out.2 s ∧
        IsCString nulChar (tinyEnvGetRuntimeSerialNumber ficr' buf' n').2 s) ↔
        ficr.deviceid = ficr'.deviceid)) ∧
    (∀ i, n ≤ i → out.2 i = buf i) ∧
    (n < 29 → out.1 = some .bufferTooSmall ∧ (0 < n → ∃ s, IsCString nulChar out.2 s ∧
      s <+: serialText ficr ∧ s ≠ serialText ficr)) ∧
    (∀ kMaxSerialNumberLength, 28 ≤ kMaxSerialNumberLength →
      ∀ sysPutLe32 hash seed serial provider,
        (tinyEnvConfigureRuntimeMatterIdentity sysPutLe32 hash ficr seed kMaxSerialNumberLength
          serial provider).1 = none) := by
  intro out
  refine ⟨?_, ?_, ?_, ?_, ?_, ?_⟩
  · exact serialNumber_success_iff
  · intro hn
    exact ⟨_, _, serialNumber_fits hn, padded_length _, padded_length _,
      fun c hc => (List.mem_append.mp hc).elim (Hex.mem_padded _ _ c) (Hex.mem_padded _ _ c),
      Hex.decode_padded _ _, Hex.decode_padded _ _⟩
  · intro hn ficr' buf' n' hn'
    rw [← serialText_inj]
    constructor
    · rintro ⟨s, hs, hs'⟩
      rw [(serialNumber_fits hn).unique hs, (serialNumber_fits hn').unique hs']
    · intro hsame
      exact ⟨serialText ficr, serialNumber_fits hn, hsame ▸ serialNumber_fits hn'⟩
  · exact fun i hi => serialNumber_frame hi
  · exact fun hn => ⟨serialNumber_too_small hn, serialNumber_cut hn⟩
  · intro kMaxSerialNumberLength hmax sysPutLe32 hash seed serial provider
    rw [configure_of_fits hmax]

end TinyEnvSensor
