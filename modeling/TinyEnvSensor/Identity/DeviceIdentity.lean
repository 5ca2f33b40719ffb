import TinyEnvSensor.Device.State
import TinyEnvSensor.Foundations.Hex
import TinyEnvSensor.Foundations.Memory
import Mathlib.Data.Fin.VecNotation
import Mathlib.Tactic.NormNum

/-! # The runtime identity

`tinyenv_device_identity.cpp` derives the serial number and the unique id behind the rotating id
from four factory words. The byte-order helper and the hash are code of other packages and stay
parameters: `sys_put_le32` writes into the memory it is given, and `Hash_SHA256` gives an error or
32 bytes. -/
namespace TinyEnvSensor
open Memory
set_option autoImplicit false

/-- The factory registers that name the chip. -/
@[ext]
structure Ficr where
  deviceid : Fin 2 → UInt32
  deviceaddr : Fin 2 → UInt32

def kMatterRuntimeIdentitySeedLen : ℕ := 16

def kMatterRotatingIdUniqueIdLen : ℕ := 16

abbrev SysPutLe32 := UInt32 → ℕ → (ℕ → UInt8) → (ℕ → UInt8)

abbrev HashSha256 := List UInt8 → Except ChipError (Vector UInt8 32)

/-! ## The rotating id -/

/-- `seed` is the memory the caller passes, with whatever it holds. -/
def getHardwareIdentitySeed (sysPutLe32 : SysPutLe32) (ficr : Ficr) (seed : ℕ → UInt8) :
    ℕ → UInt8 :=
  let seed := sysPutLe32 (ficr.deviceid 0) 0 seed
  let seed := sysPutLe32 (ficr.deviceid 1) 4 seed
  let seed := sysPutLe32 (ficr.deviceaddr 0) 8 seed
  sysPutLe32 (ficr.deviceaddr 1) 12 seed

structure MutableByteSpan where
  data : ℕ → UInt8
  size : ℕ

/-- A span can only shrink. -/
def MutableByteSpan.reduceSize (span : MutableByteSpan) (newSize : ℕ) (_ : newSize ≤ span.size) :
    MutableByteSpan := { span with size := newSize }

def getRuntimeRotatingIdUniqueId (sysPutLe32 : SysPutLe32) (hash : HashSha256) (ficr : Ficr)
    (seed : ℕ → UInt8) (uniqueIdSpan : MutableByteSpan) : Option ChipError × MutableByteSpan :=
  if hsize : kMatterRotatingIdUniqueIdLen ≤ uniqueIdSpan.size then
    let seed := getHardwareIdentitySeed sysPutLe32 ficr seed
    match hash (read seed 0 kMatterRuntimeIdentitySeedLen) with
    | .error err => (some err, uniqueIdSpan)
    | .ok digest =>
      let id := digest.toList.take kMatterRotatingIdUniqueIdLen
      let copied := { uniqueIdSpan with data := write uniqueIdSpan.data 0 id }
      (none, copied.reduceSize kMatterRotatingIdUniqueIdLen hsize)
  else (some .bufferTooSmall, uniqueIdSpan)

/-! ## The serial number -/

def nulChar : Char := Char.ofNat 0

/-- The text of the format `TINYENV-NRF-%08lX%08lX`; `unsigned long` has 32 bits. -/
def serialText (ficr : Ficr) : List Char :=
  "TINYENV-NRF-".toList ++ Hex.padded 8 (ficr.deviceid 1).toNat ++
    Hex.padded 8 (ficr.deviceid 0).toNat

def tinyEnvGetRuntimeSerialNumber (ficr : Ficr) (buf : ℕ → Char) (bufSize : ℕ) :
    Option ChipError × (ℕ → Char) :=
  let (written, buf) := snprintf nulChar buf bufSize (serialText ficr)
  if ¬ 0 < written then (some .internal, buf)
  else if ¬ written.toNat < bufSize then (some .bufferTooSmall, buf)
  else (none, buf)

/-! ## The provider -/

structure DeviceInstanceInfoProvider where
  getSerialNumber : (ℕ → Char) → ℕ → Option ChipError × (ℕ → Char)
  getRotatingDeviceIdUniqueId : MutableByteSpan → Option ChipError × MutableByteSpan

section Provider
variable (sysPutLe32 : SysPutLe32) (hash : HashSha256) (ficr : Ficr) (seed : ℕ → UInt8)

def runtimeDeviceInstanceInfoProvider : DeviceInstanceInfoProvider where
  getSerialNumber := tinyEnvGetRuntimeSerialNumber ficr
  getRotatingDeviceIdUniqueId := getRuntimeRotatingIdUniqueId sysPutLe32 hash ficr seed

/-- The result, and the provider that is installed after the call instead of `provider`. -/
def tinyEnvInstallRuntimeDeviceInstanceInfoProvider (_provider : DeviceInstanceInfoProvider) :
    Option ChipError × DeviceInstanceInfoProvider :=
  (none, runtimeDeviceInstanceInfoProvider sysPutLe32 hash ficr seed)

def tinyEnvConfigureRuntimeMatterIdentity (kMaxSerialNumberLength : ℕ) (serial : ℕ → Char)
    (provider : DeviceInstanceInfoProvider) : Option ChipError × DeviceInstanceInfoProvider :=
  match tinyEnvGetRuntimeSerialNumber ficr serial (kMaxSerialNumberLength + 1) with
  | (some err, _) => (some err, provider)
  | (none, _) =>
    match tinyEnvInstallRuntimeDeviceInstanceInfoProvider sysPutLe32 hash ficr seed provider with
    | (some err, provider) => (some err, provider)
    | (none, provider) => (none, provider)

end Provider

/-! ## What each function does -/

/-- The factory words in the order of the seed. -/
def Ficr.words (ficr : Ficr) : Fin 4 → UInt32 :=
  ![ficr.deviceid 0, ficr.deviceid 1, ficr.deviceaddr 0, ficr.deviceaddr 1]

theorem Ficr.words_inj {ficr ficr' : Ficr} : ficr.words = ficr'.words ↔ ficr = ficr' := by
  constructor
  · intro h
    refine Ficr.ext (funext fun i => ?_) (funext fun i => ?_)
    · match i with
      | 0 => exact congrFun h 0
      | 1 => exact congrFun h 1
    · match i with
      | 0 => exact congrFun h 2
      | 1 => exact congrFun h 3
  · exact congrArg Ficr.words

theorem padded_length (word : UInt32) : (Hex.padded 8 word.toNat).length = 8 := by
  have hword : word.toNat < 16 ^ 8 := calc
    word.toNat < 2 ^ 32 := word.toNat_lt
    _ = 16 ^ 8 := by norm_num
  exact Hex.length_padded (by decide) hword

theorem serialText_length (ficr : Ficr) : (serialText ficr).length = 28 := by
  have hletters : "TINYENV-NRF-".toList.length = 12 := by decide
  unfold serialText
  rw [List.length_append, List.length_append, padded_length, padded_length, hletters]

theorem nulChar_not_mem_serialText (ficr : Ficr) : nulChar ∉ serialText ficr := by
  have hletters : nulChar ∉ "TINYENV-NRF-".toList := by decide
  have hdigits : nulChar ∉ Hex.alphabet := by decide
  intro hmem
  obtain hmem | hmem := List.mem_append.mp hmem
  · obtain hmem | hmem := List.mem_append.mp hmem
    · exact hletters hmem
    · exact hdigits (Hex.mem_padded _ _ _ hmem)
  · exact hdigits (Hex.mem_padded _ _ _ hmem)

theorem serialText_inj {ficr ficr' : Ficr} :
    serialText ficr = serialText ficr' ↔ ficr.deviceid = ficr'.deviceid := by
  constructor
  · intro h
    have hlength (f f' : Ficr) : (Hex.padded 8 (f.deviceid 0).toNat).length =
        (Hex.padded 8 (f'.deviceid 0).toNat).length := by
      rw [padded_length, padded_length]
    obtain ⟨hhigh, hlow⟩ := List.append_inj' h (hlength ficr ficr')
    have hone := Hex.padded_injective 8 (List.append_cancel_left hhigh)
    have hzero := Hex.padded_injective 8 hlow
    funext i
    match i with
    | 0 => exact UInt32.toNat_inj.mp hzero
    | 1 => exact UInt32.toNat_inj.mp hone
  · intro h
    unfold serialText
    rw [h]

theorem serialNumber_buf (ficr : Ficr) (buf : ℕ → Char) (bufSize : ℕ) :
    (tinyEnvGetRuntimeSerialNumber ficr buf bufSize).2 =
      (snprintf nulChar buf bufSize (serialText ficr)).2 := by
  unfold tinyEnvGetRuntimeSerialNumber
  dsimp only
  split
  · rfl
  · split <;> rfl

theorem serialNumber_result (ficr : Ficr) (buf : ℕ → Char) (bufSize : ℕ) :
    (tinyEnvGetRuntimeSerialNumber ficr buf bufSize).1 =
      if 29 ≤ bufSize then none else some .bufferTooSmall := by
  have hwritten : (snprintf nulChar buf bufSize (serialText ficr)).1 = 28 := by
    rw [snprintf, serialText_length]
    rfl
  unfold tinyEnvGetRuntimeSerialNumber
  dsimp only
  rw [hwritten, if_neg (by decide)]
  by_cases hsize : 29 ≤ bufSize
  · have hfits : ¬ ¬ (28 : ℤ).toNat < bufSize := not_not.mpr hsize
    rw [if_pos hsize, if_neg hfits]
  · have hcut : ¬ (28 : ℤ).toNat < bufSize := hsize
    rw [if_neg hsize, if_pos hcut]

end TinyEnvSensor
