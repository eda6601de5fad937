import LdkLspClient.Msgs
import LdkLspClient.Utf8
import LdkLspClient.Decimal
import Mathlib.Tactic.IntervalCases
import Mathlib.Logic.Encodable.Basic

namespace LdkLspClient

/-- `to_be_bytes` of a `width`-byte unsigned integer: most significant byte first. -/
def toBeBytes : Nat → Nat → List UInt8
  | 0, _ => []
  | width + 1, n => toBeBytes width (n / 256) ++ [UInt8.ofNat n]

theorem toBeBytes_length (width n : Nat) : (toBeBytes width n).length = width := by
  induction width generalizing n with
  | zero => rfl
  | succ width ih => simp [toBeBytes, ih]

theorem toBeBytes_inj {width n m : Nat} (hn : n < 256 ^ width) (hm : m < 256 ^ width)
    (h : toBeBytes width n = toBeBytes width m) : n = m := by
  induction width generalizing n m with
  | zero => simp at hn hm; omega
  | succ width ih =>
    obtain ⟨hhigh, hlow⟩ := List.append_inj h (by simp [toBeBytes_length])
    have hq := ih (by rw [Nat.pow_succ] at hn; omega) (by rw [Nat.pow_succ] at hm; omega) hhigh
    have hr : n % 256 = m % 256 := by
      simpa [UInt8.toNat, BitVec.toNat_ofNat] using congrArg UInt8.toNat (List.singleton_inj.mp hlow)
    omega

/-- `HmacEngine<Sha256>`: its key and the bytes fed to it so far. -/
structure HmacEngine where
  key : List UInt8
  buffer : List UInt8
  deriving DecidableEq, Repr

def HmacEngine.new (key : List UInt8) : HmacEngine := ⟨key, []⟩

def HmacEngine.input (hmac : HmacEngine) (bytes : List UInt8) : HmacEngine :=
  { hmac with buffer := hmac.buffer ++ bytes }

section Promise

variable (hmacSha256 : List UInt8 → List UInt8 → List UInt8) (toRfc3339 : DateTime → String)

/-- `Hmac::from_engine(hmac).into_inner()`: the MAC of everything fed to the engine. -/
def Hmac.fromEngine (hmac : HmacEngine) : List UInt8 := hmacSha256 hmac.key hmac.buffer

def RawOpeningFeeParams.promiseEngine (self : RawOpeningFeeParams) (promiseSecret : List UInt8) :
    HmacEngine :=
  let hmac := HmacEngine.new promiseSecret
  let hmac := hmac.input (toBeBytes 8 self.minFeeMsat.toNat)
  let hmac := hmac.input (toBeBytes 4 self.proportional.toNat)
  let hmac := hmac.input (strAsBytes (toRfc3339 self.validUntil))
  let hmac := hmac.input (toBeBytes 4 self.minLifetime.toNat)
  hmac.input (toBeBytes 4 self.maxClientToSelfDelay.toNat)

/-- `RawOpeningFeeParams::into_opening_fee_params`: the promise is the hex of an HMAC under the
LSP's secret over the offer's fields, the numbers as fixed-width big-endian bytes around the
RFC 3339 text of the expiry. HMAC-SHA256 (`bitcoin::hashes`) and RFC 3339 formatting
(`chrono`) are parameters. -/
def RawOpeningFeeParams.intoOpeningFeeParams (self : RawOpeningFeeParams)
    (promiseSecret : List UInt8) : OpeningFeeParams :=
  let promiseBytes := Hmac.fromEngine hmacSha256 (self.promiseEngine toRfc3339 promiseSecret)
  let promise := hexStr promiseBytes
  { minFeeMsat := self.minFeeMsat
    proportional := self.proportional
    validUntil := self.validUntil
    minLifetime := self.minLifetime
    maxClientToSelfDelay := self.maxClientToSelfDelay
    promise }

theorem promiseEngine_buffer (r : RawOpeningFeeParams) (promiseSecret : List UInt8) :
    (r.promiseEngine toRfc3339 promiseSecret).buffer =
      toBeBytes 8 r.minFeeMsat.toNat ++ toBeBytes 4 r.proportional.toNat ++
        strAsBytes (toRfc3339 r.validUntil) ++ toBeBytes 4 r.minLifetime.toNat ++
        toBeBytes 4 r.maxClientToSelfDelay.toNat := by
  simp [RawOpeningFeeParams.promiseEngine, HmacEngine.input, HmacEngine.new]

variable {toRfc3339}

theorem promiseEngine_buffer_inj (hinj : Function.Injective toRfc3339) (promiseSecret : List UInt8)
    {r1 r2 : RawOpeningFeeParams}
    (h : (r1.promiseEngine toRfc3339 promiseSecret).buffer =
      (r2.promiseEngine toRfc3339 promiseSecret).buffer) : r1 = r2 := by
  simp only [promiseEngine_buffer, List.append_assoc] at h
  obtain ⟨hfee, h⟩ := List.append_inj h (by simp [toBeBytes_length])
  obtain ⟨hprop, h⟩ := List.append_inj h (by simp [toBeBytes_length])
  obtain ⟨htime, h⟩ := List.append_inj' h (by simp [toBeBytes_length])
  obtain ⟨hlife, hdelay⟩ := List.append_inj h (by simp [toBeBytes_length])
  have h64 (x : UInt64) : x.toNat < 256 ^ 8 := x.toNat_lt_size
  have h32 (x : UInt32) : x.toNat < 256 ^ 4 := x.toNat_lt_size
  cases r1; cases r2
  simp only [RawOpeningFeeParams.mk.injEq]
  exact ⟨UInt64.toNat.inj (toBeBytes_inj (h64 _) (h64 _) hfee),
    UInt32.toNat.inj (toBeBytes_inj (h32 _) (h32 _) hprop), hinj (strAsBytes_injective htime),
    UInt32.toNat.inj (toBeBytes_inj (h32 _) (h32 _) hlife),
    UInt32.toNat.inj (toBeBytes_inj (h32 _) (h32 _) hdelay)⟩

end Promise

theorem digitChar_hex_toNat {d : Nat} (h : d < 16) :
    (Nat.digitChar d).toNat = if d < 10 then 48 + d else 87 + d := by
  interval_cases d <;> rfl

theorem digitChar_hex_inj {d e : Nat} (hd : d < 16) (he : e < 16)
    (h : Nat.digitChar d = Nat.digitChar e) : d = e := by
  have := congrArg Char.toNat h
  rw [digitChar_hex_toNat hd, digitChar_hex_toNat he] at this
  split_ifs at this <;> omega

theorem hexStr_injective : Function.Injective hexStr := by
  intro a b h
  replace h := congrArg String.data h
  induction a generalizing b with
  | nil => cases b <;> simp_all [hexStr]
  | cons x a ih =>
    cases b with
    | nil => simp [hexStr] at h
    | cons y b =>
      simp only [hexStr, List.flatMap_cons, List.cons_append, List.nil_append,
        List.cons.injEq] at h
      obtain ⟨hhi, hlo, h⟩ := h
      have hx := x.toNat_lt_size
      have hy := y.toNat_lt_size
      have hq := digitChar_hex_inj (by simp [UInt8.size] at hx; omega)
        (by simp [UInt8.size] at hy; omega) hhi
      have hr := digitChar_hex_inj (Nat.mod_lt _ (by omega)) (Nat.mod_lt _ (by omega)) hlo
      rw [UInt8.toNat.inj (by omega : x.toNat = y.toNat), ih h]

/-- **The promise commits to every field.** The engine is fed the fields in the spec's layout;
offers that differ in a field feed it different bytes, and the offer built keeps the raw
fields; so two different offers with one promise are an HMAC collision. -/
theorem into_opening_fee_params_commits (hmacSha256 : List UInt8 → List UInt8 → List UInt8)
    (toRfc3339 : DateTime → String) (hinj : Function.Injective toRfc3339)
    (promiseSecret : List UInt8) (r1 r2 : RawOpeningFeeParams) (hne : r1 ≠ r2) :
    (∀ r : RawOpeningFeeParams, (r.promiseEngine toRfc3339 promiseSecret).buffer =
      toBeBytes 8 r.minFeeMsat.toNat ++ toBeBytes 4 r.proportional.toNat ++
        strAsBytes (toRfc3339 r.validUntil) ++ toBeBytes 4 r.minLifetime.toNat ++
        toBeBytes 4 r.maxClientToSelfDelay.toNat) ∧
    (r1.promiseEngine toRfc3339 promiseSecret).buffer ≠
        (r2.promiseEngine toRfc3339 promiseSecret).buffer ∧
      (∀ r : RawOpeningFeeParams,
        let p := r.intoOpeningFeeParams hmacSha256 toRfc3339 promiseSecret
        p.minFeeMsat = r.minFeeMsat ∧ p.proportional = r.proportional ∧
          p.validUntil = r.validUntil ∧ p.minLifetime = r.minLifetime ∧
          p.maxClientToSelfDelay = r.maxClientToSelfDelay) ∧
      ((r1.intoOpeningFeeParams hmacSha256 toRfc3339 promiseSecret).promise =
          (r2.intoOpeningFeeParams hmacSha256 toRfc3339 promiseSecret).promise →
        hmacSha256 promiseSecret (r1.promiseEngine toRfc3339 promiseSecret).buffer =
          hmacSha256 promiseSecret (r2.promiseEngine toRfc3339 promiseSecret).buffer) :=
  ⟨fun r => promiseEngine_buffer toRfc3339 r promiseSecret,
    fun h => hne (promiseEngine_buffer_inj hinj promiseSecret h),
    fun _ => ⟨rfl, rfl, rfl, rfl, rfl⟩, fun h => hexStr_injective h⟩

/-- An injective stand-in for RFC 3339 text: the decimal code of the time. -/
def dateCode (d : DateTime) : String := ⟨Nat.toDigits 10 (Encodable.encode (d.timestamp, d.nanos))⟩

theorem dateCode_injective : Function.Injective dateCode := by
  intro a b h
  have := Encodable.encode_injective (toDigits_inj (congrArg String.data h))
  cases a; cases b
  simp_all

/-- The spec's offer (expiring 2035-05-20T08:30:45Z) with a given `min_fee_msat`. -/
def specOffer (minFeeMsat : UInt64) : RawOpeningFeeParams :=
  { minFeeMsat, proportional := 21, validUntil := { timestamp := 2063262645, nanos := 0 },
    minLifetime := 144, maxClientToSelfDelay := 128 }

theorem into_opening_fee_params_tampered :
    ((specOffer 100).promiseEngine dateCode (List.replicate 32 1)).buffer ≠
      ((specOffer 101).promiseEngine dateCode (List.replicate 32 1)).buffer :=
  (into_opening_fee_params_commits (fun _ m => m) dateCode dateCode_injective
    (List.replicate 32 1) (specOffer 100) (specOffer 101) (by decide)).2.1

end LdkLspClient
