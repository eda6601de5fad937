import Mathlib.Data.List.Basic
import Mathlib.Tactic.IntervalCases

namespace LdkLspClient

theorem uint32_shiftRight_toNat (v : UInt32) (k : Nat) (hk : k < 32) :
    (v >>> UInt32.ofNat k).toNat = v.toNat / 2 ^ k := by
  show (v.toBitVec >>> (UInt32.mod (UInt32.ofNat k) 32).toBitVec).toNat = _
  rw [BitVec.ushiftRight_eq', BitVec.toNat_ushiftRight, Nat.shiftRight_eq_div_pow]
  congr
  show (BitVec.ofNat 32 k).toNat % (BitVec.ofNat 32 32).toNat = k
  simp only [BitVec.toNat_ofNat]
  rw [Nat.mod_eq_of_lt (by omega : k < 2 ^ 32), Nat.mod_eq_of_lt hk]

theorem uint32_toUInt8_toNat (v : UInt32) : v.toUInt8.toNat = v.toNat % 256 := by
  show (BitVec.ofNat 8 v.toNat).toNat = _
  simp

theorem uint8_masked_toNat (x : UInt8) (k c : Nat) (hk : 2 ^ k ≤ 256) (hc : 2 ^ k * c < 256) :
    (x &&& UInt8.ofNat (2 ^ k - 1) ||| UInt8.ofNat (2 ^ k * c)).toNat = 2 ^ k * c + x.toNat % 2 ^ k := by
  show (x.toBitVec &&& BitVec.ofNat 8 (2 ^ k - 1) ||| BitVec.ofNat 8 (2 ^ k * c)).toNat = _
  simp only [BitVec.toNat_or, BitVec.toNat_and, BitVec.toNat_ofNat]
  rw [Nat.mod_eq_of_lt (show 2 ^ k - 1 < 2 ^ 8 by omega), Nat.mod_eq_of_lt (show 2 ^ k * c < 2 ^ 8 by omega),
    Nat.and_pow_two_sub_one_eq_mod, Nat.or_comm, ← Nat.mul_add_lt_is_or (Nat.mod_lt _ (Nat.two_pow_pos k))]
  rfl

theorem uint32_le_ofNat_iff (v : UInt32) (n : Nat) (h : n < 2 ^ 32) : v ≤ UInt32.ofNat n ↔ v.toNat ≤ n := by
  show v.toBitVec.toNat ≤ (BitVec.ofNat 32 n).toNat ↔ _
  rw [BitVec.toNat_ofNat, Nat.mod_eq_of_lt h]; rfl

theorem char_toNat_lt (c : Char) : c.toNat < 0x110000 := by
  have := c.valid
  simp only [UInt32.isValidChar, Nat.isValidChar] at this
  change c.val.toNat < _
  omega

/-- The bytes `String.utf8EncodeChar` writes for a code point, as numbers: one byte below
`0x80`, else a lead byte that says how many continuation bytes of six bits follow. -/
def utf8Bytes (n : Nat) : List Nat :=
  if n ≤ 0x7f then [n]
  else if n ≤ 0x7ff then [0xc0 + n / 2 ^ 6, 0x80 + n % 2 ^ 6]
  else if n ≤ 0xffff then [0xe0 + n / 2 ^ 12, 0x80 + n / 2 ^ 6 % 2 ^ 6, 0x80 + n % 2 ^ 6]
  else [0xf0 + n / 2 ^ 18, 0x80 + n / 2 ^ 12 % 2 ^ 6, 0x80 + n / 2 ^ 6 % 2 ^ 6, 0x80 + n % 2 ^ 6]

theorem utf8EncodeChar_map_toNat (c : Char) :
    (String.utf8EncodeChar c).map UInt8.toNat = utf8Bytes c.toNat := by
  have hv : c.val.toNat < 0x110000 := char_toNat_lt c
  have h1 : c.val ≤ 127 ↔ c.val.toNat ≤ 127 := uint32_le_ofNat_iff c.val 127 (by decide)
  have h2 : c.val ≤ 2047 ↔ c.val.toNat ≤ 2047 := uint32_le_ofNat_iff c.val 2047 (by decide)
  have h3 : c.val ≤ 65535 ↔ c.val.toNat ≤ 65535 := uint32_le_ofNat_iff c.val 65535 (by decide)
  have s6 : (c.val >>> 6).toNat = c.val.toNat / 2 ^ 6 := uint32_shiftRight_toNat c.val 6 (by decide)
  have s12 : (c.val >>> 12).toNat = c.val.toNat / 2 ^ 12 := uint32_shiftRight_toNat c.val 12 (by decide)
  have s18 : (c.val >>> 18).toNat = c.val.toNat / 2 ^ 18 := uint32_shiftRight_toNat c.val 18 (by decide)
  have m5 : ∀ x : UInt8, (x &&& 31 ||| 192).toNat = 192 + x.toNat % 2 ^ 5 :=
    fun x => uint8_masked_toNat x 5 6 (by decide) (by decide)
  have m6 : ∀ x : UInt8, (x &&& 63 ||| 128).toNat = 128 + x.toNat % 2 ^ 6 :=
    fun x => uint8_masked_toNat x 6 2 (by decide) (by decide)
  have m4 : ∀ x : UInt8, (x &&& 15 ||| 224).toNat = 224 + x.toNat % 2 ^ 4 :=
    fun x => uint8_masked_toNat x 4 14 (by decide) (by decide)
  have m3 : ∀ x : UInt8, (x &&& 7 ||| 240).toNat = 240 + x.toNat % 2 ^ 3 :=
    fun x => uint8_masked_toNat x 3 30 (by decide) (by decide)
  unfold String.utf8EncodeChar utf8Bytes
  simp only [h1, h2, h3, Char.toNat]
  split_ifs <;> simp (disch := decide) only [List.map_cons, List.map_nil, m3, m4, m5, m6,
    uint32_toUInt8_toNat, s6, s12, s18, Nat.mod_mod_of_dvd, List.cons.injEq, and_true] <;> omega

theorem utf8Bytes_ne_nil (n : Nat) : utf8Bytes n ≠ [] := by
  unfold utf8Bytes; split_ifs <;> simp

theorem utf8Bytes_lead (n : Nat) :
    ∃ b rest, utf8Bytes n = b :: rest ∧
      (b < 0x80 ∧ rest.length = 0 ∨ 0xc0 ≤ b ∧ b < 0xe0 ∧ rest.length = 1 ∨
        0xe0 ≤ b ∧ b < 0xf0 ∧ rest.length = 2 ∨ 0xf0 ≤ b ∧ rest.length = 3) := by
  unfold utf8Bytes
  split_ifs <;> refine ⟨_, _, rfl, ?_⟩ <;> simp only [List.length_cons, List.length_nil, and_true] <;>
    omega

theorem utf8Bytes_length_eq {n m : Nat} (h : (utf8Bytes n).head? = (utf8Bytes m).head?) :
    (utf8Bytes n).length = (utf8Bytes m).length := by
  obtain ⟨b, rest, hb, hlead⟩ := utf8Bytes_lead n
  obtain ⟨b', rest', hb', hlead'⟩ := utf8Bytes_lead m
  rw [hb, hb'] at h ⊢
  simp only [List.head?_cons, Option.some.injEq, List.length_cons] at h ⊢
  omega

/-- The code point a sequence of one to four UTF-8 bytes spells. -/
def utf8Value : List Nat → Nat
  | [b] => b
  | [b0, b1] => (b0 - 0xc0) * 2 ^ 6 + (b1 - 0x80)
  | [b0, b1, b2] => (b0 - 0xe0) * 2 ^ 12 + (b1 - 0x80) * 2 ^ 6 + (b2 - 0x80)
  | [b0, b1, b2, b3] =>
    (b0 - 0xf0) * 2 ^ 18 + (b1 - 0x80) * 2 ^ 12 + (b2 - 0x80) * 2 ^ 6 + (b3 - 0x80)
  | _ => 0

theorem utf8Value_utf8Bytes (n : Nat) : utf8Value (utf8Bytes n) = n := by
  unfold utf8Bytes
  split_ifs <;> simp only [utf8Value, Nat.add_sub_cancel_left] <;> omega

theorem utf8Bytes_inj {n m : Nat} (h : utf8Bytes n = utf8Bytes m) : n = m := by
  rw [← utf8Value_utf8Bytes n, h, utf8Value_utf8Bytes]

theorem flatMap_utf8Bytes_inj : ∀ {s t : List Char},
    s.flatMap (fun c => utf8Bytes c.toNat) = t.flatMap (fun c => utf8Bytes c.toNat) → s = t
  | [], [], _ => rfl
  | [], d :: t, h => by simp [utf8Bytes_ne_nil] at h
  | c :: s, [], h => by simp [utf8Bytes_ne_nil] at h
  | c :: s, d :: t, h => by
    simp only [List.flatMap_cons] at h
    have hhead := congrArg List.head? h
    rw [List.head?_append_of_ne_nil _ (utf8Bytes_ne_nil _),
      List.head?_append_of_ne_nil _ (utf8Bytes_ne_nil _)] at hhead
    obtain ⟨hcd, hst⟩ := List.append_inj h (utf8Bytes_length_eq hhead)
    have hc : c = d := Char.ext (UInt32.toNat.inj (utf8Bytes_inj hcd))
    rw [hc, flatMap_utf8Bytes_inj hst]

/-- `str::as_bytes`: a string's UTF-8 bytes. -/
def strAsBytes (s : String) : List UInt8 := s.toUTF8.data.toList

/-- **`as_bytes` loses nothing.** Two strings with the same UTF-8 bytes are equal. -/
theorem strAsBytes_injective : Function.Injective strAsBytes := by
  intro s t h
  apply String.ext
  apply flatMap_utf8Bytes_inj
  have := congrArg (List.map UInt8.toNat) h
  simpa [strAsBytes, String.toUTF8, List.map_flatMap, utf8EncodeChar_map_toNat] using this

end LdkLspClient
