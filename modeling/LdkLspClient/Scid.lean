import LdkLspClient.Msgs
import LdkLspClient.Decimal

namespace LdkLspClient

/-- Modelled from the spec: the block height, bits 63..40 of a short channel id. -/
def blockFromScid (scid : UInt64) : Nat := scid.toNat / 2 ^ 40

/-- Modelled from the spec: the transaction index, bits 39..16. -/
def txIndexFromScid (scid : UInt64) : Nat := scid.toNat / 2 ^ 16 % 2 ^ 24

/-- Modelled from the spec: the output index, bits 15..0. -/
def voutFromScid (scid : UInt64) : Nat := scid.toNat % 2 ^ 16

/-- `From<u64> for JitChannelScid`. -/
def JitChannelScid.from (scid : UInt64) : JitChannelScid :=
  let block := blockFromScid scid
  let txIndex := txIndexFromScid scid
  let vout := voutFromScid scid
  ⟨s!"{block}x{txIndex}x{vout}"⟩

/-- Modelled from the spec: `utils::scid_from_human_readable_string` parses the three
decimal components between the `x`s, rejects one wider than its field and recomposes. -/
def scidFromHumanReadableString (humanReadableScid : String) : Except Unit UInt64 :=
  match humanReadableScid.data.splitOn 'x' with
  | [b, t, v] =>
    match parseDecimal b, parseDecimal t, parseDecimal v with
    | some block, some txIndex, some voutIndex =>
      if block < 2 ^ 24 ∧ txIndex < 2 ^ 24 ∧ voutIndex < 2 ^ 16 then
        .ok (UInt64.ofNat (block * 2 ^ 40 + txIndex * 2 ^ 16 + voutIndex))
      else .error ()
    | _, _, _ => .error ()
  | _ => .error ()

def JitChannelScid.toScid (s : JitChannelScid) : Except Unit UInt64 :=
  scidFromHumanReadableString s.scid

theorem scidFromHumanReadableString_eq_ok {s : String} {x : UInt64} :
    scidFromHumanReadableString s = .ok x ↔
      ∃ b t v, s.data.splitOn 'x' = [b, t, v] ∧
        ∃ block txIndex voutIndex, parseDecimal b = some block ∧
          parseDecimal t = some txIndex ∧ parseDecimal v = some voutIndex ∧
          block < 2 ^ 24 ∧ txIndex < 2 ^ 24 ∧ voutIndex < 2 ^ 16 ∧
          x.toNat = block * 2 ^ 40 + txIndex * 2 ^ 16 + voutIndex := by
  have hsize : UInt64.size = 2 ^ 64 := rfl
  unfold scidFromHumanReadableString
  constructor
  · intro h
    split at h
    · rename_i b t v hs
      split at h
      · rename_i block txIndex voutIndex hb ht hv
        split at h
        · rename_i hw
          cases h
          refine ⟨b, t, v, hs, block, txIndex, voutIndex, hb, ht, hv, hw.1, hw.2.1, hw.2.2, ?_⟩
          exact UInt64.toNat_ofNat_of_lt (by omega)
        · cases h
      · cases h
    · cases h
  · rintro ⟨b, t, v, hs, block, txIndex, voutIndex, hb, ht, hv, h1, h2, h3, hx⟩
    simp only [hs, hb, ht, hv, h1, h2, h3, and_self, if_true]
    congr
    exact UInt64.toNat.inj (by rw [hx, UInt64.toNat_ofNat_of_lt (by omega)])

theorem from_data (scid : UInt64) :
    (JitChannelScid.from scid).scid.data =
      ['x'].intercalate [Nat.toDigits 10 (blockFromScid scid),
        Nat.toDigits 10 (txIndexFromScid scid), Nat.toDigits 10 (voutFromScid scid)] := by
  simp [JitChannelScid.from, List.intercalate, Nat.repr, List.asString, toString]

theorem x_not_mem_toDigits (n : Nat) : 'x' ∉ Nat.toDigits 10 n := fun h => by
  have := (isDigit_iff 'x').mp (isDigit_of_mem_toDigits h)
  simp at this

theorem splitOn_from (scid : UInt64) :
    (JitChannelScid.from scid).scid.data.splitOn 'x' =
      [Nat.toDigits 10 (blockFromScid scid), Nat.toDigits 10 (txIndexFromScid scid),
        Nat.toDigits 10 (voutFromScid scid)] := by
  rw [from_data, List.splitOn_intercalate]
  · simpa using ⟨x_not_mem_toDigits _, x_not_mem_toDigits _, x_not_mem_toDigits _⟩
  · simp

/-- **SCID round trip.** Every 64-bit id comes back from its human readable form. -/
theorem to_scid_from (scid : UInt64) : (JitChannelScid.from scid).toScid = .ok scid := by
  have hlt := scid.toNat_lt_size
  have fields : blockFromScid scid < 2 ^ 24 ∧ txIndexFromScid scid < 2 ^ 24 ∧
      voutFromScid scid < 2 ^ 16 ∧ scid.toNat = blockFromScid scid * 2 ^ 40 +
        txIndexFromScid scid * 2 ^ 16 + voutFromScid scid := by
    simp only [blockFromScid, txIndexFromScid, voutFromScid, UInt64.size] at hlt ⊢
    omega
  exact scidFromHumanReadableString_eq_ok.mpr ⟨_, _, _, splitOn_from scid, _, _, _,
    parseDecimal_toDigits (by omega), parseDecimal_toDigits (by omega),
    parseDecimal_toDigits (by omega), fields⟩

/-- A string as `JitChannelScid::from` writes it: no part starts with `+`, or with a `0` that
is not the whole part. -/
def JitChannelScid.Canonical (s : JitChannelScid) : Prop :=
  ∀ part ∈ s.scid.data.splitOn 'x', part.head? ≠ some '+' ∧ (part.head? = some '0' → part = ['0'])

instance : DecidablePred JitChannelScid.Canonical := fun s =>
  inferInstanceAs (Decidable (∀ part ∈ s.scid.data.splitOn 'x', _))

theorem from_canonical (scid : UInt64) : (JitChannelScid.from scid).Canonical := by
  intro part hp
  rw [splitOn_from] at hp
  simp only [List.mem_cons, List.mem_singleton, List.not_mem_nil, or_false] at hp
  rcases hp with rfl | rfl | rfl <;>
    refine ⟨fun hplus => ?_, toDigits_head_zero⟩ <;>
    exact absurd (isDigit_of_mem_toDigits (List.mem_of_mem_head? hplus)) (by decide)

theorem from_to_scid_of_canonical (s : JitChannelScid) (x : UInt64)
    (h : s.toScid = .ok x) (hc : s.Canonical) : JitChannelScid.from x = s := by
  obtain ⟨b, t, v, hs, block, txIndex, voutIndex, hb, ht, hv, h1, h2, h3, hx⟩ :=
    scidFromHumanReadableString_eq_ok.mp h
  have hcs : ∀ part ∈ [b, t, v], part.head? ≠ some '+' ∧ (part.head? = some '0' → part = ['0']) :=
    hs ▸ hc
  have digits : ∀ part ∈ [b, t, v], ∀ n, parseDecimal part = some n →
      part ≠ [] ∧ (∀ c ∈ part, c.isDigit = true) ∧ digitsValue part = n := by
    intro part hp n hn
    obtain ⟨h0, hd, rfl, -⟩ := parseDecimal_eq_some.mp hn
    rw [stripPlus_of_head (hcs part hp).1] at h0 hd ⊢
    exact ⟨h0, hd, rfl⟩
  obtain ⟨hb0, hbd, rfl⟩ := digits b (by simp) _ hb
  obtain ⟨ht0, htd, rfl⟩ := digits t (by simp) _ ht
  obtain ⟨hv0, hvd, rfl⟩ := digits v (by simp) _ hv
  have fields : blockFromScid x = digitsValue b ∧ txIndexFromScid x = digitsValue t ∧
      voutFromScid x = digitsValue v := by
    simp only [blockFromScid, txIndexFromScid, voutFromScid, hx]
    omega
  have hdata : (JitChannelScid.from x).scid.data = s.scid.data := by
    rw [from_data, fields.1, fields.2.1, fields.2.2,
      toDigits_digitsValue hb0 hbd (hcs b (by simp)).2,
      toDigits_digitsValue ht0 htd (hcs t (by simp)).2,
      toDigits_digitsValue hv0 hvd (hcs v (by simp)).2, ← hs]
    exact List.intercalate_splitOn _ _
  cases s
  exact congrArg JitChannelScid.mk (String.ext hdata)

/-- `to_scid` reads a leading zero: `00x0x0` is the id `0`, which is written `0x0x0`. -/
theorem to_scid_leading_zero :
    (JitChannelScid.mk "00x0x0").toScid = .ok 0 ∧ JitChannelScid.from 0 ≠ ⟨"00x0x0"⟩ :=
  ⟨rfl, by decide⟩

/-- **Accepted strings.** `to_scid` reads exactly three `x`-separated parts, each an optional
`+` and a nonempty digit string, within their field widths, and recomposes the id from them, so
no `-`, extra part or over-wide field; and `from` gives the string back exactly when it is
canonical, with no `+` and no leading zero. -/
theorem to_scid_canonical (s : JitChannelScid) (x : UInt64) (h : s.toScid = .ok x) :
    (∃ b t v, s.scid.data.splitOn 'x' = [b, t, v] ∧
      (∀ part ∈ [b, t, v], stripPlus part ≠ [] ∧ ∀ c ∈ stripPlus part, c.isDigit = true) ∧
      digitsValue (stripPlus b) < 2 ^ 24 ∧ digitsValue (stripPlus t) < 2 ^ 24 ∧
      digitsValue (stripPlus v) < 2 ^ 16 ∧
      x.toNat = digitsValue (stripPlus b) * 2 ^ 40 + digitsValue (stripPlus t) * 2 ^ 16 +
        digitsValue (stripPlus v)) ∧
    (JitChannelScid.from x = s ↔ s.Canonical) := by
  refine ⟨?_, fun hx => hx ▸ from_canonical x, from_to_scid_of_canonical s x h⟩
  obtain ⟨b, t, v, hs, block, txIndex, voutIndex, hb, ht, hv, h1, h2, h3, hx⟩ :=
    scidFromHumanReadableString_eq_ok.mp h
  obtain ⟨hb0, hbd, rfl, -⟩ := parseDecimal_eq_some.mp hb
  obtain ⟨ht0, htd, rfl, -⟩ := parseDecimal_eq_some.mp ht
  obtain ⟨hv0, hvd, rfl, -⟩ := parseDecimal_eq_some.mp hv
  refine ⟨b, t, v, hs, ?_, h1, h2, h3, hx⟩
  simp only [List.mem_cons, List.mem_singleton, List.not_mem_nil, or_false]
  rintro part (rfl | rfl | rfl) <;> exact ⟨‹_›, ‹_›⟩

/-- `840000x1x0` is canonical and comes back from its id; `+840000x1x0` reads as the same id
but is not canonical, so `from` writes it otherwise. -/
theorem to_scid_canonical_840000x1x0 :
    (JitChannelScid.mk "840000x1x0").toScid = .ok 923589767331905536 ∧
      JitChannelScid.from 923589767331905536 = ⟨"840000x1x0"⟩ ∧
      (JitChannelScid.mk "+840000x1x0").toScid = .ok 923589767331905536 ∧
      JitChannelScid.from 923589767331905536 ≠ ⟨"+840000x1x0"⟩ :=
  ⟨rfl, (to_scid_canonical ⟨"840000x1x0"⟩ 923589767331905536 rfl).2.mpr (by decide), rfl,
    fun h => absurd ((to_scid_canonical ⟨"+840000x1x0"⟩ 923589767331905536 rfl).2.mp h)
      (by decide)⟩

end LdkLspClient
