import Mathlib.Data.List.Basic
import Mathlib.Data.Nat.Digits
import Mathlib.Tactic.IntervalCases

namespace LdkLspClient

theorem isDigit_iff (c : Char) : c.isDigit = true ↔ 48 ≤ c.toNat ∧ c.toNat ≤ 57 := by
  simp [Char.isDigit, UInt32.le_def, BitVec.le_def, Char.toNat]
  exact Iff.rfl

theorem digitChar_toNat {d : Nat} (h : d < 10) : (Nat.digitChar d).toNat = 48 + d := by
  interval_cases d <;> rfl

theorem digitChar_of_isDigit {c : Char} (h : c.isDigit = true) : Nat.digitChar (c.toNat - 48) = c := by
  have hc := (isDigit_iff c).mp h
  apply Char.ext
  apply UInt32.toNat.inj
  change (Nat.digitChar _).toNat = c.toNat
  rw [digitChar_toNat (by omega)]
  omega

theorem toDigitsCore_append (f n : Nat) (ds : List Char) :
    Nat.toDigitsCore 10 f n ds = Nat.toDigitsCore 10 f n [] ++ ds := by
  induction f generalizing n ds with
  | zero => rfl
  | succ f ih =>
    simp only [Nat.toDigitsCore]
    split
    · rfl
    · rw [ih _ (_ :: ds), ih _ [_], List.append_assoc, List.singleton_append]

theorem toDigitsCore_fuel {f g n : Nat} (hf : n < f) (hg : n < g) :
    Nat.toDigitsCore 10 f n [] = Nat.toDigitsCore 10 g n [] := by
  induction f generalizing g n with
  | zero => omega
  | succ f ih =>
    obtain ⟨g, rfl⟩ : ∃ g', g = g' + 1 := ⟨g - 1, by omega⟩
    simp only [Nat.toDigitsCore]
    split
    · rfl
    · rw [toDigitsCore_append f, toDigitsCore_append g, ih (g := g) (by omega) (by omega)]

theorem toDigits_eq (n : Nat) :
    Nat.toDigits 10 n =
      (if n < 10 then [] else Nat.toDigits 10 (n / 10)) ++ [Nat.digitChar (n % 10)] := by
  show Nat.toDigitsCore 10 (n + 1) n [] = _
  rw [Nat.toDigitsCore]
  split
  · simp [show n < 10 by omega]
  · rw [toDigitsCore_append, toDigitsCore_fuel (g := n / 10 + 1) (by omega) (by omega)]
    simp [Nat.toDigits, show ¬ n < 10 by omega]

theorem toDigits_ne_nil (n : Nat) : Nat.toDigits 10 n ≠ [] := by
  rw [toDigits_eq]; simp

theorem isDigit_of_mem_toDigits {n : Nat} {c : Char} (h : c ∈ Nat.toDigits 10 n) :
    c.isDigit = true := by
  induction n using Nat.strong_induction_on with
  | _ n ih =>
    rw [toDigits_eq] at h
    rcases List.mem_append.mp h with h | h
    · split at h
      · simp at h
      · exact ih (n / 10) (by omega) h
    · rw [List.mem_singleton.mp h, isDigit_iff, digitChar_toNat (Nat.mod_lt _ (by omega))]
      omega

theorem toDigits_head_ne_zero {n : Nat} (h : 0 < n) : (Nat.toDigits 10 n).head? ≠ some '0' := by
  induction n using Nat.strong_induction_on with
  | _ n ih =>
    rw [toDigits_eq]
    split
    · intro hz
      have := congrArg Char.toNat (Option.some.inj hz)
      rw [digitChar_toNat (by omega)] at this
      simp at this
      omega
    · rw [List.head?_append_of_ne_nil _ (toDigits_ne_nil _)]
      exact ih (n / 10) (by omega) (by omega)

theorem toDigits_head_zero {n : Nat} (h : (Nat.toDigits 10 n).head? = some '0') :
    Nat.toDigits 10 n = ['0'] := by
  cases n with
  | zero => rfl
  | succ n => exact absurd h (toDigits_head_ne_zero (Nat.succ_pos n))

/-- The number a string of digits spells. -/
def digitsValue (cs : List Char) : Nat :=
  cs.foldl (fun n c => 10 * n + (c.toNat - 48)) 0

theorem digitsValue_append (cs : List Char) (c : Char) :
    digitsValue (cs ++ [c]) = 10 * digitsValue cs + (c.toNat - 48) := by
  simp [digitsValue]

theorem digitsValue_toDigits (n : Nat) : digitsValue (Nat.toDigits 10 n) = n := by
  induction n using Nat.strong_induction_on with
  | _ n ih =>
    rw [toDigits_eq, digitsValue_append, digitChar_toNat (Nat.mod_lt _ (by omega))]
    split
    · simp [digitsValue]; omega
    · rw [ih (n / 10) (by omega)]; omega

/-- **Uniqueness.** A digit string with no leading zero is the print of its value. -/
theorem toDigits_digitsValue {cs : List Char} (hne : cs ≠ [])
    (hd : ∀ c ∈ cs, c.isDigit = true) (hz : cs.head? = some '0' → cs = ['0']) :
    Nat.toDigits 10 (digitsValue cs) = cs := by
  induction cs using List.reverseRecOn with
  | nil => exact absurd rfl hne
  | append_singleton l c ih =>
    have hc := (isDigit_iff c).mp (hd c (by simp))
    rw [digitsValue_append, toDigits_eq]
    by_cases hl : l = []
    · subst hl
      simp only [digitsValue, List.foldl_nil, Nat.mul_zero, Nat.zero_add, List.nil_append]
      rw [if_pos (by omega), Nat.mod_eq_of_lt (by omega),
        digitChar_of_isDigit (hd c (by simp)), List.nil_append]
    · have hlz : l.head? = some '0' → l = ['0'] := by
        intro h0
        have := hz (by rwa [List.head?_append_of_ne_nil _ hl])
        cases l with
        | nil => exact absurd rfl hl
        | cons a l => simp at this
      have hv := ih hl (fun a ha => hd a (by simp [ha])) hlz
      have hpos : 0 < digitsValue l := by
        refine Nat.pos_of_ne_zero fun h0 => ?_
        rw [h0] at hv
        have := hlz (by rw [← hv]; rfl)
        subst this
        simp at hz
      rw [if_neg (by omega), show (10 * digitsValue l + (c.toNat - 48)) / 10 = digitsValue l by omega,
        show (10 * digitsValue l + (c.toNat - 48)) % 10 = c.toNat - 48 by omega, hv,
        digitChar_of_isDigit (hd c (by simp))]

theorem toDigits_inj {n m : Nat} (h : Nat.toDigits 10 n = Nat.toDigits 10 m) : n = m := by
  rw [← digitsValue_toDigits n, h, digitsValue_toDigits]

/-- The digits after the one `+` that `u64::from_str` allows in front. -/
def stripPlus : List Char → List Char
  | '+' :: digits => digits
  | cs => cs

theorem stripPlus_of_head {cs : List Char} (h : cs.head? ≠ some '+') : stripPlus cs = cs := by
  unfold stripPlus
  split
  · exact absurd rfl h
  · rfl

theorem stripPlus_of_isDigit {cs : List Char} (h : ∀ c ∈ cs, c.isDigit = true) :
    stripPlus cs = cs :=
  stripPlus_of_head fun hp => absurd (h '+' (List.mem_of_mem_head? hp)) (by decide)

/-- `str::parse::<u64>`: an optional `+`, then a nonempty string of digits whose value fits in
64 bits, read as decimal. -/
def parseDecimal (cs : List Char) : Option Nat :=
  let digits := stripPlus cs
  if digits ≠ [] ∧ digits.all Char.isDigit ∧ digitsValue digits < 2 ^ 64 then
    some (digitsValue digits)
  else none

theorem parseDecimal_eq_some {cs : List Char} {n : Nat} :
    parseDecimal cs = some n ↔ stripPlus cs ≠ [] ∧ (∀ c ∈ stripPlus cs, c.isDigit = true) ∧
      digitsValue (stripPlus cs) = n ∧ n < 2 ^ 64 := by
  simp only [parseDecimal, List.all_eq_true]
  split
  · rename_i hc
    exact ⟨fun h => Option.some.inj h ▸ ⟨hc.1, hc.2.1, rfl, hc.2.2⟩, fun ⟨_, _, hn, _⟩ => hn ▸ rfl⟩
  · rename_i hc
    exact ⟨fun h => (nomatch h), fun ⟨h1, h2, hn, h4⟩ => absurd ⟨h1, h2, hn ▸ h4⟩ hc⟩

theorem parseDecimal_toDigits {n : Nat} (h : n < 2 ^ 64) :
    parseDecimal (Nat.toDigits 10 n) = some n := by
  have hd : ∀ c ∈ Nat.toDigits 10 n, c.isDigit = true := fun _ => isDigit_of_mem_toDigits
  refine parseDecimal_eq_some.mpr ?_
  rw [stripPlus_of_isDigit hd]
  exact ⟨toDigits_ne_nil n, hd, digitsValue_toDigits n, h⟩

end LdkLspClient
