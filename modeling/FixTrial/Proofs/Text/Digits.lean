import FixTrial.Text.Digits
import Mathlib.Data.List.Basic

/-!
Numbers as they are shown are read as themselves.
-/
namespace FixTrial.Text
variable {c : Char} {cs : List Char} {p : Char → Bool}

theorem toNat_of_isDigit (h : c.isDigit = true) : 48 ≤ c.toNat ∧ c.toNat ≤ 57 := by
  simp only [Char.isDigit, Bool.and_eq_true, decide_eq_true_eq] at h
  exact h

/-- The first of the decimal digits are those of ASCII. -/
theorem digitValue?_of_isDigit (h : c.isDigit = true) :
    digitValue? c = some (c.toNat - '0'.toNat) := by
  obtain ⟨hle, hge⟩ := toNat_of_isDigit h
  unfold digitValue? decimalZeros
  rw [List.find?_cons_of_pos (by simpa using ⟨hle, hge⟩)]
  rfl

theorem digitsFrom?_of_isDigit (h : ∀ c ∈ cs, c.isDigit = true) (value : Nat) :
    digitsFrom? value cs = some (Nat.ofDigitChars 10 cs value) := by
  induction value, cs using digitsFrom?.induct with
  | case1 value => rfl
  | case2 value c rest ih => exact absurd (h '_' List.mem_cons_self) (by decide)
  | case3 value c rest hother ih =>
    rw [List.forall_mem_cons] at h
    rw [digitsFrom?, digitValue?_of_isDigit h.1]
    · exact ih _ h.2
    · exact hother

theorem isDigit_of_mem_decimal (n : Nat) : ∀ c ∈ Nat.toDigits 10 n, c.isDigit = true :=
  fun _ => Nat.isDigit_of_mem_toDigits (by decide) (by decide)

theorem natural?_toDigits (n : Nat) : natural? (Nat.toDigits 10 n) = some n := by
  have hdigits := isDigit_of_mem_decimal n
  have hvalue : Nat.ofDigitChars 10 (Nat.toDigits 10 n) 0 = n := Nat.ofDigitChars_ten_toDigits
  cases hcs : Nat.toDigits 10 n with
  | nil => exact absurd hcs Nat.toDigits_ne_nil
  | cons c rest =>
    rw [hcs] at hdigits hvalue
    rw [List.forall_mem_cons] at hdigits
    rw [natural?, digitValue?_of_isDigit hdigits.1]
    refine (digitsFrom?_of_isDigit hdigits.2 _).trans (congrArg some ?_)
    simpa [Nat.ofDigitChars] using hvalue

theorem trimChars_eq_self (h : ∀ c ∈ cs, p c = false) : trimChars p cs = cs := by
  have hkeep : ∀ ds : List Char, (∀ c ∈ ds, p c = false) → ds.dropWhile p = ds := by
    intro ds hds
    cases ds with
    | nil => rfl
    | cons d rest => rw [List.dropWhile_cons_of_neg (by simp [hds d List.mem_cons_self])]
  unfold trimChars
  rw [hkeep cs h, hkeep _ fun c hc => h c (List.mem_reverse.mp hc), List.reverse_reverse]

theorem isNumberBlank_of_isDigit (h : c.isDigit = true) : isNumberBlank c = false := by
  obtain ⟨hle, hge⟩ := toNat_of_isDigit h
  have hblank : isBlank c = false := by
    simp only [isBlank, Bool.or_eq_false_iff, Bool.and_eq_false_iff, decide_eq_false_iff_not,
      beq_eq_false_iff_ne]
    omega
  simp [isNumberBlank, hblank]

theorem isNumberBlank_of_mem_decimal (n : Nat) :
    ∀ c ∈ Nat.toDigits 10 n, isNumberBlank c = false :=
  fun c hc => isNumberBlank_of_isDigit (isDigit_of_mem_decimal n c hc)

theorem integer?_repr (n : Nat) : integer? n.repr = some (n : Int) := by
  have hcs : trimChars isNumberBlank n.repr.toList = Nat.toDigits 10 n := by
    rw [Nat.toList_repr, trimChars_eq_self (isNumberBlank_of_mem_decimal n)]
  have hdigits := isDigit_of_mem_decimal n
  unfold integer?
  rw [hcs]
  split
  next hminus => exact absurd (hdigits '-' (hminus ▸ List.mem_cons_self)) (by decide)
  next hplus => exact absurd (hdigits '+' (hplus ▸ List.mem_cons_self)) (by decide)
  next =>
    rw [natural?_toDigits]
    rfl

theorem integer?_neg_repr (n : Nat) : integer? ("-" ++ n.repr) = some (-(n : Int)) := by
  have hcs : trimChars isNumberBlank ("-" ++ n.repr).toList = '-' :: Nat.toDigits 10 n := by
    rw [String.toList_append, Nat.toList_repr]
    exact trimChars_eq_self
      (List.forall_mem_cons.mpr ⟨by decide, isNumberBlank_of_mem_decimal n⟩)
  unfold integer?
  simp only [hcs, natural?_toDigits]
  rfl

/-- A whole number is read from the text that it is shown as. -/
theorem integer?_toString (n : Int) : integer? (toString n) = some n := by
  rw [Int.toString_eq_repr, Int.repr_eq_if]
  split_ifs with hn
  · rw [integer?_repr, Int.toNat_of_nonneg hn]
  · rw [integer?_neg_repr, Int.toNat_of_nonneg (by omega), Int.neg_neg]

end FixTrial.Text
