import Mathlib.Data.Nat.Digits

/-! # Numeric route variables

The keypair handlers read the `id` route variable with `strconv.Atoi`.  On a 64-bit platform
it accepts an optional sign followed by at least one ASCII digit, and refuses a value outside
`int64`: its short-string path cannot overflow and its long path checks the range, so both
paths compute `atoi` below.  The digits are read left to right, `n = n*10 + int(ch)`, as in
the library's loop.

* `atoi_toString`: the decimal numeral of every `int64` value parses back to that value, so the
  ids the admin UI writes into `/keypairs/{id}/enable` reach the handler unchanged;
* `atoi_range`: every accepted value lies in the `int64` range.
-/

namespace IdentityVault

/-- The digit loop: `n = n*10 + int(ch)` for each character, failing at a non-digit. -/
def digitsValue (n : ℕ) : List Char → Option ℕ
  | [] => some n
  | c :: cs => if c.isDigit then digitsValue (10 * n + (c.toNat - '0'.toNat)) cs else none

/-- The sign in front of the digits: whether it is `-`, and what follows it. -/
def splitSign : List Char → Bool × List Char
  | '-' :: cs => (true, cs)
  | '+' :: cs => (false, cs)
  | cs => (false, cs)

/-- The `int64` range, `-2^63 ≤ n < 2^63`. -/
def InInt64 (n : ℤ) : Prop := -9223372036854775808 ≤ n ∧ n < 9223372036854775808

instance (n : ℤ) : Decidable (InInt64 n) := inferInstanceAs (Decidable (_ ∧ _))

/-- The value, if it fits `int64`. -/
def int64Checked (n : ℤ) : Option ℤ := if InInt64 n then some n else none

/-- `strconv.Atoi` on a 64-bit platform (the error's text is not modelled). -/
def atoi (s : String) : Option ℤ :=
  let sign := splitSign s.data
  if sign.2 = [] then none
  else (digitsValue 0 sign.2).bind fun v => int64Checked (if sign.1 then -(v : ℤ) else v)

example : atoi "+042" = some 42 ∧ atoi "-" = none ∧ atoi "9223372036854775808" = none := by
  decide

/-! ### What is accepted -/

theorem int64Checked_range {n m : ℤ} (h : int64Checked n = some m) : InInt64 m := by
  unfold int64Checked at h
  split_ifs at h with hr
  exact Option.some.inj h ▸ hr

theorem atoi_range {s : String} {n : ℤ} (h : atoi s = some n) : InInt64 n := by
  simp only [atoi] at h
  split_ifs at h <;>
  · obtain ⟨v, -, hv⟩ := Option.bind_eq_some.mp h
    exact int64Checked_range hv

/-! ### Numerals parse back -/

theorem digitChar_digit {d : ℕ} (h : d < 10) :
    (Nat.digitChar d).isDigit = true ∧ (Nat.digitChar d).toNat - '0'.toNat = d := by
  revert d
  decide

theorem digitsValue_toDigitsCore (fuel : ℕ) :
    ∀ n ds, n < fuel → digitsValue 0 (Nat.toDigitsCore 10 fuel n ds) = digitsValue n ds := by
  induction fuel with
  | zero => intro n ds h; omega
  | succ fuel ih =>
    intro n ds h
    obtain ⟨hd, hv⟩ := digitChar_digit (Nat.mod_lt n (show 10 > 0 by omega))
    simp only [Nat.toDigitsCore]
    split
    · rename_i h0
      simp only [digitsValue, hd, hv, if_true]
      congr
      omega
    · rw [ih (n / 10) _ (by omega)]
      simp only [digitsValue, hd, hv, if_true, Nat.div_add_mod]

theorem digitsValue_toDigits (n : ℕ) : digitsValue 0 (Nat.toDigits 10 n) = some n :=
  digitsValue_toDigitsCore (n + 1) n [] (by omega)

theorem toDigitsCore_digits (fuel : ℕ) :
    ∀ n ds, (∀ c ∈ ds, c.isDigit) → ∀ c ∈ Nat.toDigitsCore 10 fuel n ds, c.isDigit := by
  induction fuel with
  | zero => exact fun _ _ hds => hds
  | succ fuel ih =>
    intro n ds hds
    have hd := (digitChar_digit (Nat.mod_lt n (show 10 > 0 by omega))).1
    have hds' : ∀ c ∈ Nat.digitChar (n % 10) :: ds, c.isDigit := by
      simpa [hd] using hds
    simp only [Nat.toDigitsCore]
    split
    · exact hds'
    · exact ih _ _ hds'

theorem toDigitsCore_ne_nil (fuel : ℕ) : ∀ n ds, ds ≠ [] → Nat.toDigitsCore 10 fuel n ds ≠ [] := by
  induction fuel with
  | zero => exact fun _ _ h => h
  | succ fuel ih =>
    intro n ds _
    simp only [Nat.toDigitsCore]
    split
    · exact List.cons_ne_nil _ _
    · exact ih _ _ (List.cons_ne_nil _ _)

theorem toDigits_ne_nil (n : ℕ) : Nat.toDigits 10 n ≠ [] := by
  simp only [Nat.toDigits, Nat.toDigitsCore]
  split
  · exact List.cons_ne_nil _ _
  · exact toDigitsCore_ne_nil _ _ _ (List.cons_ne_nil _ _)

theorem splitSign_toDigits (n : ℕ) : splitSign (Nat.toDigits 10 n) = (false, Nat.toDigits 10 n) := by
  have hdig := toDigitsCore_digits (n + 1) n [] (by simp)
  match h : Nat.toDigits 10 n, hdig with
  | [], _ => rfl
  | c :: cs, hdig =>
    have hc : c.isDigit := hdig c (by simp [Nat.toDigits] at h; simp [h])
    have h1 : c ≠ '-' := by rintro rfl; exact absurd hc (by decide)
    have h2 : c ≠ '+' := by rintro rfl; exact absurd hc (by decide)
    simp [splitSign, h1, h2]

/-- `atoi` on a numeral: the digits of `m`, after the sign `neg`. -/
theorem atoi_numeral (neg : Bool) (m : ℕ) (s : String)
    (hs : splitSign s.data = (neg, Nat.toDigits 10 m)) :
    atoi s = int64Checked (if neg then -(m : ℤ) else m) := by
  simp only [atoi, hs, digitsValue_toDigits, toDigits_ne_nil, if_false, Option.some_bind]

theorem int64Checked_of_range {n : ℤ} (h : InInt64 n) : int64Checked n = some n := if_pos h

/-- The decimal numeral of an `int64` value parses back to it. -/
theorem atoi_toString {n : ℤ} (h : InInt64 n) : atoi (toString n) = some n := by
  cases n with
  | ofNat m =>
    rw [atoi_numeral false m (toString (Int.ofNat m)) (splitSign_toDigits m)]
    exact int64Checked_of_range h
  | negSucc m =>
    rw [atoi_numeral true (m + 1) (toString (Int.negSucc m)) rfl]
    exact int64Checked_of_range h

end IdentityVault
