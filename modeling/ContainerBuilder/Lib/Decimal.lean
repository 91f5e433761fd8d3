/-!
# Decimal numerals as bytes

`decimal n` is the text of `n`, without leading zeros, and `readNat` reads as many digits as it
finds. Reading a numeral that something other than a digit follows gives the number back and leaves
the rest; in particular no two numbers have the same numeral.
-/

namespace Lib.Decimal

/-- The decimal numeral of `n` in ASCII. -/
def decimal (n : Nat) : List UInt8 := (Nat.toDigits 10 n).map fun c => c.toNat.toUInt8

def isDigit (b : UInt8) : Bool := 48 ≤ b.toNat && b.toNat ≤ 57

/-- The number the digits `bs` stand for. -/
def value (bs : List UInt8) : Nat := bs.foldl (fun n b => 10 * n + (b.toNat - 48)) 0

/-- Reads one or more digits. -/
def readNat (bs : List UInt8) : Option (Nat × List UInt8) :=
  match bs.takeWhile isDigit with
  | [] => none
  | d :: ds => some (value (d :: ds), bs.dropWhile isDigit)

theorem toNat_of_isDigit {c : Char} (h : c.isDigit = true) :
    48 ≤ c.toNat ∧ c.toNat ≤ 57 ∧ c.toNat.toUInt8.toNat = c.toNat := by
  obtain ⟨h1, h2⟩ : 48 ≤ c.toNat ∧ c.toNat ≤ 57 := Char.isDigit_iff_toNat.1 h
  refine ⟨h1, h2, ?_⟩
  have h256 : c.toNat % 2 ^ 8 = c.toNat := Nat.mod_eq_of_lt (Nat.lt_of_le_of_lt h2 (by decide))
  simpa [Nat.toUInt8_eq] using h256

theorem isDigit_of_mem_decimal {n : Nat} {b : UInt8} (h : b ∈ decimal n) : isDigit b = true := by
  obtain ⟨c, hc, rfl⟩ := List.mem_map.1 h
  obtain ⟨h1, h2, h3⟩ :=
    toNat_of_isDigit (Nat.isDigit_of_mem_toDigits (by decide) (by decide) hc)
  simp [isDigit, h3, h1, h2]

theorem decimal_ne_nil (n : Nat) : decimal n ≠ [] := by
  simp [decimal, Nat.toDigits_ne_nil]

@[simp] theorem value_decimal (n : Nat) : value (decimal n) = n := by
  have key : ∀ (cs : List Char) (a : Nat), (∀ c ∈ cs, c.isDigit = true) →
      (cs.map fun c => c.toNat.toUInt8).foldl (fun n b => 10 * n + (b.toNat - 48)) a =
        Nat.ofDigitChars 10 cs a := by
    intro cs
    induction cs with
    | nil => intro a _; simp
    | cons c cs ih =>
      intro a h
      rw [List.map_cons, List.foldl_cons, Nat.ofDigitChars_cons,
        ih _ fun d hd => h d (List.mem_cons_of_mem _ hd),
        (toNat_of_isDigit (h c (List.mem_cons_self ..))).2.2]
      rfl
  rw [value, decimal, key _ _ fun c hc => Nat.isDigit_of_mem_toDigits (by decide) (by decide) hc,
    Nat.ofDigitChars_ten_toDigits]

theorem decimal_injective {m n : Nat} (h : decimal m = decimal n) : m = n := by
  rw [← value_decimal m, h, value_decimal]

/-- **Round trip**, up to the first byte that is no digit. -/
theorem readNat_decimal (n : Nat) {rest : List UInt8}
    (h : ∀ b, rest.head? = some b → isDigit b = false) :
    readNat (decimal n ++ rest) = some (n, rest) := by
  have hall : ∀ b ∈ decimal n, isDigit b = true := fun b hb => isDigit_of_mem_decimal hb
  have htake : rest.takeWhile isDigit = [] := by
    cases rest with
    | nil => rfl
    | cons b rest => simp [h b rfl]
  have hdrop : rest.dropWhile isDigit = rest := by
    cases rest with
    | nil => rfl
    | cons b rest => simp [h b rfl]
  unfold readNat
  rw [List.takeWhile_append_of_pos hall, List.dropWhile_append_of_pos hall, htake, hdrop,
    List.append_nil]
  split
  · rename_i he
    exact absurd he (decimal_ne_nil n)
  · rename_i d ds he
    rw [← he, value_decimal]

/-- The numeral of an integer, with a minus sign if it is negative. -/
def signed : Int → List UInt8
  | .ofNat n => decimal n
  | .negSucc n => 45 :: decimal (n + 1)

theorem signed_eq_zero {n : Int} : signed n = signed 0 ↔ n = 0 := by
  constructor
  · intro h
    cases n with
    | ofNat n => exact congrArg Int.ofNat (decimal_injective h)
    | negSucc n =>
      have hz : isDigit 45 = true := by
        apply isDigit_of_mem_decimal (n := 0)
        rw [← show signed 0 = decimal 0 from rfl, ← h]
        exact List.mem_cons_self ..
      cases hz
  · rintro rfl
    rfl

end Lib.Decimal
