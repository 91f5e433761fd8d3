/-!
# Reflected shift registers

The register of a reflected cyclic redundancy check: `w` bits that move down, with the feedback `p`
exclusive-ored in whenever a one drops out. A symbol of `n` bits is exclusive-ored into the low end
and shifted through.

When the top bit of `p` is set, as it is for every generator polynomial, a shift loses nothing
(`shift_injective`). Symbols that together fill at most the register are shifted in without meeting
their own feedback, so they act as one word (`feedAll_pack`); hence two registers that agree before
a *window* of at most `w` bits and after it have been fed the same window (`window_detected`).
-/

namespace Lib.ShiftRegister

variable {w : Nat}

/-- One shift with feedback `p`. -/
def shift (p c : BitVec w) : BitVec w :=
  if c.getLsbD 0 then (c >>> 1) ^^^ p else c >>> 1

/-- `n` shifts. -/
def shifts (p : BitVec w) : Nat → BitVec w → BitVec w
  | 0, c => c
  | n + 1, c => shifts p n (shift p c)

/-- A symbol of `n` bits goes through the register. -/
def feed (p : BitVec w) (n : Nat) (c x : BitVec w) : BitVec w := shifts p n (c ^^^ x)

def feedAll (p : BitVec w) (n : Nat) (c : BitVec w) (xs : List (BitVec w)) : BitVec w :=
  xs.foldl (feed p n) c

/-! ## Shifts -/

section shifts
variable {p : BitVec w}

theorem xor_xor_self (a b p : BitVec w) : (a ^^^ p) ^^^ (b ^^^ p) = a ^^^ b := by
  ext i hi
  simp only [BitVec.getElem_xor]
  cases a[i] <;> cases b[i] <;> cases p[i] <;> rfl

theorem shift_xor (a b : BitVec w) : shift p (a ^^^ b) = shift p a ^^^ shift p b := by
  unfold shift
  rw [BitVec.getLsbD_xor, BitVec.ushiftRight_xor_distrib]
  cases a.getLsbD 0 <;> cases b.getLsbD 0
  · simp
  · simp [BitVec.xor_assoc]
  · simp only [Bool.xor_false, if_true, Bool.false_eq_true, if_false]
    rw [BitVec.xor_assoc, BitVec.xor_comm (b >>> 1), ← BitVec.xor_assoc]
  · simp [xor_xor_self]

theorem shifts_xor (n : Nat) (a b : BitVec w) :
    shifts p n (a ^^^ b) = shifts p n a ^^^ shifts p n b := by
  induction n generalizing a b with
  | zero => rfl
  | succ n ih => rw [shifts, shift_xor, ih, shifts, shifts]

/-- Only zero shifts to zero: a one that drops out leaves the top bit of `p`. -/
theorem shift_eq_zero (hp : p.msb = true) {c : BitVec w} (h : shift p c = 0#w) : c = 0#w := by
  have hw : 0 < w := by
    rcases Nat.eq_zero_or_pos w with rfl | hw
    · simp [BitVec.msb_eq_getMsbD_zero] at hp
    · exact hw
  unfold shift at h
  split at h
  · have hpc : c >>> 1 = p := by rwa [BitVec.xor_eq_zero_iff] at h
    rw [← hpc, BitVec.msb_ushiftRight] at hp
    simp at hp
  · rename_i h0
    apply BitVec.eq_of_getLsbD_eq
    intro i hi
    cases i with
    | zero => simpa using h0
    | succ i =>
      have := congrArg (fun x => x.getLsbD i) h
      simpa [BitVec.getLsbD_ushiftRight, Nat.add_comm] using this

theorem shift_injective (hp : p.msb = true) {a b : BitVec w} (h : shift p a = shift p b) :
    a = b := by
  rw [← BitVec.xor_eq_zero_iff] at h ⊢
  rw [← shift_xor] at h
  exact shift_eq_zero hp h

theorem shifts_injective (hp : p.msb = true) (n : Nat) {a b : BitVec w}
    (h : shifts p n a = shifts p n b) : a = b := by
  induction n generalizing a b with
  | zero => exact h
  | succ n ih => exact shift_injective hp (ih h)

theorem shifts_add (m n : Nat) (c : BitVec w) : shifts p (m + n) c = shifts p n (shifts p m c) := by
  induction m generalizing c with
  | zero => rw [Nat.zero_add]; rfl
  | succ m ih => rw [Nat.succ_add, shifts, ih, shifts]

end shifts

/-! ## Words of limited width -/

/-- All bits of `x` from position `n` on are zero. -/
def Fits (n : Nat) (x : BitVec w) : Prop := ∀ i, n ≤ i → x.getLsbD i = false

theorem Fits.mono {m n : Nat} {x : BitVec w} (h : Fits m x) (hmn : m ≤ n) : Fits n x :=
  fun i hi => h i (Nat.le_trans hmn hi)

/-- What is shifted up without loss comes down again without feedback. -/
theorem shifts_shiftLeft {p : BitVec w} (n : Nat) {y : BitVec w} (h : Fits (w - n) y) :
    shifts p n (y <<< n) = y := by
  induction n with
  | zero => simp [shifts]
  | succ n ih =>
    have hlow : (y <<< (n + 1)).getLsbD 0 = false := by simp
    have hone : shift p (y <<< (n + 1)) = y <<< n := by
      unfold shift
      rw [hlow]
      simp only [Bool.false_eq_true, if_false]
      apply BitVec.eq_of_getLsbD_eq
      intro i hi
      simp only [BitVec.getLsbD_ushiftRight, BitVec.getLsbD_shiftLeft]
      by_cases hlast : 1 + i < w
      · have e : 1 + i - (n + 1) = i - n := by omega
        by_cases hn : i < n <;> simp [hi, hlast, hn, e] <;> omega
      · by_cases hn : i < n
        · simp [hlast, hn]
        · simp [hlast, hn, h (i - n) (by omega)]
    rw [shifts, hone]
    exact ih (h.mono (by omega))

/-- The symbols `xs` as one word, the first lowest. -/
def pack (n : Nat) : List (BitVec w) → BitVec w
  | [] => 0#w
  | x :: xs => x ^^^ (pack n xs <<< n)

theorem pack_fits {n : Nat} : ∀ {xs : List (BitVec w)}, (∀ x ∈ xs, Fits n x) →
    Fits (n * xs.length) (pack n xs)
  | [], _ => by intro i _; simp [pack]
  | x :: xs, h => by
    have hx := h x (List.mem_cons_self ..)
    have hxs := pack_fits fun y hy => h y (List.mem_cons_of_mem _ hy)
    intro i hi
    rw [List.length_cons, Nat.mul_add, Nat.mul_one] at hi
    rw [pack, BitVec.getLsbD_xor, BitVec.getLsbD_shiftLeft, hx i (by omega),
      hxs (i - n) (by omega)]
    simp

/-- **Symbols that fit into the register act as one word.** -/
theorem feedAll_pack {p : BitVec w} {n : Nat} : ∀ {xs : List (BitVec w)} (c : BitVec w),
    (∀ x ∈ xs, Fits n x) → n * xs.length ≤ w →
      feedAll p n c xs = shifts p (n * xs.length) (c ^^^ pack n xs)
  | [], c, _, _ => by simp [feedAll, pack, shifts]
  | x :: xs, c, h, hlen => by
    have hxs : ∀ y ∈ xs, Fits n y := fun y hy => h y (List.mem_cons_of_mem _ hy)
    rw [List.length_cons, Nat.mul_add, Nat.mul_one] at hlen
    have hfit : Fits (w - n) (pack n xs) := (pack_fits hxs).mono (by omega)
    calc feedAll p n c (x :: xs)
        = feedAll p n (shifts p n (c ^^^ x)) xs := rfl
      _ = shifts p (n * xs.length) (shifts p n (c ^^^ x) ^^^ pack n xs) :=
          feedAll_pack _ hxs (by omega)
      _ = shifts p (n * xs.length) (shifts p n (c ^^^ x ^^^ (pack n xs <<< n))) := by
          rw [shifts_xor n (c ^^^ x), shifts_shiftLeft n hfit]
      _ = shifts p (n * (x :: xs).length) (c ^^^ pack n (x :: xs)) := by
          rw [← shifts_add, List.length_cons, Nat.mul_add, Nat.mul_one, Nat.add_comm n, pack,
            BitVec.xor_assoc]

theorem pack_injective {n : Nat} : ∀ {xs ys : List (BitVec w)}, xs.length = ys.length →
    (∀ x ∈ xs, Fits n x) → (∀ y ∈ ys, Fits n y) → n * xs.length ≤ w →
      pack n xs = pack n ys → xs = ys
  | [], [], _, _, _, _, _ => rfl
  | x :: xs, y :: ys, hl, hx, hy, hlen, h => by
    have hxs : ∀ z ∈ xs, Fits n z := fun z hz => hx z (List.mem_cons_of_mem _ hz)
    have hys : ∀ z ∈ ys, Fits n z := fun z hz => hy z (List.mem_cons_of_mem _ hz)
    have hl' : xs.length = ys.length := by simpa using hl
    rw [List.length_cons, Nat.mul_add, Nat.mul_one] at hlen
    have hbit : ∀ i, (x ^^^ (pack n xs <<< n)).getLsbD i = (y ^^^ (pack n ys <<< n)).getLsbD i :=
      fun i => congrArg (fun z => z.getLsbD i) h
    simp only [BitVec.getLsbD_xor, BitVec.getLsbD_shiftLeft] at hbit
    have hhead : x = y := by
      apply BitVec.eq_of_getLsbD_eq
      intro i hi
      by_cases hn : i < n
      · simpa [hn] using hbit i
      · rw [hx x (List.mem_cons_self ..) i (by omega), hy y (List.mem_cons_self ..) i (by omega)]
    have hrest : pack n xs = pack n ys := by
      apply BitVec.eq_of_getLsbD_eq
      intro i hi
      by_cases hin : i + n < w
      · have := hbit (i + n)
        rw [hx x (List.mem_cons_self ..) (i + n) (by omega),
          hy y (List.mem_cons_self ..) (i + n) (by omega)] at this
        simpa [hin, show ¬ i + n < n by omega] using this
      · rw [pack_fits hxs i (by omega), pack_fits hys i (by rw [← hl']; omega)]
    rw [hhead, pack_injective hl' hxs hys (by omega) hrest]
  | [], _ :: _, hl, _, _, _, _ => by simp at hl
  | _ :: _, [], hl, _, _, _, _ => by simp at hl

/-! ## What a register tells apart -/

theorem feedAll_append (p : BitVec w) (n : Nat) (c : BitVec w) (xs ys : List (BitVec w)) :
    feedAll p n c (xs ++ ys) = feedAll p n (feedAll p n c xs) ys :=
  List.foldl_append

theorem feedAll_injective {p : BitVec w} (hp : p.msb = true) (n : Nat) :
    ∀ (xs : List (BitVec w)) {c d : BitVec w}, feedAll p n c xs = feedAll p n d xs → c = d
  | [], _, _, h => h
  | x :: xs, c, d, h => by
    have h1 : feed p n c x = feed p n d x := feedAll_injective hp n xs h
    have h2 := shifts_injective hp n h1
    rwa [BitVec.xor_left_inj] at h2

/-- **A difference in one window of at most `w` bits is always detected.** -/
theorem window_detected {p : BitVec w} (hp : p.msb = true) {n : Nat} {c : BitVec w}
    {pre xs ys suf : List (BitVec w)} (hl : xs.length = ys.length) (hw : n * xs.length ≤ w)
    (hx : ∀ x ∈ xs, Fits n x) (hy : ∀ y ∈ ys, Fits n y)
    (h : feedAll p n c (pre ++ xs ++ suf) = feedAll p n c (pre ++ ys ++ suf)) : xs = ys := by
  simp only [feedAll_append] at h
  have h1 := feedAll_injective hp n suf h
  rw [feedAll_pack _ hx hw, feedAll_pack _ hy (hl ▸ hw), ← hl] at h1
  have h2 := shifts_injective hp _ h1
  rw [BitVec.xor_right_inj] at h2
  exact pack_injective hl hx hy hw h2

end Lib.ShiftRegister
