/-!
# Loops on endless inputs

A loop takes one input after the other from an endless sequence. It `Leaves` if some finite number
of them takes it out of the states `inside` it. To show that it does, name an input that no state
inside survives; to show that it does not, give an invariant of the states inside.
-/

namespace Lib

variable {σ ι : Type} {step : σ → ι → σ} {inside : σ → Prop} {s : σ} {xs : Nat → ι}

/-- Where a loop is after `n` inputs. -/
def feed (step : σ → ι → σ) (s : σ) (xs : Nat → ι) : Nat → σ
  | 0 => s
  | n + 1 => step (feed step s xs n) (xs n)

def Leaves (step : σ → ι → σ) (inside : σ → Prop) (s : σ) (xs : Nat → ι) : Prop :=
  ∃ n, ¬ inside (feed step s xs n)

theorem feed_inv (I : Nat → σ → Prop) (hstart : I 0 s)
    (hstep : ∀ n s, I n s → I (n + 1) (step s (xs n))) (n : Nat) : I n (feed step s xs n) := by
  induction n with
  | zero => exact hstart
  | succ n ih => exact hstep n _ ih

theorem Leaves.of_input {n : Nat} (h : ∀ s, inside s → ¬ inside (step s (xs n))) :
    Leaves step inside s xs := by
  by_cases hn : inside (feed step s xs n)
  · exact ⟨n + 1, h _ hn⟩
  · exact ⟨n, hn⟩

theorem not_leaves (I : Nat → σ → Prop) (hinside : ∀ n s, I n s → inside s) (hstart : I 0 s)
    (hstep : ∀ n s, I n s → I (n + 1) (step s (xs n))) : ¬ Leaves step inside s xs := by
  rintro ⟨n, hn⟩
  exact hn (hinside n _ (feed_inv I hstart hstep n))

end Lib
