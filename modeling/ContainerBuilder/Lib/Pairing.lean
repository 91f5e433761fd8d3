import Mathlib.Data.List.Zip

/-!
# First come, first served pairing

Two streams arrive in any interleaving, `xs` on the left and `ys` on the right; the `n`-th left
arrival belongs with the `n`-th right arrival. `Served xs ys ps l r` says that a service which has
seen `xs` and `ys` stands exactly where it should: it has handed out the pairs `ps`, keeps `l` and
`r` waiting, and nothing is lost, served twice or left idle. The four `arrive` rules say how such a
service may react to one more arrival.
-/

namespace Lib

variable {α β : Type}

theorem zip_append_left_of_le : ∀ {xs : List α} {ys : List β} (zs : List α),
    ys.length ≤ xs.length → (xs ++ zs).zip ys = xs.zip ys
  | _, [], _, _ => by simp
  | [], _ :: _, _, h => by simp at h
  | x :: xs, y :: ys, zs, h => by
    simp only [List.cons_append, List.zip_cons_cons, List.cons.injEq, true_and]
    exact zip_append_left_of_le zs (by simpa using h)

/-- The pairs handed out are the zip of the arrivals; what waits is the unmatched rest. -/
structure Served (xs : List α) (ys : List β) (ps : List (α × β)) (l : List α) (r : List β) :
    Prop where
  pairs : ps = xs.zip ys
  left : l = xs.drop ys.length
  right : r = ys.drop xs.length

namespace Served

variable {xs : List α} {ys : List β} {ps : List (α × β)} {l : List α} {r : List β}

theorem start : Served ([] : List α) ([] : List β) [] [] [] := ⟨rfl, rfl, rfl⟩

/-- Nobody waits while there is something to be had. -/
theorem idle (h : Served xs ys ps l r) : l = [] ∨ r = [] := by
  rcases Nat.le_total xs.length ys.length with hl | hl
  · left; rw [h.left, List.drop_eq_nil_of_le hl]
  · right; rw [h.right, List.drop_eq_nil_of_le hl]

theorem swap (h : Served xs ys ps l r) : Served ys xs (ps.map Prod.swap) r l :=
  ⟨by rw [h.pairs, List.zip_swap], h.right, h.left⟩

theorem of_swap (h : Served ys xs (ps.map Prod.swap) r l) : Served xs ys ps l r := by
  simpa [Function.comp_def] using h.swap

/-- Each left arrival has been handed out, in order, or still waits. -/
theorem all_left (h : Served xs ys ps l r) : ps.map Prod.fst ++ l = xs := by
  rw [h.pairs, h.left]
  rcases Nat.le_total xs.length ys.length with hl | hl
  · rw [List.map_fst_zip hl, List.drop_eq_nil_of_le hl, List.append_nil]
  · have htake : (xs.take ys.length).length = ys.length := by rw [List.length_take]; omega
    have hz : xs.zip ys = (xs.take ys.length).zip ys := by
      conv => lhs; rw [← List.take_append_drop ys.length xs]
      exact zip_append_left_of_le _ (by omega)
    rw [hz, List.map_fst_zip (by omega), List.take_append_drop]

theorem all_right (h : Served xs ys ps l r) : ps.map Prod.snd ++ r = ys := by
  simpa [Function.comp_def] using h.swap.all_left

/-- A left arrival that finds nothing on the right waits behind the others. -/
theorem arrive_left_wait (h : Served xs ys ps l []) (x : α) :
    Served (xs ++ [x]) ys ps (l ++ [x]) [] := by
  have hle : ys.length ≤ xs.length := by
    have := congrArg List.length h.right
    simp only [List.length_nil, List.length_drop] at this
    omega
  refine ⟨?_, ?_, ?_⟩
  · rw [zip_append_left_of_le _ hle, h.pairs]
  · rw [List.drop_append_of_le_length hle, h.left]
  · exact (List.drop_eq_nil_of_le (by simp only [List.length_append]; omega)).symm

/-- A left arrival that finds `y` first on the right is paired with it at once. -/
theorem arrive_left_match {y : β} (h : Served xs ys ps l (y :: r)) (x : α) :
    l = [] ∧ Served (xs ++ [x]) ys (ps ++ [(x, y)]) [] r := by
  have hl : l = [] := h.idle.resolve_right (by simp)
  have hlt : xs.length < ys.length := by
    have := congrArg List.length h.right
    simp only [List.length_cons, List.length_drop] at this
    omega
  have hys : ys = ys.take xs.length ++ y :: r := by
    rw [h.right, List.take_append_drop]
  have htake : (ys.take xs.length).length = xs.length := by
    rw [List.length_take]; omega
  refine ⟨hl, ?_, ?_, ?_⟩
  · have hpre : xs.zip ys = xs.zip (ys.take xs.length) := by
      conv => lhs; rw [hys]
      rw [← List.zip_swap, zip_append_left_of_le _ (by omega), List.zip_swap]
    rw [h.pairs, hpre]
    conv => rhs; rw [hys]
    rw [List.zip_append htake.symm]
    simp
  · exact (List.drop_eq_nil_of_le (by simp only [List.length_append, List.length_singleton]; omega)).symm
  · rw [List.length_append, List.length_singleton, ← List.drop_drop, ← h.right, List.drop_one,
      List.tail_cons]

/-- A right arrival that finds nobody on the left waits behind the others. -/
theorem arrive_right_wait (h : Served xs ys ps [] r) (y : β) :
    Served xs (ys ++ [y]) ps [] (r ++ [y]) :=
  of_swap (h.swap.arrive_left_wait y)

/-- A right arrival that finds `x` first on the left is paired with it at once. -/
theorem arrive_right_match {x : α} (h : Served xs ys ps (x :: l) r) (y : β) :
    r = [] ∧ Served xs (ys ++ [y]) (ps ++ [(x, y)]) l [] := by
  obtain ⟨hr, hs⟩ := h.swap.arrive_left_match y
  exact ⟨hr, of_swap (by simpa using hs)⟩

end Served

end Lib
