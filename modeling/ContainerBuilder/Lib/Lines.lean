import Mathlib.Data.List.Basic

/-!
# Lines

A text of lines, each with a terminator that no line contains, determines its lines.
-/

namespace Lib

variable {α : Type}

/-- The lines `ls`, each followed by `sep`. -/
def unlines (sep : α) (ls : List (List α)) : List α := ls.flatMap (· ++ [sep])

@[simp] theorem unlines_nil (sep : α) : unlines sep [] = [] := rfl

@[simp] theorem unlines_cons (sep : α) (l : List α) (ls : List (List α)) :
    unlines sep (l :: ls) = l ++ sep :: unlines sep ls := by
  simp [unlines]

@[simp] theorem unlines_append (sep : α) (ls ls' : List (List α)) :
    unlines sep (ls ++ ls') = unlines sep ls ++ unlines sep ls' := by
  simp [unlines]

/-- The first line ends at the first terminator. -/
theorem line_inj {sep : α} {l l' rest rest' : List α} (h : sep ∉ l) (h' : sep ∉ l')
    (he : l ++ sep :: rest = l' ++ sep :: rest') : l = l' ∧ rest = rest' := by
  induction l generalizing l' with
  | nil =>
    cases l' with
    | nil => exact ⟨rfl, (List.cons.inj he).2⟩
    | cons a l' => exact absurd ((List.cons.inj he).1 ▸ List.mem_cons_self ..) h'
  | cons a l ih =>
    cases l' with
    | nil => exact absurd ((List.cons.inj he).1 ▸ List.mem_cons_self ..) h
    | cons a' l' =>
      obtain ⟨rfl, htail⟩ := List.cons.inj he
      obtain ⟨rfl, hrest⟩ := ih (fun hs => h (List.mem_cons_of_mem _ hs))
        (fun hs => h' (List.mem_cons_of_mem _ hs)) htail
      exact ⟨rfl, hrest⟩

theorem unlines_inj {sep : α} {ls ls' : List (List α)} (h : ∀ l ∈ ls, sep ∉ l)
    (h' : ∀ l ∈ ls', sep ∉ l) (he : unlines sep ls = unlines sep ls') : ls = ls' := by
  induction ls generalizing ls' with
  | nil =>
    cases ls' with
    | nil => rfl
    | cons l' ls' => simp at he
  | cons l ls ih =>
    cases ls' with
    | nil => simp at he
    | cons l' ls' =>
      rw [unlines_cons, unlines_cons] at he
      obtain ⟨rfl, hrest⟩ := line_inj (h l (List.mem_cons_self ..)) (h' l' (List.mem_cons_self ..)) he
      rw [ih (fun l hl => h l (List.mem_cons_of_mem _ hl))
        (fun l hl => h' l (List.mem_cons_of_mem _ hl)) hrest]

end Lib
