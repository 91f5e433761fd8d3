import ContainerBuilder.Lib.Lines

/-!
# The lines of a terminal

What is written to a terminal stands in the line of the cursor, and after a line feed in the next.
A carriage return and backspaces move the cursor back; what is written then replaces what is there.
Of the control characters there are only these, and a line is as wide as it has to be.
-/

namespace Lib

structure Terminal where
  above : List (List UInt8)
  /-- The line of the cursor. -/
  line : List UInt8
  column : Nat
deriving DecidableEq, Repr

/-- Characters that take a cell each. -/
def Plain (text : List UInt8) : Prop := ∀ b ∈ text, 32 ≤ b ∧ b < 127

instance (text : List UInt8) : Decidable (Plain text) :=
  List.decidableBAll (fun b => 32 ≤ b ∧ b < 127) text

theorem plain_append {text text' : List UInt8} : Plain (text ++ text') ↔ Plain text ∧ Plain text' :=
  List.forall_mem_append

namespace Terminal

/-- The cursor is at the start of a new line. -/
def fresh (above : List (List UInt8)) : Terminal := ⟨above, [], 0⟩

def put (t : Terminal) (b : UInt8) : Terminal :=
  if b = 13 then { t with column := 0 }
  else if b = 8 then { t with column := t.column - 1 }
  else if b = 10 then fresh (t.above ++ [t.line])
  else ⟨t.above, t.line.take t.column ++ b :: t.line.drop (t.column + 1), t.column + 1⟩

def write (t : Terminal) (text : List UInt8) : Terminal := text.foldl put t

variable {t : Terminal}

theorem write_append (t : Terminal) (text text' : List UInt8) :
    t.write (text ++ text') = (t.write text).write text' :=
  List.foldl_append

theorem put_plain {b : UInt8} (hb : 32 ≤ b ∧ b < 127) :
    t.put b = ⟨t.above, t.line.take t.column ++ b :: t.line.drop (t.column + 1), t.column + 1⟩ := by
  have hnot : b ≠ 13 ∧ b ≠ 8 ∧ b ≠ 10 := by
    refine ⟨?_, ?_, ?_⟩ <;> rintro rfl <;> exact absurd hb.1 (by decide)
  rw [put, if_neg hnot.1, if_neg hnot.2.1, if_neg hnot.2.2]

/-- Plain text replaces what stands from the cursor on. -/
theorem write_plain {before after text : List UInt8} (h : Plain text) (hline : t.line = before ++ after)
    (hcolumn : t.column = before.length) :
    t.write text =
      ⟨t.above, before ++ text ++ after.drop text.length, before.length + text.length⟩ := by
  induction text generalizing t before after with
  | nil =>
    obtain ⟨above, line, column⟩ := t
    simp only at hline hcolumn
    simp [write, hline, hcolumn]
  | cons b text ih =>
    have hput : t.put b = ⟨t.above, (before ++ [b]) ++ after.drop 1, (before ++ [b]).length⟩ := by
      rw [put_plain (h b (List.mem_cons_self ..)), hline, hcolumn]
      simp [List.drop_append]
    have hcolumns : (before ++ [b]).length + text.length = before.length + (b :: text).length := by
      rw [List.length_append, List.length_singleton, List.length_cons]
      omega
    have hdrop : (after.drop 1).drop text.length = after.drop (b :: text).length := by
      rw [List.drop_drop, List.length_cons, Nat.add_comm]
    have hrest := ih (t := t.put b) (fun b hb => h b (List.mem_cons_of_mem _ hb))
      (by rw [hput]) (by rw [hput])
    rw [show t.write (b :: text) = (t.put b).write text from rfl, hrest, hput, hcolumns,
      hdrop, List.append_assoc before [b] text, List.singleton_append]

theorem write_backspaces (t : Terminal) (n : Nat) :
    t.write (List.replicate n 8) = { t with column := t.column - n } := by
  induction n generalizing t with
  | zero => rfl
  | succ n ih =>
    rw [show t.write (List.replicate (n + 1) 8) = (t.put 8).write (List.replicate n 8) from rfl, ih]
    simp [put, Nat.sub_sub, Nat.add_comm]

/-- From the end of a line, some way back and on with other text. -/
theorem write_back {above : List (List UInt8)} {before after text : List UInt8} (h : Plain text) :
    (⟨above, before ++ after, (before ++ after).length⟩ : Terminal).write
        (List.replicate after.length 8 ++ text) =
      ⟨above, before ++ text ++ after.drop text.length, before.length + text.length⟩ := by
  rw [write_append, write_backspaces]
  exact write_plain h rfl (by simp)

theorem write_newline (t : Terminal) : t.write [10] = fresh (t.above ++ [t.line]) := rfl

theorem write_line {above : List (List UInt8)} {line : List UInt8} (h : Plain line) :
    (fresh above).write (line ++ [10]) = fresh (above ++ [line]) := by
  rw [write_append, write_plain h (List.nil_append []).symm rfl, write_newline]
  simp [fresh]

/-- Plain lines stand one below the other. -/
theorem write_unlines {above ls : List (List UInt8)} (h : ∀ l ∈ ls, Plain l) :
    (fresh above).write (unlines 10 ls) = fresh (above ++ ls) := by
  induction ls generalizing above with
  | nil => simp [write]
  | cons l ls ih =>
    rw [unlines_cons, show l ++ 10 :: unlines 10 ls = (l ++ [10]) ++ unlines 10 ls by simp,
      write_append, write_line (h l (List.mem_cons_self ..)),
      ih fun l hl => h l (List.mem_cons_of_mem _ hl)]
    simp

end Terminal

end Lib
