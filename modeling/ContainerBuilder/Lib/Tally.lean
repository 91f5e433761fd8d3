import Mathlib.Algebra.BigOperators.Group.Multiset.Basic
import Mathlib.Algebra.Order.BigOperators.Group.Multiset
import Mathlib.Data.List.AList

/-!
# Sums over a finite map

`tally f m` adds up what `f` says of the entries of `m`. The rules say how it changes when one
entry is added, replaced or dropped, so that an invariant about a whole table is kept by looking at
the one entry a step touches.
-/

namespace Lib

variable {α β γ M : Type}

def tally [AddCommMonoid M] (f : α → β → M) (m : AList fun _ : α => β) : M :=
  (m.entries.map fun x => f x.1 x.2).sum

@[simp] theorem tally_empty [AddCommMonoid M] (f : α → β → M) :
    tally f (∅ : AList fun _ : α => β) = 0 := rfl

variable [DecidableEq α]

section
variable [AddCommMonoid M] (f : α → β → M) {m : AList fun _ : α => β} {a : α} {b : β}

theorem tally_insert : tally f (m.insert a b) = f a b + tally f (m.erase a) := rfl

theorem tally_of_lookup (h : m.lookup a = some b) : tally f m = f a b + tally f (m.erase a) := by
  have hmem : (⟨a, b⟩ : Sigma fun _ : α => β) ∈ m.entries := AList.mem_lookup_iff.1 h
  obtain ⟨b', l₁, l₂, -, hl, he⟩ := List.exists_of_kerase (List.mem_keys_of_mem hmem)
  have hb : b' = b := by
    have hb' : b' ∈ m.lookup a := AList.mem_lookup_iff.2 (by rw [hl]; simp)
    rw [h] at hb'
    simpa using hb'.symm
  subst hb
  have he' : (m.erase a).entries = l₁ ++ l₂ := he
  rw [tally, tally, hl, he']
  simp only [List.map_append, List.map_cons, List.sum_append, List.sum_cons]
  exact add_left_comm _ _ _

theorem tally_insert_of_lookup {b' : β} (h : m.lookup a = some b) :
    tally f (m.insert a b') + f a b = tally f m + f a b' := by
  rw [tally_insert, tally_of_lookup f h, add_comm (f a b), add_assoc, add_comm (f a b'),
    add_assoc, add_left_comm]

theorem tally_insert_of_none (h : m.lookup a = none) :
    tally f (m.insert a b) = f a b + tally f m := by
  have hk : a ∉ m.entries.keys := AList.lookup_eq_none.1 h
  have he : (m.erase a).entries = m.entries := List.kerase_of_notMem_keys hk
  rw [tally_insert, tally, tally, he]

end

/-- What a tally of multisets contains comes from some entry. -/
theorem mem_tally {f : α → β → Multiset γ} {m : AList fun _ : α => β} {x : γ} :
    x ∈ tally f m ↔ ∃ a b, m.lookup a = some b ∧ x ∈ f a b := by
  have key : ∀ l : List (Sigma fun _ : α => β),
      x ∈ (l.map fun e => f e.1 e.2).sum ↔ ∃ e ∈ l, x ∈ f e.1 e.2 := by
    intro l
    induction l with
    | nil => simp
    | cons e l ih => simp only [List.map_cons, List.sum_cons, Multiset.mem_add, ih, List.mem_cons,
        exists_eq_or_imp]
  rw [tally, key]
  constructor
  · rintro ⟨⟨a, b⟩, he, hx⟩
    exact ⟨a, b, AList.mem_lookup_iff.2 he, hx⟩
  · rintro ⟨a, b, hl, hx⟩
    exact ⟨⟨a, b⟩, AList.mem_lookup_iff.1 hl, hx⟩

/-- An element that occurs once in a tally comes from one entry only. -/
theorem tally_unique [DecidableEq γ] {f : α → β → Multiset γ} {m : AList fun _ : α => β}
    (hn : (tally f m).Nodup) {a a' : α} {b b' : β} {x : γ} (h : m.lookup a = some b)
    (h' : m.lookup a' = some b') (hx : x ∈ f a b) (hx' : x ∈ f a' b') : a = a' := by
  by_contra hne
  have he : (m.erase a).lookup a' = some b' := by
    rw [AList.lookup_erase_ne (Ne.symm hne), h']
  rw [tally_of_lookup f h, tally_of_lookup f he] at hn
  have hd := (Multiset.nodup_add.1 hn).2.2
  exact (Multiset.disjoint_left.1 hd) hx (Multiset.mem_add.2 (Or.inl hx'))

end Lib
