import Mathlib.Data.Finmap

/-!
# Finite trees by paths

A tree is a finite map from paths to nodes; the root is the empty path. Nothing is required of the
parents of a path. `subtree` and `graft` change the root: `graft` replaces everything at a path and
under it, `prune` removes it, and `overlay` puts a tree over what is there. Each has one lemma, which
says what its nodes are; two trees with the same nodes are equal (`Finmap.ext_lookup`).
-/

namespace Lib

abbrev Tree (κ ν : Type) := Finmap fun _ : List κ => ν

namespace Tree

variable {κ ν : Type} [DecidableEq κ]

/-- The tree with the nodes `f`, all of them at paths in `keys`. -/
def ofLookup (keys : Finset (List κ)) (f : List κ → Option ν)
    (h : ∀ p, (f p).isSome → p ∈ keys) : Tree κ ν :=
  Finmap.keysLookupEquiv.symm ⟨(keys.filter fun p => (f p).isSome, f), fun p => by
    rw [Finset.mem_filter]
    exact ⟨fun hp => ⟨h p hp, hp⟩, And.right⟩⟩

@[simp] theorem lookup_ofLookup {keys : Finset (List κ)} {f : List κ → Option ν}
    (h : ∀ p, (f p).isSome → p ∈ keys) (p : List κ) : (ofLookup keys f h).lookup p = f p :=
  Finmap.keysLookupEquiv_symm_apply_lookup _ p

/-- What is at `root` and under it, as a tree of its own. -/
def subtree (t : Tree κ ν) (root : List κ) : Tree κ ν :=
  ofLookup (t.keys.image (List.drop root.length)) (fun p => t.lookup (root ++ p)) fun p hp => by
    refine Finset.mem_image.2 ⟨root ++ p, ?_, List.drop_left⟩
    exact Finmap.mem_keys.2 (Finmap.lookup_isSome.1 hp)

/-- `t` with `s` in the place of what is at `root` and under it. -/
def graft (t : Tree κ ν) (root : List κ) (s : Tree κ ν) : Tree κ ν :=
  ofLookup (s.keys.image (root ++ ·) ∪ t.keys)
    (fun p => if root <+: p then s.lookup (p.drop root.length) else t.lookup p) fun p hp => by
      rw [Finset.mem_union]
      split at hp
      · rename_i hpre
        refine .inl (Finset.mem_image.2 ⟨p.drop root.length, ?_, ?_⟩)
        · exact Finmap.mem_keys.2 (Finmap.lookup_isSome.1 hp)
        · exact List.prefix_iff_eq_append.1 hpre
      · exact .inr (Finmap.mem_keys.2 (Finmap.lookup_isSome.1 hp))

/-- `t` without what is at `root` and under it. -/
def prune (t : Tree κ ν) (root : List κ) : Tree κ ν := t.graft root ∅

/-- `t` with the nodes of `s` put under `root`, over those that are there. -/
def overlay (t : Tree κ ν) (root : List κ) (s : Tree κ ν) : Tree κ ν := graft ∅ root s ∪ t

/-- `t` with the node `n` at `p`. -/
def set (t : Tree κ ν) (p : List κ) (n : ν) : Tree κ ν := Finmap.insert p n t

variable (t s : Tree κ ν) (root p : List κ)

@[simp] theorem lookup_subtree : (t.subtree root).lookup p = t.lookup (root ++ p) :=
  lookup_ofLookup ..

theorem lookup_graft : (t.graft root s).lookup p =
    if root <+: p then s.lookup (p.drop root.length) else t.lookup p :=
  lookup_ofLookup ..

@[simp] theorem lookup_graft_append :
    (t.graft root s).lookup (root ++ p) = s.lookup p := by
  rw [lookup_graft, if_pos (List.prefix_append ..), List.drop_left]

theorem lookup_prune : (t.prune root).lookup p = if root <+: p then none else t.lookup p := by
  rw [prune, lookup_graft, Finmap.lookup_empty]

theorem lookup_set (n : ν) (q : List κ) :
    (t.set p n).lookup q = if q = p then some n else t.lookup q := by
  by_cases hq : q = p
  · subst hq
    rw [if_pos rfl, set, Finmap.lookup_insert]
  · rw [if_neg hq, set, Finmap.lookup_insert_of_ne t hq]

theorem lookup_overlay : (t.overlay root s).lookup p =
    if root <+: p then (s.lookup (p.drop root.length)).or (t.lookup p) else t.lookup p := by
  have hunion : (t.overlay root s).lookup p =
      ((graft ∅ root s : Tree κ ν).lookup p).or (t.lookup p) := by
    cases hs : (graft ∅ root s : Tree κ ν).lookup p with
    | some n =>
      have hmem := Finmap.mem_of_lookup_eq_some hs
      rw [overlay, Finmap.lookup_union_left hmem, hs, Option.some_or]
    | none => rw [overlay, Finmap.lookup_union_right (Finmap.lookup_eq_none.1 hs), Option.none_or]
  rw [hunion, lookup_graft]
  by_cases hp : root <+: p
  · rw [if_pos hp, if_pos hp]
  · rw [if_neg hp, if_neg hp, Finmap.lookup_empty, Option.none_or]

@[simp] theorem lookup_overlay_append : (t.overlay root s).lookup (root ++ p) =
    (s.lookup p).or (t.lookup (root ++ p)) := by
  rw [lookup_overlay, if_pos (List.prefix_append ..), List.drop_left]

theorem subtree_set (n : ν) : (t.set (root ++ p) n).subtree root = (t.subtree root).set p n := by
  refine Finmap.ext_lookup fun q => ?_
  rw [lookup_subtree, lookup_set, lookup_set, lookup_subtree]
  simp only [List.append_cancel_left_eq]

end Tree

end Lib
