import ContainerBuilder.Lib.Exits

/-!
# What calls put out

Some part of the state is an output, to which calls append. `Puts out c ts s` is the specification
of a call that is to put out `ts`: all of it if it returns, and a prefix of it however it ends. It
composes along `>>=`, so what a program is to put out can be read off its calls.
-/

namespace Lib

variable {ε σ α β ο : Type} {out : σ → List ο}

/-- From `s`, the call `c` puts out `ts`. -/
structure Puts (out : σ → List ο) (c : CallM ε σ α) (ts : List ο) (s : σ) : Prop where
  some_of : ∃ us, us <+: ts ∧ out (exec c s).2 = out s ++ us
  all : ∀ a s', Returns c s a s' → out s' = out s ++ ts

/-- A call that puts out nothing. -/
theorem Puts.nothing {c : CallM ε σ α} {s : σ} (h : out (exec c s).2 = out s) :
    Puts out c [] s where
  some_of := ⟨[], List.nil_prefix, by rw [h, List.append_nil]⟩
  all := by
    intro a s' hr
    rw [show exec c s = (.ok a, s') from hr] at h
    rw [h, List.append_nil]

/-- A call that never returns puts out no more of `ts` than it does. -/
theorem Puts.weaken {c : CallM ε σ α} {ts us : List ο} {s : σ} (h : Puts out c ts s)
    (hnot : ∀ a s', ¬ Returns c s a s') (hts : ts <+: us) : Puts out c us s where
  some_of := by
    obtain ⟨vs, hvs, hout⟩ := h.some_of
    exact ⟨vs, hvs.trans hts, hout⟩
  all a s' hr := absurd hr (hnot a s')

/-- **One call after another.** -/
theorem Puts.bind {c : CallM ε σ α} {f : α → CallM ε σ β} {ts us : List ο} {s : σ}
    (hc : Puts out c ts s) (hf : ∀ a s', Returns c s a s' → Puts out (f a) us s') :
    Puts out (c >>= f) (ts ++ us) s := by
  obtain ⟨⟨vs, hvs, hout⟩, hall⟩ := hc
  cases hexec : exec c s with
  | mk r s' =>
    cases r with
    | error ex =>
      have hbind : exec (c >>= f) s = (.error ex, s') := by rw [exec_bind, hexec]
      rw [hexec] at hout
      refine ⟨⟨vs, hvs.trans (List.prefix_append ..), by rw [hbind, hout]⟩, ?_⟩
      intro b s'' hr
      cases hbind.symm.trans hr
    | ok a =>
      have hret : Returns c s a s' := hexec
      have hbind : exec (c >>= f) s = exec (f a) s' := by rw [exec_bind, hexec]
      have hts := hall a s' hret
      obtain ⟨⟨ws, hws, hout'⟩, hall'⟩ := hf a s' hret
      refine ⟨⟨ts ++ ws, ?_, by rw [hbind, hout', hts, List.append_assoc]⟩, ?_⟩
      · exact (List.prefix_append_right_inj ts).2 hws
      · intro b s'' hr
        rw [hall' b s'' (hbind.symm.trans hr), hts, List.append_assoc]

/-- Steps that put out nothing, in a row. -/
theorem puts_inOrder {κ : Type} {run : κ → CallM (Stop ε) σ Unit} {ks : List κ}
    (h : ∀ k ∈ ks, ∀ s, Puts out (run k) [] s) (s : σ) : Puts out (inOrder run ks) [] s := by
  induction ks generalizing s with
  | nil => exact .nothing rfl
  | cons k ks ih =>
    rw [← List.append_nil ([] : List ο)]
    refine (h k (List.mem_cons_self ..) s).bind fun _ s' _ => ?_
    exact ih (fun k hk => h k (List.mem_cons_of_mem _ hk)) s'

theorem Puts.of_exec {c : CallM ε σ α} {d : CallM ε σ α} {ts : List ο} {s : σ}
    (h : Puts out d ts s) (hexec : exec c s = exec d s) : Puts out c ts s := by
  refine ⟨by rw [hexec]; exact h.some_of, fun a s' hr => h.all a s' ?_⟩
  exact hexec.symm.trans hr

end Lib
