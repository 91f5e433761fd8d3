import Mathlib.Data.Multiset.Filter
import Mathlib.Data.Multiset.AddSub
import Mathlib.Data.Multiset.UnionInter

/-!
# Custody of resources

Resources are created into a reserve, handed out, bound to a holder and held, given back, and then
destroyed, where a destruction may fail and be retried. `Places` says where each resource is; a
resource that has been handed out is also entered in `active` until its destruction has succeeded,
which strikes out every active resource with the same key.

`Move` is one step of one resource and `History` what the steps so far have done. `Kept` accounts
for every resource until it is given back; `Settled` also for the time after, provided that no
destruction is reported twice and that the keys are distinct. Both are equations between multisets
and every move keeps them. The last section reads off how a single resource travels.
-/

namespace Lib.Custody

variable {β κ : Type}

structure Places (β : Type) where
  reserve : Multiset β
  active : Multiset β
  posted : Multiset β
  held : Multiset β
  destroys : Multiset β
  timers : Multiset β

/-- The steps, named by what they do to which resource. A report of a destruction that comes
`again` leaves the destruction outstanding. -/
inductive Label (β : Type)
  | stay
  | stock (b : β)
  | serve (b : β)
  | deliver (b : β)
  | bind (b : β)
  | giveBack (b : β)
  | destroyed (b : β) (again : Bool)
  | failed (b : β) (again : Bool)
  | retry (b : β)

/-- The step ends the destruction it reports on. -/
def Label.once : Label β → Prop
  | .destroyed _ again => again = false
  | .failed _ again => again = false
  | _ => True

section
variable [DecidableEq κ] (key : β → κ)

inductive Move : Places β → Label β → Places β → Prop
  | stay (p : Places β) : Move p .stay p
  | stock (p : Places β) (b : β) : Move p (.stock b) { p with reserve := b ::ₘ p.reserve }
  | serve (p : Places β) (b : β) :
    Move { p with reserve := b ::ₘ p.reserve } (.serve b)
      { p with active := b ::ₘ p.active, posted := b ::ₘ p.posted }
  | deliver (p : Places β) (b : β) :
    Move p (.deliver b) { p with active := b ::ₘ p.active, posted := b ::ₘ p.posted }
  | bind (p : Places β) (b : β) :
    Move { p with posted := b ::ₘ p.posted } (.bind b) { p with held := b ::ₘ p.held }
  | giveBack (p : Places β) (b : β) :
    Move { p with held := b ::ₘ p.held } (.giveBack b) { p with destroys := b ::ₘ p.destroys }
  | destroyed (p : Places β) (b : β) (again : Bool) :
    Move { p with destroys := b ::ₘ p.destroys } (.destroyed b again)
      { p with
        destroys := if again then b ::ₘ p.destroys else p.destroys
        active := p.active.filter fun x => key x ≠ key b }
  | failed (p : Places β) (b : β) (again : Bool) :
    Move { p with destroys := b ::ₘ p.destroys } (.failed b again)
      { p with
        destroys := if again then b ::ₘ p.destroys else p.destroys
        timers := b ::ₘ p.timers }
  | retry (p : Places β) (b : β) :
    Move { p with timers := b ::ₘ p.timers } (.retry b) { p with destroys := b ::ₘ p.destroys }

end

/-- The resources created, bound to a holder, given back and destroyed so far. -/
structure History (β : Type) where
  created : Multiset β
  bound : Multiset β
  givenBack : Multiset β
  gone : Multiset β

/-- The history after one more step. -/
def History.add (h : History β) : Label β → History β
  | .stock b => { h with created := b ::ₘ h.created }
  | .deliver b => { h with created := b ::ₘ h.created }
  | .bind b => { h with bound := b ::ₘ h.bound }
  | .giveBack b => { h with givenBack := b ::ₘ h.givenBack }
  | .destroyed b _ => { h with gone := b ::ₘ h.gone }
  | _ => h

theorem History.created_le_add (h : History β) (l : Label β) :
    h.created ≤ (h.add l).created := by
  cases l <;> first | exact le_refl _ | exact Multiset.le_cons_self _ _

/-! ## Until a resource is given back -/

/-- Every resource created is in reserve, posted, held or given back; only what was given back is
being destroyed. -/
structure Kept (h : History β) (p : Places β) : Prop where
  created : p.reserve + p.posted + p.held + h.givenBack = h.created
  bound : p.held + h.givenBack = h.bound
  late : ∀ b, b ∈ p.destroys ∨ b ∈ p.timers → b ∈ h.givenBack

theorem kept_start : Kept (⟨0, 0, 0, 0⟩ : History β) ⟨0, 0, 0, 0, 0, 0⟩ :=
  ⟨rfl, rfl, fun b h => by simp at h⟩

/-- **Every move** keeps the account. -/
theorem Kept.move [DecidableEq κ] {key : β → κ} {h : History β} {p p' : Places β} {l : Label β}
    (hk : Kept h p) (hm : Move key p l p') : Kept (h.add l) p' := by
  obtain ⟨hc, hb, hl⟩ := hk
  cases hm with
  | stay _ => exact ⟨hc, hb, hl⟩
  | stock _ b =>
    refine ⟨?_, hb, hl⟩
    simp only [History.add, Multiset.cons_add, hc]
  | serve p b =>
    refine ⟨?_, hb, hl⟩
    simpa only [History.add, Multiset.cons_add, Multiset.add_cons] using hc
  | deliver _ b =>
    refine ⟨?_, hb, hl⟩
    simp only [History.add, Multiset.cons_add, Multiset.add_cons, hc]
  | bind p b =>
    refine ⟨?_, ?_, hl⟩
    · simpa only [History.add, Multiset.cons_add, Multiset.add_cons] using hc
    · simp only [History.add, Multiset.cons_add, hb]
  | giveBack p b =>
    refine ⟨?_, ?_, fun x hx => ?_⟩
    · simpa only [History.add, Multiset.cons_add, Multiset.add_cons] using hc
    · simpa only [History.add, Multiset.cons_add, Multiset.add_cons] using hb
    · rcases hx with hx | hx
      · rcases Multiset.mem_cons.1 hx with rfl | hx
        · exact Multiset.mem_cons_self _ _
        · exact Multiset.mem_cons_of_mem (hl x (Or.inl hx))
      · exact Multiset.mem_cons_of_mem (hl x (Or.inr hx))
  | destroyed p b again =>
    refine ⟨hc, hb, fun x hx => hl x ?_⟩
    rcases hx with hx | hx
    · cases again
      · exact Or.inl (Multiset.mem_cons_of_mem hx)
      · exact Or.inl hx
    · exact Or.inr hx
  | failed p b again =>
    refine ⟨hc, hb, fun x hx => hl x ?_⟩
    rcases hx with hx | hx
    · cases again
      · exact Or.inl (Multiset.mem_cons_of_mem hx)
      · exact Or.inl hx
    · rcases Multiset.mem_cons.1 hx with rfl | hx
      · exact Or.inl (Multiset.mem_cons_self _ _)
      · exact Or.inr hx
  | retry p b =>
    refine ⟨hc, hb, fun x hx => hl x ?_⟩
    rcases hx with hx | hx
    · rcases Multiset.mem_cons.1 hx with rfl | hx
      · exact Or.inr (Multiset.mem_cons_self _ _)
      · exact Or.inl hx
    · exact Or.inr (Multiset.mem_cons_of_mem hx)

/-- With distinct keys a resource is bound to one holder only. -/
theorem Kept.bound_nodup {key : β → κ} {h : History β} {p : Places β} (hk : Kept h p)
    (hn : (h.created.map key).Nodup) : (h.bound.map key).Nodup := by
  rw [← hk.created, Multiset.add_assoc, Multiset.map_add, hk.bound] at hn
  exact (Multiset.nodup_add.1 hn).2.1

/-- With distinct keys nothing that was given back is held. -/
theorem Kept.not_given_back {key : β → κ} {h : History β} {p : Places β} (hk : Kept h p)
    (hn : (h.created.map key).Nodup) {b b' : β} (hb : b ∈ p.held) (hb' : b' ∈ h.givenBack) :
    key b ≠ key b' := by
  have hd := hk.bound_nodup hn
  rw [← hk.bound, Multiset.map_add] at hd
  intro he
  have h1 := Multiset.mem_map_of_mem key hb
  rw [he] at h1
  exact Multiset.disjoint_left.1 (Multiset.nodup_add.1 hd).2.2 h1 (Multiset.mem_map_of_mem key hb')

/-! ## Until a resource is gone -/

structure Settled (h : History β) (p : Places β) : Prop extends Kept h p where
  active : p.posted + p.held + p.destroys + p.timers = p.active
  returned : p.destroys + p.timers + h.gone = h.givenBack

theorem settled_start : Settled (⟨0, 0, 0, 0⟩ : History β) ⟨0, 0, 0, 0, 0, 0⟩ :=
  ⟨kept_start, rfl, rfl⟩

/-- **Census**: what was created is in reserve, active or gone. -/
theorem Settled.census {h : History β} {p : Places β} (hs : Settled h p) :
    p.reserve + p.active + h.gone = h.created := by
  rw [← hs.created, ← hs.active, ← hs.returned]
  simp only [Multiset.add_assoc]

theorem filter_key_cons [DecidableEq κ] {key : β → κ} {b : β} {s : Multiset β}
    (hn : ((b ::ₘ s).map key).Nodup) : (b ::ₘ s).filter (fun x => key x ≠ key b) = s := by
  rw [Multiset.map_cons, Multiset.nodup_cons] at hn
  rw [Multiset.filter_cons_of_neg _ (by simp), Multiset.filter_eq_self]
  intro x hx hxb
  exact hn.1 (hxb ▸ Multiset.mem_map_of_mem key hx)

theorem Settled.active_nodup [DecidableEq κ] {key : β → κ} {h : History β} {p : Places β}
    (hs : Settled h p) (hn : (h.created.map key).Nodup) : (p.active.map key).Nodup := by
  rw [← hs.census, Multiset.map_add, Multiset.map_add] at hn
  exact (Multiset.nodup_add.1 (Multiset.nodup_add.1 hn).1).2.1

/-- **Every move** keeps the full account while keys are distinct and each destruction is reported
once. -/
theorem Settled.move [DecidableEq κ] {key : β → κ} {h : History β} {p p' : Places β} {l : Label β}
    (hs : Settled h p) (hn : (h.created.map key).Nodup) (hl : l.once) (hm : Move key p l p') :
    Settled (h.add l) p' := by
  have hk := hs.toKept.move hm
  have hact := hs.active_nodup hn
  obtain ⟨-, ha, hr⟩ := hs
  cases hm with
  | stay _ => exact ⟨hk, ha, hr⟩
  | stock _ b => exact ⟨hk, ha, hr⟩
  | serve p b => exact ⟨hk, by simp only [Multiset.cons_add, ha], hr⟩
  | deliver _ b => exact ⟨hk, by simp only [Multiset.cons_add, ha], hr⟩
  | bind p b => exact ⟨hk, by simpa only [Multiset.cons_add, Multiset.add_cons] using ha, hr⟩
  | giveBack p b =>
    refine ⟨hk, by simpa only [Multiset.cons_add, Multiset.add_cons] using ha, ?_⟩
    simp only [History.add, Multiset.cons_add, hr]
  | destroyed p b again =>
    cases hl
    simp only [Multiset.cons_add, Multiset.add_cons] at ha hr
    refine ⟨hk, ?_, by simpa [History.add] using hr⟩
    simp only [← ha] at hact ⊢
    exact (filter_key_cons hact).symm
  | failed p b again =>
    cases hl
    refine ⟨hk, ?_, ?_⟩
    · simpa using ha
    · simpa [History.add] using hr
  | retry p b =>
    refine ⟨hk, ?_, ?_⟩
    · simpa using ha
    · simpa [History.add] using hr

/-! ## What is active is on its way -/

/-- Every active resource is posted, held, or on its way out. -/
def Covered (p : Places β) : Prop :=
  ∀ b ∈ p.active, b ∈ p.posted + p.held + p.destroys + p.timers

/-- **Every move** keeps active resources covered, whatever their keys. -/
theorem Covered.move [DecidableEq κ] {key : β → κ} {p p' : Places β} {l : Label β}
    (h : Covered p) (hm : Move key p l p') : Covered p' := by
  intro x hx
  cases hm with
  | stay _ => exact h x hx
  | stock _ b => exact h x hx
  | serve p b =>
    rcases Multiset.mem_cons.1 hx with rfl | hx
    · simp
    · have := h x hx
      simp only [Multiset.mem_add, Multiset.mem_cons] at this ⊢
      grind
  | deliver _ b =>
    rcases Multiset.mem_cons.1 hx with rfl | hx
    · simp
    · have := h x hx
      simp only [Multiset.mem_add, Multiset.mem_cons] at this ⊢
      grind
  | bind p b | giveBack p b | failed p b again | retry p b =>
    have := h x hx
    simp only [Multiset.mem_add, Multiset.mem_cons] at this ⊢
    grind
  | destroyed p b again =>
    -- the resource that is gone is struck out
    obtain ⟨hx, hne⟩ := Multiset.mem_filter.1 hx
    have hxb : x ≠ b := fun he => hne (he ▸ rfl)
    have := h x hx
    simp only [Multiset.mem_add, Multiset.mem_cons] at this ⊢
    cases again <;> simp only [Bool.false_eq_true, if_true, if_false, Multiset.mem_cons] <;> grind

/-! ## The way of one resource -/

inductive Stage
  | unborn
  | reserve
  | posted
  | held
  | destroying
  | retrying
  | gone
deriving DecidableEq

/-- The order in which a resource passes the stages; only the two stages of its destruction may
alternate. -/
inductive Forward : Stage → Stage → Prop
  | same (s : Stage) : Forward s s
  | stock : Forward .unborn .reserve
  | deliver : Forward .unborn .posted
  | serve : Forward .reserve .posted
  | bind : Forward .posted .held
  | giveBack : Forward .held .destroying
  | failed : Forward .destroying .retrying
  | retry : Forward .retrying .destroying
  | destroyed : Forward .destroying .gone

section
variable [DecidableEq β]

def stage (h : History β) (p : Places β) (b : β) : Stage :=
  if b ∈ p.reserve then .reserve
  else if b ∈ p.posted then .posted
  else if b ∈ p.held then .held
  else if b ∈ p.destroys then .destroying
  else if b ∈ p.timers then .retrying
  else if b ∈ h.created then .gone
  else .unborn

variable {h : History β} {p : Places β} {b : β}

/-- Distinct creations put a resource in one place. -/
theorem Settled.count_le_one (hs : Settled h p) (hn : h.created.Nodup) (b : β) :
    p.reserve.count b + p.posted.count b + p.held.count b + p.destroys.count b +
      p.timers.count b + h.gone.count b ≤ 1 := by
  have hc := congrArg (Multiset.count b) hs.census
  have ha := congrArg (Multiset.count b) hs.active
  have h1 := Multiset.nodup_iff_count_le_one.1 hn b
  simp only [Multiset.count_add] at hc ha
  omega

theorem stage_reserve (hb : b ∈ p.reserve) : stage h p b = .reserve := if_pos hb

/-- A resource in one place is in none of those before it. -/
theorem Settled.not_before (hs : Settled h p) (hn : h.created.Nodup) (b : β) :
    (b ∈ p.posted → b ∉ p.reserve) ∧
    (b ∈ p.held → b ∉ p.reserve ∧ b ∉ p.posted) ∧
    (b ∈ p.destroys → b ∉ p.reserve ∧ b ∉ p.posted ∧ b ∉ p.held) ∧
    (b ∈ p.timers → b ∉ p.reserve ∧ b ∉ p.posted ∧ b ∉ p.held ∧ b ∉ p.destroys) ∧
    (b ∈ h.gone → b ∉ p.reserve ∧ b ∉ p.posted ∧ b ∉ p.held ∧ b ∉ p.destroys ∧
      b ∉ p.timers) := by
  have h1 := hs.count_le_one hn b
  simp only [← Multiset.count_pos]
  omega

theorem Settled.stage_posted (hs : Settled h p) (hn : h.created.Nodup) (hb : b ∈ p.posted) :
    stage h p b = .posted := by
  obtain ⟨hposted, -⟩ := hs.not_before hn b
  simp [stage, hposted hb, hb]

theorem Settled.stage_held (hs : Settled h p) (hn : h.created.Nodup) (hb : b ∈ p.held) :
    stage h p b = .held := by
  obtain ⟨-, hheld, -⟩ := hs.not_before hn b
  simp [stage, hheld hb, hb]

theorem Settled.stage_destroys (hs : Settled h p) (hn : h.created.Nodup) (hb : b ∈ p.destroys) :
    stage h p b = .destroying := by
  obtain ⟨-, -, hdestroys, -⟩ := hs.not_before hn b
  simp [stage, hdestroys hb, hb]

theorem Settled.stage_timers (hs : Settled h p) (hn : h.created.Nodup) (hb : b ∈ p.timers) :
    stage h p b = .retrying := by
  obtain ⟨-, -, -, htimers, -⟩ := hs.not_before hn b
  simp [stage, htimers hb, hb]

theorem Settled.stage_gone (hs : Settled h p) (hn : h.created.Nodup) (hb : b ∈ h.gone) :
    stage h p b = .gone := by
  obtain ⟨-, -, -, -, hgone⟩ := hs.not_before hn b
  have hc : b ∈ h.created := by
    rw [← hs.census]
    exact Multiset.mem_add.2 (Or.inr hb)
  simp [stage, hgone hb, hc]

theorem Settled.stage_unborn (hs : Settled h p) (hb : b ∉ h.created) : stage h p b = .unborn := by
  have h0 : ∀ x, x = b → x ∉ p.reserve + p.active + h.gone := by
    rintro x rfl
    rwa [hs.census]
  have h1 := h0 b rfl
  simp only [← hs.active, Multiset.mem_add, not_or] at h1
  simp [stage, h1, hb]

/-- **Every move** takes every resource forward. -/
theorem Settled.forward [DecidableEq κ] {key : β → κ} {p' : Places β} {l : Label β}
    (hs : Settled h p) (hn : ((h.add l).created.map key).Nodup) (hl : l.once)
    (hm : Move key p l p') (x : β) : Forward (stage h p x) (stage (h.add l) p' x) := by
  have hn₀ : (h.created.map key).Nodup :=
    Multiset.nodup_of_le (Multiset.map_le_map (h.created_le_add l)) hn
  have hs' := hs.move hn₀ hl hm
  have hu := Multiset.Nodup.of_map _ hn₀
  have hu' := Multiset.Nodup.of_map _ hn
  cases hm with
  | stay _ => exact .same _
  | stock _ b =>
    by_cases hx : x = b
    · subst hx
      have hb : x ∉ h.created := (Multiset.nodup_cons.1 hu').1
      rw [hs.stage_unborn hb, stage_reserve (Multiset.mem_cons_self _ _)]
      exact .stock
    · have : stage h p x = stage (h.add (.stock b)) { p with reserve := b ::ₘ p.reserve } x := by
        simp [stage, History.add, Multiset.mem_cons, hx]
      exact this ▸ .same _
  | serve p b =>
    by_cases hx : x = b
    · subst hx
      rw [stage_reserve (Multiset.mem_cons_self _ _),
        hs'.stage_posted hu' (Multiset.mem_cons_self _ _)]
      exact .serve
    · simp only [stage, History.add, Multiset.mem_cons, hx, false_or]
      exact .same _
  | deliver _ b =>
    by_cases hx : x = b
    · subst hx
      have hb : x ∉ h.created := (Multiset.nodup_cons.1 hu').1
      rw [hs.stage_unborn hb, hs'.stage_posted hu' (Multiset.mem_cons_self _ _)]
      exact .deliver
    · simp only [stage, History.add, Multiset.mem_cons, hx, false_or]
      exact .same _
  | bind p b =>
    by_cases hx : x = b
    · subst hx
      rw [hs.stage_posted hu (Multiset.mem_cons_self _ _),
        hs'.stage_held hu' (Multiset.mem_cons_self _ _)]
      exact .bind
    · simp only [stage, History.add, Multiset.mem_cons, hx, false_or]
      exact .same _
  | giveBack p b =>
    by_cases hx : x = b
    · subst hx
      rw [hs.stage_held hu (Multiset.mem_cons_self _ _),
        hs'.stage_destroys hu' (Multiset.mem_cons_self _ _)]
      exact .giveBack
    · simp only [stage, History.add, Multiset.mem_cons, hx, false_or]
      exact .same _
  | destroyed p b again =>
    cases hl
    by_cases hx : x = b
    · subst hx
      rw [hs.stage_destroys hu (Multiset.mem_cons_self _ _),
        hs'.stage_gone hu' (Multiset.mem_cons_self _ _)]
      exact .destroyed
    · simp only [stage, History.add, Multiset.mem_cons, hx, false_or, Bool.false_eq_true, if_false]
      exact .same _
  | failed p b again =>
    cases hl
    by_cases hx : x = b
    · subst hx
      rw [hs.stage_destroys hu (Multiset.mem_cons_self _ _),
        hs'.stage_timers hu' (Multiset.mem_cons_self _ _)]
      exact .failed
    · simp only [stage, History.add, Multiset.mem_cons, hx, false_or, Bool.false_eq_true, if_false]
      exact .same _
  | retry p b =>
    by_cases hx : x = b
    · subst hx
      rw [hs.stage_timers hu (Multiset.mem_cons_self _ _),
        hs'.stage_destroys hu' (Multiset.mem_cons_self _ _)]
      exact .retry
    · simp only [stage, History.add, Multiset.mem_cons, hx, false_or]
      exact .same _

end

end Lib.Custody
