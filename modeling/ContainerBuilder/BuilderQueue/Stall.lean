import ContainerBuilder.BuilderQueue.Capacity
import ContainerBuilder.BuilderQueue.OpenStack

/-!
# When the queue stalls

As long as every `create-builder.sh` can be launched, `outstanding_create_count` is the number of
create requests that have not completed and the pool is refilled until it is full.

A launch that fails completes its request twice, once by the result posted at once and once by the
read that is started all the same (`OpenStack.h:33-43`). The counter then runs behind, and when the
requests in flight fail too it becomes negative: the sum with `reserve_builders.size()` wraps, every
check takes the reserve for full, and no event asks for a builder any more.
-/

namespace ContainerBuilder

open Lib

variable {H : Type}

/-- Something is missing and there is capacity left, yet nothing is on its way. -/
def Fleet.stalled (s : Fleet H) : Prop :=
  (s.queue.pendingHandlers ≠ [] ∨ s.queue.reserveBuilders.length < s.queue.fillLevel) ∧
  s.queue.activeBuilders.length < maxBuilderCount ∧
  s.creates = [] ∧ s.createDones = [] ∧ s.createTimers = 0

/-- Create requests whose result has not reached the queue. -/
def Fleet.outstanding (s : Fleet H) : Nat := s.creates.length + s.createDones.length

/-- Every launch of `create-builder.sh` succeeds. -/
def CreatesLaunch (_ : Fleet H) (e : FleetEvent H) : Prop := ∀ l ∈ e.createLaunches, l = none

/-! ## What the actions of a callback add -/

theorem start_createTimers : ∀ (ls : List ErrorCode) (as : List (Action H)) (s : Fleet H),
    (Fleet.start ls as s).createTimers = s.createTimers + createTimers as
  | _, [], _ => rfl
  | ls, .check _ :: as, s => start_createTimers ls as s
  | ls, .post _ _ :: as, _ => start_createTimers ls as _
  | ls, .requestCreate :: as, s => by
    rw [Fleet.start, start_createTimers]
    cases ls.headD none <;> rfl
  | ls, .destroy _ :: as, s => by
    rw [Fleet.start, start_createTimers]
    cases ls.headD none <;> rfl
  | ls, .returnTimer _ :: as, _ => start_createTimers ls as _
  | ls, .createTimer :: as, s => by
    rw [Fleet.start, start_createTimers]
    simp only [createTimers, List.countP_cons, if_true]
    omega

/-- Launched requests are in flight; no result is posted for them yet. -/
theorem start_creates : ∀ (ls : List ErrorCode) (as : List (Action H)) (s : Fleet H),
    (requests as = 0 ∨ ∀ l ∈ ls, l = none) →
      (Fleet.start ls as s).creates = s.creates ++ List.replicate (requests as) ⟨true, none⟩ ∧
      (Fleet.start ls as s).createDones = s.createDones
  | _, [], s, _ => by simp [Fleet.start, requests]
  | ls, .check _ :: as, s, h => start_creates ls as s h
  | ls, .post _ _ :: as, _, h => start_creates ls as _ h
  | ls, .requestCreate :: as, s, h => by
    have hreq : requests (.requestCreate :: as) = requests as + 1 := by simp [requests]
    have hls : ∀ l ∈ ls, l = none := h.resolve_left (by omega)
    have hhead : ls.headD none = none := by
      cases ls with
      | nil => rfl
      | cons l ls => exact hls l (List.mem_cons_self ..)
    obtain ⟨h1, h2⟩ := start_creates ls.tail as (s.requestCreate none)
      (Or.inr fun l hl => hls l (List.mem_of_mem_tail hl))
    rw [Fleet.start, hhead, h1, h2, hreq, List.replicate_succ]
    simp [Fleet.requestCreate]
  | ls, .destroy builder :: as, s, h => by
    have hreq : requests (.destroy builder :: as) = requests as := by simp [requests]
    rw [hreq] at h ⊢
    obtain ⟨h1, h2⟩ := start_creates ls.tail as (s.destroy builder (ls.headD none))
      (h.imp_right fun h l hl => h l (List.mem_of_mem_tail hl))
    rw [Fleet.start, h1, h2]
    cases ls.headD none <;> exact ⟨rfl, rfl⟩
  | ls, .returnTimer _ :: as, _, h => start_creates ls as _ h
  | ls, .createTimer :: as, _, h => start_creates ls as _ h

theorem outstanding_start {ls : List ErrorCode} {as : List (Action H)} {s : Fleet H}
    (h : requests as = 0 ∨ ∀ l ∈ ls, l = none) :
    (Fleet.start ls as s).outstanding = s.outstanding + requests as := by
  obtain ⟨h1, h2⟩ := start_creates ls as s h
  rw [Fleet.outstanding, h1, h2, Fleet.outstanding, List.length_append, List.length_replicate]
  omega

/-! ## One event -/

/-- What a step can do: it lets the queue react to one callback, after `s₁` has given up what the
event uses, or it leaves the queue and the number of outstanding requests alone. -/
inductive FleetStep (s : Fleet H) (e : FleetEvent H) (s' : Fleet H) (out : List (Action H)) : Prop
  | enter (c : Callback H) (ls : List ErrorCode) (s₁ : Fleet H) :
    s' = (s₁.enter c ls).1 → out = (s₁.enter c ls).2 → s₁.queue = s.queue →
    s₁.outstanding + c.completes = s.outstanding →
    (c ≠ .retryCreateReserveBuilders → s₁.createTimers = s.createTimers) →
    (requests (c.run s.queue).actions = 0 ∨ ls = e.createLaunches) → FleetStep s e s' out
  | apart : s'.queue = s.queue → out = [] → s'.outstanding = s.outstanding →
    s'.createTimers = s.createTimers → FleetStep s e s' out

theorem length_eraseIdx_some {α : Type} {l : List α} {k : Nat} {x : α} (h : l[k]? = some x) :
    (l.eraseIdx k).length + 1 = l.length := by
  obtain ⟨hk, -⟩ := List.getElem?_eq_some_iff.1 h
  rw [List.length_eraseIdx_of_lt hk]
  omega

theorem fleet_step_cases {readJson : Bytes → Option Ptree} {s s' : Fleet H} {e : FleetEvent H}
    {out : List (Action H)} (hs : s.step readJson e = some (s', out)) : FleetStep s e s' out := by
  cases Fleet.step_rule hs with
  | checkoutBuilder handler launches =>
    exact .enter _ launches s rfl rfl rfl rfl (fun _ => rfl) (Or.inr rfl)
  | returnBuilder builder launch s₁ hb hs₁ =>
    subst hs₁
    exact .enter (.returnBuilder builder) [launch] _ rfl rfl rfl rfl (fun _ => rfl) (Or.inl rfl)
  | runHandler k handler builder hk => exact .apart rfl rfl rfl rfl
  | createRead k read exitCode command hk hread =>
    refine .apart rfl rfl ?_ rfl
    have := length_eraseIdx_some hk
    simp only [Fleet.outstanding, List.length_append, List.length_singleton]
    omega
  | createDone k launches error builder s₁ hk hs₁ =>
    subst hs₁
    refine .enter _ launches _ rfl rfl rfl ?_ (fun _ => rfl) (Or.inr rfl)
    have := length_eraseIdx_some hk
    simp only [Fleet.outstanding, Callback.completes]
    omega
  | destroyRead k read exitCode command hk hread hgone => exact .apart rfl rfl rfl rfl
  | destroyDone k launches builder error s₁ hk hs₁ =>
    subst hs₁
    exact .enter _ launches _ rfl rfl rfl rfl (fun _ => rfl) (Or.inr rfl)
  | retryReturnBuilder k launch builder s₁ hk hs₁ =>
    subst hs₁
    exact .enter (.retryReturnBuilder builder) [launch] _ rfl rfl rfl rfl (fun _ => rfl)
      (Or.inl rfl)
  | retryCreateReserveBuilders launches s₁ hpos hs₁ =>
    subst hs₁
    exact .enter _ launches _ rfl rfl rfl rfl (fun h => absurd rfl h) (Or.inr rfl)
  | processExits hw => exact .apart rfl rfl rfl rfl
  | startVm k id command hk hlaunched hvm hnew =>
    refine .apart rfl rfl ?_ rfl
    simp [Fleet.outstanding]
  | deleteVm k command hk hlaunched => exact .apart rfl rfl rfl rfl

/-! ## Runs of the fleet -/

section
variable {readJson : Bytes → Option Ptree} {launches : List ErrorCode}
  {G : Fleet H → FleetEvent H → Prop} {es : List (FleetEvent H)} {s : Fleet H}
  {tr : List (Action H)}

/-- **Projection**: a run of the fleet is a run of its queue. -/
theorem fleet_projects (h : (fleetMachine H readJson launches).Run G es s tr) :
    ∃ cs, (queueMachine H).Run Machine.always cs s.queue tr := by
  refine Machine.Run.inv (fun _ s tr => ∃ cs, (queueMachine H).Run Machine.always cs s.queue tr)
    ?_ ?_ h
  · refine ⟨[], ?_⟩
    have hq : (fleetMachine H readJson launches).init.queue = (queueMachine H).init :=
      (Fleet.new_frame launches).queue
    rw [hq]
    exact .start
  · intro es s tr e s' out _ ih _ hs
    obtain ⟨cs, hr⟩ := ih
    cases fleet_step_cases hs with
    | enter c ls s₁ h1 h2 h3 =>
      subst h1 h2
      refine ⟨cs ++ [c], ?_⟩
      have hq : (s₁.enter c ls).1.queue = (c.run s.queue).queue := by
        rw [← h3]; exact (Fleet.enter_frame _ _ _).queue
      rw [hq]
      have ha : (s₁.enter c ls).2 = (c.run s.queue).actions := by rw [← h3]; rfl
      rw [ha]
      exact hr.snoc trivial rfl
    | apart hq ho =>
      rw [hq, ho, List.append_nil]
      exact ⟨cs, hr⟩

theorem fleet_idle (h : (fleetMachine H readJson launches).Run G es s tr) :
    s.queue.pendingHandlers = [] ∨ s.queue.reserveBuilders = [] := by
  obtain ⟨cs, hr⟩ := fleet_projects h
  exact (queue_served hr).idle

structure FleetInv (s : Fleet H) : Prop where
  ledger : Ledger s.queue s.outstanding
  filled : s.createTimers = 0 → Filled s.queue s.outstanding

/-- **One event** keeps the invariant if it launches what it wants to. -/
theorem fleetInv_step {s' : Fleet H} {e : FleetEvent H} {out : List (Action H)}
    (hidle : s.queue.pendingHandlers = [] ∨ s.queue.reserveBuilders = []) (h : FleetInv s)
    (hg : CreatesLaunch s e) (hs : s.step readJson e = some (s', out)) : FleetInv s' := by
  cases fleet_step_cases hs with
  | enter c ls s₁ h1 _ h3 hn ht hls =>
    obtain ⟨hl, hf⟩ := run_ledger hidle h.ledger hn
    have hlaunch : requests (c.run s₁.queue).actions = 0 ∨ ∀ l ∈ ls, l = none := by
      rw [h3]
      refine hls.imp_right fun he => ?_
      rw [he]
      exact hg
    have hq : (s₁.enter c ls).1.queue = (c.run s.queue).queue := by
      rw [← h3]; exact (Fleet.enter_frame _ _ _).queue
    have ho : (s₁.enter c ls).1.outstanding =
        s₁.outstanding + requests (c.run s.queue).actions := by
      rw [← h3]; exact outstanding_start hlaunch
    have hct : (s₁.enter c ls).1.createTimers =
        s₁.createTimers + createTimers (c.run s.queue).actions := by
      rw [← h3]; exact start_createTimers _ _ _
    subst h1
    refine ⟨by rw [hq, ho]; exact hl, fun h0 => ?_⟩
    rw [hq, ho]
    rw [hct, Nat.add_eq_zero_iff] at h0
    rcases hf with hf | hf | ⟨hne, hf⟩
    · exact hf
    · omega
    · exact hf (h.filled (by rw [← ht hne]; exact h0.1))
  | apart hq _ hn ht =>
    refine ⟨by rw [hq, hn]; exact h.ledger, fun h0 => ?_⟩
    rw [hq, hn]
    exact h.filled (by rw [← ht]; exact h0)

theorem fleet_inv (hls : ∀ l ∈ launches, l = none)
    (h : (fleetMachine H readJson launches).Run CreatesLaunch es s tr) : FleetInv s := by
  refine Machine.Run.inv (fun _ s _ => FleetInv s) ?_
    (fun _ _ _ _ _ _ hr ih hg hs => fleetInv_step (fleet_idle hr) ih hg hs) h
  have h0 : Ledger (⟨[], [], [], 0⟩ : BuilderQueue H) 0 := ⟨rfl, by simp, by simp⟩
  obtain ⟨hl, hf⟩ := h0.refill
  have hr : requests (BuilderQueue.new (H := H)).actions =
      (⟨[], [], [], 0⟩ : BuilderQueue H).launched :=
    requests_createReserveBuilders _
  have hq : (Fleet.new launches : Fleet H).queue = BuilderQueue.new.queue :=
    (Fleet.new_frame launches).queue
  have ho : (Fleet.new launches : Fleet H).outstanding =
      0 + (⟨[], [], [], 0⟩ : BuilderQueue H).launched := by
    rw [← hr]; exact outstanding_start (Or.inr hls)
  refine ⟨?_, fun _ => ?_⟩
  · show Ledger (Fleet.new launches).queue (Fleet.new launches).outstanding
    rw [hq, ho]
    exact hl
  · show Filled (Fleet.new launches).queue (Fleet.new launches).outstanding
    rw [hq, ho]
    exact hf

end

/-- **The queue never stalls while every `create-builder.sh` can be launched**, whatever the scripts
print and return, however the pipes are read and whether or not `destroy-builder.sh` can be
launched; the counter is the number of requests that have not completed, so its sum with the size of
the reserve does not wrap. -/
theorem never_stalls {readJson : Bytes → Option Ptree} {launches : List ErrorCode}
    (hls : ∀ l ∈ launches, l = none) {es : List (FleetEvent H)} {s : Fleet H}
    {tr : List (Action H)} (h : (fleetMachine H readJson launches).Run CreatesLaunch es s tr) :
    ¬ s.stalled ∧ s.queue.outstandingCreateCount = s.outstanding ∧
    (s.queue.potentialReserveCount : Int) =
      s.queue.reserveBuilders.length + s.queue.outstandingCreateCount := by
  have hi := fleet_inv hls h
  have hc := hi.ledger.count
  have hp := hi.ledger.potentialReserveCount_eq
  refine ⟨?_, hc, by omega⟩
  rintro ⟨hmissing, hcap, hcr, hcd, htm⟩
  have h0 : s.outstanding = 0 := by simp [Fleet.outstanding, hcr, hcd]
  have hf := hi.filled htm
  rw [h0] at hf
  have hm : 0 < maxReserveBuilderCount := by decide
  rcases hmissing with hpend | hres
  · have hr := (fleet_idle h).resolve_left hpend
    simp only [Filled, BuilderQueue.fillLevel, hr, List.length_nil] at hf
    omega
  · simp only [Filled] at hf
    omega

/-- Requests that start no builder, and a client: the pool is never given up. -/
theorem never_stalls_run :
    ∃ s tr, (fleetMachine Nat (fun _ => none) []).Run CreatesLaunch
        [.checkoutBuilder 7 [], .createRead 0 (.eof []) 1, .processExits, .createDone 0 [],
          .createRead 3 (.error 5) 0, .processExits, .retryCreateReserveBuilders []] s tr ∧
      s.createTimers = 0 ∧ ¬ s.stalled :=
  have hrun := Machine.exec_run (M := fleetMachine Nat (fun _ => none) []) (G := CreatesLaunch)
    (g := fun _ e => decide (∀ l ∈ e.createLaunches, l = none))
    (fun _ _ h => by simpa [CreatesLaunch] using h)
    [.checkoutBuilder 7 [], .createRead 0 (.eof []) 1, .processExits, .createDone 0 [],
      .createRead 3 (.error 5) 0, .processExits, .retryCreateReserveBuilders []] rfl
  ⟨_, _, hrun, rfl, (never_stalls (by simp) hrun).1⟩

/-- One of the first ten launches fails and the other nine scripts print nothing that can be read:
the pool ends with a negative counter and a client that will never be served. -/
theorem failed_launch_stalls :
    ∃ es s tr, (fleetMachine Nat (fun _ => none) [some 2]).Run Machine.always es s tr ∧
      s.stalled ∧ s.queue.outstandingCreateCount = -1 ∧ s.queue.pendingHandlers = [7] := by
  have hrun := Machine.exec_run (M := fleetMachine Nat (fun _ => none) [some 2])
    (G := Machine.always) (g := fun _ _ => true) (fun _ _ _ => trivial)
    (.createRead 0 (.eof []) 1 ::
      (List.replicate 9 [.createRead 0 (.eof []) 1, .processExits]).flatten ++
      List.replicate 11 (.createDone 0 []) ++
      List.replicate 11 (.retryCreateReserveBuilders []) ++ [.checkoutBuilder 7 []]) rfl
  exact ⟨_, _, _, hrun, ⟨Or.inl (by decide), by decide, rfl, rfl, rfl⟩, rfl, rfl⟩

end ContainerBuilder
