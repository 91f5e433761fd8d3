import ContainerBuilder.BuilderQueue.Vms
import ContainerBuilder.Lib.Simulation

/-!
# `OpenStack` completes every request once

The pool takes of OpenStack only that a request comes back; the fleet says how: a command is launched,
its pipe is read, its result is posted, and the posted result reaches the queue. As long as every
command can be launched the second is a refinement of the first in which each request completes exactly
once, so that what is proved of the pool under `ExactlyOnce` holds of the queue with the real
`OpenStack`.

| pool | fleet |
| --- | --- |
| `creates`      | create commands running and results posted (`Fleet.outstanding`) |
| `destroys`     | the builders of the destroy commands running and of the results posted |
| `createDone`, `destroyDone` | a posted result is delivered; the end of the read before it is invisible |
| `checkoutBuilder`, `returnBuilder`, `runHandler`, the retries | the same events |
| no event       | servers start and are deleted, pipes are read, processes exit |
-/

namespace ContainerBuilder

open Lib

variable {H : Type}

/-- The outcomes of all launches an event causes. -/
def FleetEvent.launches : FleetEvent H → List ErrorCode
  | .returnBuilder _ launch => [launch]
  | .retryReturnBuilder _ launch => [launch]
  | e => e.createLaunches

/-- Every command is launched. -/
def Launches (_ : Fleet H) (e : FleetEvent H) : Prop := ∀ l ∈ e.launches, l = none

/-- The event of the pool that an event of the fleet is, if the queue takes part in it. -/
def Fleet.poolEvent (s : Fleet H) : FleetEvent H → Option (PoolEvent H)
  | .checkoutBuilder handler _ => some (.checkoutBuilder handler)
  | .returnBuilder builder _ => some (.returnBuilder builder)
  | .runHandler k => s.posted[k]?.map fun r => .runHandler r.1 r.2
  | .createDone k _ => s.createDones[k]?.map fun r => .createDone r.1 r.2 false
  | .destroyDone k _ => s.destroyDones[k]?.map fun r => .destroyDone r.1 r.2 false
  | .retryReturnBuilder k _ => s.returnTimers[k]?.map fun builder => .retryReturnBuilder builder
  | .retryCreateReserveBuilders _ => some .retryCreateReserveBuilders
  | _ => none

/-- The builders whose destruction has not been reported to the queue. -/
def Fleet.destroying (s : Fleet H) : List BuilderData :=
  s.destroys.map DestroyCommand.builder ++ s.destroyDones.map Prod.fst

structure Fleet.Refines (s : Fleet H) (p : Pool H) : Prop where
  queue : p.queue = s.queue
  creates : p.creates = s.outstanding
  destroys : p.destroys.Perm s.destroying
  returnTimers : p.returnTimers.Perm s.returnTimers
  createTimers : p.createTimers = s.createTimers
  posted : p.posted.Perm s.posted

/-! ## What a callback starts -/

theorem headD_none {ls : List ErrorCode} (h : ∀ l ∈ ls, l = none) : ls.headD none = none := by
  cases ls with
  | nil => rfl
  | cons l ls => exact h l (List.mem_cons_self ..)

/-- When all launches succeed, a callback's actions are outstanding as they are in the pool. -/
theorem start_eq : ∀ (ls : List ErrorCode) (as : List (Action H)) (s : Fleet H),
    (∀ l ∈ ls, l = none) → Fleet.start ls as s =
      { s with
        creates := s.creates ++ List.replicate (requests as) ⟨true, none⟩
        destroys := s.destroys ++ (destroyed as).map fun builder => ⟨builder, true⟩
        returnTimers := s.returnTimers ++ returnTimers as
        createTimers := s.createTimers + createTimers as
        posted := s.posted ++ posted as } := by
  intro ls as
  induction as generalizing ls with
  | nil => simp [Fleet.start, requests, destroyed, returnTimers, createTimers]
  | cons a as ih =>
    intro s hls
    have htail : ∀ l ∈ ls.tail, l = none := fun l hl => hls l (List.mem_of_mem_tail hl)
    cases a with
    | check q =>
      rw [Fleet.start, ih ls s hls]
      rfl
    | post handler builder =>
      rw [Fleet.start, ih ls _ hls]
      simp [requests, destroyed, returnTimers, createTimers]
    | requestCreate =>
      rw [Fleet.start, headD_none hls, ih ls.tail _ htail]
      simp [Fleet.requestCreate, requests, destroyed, returnTimers, createTimers, posted,
        List.replicate_succ]
    | destroy builder =>
      rw [Fleet.start, headD_none hls, ih ls.tail _ htail]
      simp [Fleet.destroy, requests, destroyed, returnTimers, createTimers, posted]
    | returnTimer builder =>
      rw [Fleet.start, ih ls _ hls]
      simp [requests, destroyed, returnTimers, createTimers, posted]
    | createTimer =>
      rw [Fleet.start, ih ls _ hls]
      simp only [requests, destroyed, returnTimers, createTimers, posted, List.countP_cons,
        List.filterMap_cons, if_true, Fleet.mk.injEq]
      simp
      omega

/-! ## One event -/

section lists
variable {α : Type}

theorem eraseIdx_perm_erase [BEq α] [LawfulBEq α] {l : List α} {k : Nat} {x : α} (h : l[k]? = some x) :
    (l.eraseIdx k).Perm (l.erase x) := by
  obtain ⟨hk, rfl⟩ := List.getElem?_eq_some_iff.1 h
  have hcons := List.getElem_cons_eraseIdx_perm hk
  exact List.Perm.cons_inv (hcons.trans (List.perm_cons_erase (List.getElem_mem hk)))

/-- What is taken out by its value on one side and by its place on the other. -/
theorem erase_perm_eraseIdx [BEq α] [LawfulBEq α] {l m : List α} {k : Nat} {x : α} (h : l.Perm m)
    (hk : m[k]? = some x) : x ∈ l ∧ (l.erase x).Perm (m.eraseIdx k) :=
  ⟨h.mem_iff.2 (List.mem_of_getElem? hk), (h.erase x).trans (eraseIdx_perm_erase hk).symm⟩

end lists

section
variable {s s₁ : Fleet H} {p : Pool H}

/-- The queue runs a callback on both sides. -/
theorem Fleet.Refines.enter (h : s.Refines p) (c : Callback H) {ls : List ErrorCode}
    (hls : ∀ l ∈ ls, l = none) : (s.enter c ls).1.Refines (p.enter (c.run p.queue)) := by
  have hs : (s.enter c ls).1 = _ := start_eq ls (c.run s.queue).actions
    { s with queue := (c.run s.queue).queue } hls
  rw [hs, h.queue]
  refine ⟨rfl, ?_, ?_, h.returnTimers.append_right _, congrArg (· + _) h.createTimers,
    h.posted.append_right _⟩
  · have := h.creates
    simp only [Pool.enter, Fleet.outstanding, List.length_append, List.length_replicate] at this ⊢
    omega
  · have hd := h.destroys.append_right (destroyed (c.run s.queue).actions)
    refine hd.trans ?_
    simp only [Fleet.destroying, List.map_append, List.map_map, Function.comp_def, List.map_id',
      List.append_assoc]
    exact List.Perm.append_left _ List.perm_append_comm

theorem refines_start {launches : List ErrorCode} (hls : ∀ l ∈ launches, l = none) :
    (Fleet.new launches : Fleet H).Refines Pool.new := by
  have h0 : Fleet.Refines (Fleet.ofQueue ⟨[], [], [], 0⟩ : Fleet H)
      ⟨⟨[], [], [], 0⟩, 0, [], [], 0, []⟩ := ⟨rfl, rfl, .refl _, .refl _, rfl, .refl _⟩
  exact h0.enter .retryCreateReserveBuilders hls

/-- What the pool shows of itself: the actions of the queue. -/
def PoolObs.started : PoolObs H → Option (Action H)
  | .action a => some a
  | .event _ => none

theorem filterMap_action (pe : PoolEvent H) (as : List (Action H)) :
    (PoolObs.event pe :: as.map .action).filterMap PoolObs.started = as := actions_map as

section
variable [DecidableEq H]

theorem pool_step_callback {p : Pool H} {pe : PoolEvent H} {c : Callback H} (hr : p.Ready pe)
    (hc : pe.callback = some c) : p.step pe = some ((p.without pe).enter (c.run p.queue),
      .event pe :: (c.run p.queue).actions.map .action) := by
  unfold Pool.step
  rw [consume_eq_some.2 ⟨hr, rfl⟩]
  simp only [hc]

theorem without_queue (p : Pool H) (pe : PoolEvent H) : (p.without pe).queue = p.queue := by
  cases pe <;> rfl

/-- The pool takes the event `pe` with the effect of the fleet's step. -/
def Fleet.Follows (s' : Fleet H) (p : Pool H) (pe : PoolEvent H) (out : List (Action H)) : Prop :=
  pe.again = false ∧
    ∃ p', p.step pe = some (p', .event pe :: out.map .action) ∧ s'.Refines p'

/-- The pool can follow a callback for which it has what the event uses up. -/
theorem Fleet.Refines.follows {pe : PoolEvent H} {c : Callback H} {ls : List ErrorCode}
    (hw : s₁.Refines (p.without pe)) (hr : p.Ready pe) (hc : pe.callback = some c)
    (ha : pe.again = false) (hls : ∀ l ∈ ls, l = none) :
    (s₁.enter c ls).1.Follows p pe (s₁.enter c ls).2 := by
  have hpq : p.queue = s₁.queue := (without_queue p pe).symm.trans hw.queue
  have henter := hw.enter c hls
  rw [without_queue] at henter
  refine ⟨ha, _, ?_, henter⟩
  rw [pool_step_callback hr hc, hpq]
  rfl

/-- **One step**: either it is invisible to the pool, or the pool can take the same event. -/
theorem Fleet.Refines.step {readJson : Bytes → Option Ptree} {s' : Fleet H} {e : FleetEvent H}
    {out : List (Action H)} (h : s.Refines p) (hg : Launches s e)
    (hs : s.step readJson e = some (s', out)) :
    (s.poolEvent e = none ∧ out = [] ∧ s'.Refines p) ∨
      ∃ pe, s.poolEvent e = some pe ∧ s'.Follows p pe out := by
  have hrefines := h
  obtain ⟨hq, hcr, hd, hrt, hct, hpo⟩ := h
  cases Fleet.step_rule hs with
  | checkoutBuilder handler launches =>
    exact Or.inr ⟨_, rfl, Fleet.Refines.follows hrefines trivial rfl rfl hg⟩
  | returnBuilder builder launch s₁ hb hs₁ =>
    subst hs₁
    exact Or.inr ⟨_, rfl, Fleet.Refines.follows ⟨hq, hcr, hd, hrt, hct, hpo⟩ trivial rfl rfl hg⟩
  | runHandler k handler builder hk =>
    obtain ⟨hmem, hperm⟩ := erase_perm_eraseIdx hpo hk
    refine Or.inr ⟨.runHandler handler builder, by simp [Fleet.poolEvent, hk], rfl,
      p.without (.runHandler handler builder), ?_, hq, hcr, hd, hrt, hct, hperm⟩
    have hready : p.Ready (.runHandler handler builder) := hmem
    simp [Pool.step, consume_eq_some.2 ⟨hready, rfl⟩, PoolEvent.callback]
  | createRead k read exitCode command hk hread =>
    refine Or.inl ⟨rfl, rfl, hq, hcr.trans ?_, hd, hrt, hct, hpo⟩
    have := length_eraseIdx_some hk
    simp only [Fleet.outstanding, List.length_append, List.length_singleton]
    omega
  | createDone k launches error builder s₁ hk hs₁ =>
    subst hs₁
    have hlen := length_eraseIdx_some hk
    have hpos : 0 < p.creates := by
      rw [hcr, Fleet.outstanding]
      omega
    refine Or.inr ⟨.createDone error builder false, by simp [Fleet.poolEvent, hk],
      Fleet.Refines.follows ⟨hq, ?_, hd, hrt, hct, hpo⟩ hpos rfl rfl hg⟩
    simp only [Pool.without, Bool.false_eq_true, if_false, hcr, Fleet.outstanding]
    omega
  | destroyRead k read exitCode command hk hread hgone =>
    -- the command turns into the result of the same builder
    refine Or.inl ⟨rfl, rfl, hq, hcr, hd.trans ?_, hrt, hct, hpo⟩
    obtain ⟨hlt, rfl⟩ := List.getElem?_eq_some_iff.1 hk
    have hcons := (List.getElem_cons_eraseIdx_perm hlt).map DestroyCommand.builder
    simp only [Fleet.destroying, List.map_append, List.map_cons, List.map_nil] at hcons ⊢
    refine (hcons.symm.append_right _).trans ?_
    rw [List.cons_append, ← List.append_assoc]
    exact (List.perm_append_singleton _ _).symm
  | destroyDone k launches builder error s₁ hk hs₁ =>
    subst hs₁
    obtain ⟨hlt, hget⟩ := List.getElem?_eq_some_iff.1 hk
    have hcons := (List.getElem_cons_eraseIdx_perm hlt).map Prod.fst
    rw [hget, List.map_cons] at hcons
    have hperm : p.destroys.Perm (builder :: Fleet.destroying
        { s with destroyDones := s.destroyDones.eraseIdx k }) :=
      hd.trans ((hcons.symm.append_left _).trans List.perm_middle)
    have hmem : builder ∈ p.destroys := hperm.mem_iff.2 (List.mem_cons_self ..)
    refine Or.inr ⟨.destroyDone builder error false, by simp [Fleet.poolEvent, hk],
      Fleet.Refines.follows ⟨hq, hcr, ?_, hrt, hct, hpo⟩ hmem rfl rfl hg⟩
    have herase := hperm.erase builder
    rwa [List.erase_cons_head] at herase
  | retryReturnBuilder k launch builder s₁ hk hs₁ =>
    subst hs₁
    obtain ⟨hmem, hperm⟩ := erase_perm_eraseIdx hrt hk
    exact Or.inr ⟨.retryReturnBuilder builder, by simp [Fleet.poolEvent, hk],
      Fleet.Refines.follows ⟨hq, hcr, hd, hperm, hct, hpo⟩ hmem rfl rfl hg⟩
  | retryCreateReserveBuilders launches s₁ hpos hs₁ =>
    subst hs₁
    have hready : 0 < p.createTimers := hct ▸ hpos
    exact Or.inr ⟨_, rfl, Fleet.Refines.follows
      ⟨hq, hcr, hd, hrt, congrArg (· - 1) hct, hpo⟩ hready rfl rfl hg⟩
  | processExits hw => exact Or.inl ⟨rfl, rfl, hq, hcr, hd, hrt, hct, hpo⟩
  | startVm k id command hk hlaunched hvm hnew =>
    refine Or.inl ⟨rfl, rfl, hq, hcr.trans ?_, hd, hrt, hct, hpo⟩
    simp [Fleet.outstanding]
  | deleteVm k command hk hlaunched => exact Or.inl ⟨rfl, rfl, hq, hcr, hd, hrt, hct, hpo⟩

/-! ## Runs -/

theorem fleet_simulation (readJson : Bytes → Option Ptree) {launches : List ErrorCode}
    (hls : ∀ l ∈ launches, l = none) :
    Simulation (fleetMachine H readJson launches) Launches some (poolMachine H) ExactlyOnce
      PoolObs.started Fleet.Refines where
  start := refines_start hls
  seen := by
    have hsome : ∀ as : List (Action H), as.filterMap some = as := fun as => List.filterMap_some
    exact (hsome _).trans (actions_map _).symm
  step := by
    intro s p e s' out h hg hs
    rw [List.filterMap_some]
    rcases h.step hg hs with ⟨-, hout, h'⟩ | ⟨pe, -, ha, p', hstep, h'⟩
    · exact .stays h' hout
    · exact .moves pe p' _ ha hstep h' (filterMap_action pe out)

/-- **`OpenStack` refines the pool.** While every command can be launched, whatever the scripts do
and print and however the pipes are read, the queue with the real `OpenStack` runs as the pool in which
every request completes exactly once: the callbacks start the same actions in the same order, the
queue is the same, and the same requests, timers and posted handlers are outstanding. A builder is
returned once by whoever was given it, whether or not the queue still takes it for active. -/
theorem fleet_refines_pool {readJson : Bytes → Option Ptree} {launches : List ErrorCode}
    (hls : ∀ l ∈ launches, l = none) {es : List (FleetEvent H)} {s : Fleet H}
    {tr : List (Action H)} (h : (fleetMachine H readJson launches).Run Launches es s tr) :
    ∃ pes p ptr, (poolMachine H).Run ExactlyOnce pes p ptr ∧ actions ptr = tr ∧
      p.queue = s.queue ∧ p.creates = s.creates.length + s.createDones.length ∧
      p.destroys.Perm
        (s.destroys.map DestroyCommand.builder ++ s.destroyDones.map Prod.fst) ∧
      p.returnTimers.Perm s.returnTimers ∧ p.createTimers = s.createTimers ∧
      p.posted.Perm s.posted := by
  obtain ⟨pes, p, ptr, hrun, hrel, hseen⟩ := (fleet_simulation readJson hls).run h
  rw [List.filterMap_some] at hseen
  exact ⟨pes, p, ptr, hrun, hseen.symm, hrel.queue, hrel.creates, hrel.destroys,
    hrel.returnTimers, hrel.createTimers, hrel.posted⟩

/-- A builder is created, handed out and destroyed again while another command fails. -/
theorem fleet_refines_pool_run :
    ∃ s tr, (fleetMachine Nat readServers []).Run Launches
        [.startVm 0 (ascii "a"), .checkoutBuilder 7 [], .createRead 0 (.eof (serverJson "a")) 0,
          .processExits, .createRead 3 (.error 5) 1, .processExits, .createDone 0 [],
          .runHandler 0, .returnBuilder (server "a") none, .destroyRead 0 (.error 5) 1,
          .processExits, .destroyDone 0 []] s tr ∧
      ∃ pes p ptr, (poolMachine Nat).Run ExactlyOnce pes p ptr ∧ actions ptr = tr ∧
        p.queue = s.queue ∧ p.creates = 10 ∧ p.returnTimers = [server "a"] := by
  have hrun := Machine.exec_run (M := fleetMachine Nat readServers []) (G := Launches)
    (g := fun _ e => decide (∀ l ∈ e.launches, l = none))
    (fun _ _ h => by simpa [Launches] using h)
    [.startVm 0 (ascii "a"), .checkoutBuilder 7 [], .createRead 0 (.eof (serverJson "a")) 0,
      .processExits, .createRead 3 (.error 5) 1, .processExits, .createDone 0 [], .runHandler 0,
      .returnBuilder (server "a") none, .destroyRead 0 (.error 5) 1, .processExits,
      .destroyDone 0 []] rfl
  obtain ⟨pes, p, ptr, hpool, hact, hq, hcr, -, hrt, -⟩ := fleet_refines_pool (by simp) hrun
  exact ⟨_, _, hrun, pes, p, ptr, hpool, hact, hq, hcr, List.perm_singleton.1 hrt⟩

end

end

end ContainerBuilder
