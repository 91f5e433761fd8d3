import ContainerBuilder.BuilderQueue.Ownership
import ContainerBuilder.BuilderQueue.Refinement
import ContainerBuilder.Lib.Beside

/-!
# The whole queue service

`main` of `BuilderQueue` runs the server and the queue in one `io_context`, and the queue starts the
scripts of OpenStack. The server was modelled with a queue whose requests just come back, the fleet
with clients that check out and return as they like. The site is both side by side: whatever the
connections pass to the queue the fleet takes, and whatever result of a script reaches the queue the
server takes. Every other event of either is its own. While a read handler of OpenStack waits for its
process, the one thread of the `io_context` runs no other handler (`siteReady`).

| shared | server | fleet |
| --- | --- | --- |
| `checkout_builder`          | `requestRead` of a checkout request | `checkoutBuilder` |
| `return_builder`            | the last operation of a connection with a builder ends | `returnBuilder` |
| the posted handler runs     | `builderReady` | `runHandler` |
| `request_create` completes  | `queue (createDone …)` | `createDone` |
| `destroy` completes         | `queue (destroyDone …)` | `destroyDone` |
| a retry timer expires       | `queue (retry …)` | `retryReturnBuilder`, `retryCreateReserveBuilders` |
-/

namespace ContainerBuilder

open Lib Lib.Custody

/-- The event of the pool that an event of the server passes to the queue. -/
def Server.poolEvent (s : Server) (e : ServerEvent) : Option (PoolEvent ConnectionId) :=
  (s.step e).bind fun r => (events (poolTrace r.2)).head?

abbrev Site := Server × Fleet ConnectionId
abbrev SiteEvent := Joint ServerEvent (FleetEvent ConnectionId)
abbrev SiteObs := ServerObs ⊕ Action ConnectionId

/-- The events that run a handler of the `io_context`: a connection ends without one. -/
def siteHandled : SiteEvent → Bool
  | .left (.connectionEnds _) => false
  | .left _ => true
  | .right fe => fe.handled
  | .both _ fe => fe.handled

/-- No handler runs while one waits for its process. -/
def siteReady (s : Site) (e : SiteEvent) : Bool := !(s.2.waiting && siteHandled e)

/-- `launches` are the outcomes of the launches that the constructor of the queue causes. -/
def siteMachine (readJson : Bytes → Option Ptree) (launches : List ErrorCode) :
    Machine Site SiteEvent SiteObs :=
  (serverMachine.beside (fleetMachine ConnectionId readJson launches) Server.poolEvent
    Fleet.poolEvent).restrict siteReady

/-- **The steps of the site**, exactly. -/
theorem site_step_iff {readJson : Bytes → Option Ptree} {launches : List ErrorCode} {s s' : Site}
    {e : SiteEvent} {out : List SiteObs} :
    (siteMachine readJson launches).step s e = some (s', out) ↔ siteReady s e = true ∧
      Machine.BesideStep serverMachine (fleetMachine ConnectionId readJson launches)
        Server.poolEvent Fleet.poolEvent s e s' out :=
  Machine.restrict_step_iff.trans (and_congr_right fun _ => Machine.beside_step_iff)

/-- Every command is launched. -/
def SiteLaunches (s : Site) (e : SiteEvent) : Prop :=
  ∀ fe, e.rightEvent = some fe → Launches s.2 fe

/-- What the server shows in a trace of the site. -/
def serverTrace (tr : List SiteObs) : List ServerObs := tr.filterMap Sum.getLeft?

/-- What the queue starts in a trace of the site. -/
def fleetTrace (tr : List SiteObs) : List (Action ConnectionId) := tr.filterMap Sum.getRight?

theorem serverTrace_append (tr us : List SiteObs) :
    serverTrace (tr ++ us) = serverTrace tr ++ serverTrace us := List.filterMap_append

/-! ## What a step of the server passes to the queue -/

theorem poolEvent_apart {s s' : Server} {e : ServerEvent} {out : List ServerObs}
    (hs : s.step e = some (s', out)) (ht : poolTrace out = []) : s.poolEvent e = none := by
  simp [Server.poolEvent, hs, ht, events]

theorem poolEvent_queue {s s' : Server} {e : ServerEvent} {out : List ServerObs}
    {pe : PoolEvent ConnectionId} (hs : s.step e = some (s', out))
    (hp : s.pool.step pe = some (s'.pool, poolTrace out)) : s.poolEvent e = some pe := by
  simp [Server.poolEvent, hs, events_step hp]

/-- A step of the server is at most one step of its pool. -/
theorem server_pool_step {s s' : Server} {e : ServerEvent} {out : List ServerObs}
    (hph : Phases s) (hs : s.step e = some (s', out)) :
    (s.poolEvent e = none ∧ s'.pool = s.pool) ∨
      ∃ pe, s.poolEvent e = some pe ∧ s.pool.step pe = some (s'.pool, poolTrace out) := by
  cases (server_routed hph hs).1 with
  | queue pe h hstep hag _ _ _ => exact Or.inr ⟨pe, poolEvent_queue hs hstep, hstep⟩
  | apart hp ht _ _ => exact Or.inl ⟨poolEvent_apart hs ht, hp⟩

/-- A completion that leaves its request in flight is passed to the queue as such. -/
theorem server_again {s s' : Server} {e : ServerEvent} {out : List ServerObs}
    (hs : s.step e = some (s', out)) (ha : e.again = true) :
    ∃ pe, s.poolEvent e = some pe ∧ pe.again = true := by
  cases e with
  | queue pe =>
    have he := hs
    simp only [Server.step] at he
    split at he
    · exact ⟨pe, poolEvent_queue hs (enter_some he).1, ha⟩
    · cases he
  | _ => cases ha

theorem fleet_again {s : Fleet ConnectionId} {e : FleetEvent ConnectionId}
    {pe : PoolEvent ConnectionId} (h : s.poolEvent e = some pe) : pe.again = false := by
  cases e <;> simp only [Fleet.poolEvent, Option.some.injEq, Option.map_eq_some_iff, reduceCtorEq]
    at h
  case checkoutBuilder | returnBuilder | retryCreateReserveBuilders => subst h; rfl
  all_goals
    obtain ⟨r, -, rfl⟩ := h
    rfl

/-! ## The two halves of a run -/

section
variable {readJson : Bytes → Option Ptree} {launches : List ErrorCode}
  {G : Site → SiteEvent → Prop} {es : List SiteEvent} {s : Site} {tr : List SiteObs}

theorem site_fleet {K : Fleet ConnectionId → FleetEvent ConnectionId → Prop}
    (hG : ∀ s e fe, G s e → e.rightEvent = some fe → K s.2 fe)
    (h : (siteMachine readJson launches).Run G es s tr) :
    (fleetMachine ConnectionId readJson launches).Run K (es.filterMap Joint.rightEvent) s.2
      (fleetTrace tr) :=
  h.unrestrict.right fun s e _ _ fe hg _ hfe => hG s e fe hg.2 hfe

theorem site_server {K : Server → ServerEvent → Prop}
    (hG : ∀ s e se, G s e → e.leftEvent = some se → K s.1 se)
    (h : (siteMachine readJson launches).Run G es s tr) :
    serverMachine.Run K (es.filterMap Joint.leftEvent) s.1 (serverTrace tr) :=
  h.unrestrict.left fun s e _ _ se hg _ hse => hG s e se hg.2 hse

theorem site_phases (h : (siteMachine readJson launches).Run G es s tr) : Phases s.1 :=
  server_phases (site_server (K := Machine.always) (fun _ _ _ _ _ => trivial) h)

/-- **One step** keeps the pool of the server and the fleet together. -/
theorem refines_siteStep {s s' : Site} {e : SiteEvent} {out : List SiteObs} (hph : Phases s.1)
    (h : s.2.Refines s.1.pool) (hg : SiteLaunches s e)
    (hs : (siteMachine readJson launches).step s e = some (s', out)) :
    s'.2.Refines s'.1.pool := by
  cases (site_step_iff.1 hs).2 with
  | left e t out hnone hstep =>
    rcases server_pool_step hph hstep with ⟨-, hp⟩ | ⟨pe, hpe, -⟩
    · show s.2.Refines t.pool
      rw [hp]
      exact h
    · rw [hnone] at hpe
      cases hpe
  | right fe t out hnone hstep =>
    rcases h.step (hg fe rfl) hstep with ⟨-, -, h'⟩ | ⟨pe, hpe, -⟩
    · exact h'
    · rw [hnone] at hpe
      cases hpe
  | both se fe a t₁ t₂ out₁ out₂ ha₁ ha₂ hs₁ hs₂ =>
    rcases server_pool_step hph hs₁ with ⟨hnone, -⟩ | ⟨pe, hpe, hp⟩
    · rw [ha₁] at hnone
      cases hnone
    · rw [ha₁] at hpe
      cases hpe
      rcases h.step (hg fe rfl) hs₂ with ⟨hnone, -⟩ | ⟨pe, hpe, -, p', hp', h'⟩
      · rw [ha₂] at hnone
        cases hnone
      · rw [ha₂] at hpe
        cases hpe
        have hpool := (Prod.mk.inj (Option.some.inj (hp.symm.trans hp'))).1
        show t₂.Refines t₁.pool
        rw [hpool]
        exact h'

theorem site_refines (hls : ∀ l ∈ launches, l = none)
    (h : (siteMachine readJson launches).Run SiteLaunches es s tr) : s.2.Refines s.1.pool :=
  Machine.Run.inv (fun _ s _ => s.2.Refines s.1.pool) (refines_start hls)
    (fun _ _ _ _ _ _ hr ih hg hs => refines_siteStep (site_phases hr) ih hg hs) h

/-- What an event of the pool does to the builders that handlers have. -/
theorem fleet_held {readJson : Bytes → Option Ptree} {f f' : Fleet ConnectionId}
    {fe : FleetEvent ConnectionId} {out : List (Action ConnectionId)}
    (hs : f.step readJson fe = some (f', out)) :
    (f.poolEvent fe = none ∧ f'.held = f.held) ∨ ∃ pe, f.poolEvent fe = some pe ∧
      (f'.held : Multiset BuilderData) + pe.takes = f.held + pe.gives := by
  have hkept : ∀ (f₁ : Fleet ConnectionId) (c : Callback ConnectionId) (ls : List ErrorCode),
      (f₁.enter c ls).1.held = f₁.held := fun f₁ c ls => (Fleet.enter_frame f₁ c ls).held
  cases Fleet.step_rule hs with
  | checkoutBuilder handler launches =>
    exact Or.inr ⟨_, rfl, by rw [hkept]; rfl⟩
  | returnBuilder builder launch f₁ hb hf₁ =>
    refine Or.inr ⟨_, rfl, ?_⟩
    rw [hkept, hf₁]
    simp only [PoolEvent.takes, PoolEvent.gives, add_zero, add_singleton_eq_cons]
    exact (coe_erase hb).symm
  | runHandler k handler builder hk =>
    refine Or.inr ⟨.runHandler handler builder, by simp [Fleet.poolEvent, hk], ?_⟩
    simp only [PoolEvent.takes, PoolEvent.gives, add_zero, add_singleton_eq_cons,
      Multiset.cons_coe]
  | createDone k launches error builder f₁ hk hf₁ =>
    refine Or.inr ⟨.createDone error builder false, by simp [Fleet.poolEvent, hk], ?_⟩
    rw [hkept, hf₁]
    rfl
  | destroyDone k launches builder error f₁ hk hf₁ =>
    refine Or.inr ⟨.destroyDone builder error false, by simp [Fleet.poolEvent, hk], ?_⟩
    rw [hkept, hf₁]
    rfl
  | retryReturnBuilder k launch builder f₁ hk hf₁ =>
    refine Or.inr ⟨.retryReturnBuilder builder, by simp [Fleet.poolEvent, hk], ?_⟩
    rw [hkept, hf₁]
    rfl
  | retryCreateReserveBuilders launches f₁ hpos hf₁ =>
    refine Or.inr ⟨_, rfl, ?_⟩
    rw [hkept, hf₁]
    rfl
  | createRead | destroyRead | processExits | startVm | deleteVm => exact Or.inl ⟨rfl, rfl⟩

/-- **The builders that handlers have** are those of the connections, in every state of every run. -/
theorem site_held (h : (siteMachine readJson launches).Run G es s tr) :
    (s.2.held : Multiset BuilderData) = held s.1.connections := by
  refine Machine.Run.inv (fun _ s _ => (s.2.held : Multiset BuilderData) = held s.1.connections)
    ?_ ?_ h
  · show ((Fleet.new launches : Fleet ConnectionId).held : Multiset BuilderData) = 0
    rw [(Fleet.new_frame launches).held]
    rfl
  · intro es s tr e s' out hr ih _ hs
    have hph := site_phases hr
    cases (site_step_iff.1 hs).2 with
    | left se t out hnone hstep =>
      cases (server_routed hph hstep).1 with
      | apart _ _ hheld _ => exact ih.trans hheld.symm
      | queue pe _ hp _ _ _ _ => rw [poolEvent_queue hstep hp] at hnone; cases hnone
    | right fe t out hnone hstep =>
      rcases fleet_held hstep with ⟨-, hheld⟩ | ⟨pe, hpe, -⟩
      · show (t.held : Multiset BuilderData) = held s.1.connections
        rw [hheld]
        exact ih
      · rw [hnone] at hpe
        cases hpe
    | both se fe a t₁ t₂ out₁ out₂ ha₁ ha₂ hs₁ hs₂ =>
      rcases fleet_held hs₂ with ⟨hnone, -⟩ | ⟨pe, hpe, hheld⟩
      · rw [ha₂] at hnone
        cases hnone
      · rw [ha₂] at hpe
        cases hpe
        cases (server_routed hph hs₁).1 with
        | apart _ ht _ _ =>
          rw [poolEvent_apart hs₁ ht] at ha₁
          cases ha₁
        | queue pe rest hp _ hbefore hafter _ =>
          rw [poolEvent_queue hs₁ hp] at ha₁
          cases ha₁
          -- both sides lose and get the same
          show (t₂.held : Multiset BuilderData) = held t₁.connections
          rw [ih, hbefore] at hheld
          rw [hafter]
          refine add_right_cancel (b := a.takes) (hheld.trans ?_)
          rw [add_comm a.takes, add_assoc, add_comm a.takes, ← add_assoc, add_comm rest]

/-- In the site every request of the queue completes once. -/
theorem site_once (h : (siteMachine readJson launches).Run G es s tr) :
    serverMachine.Run RequestsOnce (es.filterMap Joint.leftEvent) s.1 (serverTrace tr) := by
  refine h.unrestrict.left fun s e s' out se _ hs hse => ?_
  by_contra hagain
  have ha : se.again = true := by simpa [RequestsOnce] using hagain
  cases Machine.beside_step_iff.1 hs with
  | left e t out hnone hstep =>
    cases hse
    obtain ⟨pe, hpe, -⟩ := server_again hstep ha
    rw [hnone] at hpe
    cases hpe
  | right fe t out _ _ => cases hse
  | both e fe a t₁ t₂ out₁ out₂ ha₁ ha₂ hs₁ _ =>
    cases hse
    obtain ⟨pe, hpe, hpa⟩ := server_again hs₁ ha
    rw [ha₁] at hpe
    cases hpe
    rw [fleet_again ha₂] at hpa
    cases hpa

end

end ContainerBuilder
