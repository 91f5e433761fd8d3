import ContainerBuilder.BuilderQueue.Alive
import ContainerBuilder.BuilderQueue.Drain

/-!
# What a client gets

A builder that has been written to a client is its own: it was created, no one else was ever given it,
and, as long as no message of the client ends the wait for the close, its server exists until the
connection to the queue has ended.
-/

namespace ContainerBuilder

open Lib Lib.Custody

/-- The builders that have been written to clients, in order. -/
def deliveries (tr : List ServerObs) : List (ConnectionId × BuilderData) :=
  tr.filterMap fun
    | .written c b => some (c, b)
    | _ => none

theorem mem_deliveries {tr : List ServerObs} {c : ConnectionId} {b : BuilderData} :
    (c, b) ∈ deliveries tr ↔ .written c b ∈ tr := by
  simp only [deliveries, List.mem_filterMap]
  constructor
  · rintro ⟨o, ho, h⟩
    cases o <;> cases h
    exact ho
  · exact fun h => ⟨_, h, rfl⟩

/-! ## One event -/

section
variable {s s' : Server} {e : ServerEvent} {c d : ConnectionId} {b : BuilderData}
  {conn : Connection} {out : List ServerObs}

theorem finish_written (h : s.finish c conn = some (s', out)) : .written d b ∉ out := by
  unfold Server.finish at h
  split at h
  · unfold Server.destruct at h
    cases hb : conn.builder with
    | none =>
      rw [hb] at h
      cases h
      simp
    | some b' =>
      rw [hb] at h
      simp only [Option.map_eq_some_iff] at h
      obtain ⟨⟨s₁, out₁⟩, he, hs⟩ := h
      cases hs
      simp only [List.mem_append, List.mem_singleton, reduceCtorEq, or_false]
      exact enter_written he d b
  · cases h
    simp

/-- Only the handler of the write reports a delivery. -/
theorem written_event (hs : s.step e = some (s', out)) (hw : .written c b ∈ out) :
    out = [.written c b] ∧ ∃ conn, s.resume c (.writeBuilder b) = some conn := by
  have hfin : ∀ {c' conn'}, s.finish c' conn' = some (s', out) → False := fun h =>
    finish_written h hw
  have hent : ∀ {s₁ : Server} {pe : PoolEvent ConnectionId}, s₁.enter pe = some (s', out) → False :=
    fun h => enter_written h c b hw
  cases e with
  | accept =>
    cases hs
    cases hw
  | builderWritten c' b' error =>
    obtain ⟨conn, hc, h⟩ := Option.bind_eq_some_iff.1 hs
    cases error with
    | some v => exact (hfin h).elim
    | none =>
      cases h
      simp only [List.mem_singleton, ServerObs.written.injEq] at hw
      obtain ⟨rfl, rfl⟩ := hw
      exact ⟨rfl, conn, hc⟩
  | requestRead c' error request launch =>
    obtain ⟨conn, hc, h⟩ := Option.bind_eq_some_iff.1 hs
    split at h
    · unfold Server.request at h
      split at h
      · exact (hent h).elim
      · split at h
        · exact (hfin h).elim
        · split at h <;> exact (hfin h).elim
    · exact (hfin h).elim
  | builderReady c' b' =>
    obtain ⟨conn, hc, h⟩ := Option.bind_eq_some_iff.1 hs
    exact (hent h).elim
  | closeRead c' error =>
    simp only [Server.step] at hs
    split at hs
    · obtain ⟨conn, hc, h⟩ := Option.bind_eq_some_iff.1 hs
      exact (hfin h).elim
    · cases hs
  | connectionEnds c' =>
    simp only [Server.step] at hs
    split at hs <;> cases hs
    simp at hw
  | queue pe =>
    simp only [Server.step] at hs
    split at hs
    · exact (hent hs).elim
    · cases hs
  | handshakeDone c' error | statsWritten c' | imageListRead c' | imageListReady c'
  | imageListWritten c' =>
    obtain ⟨conn, hc, h⟩ := Option.bind_eq_some_iff.1 hs
    exact (hfin h).elim

/-- When the wait for the close is over, the builder goes back. -/
theorem closeRead_returns (hu : s.uses c b) {error : ErrorCode}
    (hs : s.step (.closeRead c error) = some (s', out)) :
    events (poolTrace out) = [.returnBuilder b] := by
  simp only [Server.step] at hs
  split at hs
  · obtain ⟨conn, hc, h⟩ := Option.bind_eq_some_iff.1 hs
    obtain ⟨old, hl, hmem, rfl⟩ := resume_some hc
    rw [hu] at hl
    cases hl
    simp only [List.erase_cons_head, Server.finish, if_true, Server.destruct,
      Option.map_eq_some_iff] at h
    obtain ⟨⟨s₁, out₁⟩, he, hs⟩ := h
    cases hs
    rw [poolTrace_append, events_append, events_step (enter_some he).1]
    rfl
  · cases hs

end

/-! ## Runs -/

section
variable {G : Server → ServerEvent → Prop} {es : List ServerEvent} {s s' : Server}
  {tr out : List ServerObs} {e : ServerEvent}

/-- What has been given back stays so. -/
theorem givenBack_mono (hr : serverMachine.Run G es s tr) (hs : s.step e = some (s', out))
    {b : BuilderData} (hb : b ∈ (builderHistory tr).givenBack) :
    b ∈ (builderHistory (tr ++ out)).givenBack := by
  rw [builderHistory, poolTrace_append, events_append]
  cases (server_routed (server_phases hr) hs).1 with
  | apart _ ht _ _ =>
    rw [ht]
    have hnil : events ([] : List (PoolObs ConnectionId)) = [] := rfl
    rwa [hnil, List.append_nil]
  | queue pe _ hp _ _ _ _ =>
    rw [events_step hp, history_snoc]
    exact mem_record_givenBack hb

/-- Who has been given a builder keeps it or has given it back. -/
theorem delivered_keeps (hr : serverMachine.Run G es s tr) (hs : s.step e = some (s', out))
    {c : ConnectionId} {b : BuilderData}
    (hd : s.uses c b ∨ b ∈ (builderHistory tr).givenBack) :
    s'.uses c b ∨ b ∈ (builderHistory (tr ++ out)).givenBack := by
  rcases hd with huse | hgone
  · rcases (use_step (server_phases hr) hs).keeps c b huse with huse' | ⟨error, rfl⟩
    · exact Or.inl huse'
    · refine Or.inr ?_
      rw [builderHistory, poolTrace_append, events_append, closeRead_returns huse hs, history_snoc]
      exact Multiset.mem_cons_self _ _
  · exact Or.inr (givenBack_mono hr hs hgone)

/-- A builder that is being delivered was not delivered before. -/
theorem delivered_fresh (hr : serverMachine.Run G es s tr) (hg : G s e)
    (hs : s.step e = some (s', out))
    (hn : ((builderHistory (tr ++ out)).created.map BuilderData.id).Nodup) {c d : ConnectionId}
    {b b' : BuilderData} (hw : .written c b ∈ out)
    (hd : s.uses d b' ∨ b' ∈ (builderHistory tr).givenBack) : b'.id ≠ b.id := by
  intro he
  have hkept := server_kept (hr.snoc hg hs)
  obtain ⟨rfl, conn, hres⟩ := written_event hs hw
  have huse := ((use_step (server_phases hr) hs).written c b hw).1
  have hheld : b ∈ held s'.connections := mem_held.2 ⟨_, _, huse, rfl⟩
  rcases hd with huse' | hgone
  · -- the earlier client still has it, so it is this one, which had not been served
    rcases (use_step (server_phases hr) hs).keeps d b' huse' with huse'' | ⟨error, rfl⟩
    · have hids := hkept.bound_nodup hn
      rw [← hkept.bound, Multiset.map_add] at hids
      have hnd := (Multiset.nodup_add.1 hids).1
      have hone : (held s'.connections).Nodup := Multiset.Nodup.of_map _ hnd
      have hheld' : b' ∈ held s'.connections := mem_held.2 ⟨_, _, huse'', rfl⟩
      obtain rfl : b' = b := Multiset.inj_on_of_nodup_map hnd b' hheld' b hheld he
      obtain rfl : d = c := tally_unique (x := b') hone huse'' huse (by simp) (by simp)
      exact not_uses (by simp) hres b' huse'
    · cases closeRead_returns huse' hs
  · exact hkept.not_given_back hn hheld (givenBack_mono hr hs hgone) he.symm

/-- **No builder is delivered twice**, to whomever; and one that was delivered stays with its client
until it is given back. -/
theorem delivered_once (h : serverMachine.Run G es s tr) :
    ((builderHistory tr).created.map BuilderData.id).Nodup →
      (∀ c b, (c, b) ∈ deliveries tr → s.uses c b ∨ b ∈ (builderHistory tr).givenBack) ∧
      ((deliveries tr).map fun w => w.2.id).Nodup := by
  refine Machine.Run.inv (fun _ s tr => ((builderHistory tr).created.map BuilderData.id).Nodup →
    (∀ c b, (c, b) ∈ deliveries tr → s.uses c b ∨ b ∈ (builderHistory tr).givenBack) ∧
    ((deliveries tr).map fun w => w.2.id).Nodup) ?_ ?_ h
  · intro _
    have hnone : deliveries serverMachine.initOut = [] := by
      simp [deliveries, serverMachine]
    rw [hnone]
    exact ⟨fun c b hb => absurd hb List.not_mem_nil, List.nodup_nil⟩
  · intro es s tr e s' out hr ih hg hs hn
    obtain ⟨ihu, ihn⟩ := ih (created_nodup_of_step hr hs hn)
    have happ : deliveries (tr ++ out) = deliveries tr ++ deliveries out := List.filterMap_append
    have hold : ∀ c b, (c, b) ∈ deliveries tr →
        s'.uses c b ∨ b ∈ (builderHistory (tr ++ out)).givenBack := fun c b hb =>
      delivered_keeps hr hs (ihu c b hb)
    rw [happ]
    by_cases hnew : deliveries out = []
    · rw [hnew, List.append_nil]
      exact ⟨hold, ihn⟩
    · obtain ⟨⟨c, b⟩, hcb⟩ := List.exists_mem_of_ne_nil _ hnew
      have hw := mem_deliveries.1 hcb
      obtain ⟨rfl, -⟩ := written_event hs hw
      have hone : deliveries [.written c b] = [(c, b)] := rfl
      rw [hone]
      refine ⟨fun d b' hd => ?_, ?_⟩
      · rcases List.mem_append.1 hd with hd | hd
        · exact hold d b' hd
        · obtain ⟨rfl, rfl⟩ : d = c ∧ b' = b := by simpa using hd
          exact Or.inl ((use_step (server_phases hr) hs).written _ _ hw).1
      · rw [List.map_append, List.nodup_append]
        refine ⟨ihn, List.nodup_singleton _, fun v hv v' hv' => ?_⟩
        obtain ⟨⟨d, b'⟩, hd, rfl⟩ := List.mem_map.1 hv
        obtain rfl : v' = b.id := by simpa using hv'
        exact delivered_fresh hr hg hs hn hw (ihu d b' hd)

end

/-- Every command is launched, the scripts tell the truth, and no message of a client ends the wait
for the close. -/
def Quiet (readJson : Bytes → Option Ptree) (s : Site) (e : SiteEvent) : Prop :=
  Faithful readJson s e ∧ ∀ se, e.leftEvent = some se → NoMessage s.1 se

/-- **A client has its builder to itself, alive.** While every command can be launched, the scripts
tell the truth and no message ends a wait for the close: no two deliveries, to whichever clients, are
of the same server; what is delivered was created; and its server exists as long as the client's
connection to the queue has not ended. -/
theorem client_builder_alive {readJson : Bytes → Option Ptree} {launches : List ErrorCode}
    (hls : ∀ l ∈ launches, l = none) {es : List SiteEvent} {s : Site} {tr : List SiteObs}
    (h : (siteMachine readJson launches).Run (Quiet readJson) es s tr) :
    ((deliveries (serverTrace tr)).map fun w => w.2.id).Nodup ∧
    ∀ c b, .written c b ∈ serverTrace tr → b ∈ (builderHistory (serverTrace tr)).created ∧
      (.ended c ∈ serverTrace tr ∨ b.id ∈ s.2.vms) := by
  have hfaithful := h.mono fun _ _ hg => hg.1
  have hn := site_distinct hls hfaithful
  have hserver := site_server (fun _ _ se hg hse => hg.2 se hse) h
  have hkept := server_kept hserver
  obtain ⟨hdel, hnodup⟩ := delivered_once hserver hn
  refine ⟨hnodup, fun c b hw => ⟨?_, ?_⟩⟩
  · rw [← hkept.created, Multiset.mem_add, Multiset.mem_add]
    rcases hdel c b (mem_deliveries.2 hw) with huse | hgone
    · exact Or.inl (Or.inr (mem_held.2 ⟨c, _, huse, rfl⟩))
    · exact Or.inr hgone
  · rcases (not_in_use hserver hn).1 c b hw with hend | huse
    · exact Or.inl hend
    · have hheld : b ∈ held s.1.connections := mem_held.2 ⟨c, _, huse, rfl⟩
      exact Or.inr (site_exists hls hfaithful (Multiset.mem_add.2 (Or.inr hheld)))

/-- Decides `Quiet`. -/
def quiet (readJson : Bytes → Option Ptree) (s : Site) (e : SiteEvent) : Bool :=
  faithful readJson s e &&
  match e.leftEvent with
  | some (.closeRead c _) => decide (c ∈ s.1.ended)
  | _ => true

theorem quiet_sound {readJson : Bytes → Option Ptree} {s : Site} {e : SiteEvent}
    (h : quiet readJson s e = true) : Quiet readJson s e := by
  rw [quiet, Bool.and_eq_true] at h
  refine ⟨faithful_sound h.1, ?_⟩
  rintro se hse c error rfl
  simpa [hse] using h.2

/-- The client of `clientEvents` has been given its builder, and another client leaves. -/
theorem client_builder_alive_run :
    ∃ s tr, (siteMachine readServers []).Run (Quiet readServers)
        (clientEvents ++ [.left .accept, .left (.connectionEnds 1)]) s tr ∧
      deliveries (serverTrace tr) = [(0, server "a")] ∧
      (.ended 0 ∈ serverTrace tr ∨ (server "a").id ∈ s.2.vms) :=
  have hrun := Machine.exec_run (M := siteMachine readServers []) (G := Quiet readServers)
    (g := quiet readServers) (fun _ _ h => quiet_sound h)
    (clientEvents ++ [.left .accept, .left (.connectionEnds 1)]) rfl
  ⟨_, _, hrun, rfl, ((client_builder_alive (by simp) hrun).2 0 (server "a")
    (mem_deliveries.1 (List.mem_singleton_self _))).2⟩

/-! ## What holds up what -/

/-- A request of the clients, not a completion or a timer. -/
theorem destruct_passes {s s' : Server} {c : ConnectionId} {conn : Connection}
    {out : List ServerObs} (h : s.finish c conn = some (s', out)) :
    ∀ pe ∈ events (poolTrace out), pe.outside = false := by
  unfold Server.finish at h
  split at h
  · unfold Server.destruct at h
    cases hb : conn.builder with
    | none =>
      rw [hb] at h
      cases h
      simp [poolTrace, events]
    | some b =>
      rw [hb] at h
      simp only [Option.map_eq_some_iff] at h
      obtain ⟨⟨s₁, out₁⟩, he, hs⟩ := h
      cases hs
      rw [poolTrace_append, events_append, events_step (enter_some he).1]
      simp [poolTrace, events, PoolEvent.outside]
  · cases h
    simp [poolTrace, events]

/-- What a connection passes to the queue is a checkout, a return or the run of its handler. -/
theorem connection_passes {s s' : Server} {e : ServerEvent} {out : List ServerObs}
    (hs : s.step e = some (s', out)) (hq : ∀ pe, e ≠ .queue pe) :
    ∀ pe ∈ events (poolTrace out), pe.outside = false := by
  have hent : ∀ {s₁ : Server} {pe : PoolEvent ConnectionId}, pe.outside = false →
      s₁.enter pe = some (s', out) → ∀ pe' ∈ events (poolTrace out), pe'.outside = false := by
    intro s₁ pe hpe h pe' hpe'
    rw [events_step (enter_some h).1, List.mem_singleton] at hpe'
    rw [hpe', hpe]
  cases e with
  | accept =>
    cases hs
    simp [poolTrace, events]
  | requestRead c error request launch =>
    obtain ⟨conn, hc, h⟩ := Option.bind_eq_some_iff.1 hs
    split at h
    · unfold Server.request at h
      split at h
      · exact hent rfl h
      · split at h
        · exact destruct_passes h
        · split at h <;> exact destruct_passes h
    · exact destruct_passes h
  | builderReady c b =>
    obtain ⟨conn, hc, h⟩ := Option.bind_eq_some_iff.1 hs
    exact hent rfl h
  | builderWritten c b error =>
    obtain ⟨conn, hc, h⟩ := Option.bind_eq_some_iff.1 hs
    cases error with
    | none =>
      cases h
      simp [poolTrace, events]
    | some v => exact destruct_passes h
  | closeRead c error =>
    simp only [Server.step] at hs
    split at hs
    · obtain ⟨conn, hc, h⟩ := Option.bind_eq_some_iff.1 hs
      exact destruct_passes h
    · cases hs
  | connectionEnds c =>
    simp only [Server.step] at hs
    split at hs <;> cases hs
    simp [poolTrace, events]
  | queue pe => exact absurd rfl (hq pe)
  | handshakeDone c error | statsWritten c | imageListRead c | imageListReady c
  | imageListWritten c =>
    obtain ⟨conn, hc, h⟩ := Option.bind_eq_some_iff.1 hs
    exact destruct_passes h

/-- The events of the fleet that are not the clients'. -/
def FleetEvent.outside : FleetEvent ConnectionId → Bool
  | .checkoutBuilder _ _ => false
  | .returnBuilder _ _ => false
  | .runHandler _ => false
  | _ => true

theorem poolEvent_outside {f : Fleet ConnectionId} {fe : FleetEvent ConnectionId}
    {pe : PoolEvent ConnectionId} (h : f.poolEvent fe = some pe) (hout : fe.outside = true) :
    pe.outside = true := by
  cases fe <;> simp only [Fleet.poolEvent, Option.some.injEq, Option.map_eq_some_iff, reduceCtorEq]
    at h
  case checkoutBuilder | returnBuilder | runHandler => cases hout
  case retryCreateReserveBuilders => subst h; rfl
  all_goals
    obtain ⟨r, -, rfl⟩ := h
    rfl

section
variable {readJson : Bytes → Option Ptree} {launches : List ErrorCode} {es : List SiteEvent}
  {s : Site} {tr : List SiteObs}

/-- A builder that a connection gives back is one that a handler was given. -/
theorem returned_held {G : Site → SiteEvent → Prop}
    (h : (siteMachine readJson launches).Run G es s tr) {se : ServerEvent} {t : Server}
    {out : List ServerObs} {b : BuilderData} (hs : s.1.step se = some (t, out))
    (hp : events (poolTrace out) = [.returnBuilder b]) : b ∈ s.2.held := by
  rw [← Multiset.mem_coe, site_held h]
  cases (server_routed (site_phases h) hs).1 with
  | apart _ ht _ _ => rw [ht] at hp; cases hp
  | queue pe rest hstep _ hh _ _ =>
    rw [events_step hstep, List.cons.injEq] at hp
    rw [hh, hp.1]
    exact Multiset.mem_add.2 (Or.inl (Multiset.mem_singleton_self b))

theorem siteReady_awake {e : SiteEvent} (hw : s.2.waiting = false) : siteReady s e = true := by
  simp [siteReady, hw]

/-- What the fleet can do, the thread has time for. -/
theorem fleet_awake {f : Fleet ConnectionId} {fe : FleetEvent ConnectionId}
    {r : Fleet ConnectionId × List (Action ConnectionId)} (hf : f.step readJson fe = some r) :
    (f.waiting && fe.handled) = false := by
  have hawake := (Fleet.step_eq_some.1 hf).1
  cases hw : f.waiting with
  | false => rfl
  | true => simp [hawake hw]

variable (launches) in
/-- A step of a connection, together with what the fleet has to do for it. -/
theorem site_step_both {se : ServerEvent} {fe : FleetEvent ConnectionId}
    {pe : PoolEvent ConnectionId} {r : Server × List ServerObs}
    {r' : Fleet ConnectionId × List (Action ConnectionId)} (hs : s.1.step se = some r)
    (hse : s.1.poolEvent se = some pe) (hf : s.2.step readJson fe = some r')
    (hfe : s.2.poolEvent fe = some pe) :
    ∃ r'', (siteMachine readJson launches).step s (.both se fe) = some r'' := by
  have hready : siteReady s (.both se fe) = true := by
    simp [siteReady, siteHandled, fleet_awake hf]
  exact ⟨_, site_step_iff.2 ⟨hready, .both se fe pe r.1 r'.1 r.2 r'.2 hse hfe hs hf⟩⟩

/-- The fleet takes what a connection passes to the queue. -/
theorem fleet_takes (hls : ∀ l ∈ launches, l = none)
    (h : (siteMachine readJson launches).Run SiteLaunches es s tr) (hw : s.2.waiting = false)
    {se : ServerEvent} {t : Server} {out : List ServerObs} {pe : PoolEvent ConnectionId}
    (hq : ∀ pe, se ≠ .queue pe) (hs : s.1.step se = some (t, out))
    (hp : s.1.pool.step pe = some (t.pool, poolTrace out)) :
    ∃ fe r, Launches s.2 fe ∧ s.2.step readJson fe = some r ∧ s.2.poolEvent fe = some pe := by
  have hev := events_step hp
  have hpass := connection_passes hs hq pe (by rw [hev]; exact List.mem_singleton_self _)
  have hstep : ∀ {fe r}, s.2.react readJson fe = some r → s.2.step readJson fe = some r :=
    fun hf => Fleet.step_eq_some.2 ⟨fun ht => absurd ht (by simp [hw]), hf⟩
  cases pe with
  | checkoutBuilder handler =>
    exact ⟨.checkoutBuilder handler [], _, by simp [Launches, FleetEvent.launches,
      FleetEvent.createLaunches], hstep rfl, rfl⟩
  | returnBuilder b =>
    have hb : b ∈ s.2.held := returned_held h hs hev
    exact ⟨.returnBuilder b none, _, by simp [Launches, FleetEvent.launches],
      hstep (by simp only [Fleet.react, hb, if_true]; rfl), rfl⟩
  | runHandler c b =>
    obtain ⟨p₁, hcons, -⟩ := pool_step_cases hp
    have hready : (c, b) ∈ s.1.pool.posted := (consume_eq_some.1 hcons).1
    obtain ⟨k, hk⟩ := List.mem_iff_getElem?.1 ((site_refines hls h).posted.mem_iff.1 hready)
    exact ⟨.runHandler k, _, by simp [Launches, FleetEvent.launches, FleetEvent.createLaunches],
      hstep (by simp only [Fleet.react, hk]; rfl), by simp [Fleet.poolEvent, hk]⟩
  | createDone _ _ _ | destroyDone _ _ _ | retryReturnBuilder _
  | retryCreateReserveBuilders => cases hpass

/-- **Only `process.wait` holds anything up.** In every state that the site reaches while every
command can be launched: unless a read handler waits for its process, whatever a connection can do by
itself the site can do; whatever can happen to the commands and the timers can happen in the site; and
while a handler waits, the exit of its process is possible and ends the wait, and no other handler
runs: connections end, and servers start and are deleted. -/
theorem site_unblocked (hls : ∀ l ∈ launches, l = none)
    (h : (siteMachine readJson launches).Run SiteLaunches es s tr) :
    (s.2.waiting = false → ∀ se r, (∀ pe, se ≠ .queue pe) → s.1.step se = some r →
      ∃ e r', e.leftEvent = some se ∧ SiteLaunches s e ∧
        (siteMachine readJson launches).step s e = some r') ∧
    (∀ fe r, fe.outside = true → Launches s.2 fe → s.2.step readJson fe = some r →
      ∃ e r', e.rightEvent = some fe ∧ (siteMachine readJson launches).step s e = some r') ∧
    (s.2.waiting = true →
      (siteMachine readJson launches).step s (.right .processExits) =
        some ((s.1, { s.2 with waiting := false }), []) ∧
      ∀ e r, (siteMachine readJson launches).step s e = some r → siteHandled e = false) := by
  have hrel := site_refines hls h
  have hph := site_phases h
  refine ⟨?_, ?_, fun hw => ⟨?_, ?_⟩⟩
  · rintro hw se ⟨t, out⟩ hq hs
    rcases server_pool_step hph hs with ⟨hnone, -⟩ | ⟨pe, hpe, hp⟩
    · refine ⟨.left se, _, rfl, fun fe hfe => ?_,
        site_step_iff.2 ⟨siteReady_awake hw, .left se t out hnone hs⟩⟩
      cases hfe
    · obtain ⟨fe, r', hl, hf, hfe⟩ := fleet_takes hls h hw hq hs hp
      obtain ⟨r'', hr''⟩ := site_step_both launches hs hpe hf hfe
      refine ⟨.both se fe, r'', rfl, fun fe' hfe' => ?_, hr''⟩
      cases hfe'
      exact hl
  · rintro fe ⟨f, out⟩ hout hl hs
    rcases hrel.step hl hs with ⟨hnone, -, -⟩ | ⟨pe, hpe, -, p', hp, -⟩
    · have hready : siteReady s (.right fe) = true := by
        simp [siteReady, siteHandled, fleet_awake hs]
      exact ⟨.right fe, _, rfl, site_step_iff.2 ⟨hready, .right fe f out hnone hs⟩⟩
    · have hqueue : s.1.step (.queue pe) =
          some ({ s.1 with pool := p' }, (.event pe :: out.map .action).map .pool) := by
        simp only [Server.step, poolEvent_outside hpe hout, if_true, Server.enter, hp]
      have hse : s.1.poolEvent (.queue pe) = some pe :=
        poolEvent_queue hqueue (by rw [poolTrace_map]; exact hp)
      obtain ⟨r'', hr''⟩ := site_step_both launches hqueue hse hs hpe
      exact ⟨.both (.queue pe) fe, r'', rfl, hr''⟩
  · have hexit : s.2.step readJson .processExits = some ({ s.2 with waiting := false }, []) :=
      Fleet.step_eq_some.2 ⟨fun _ => rfl, by simp only [Fleet.react, hw, if_true]⟩
    have hready : siteReady s (.right .processExits) = true := by simp [siteReady, siteHandled,
      FleetEvent.handled]
    exact site_step_iff.2 ⟨hready, .right FleetEvent.processExits _ [] rfl hexit⟩
  · rintro e ⟨s', out⟩ hs
    simpa [siteReady, hw] using (site_step_iff.1 hs).1

end

/-- Decides `SiteLaunches`. -/
def siteLaunches (e : SiteEvent) : Bool :=
  match e.rightEvent with
  | some fe => decide (∀ l ∈ fe.launches, l = none)
  | none => true

theorem siteLaunches_sound {s : Site} {e : SiteEvent} (h : siteLaunches e = true) :
    SiteLaunches s e := by
  intro fe hfe
  simpa [siteLaunches, hfe, Launches] using h

/-- While the script of the first server still runs nothing else does; and once the client of
`clientEvents` has its builder, its wait can end. -/
theorem site_unblocked_run :
    (∃ s tr, (siteMachine readServers []).Run SiteLaunches (clientEvents.take 2) s tr ∧
      ∀ e r, (siteMachine readServers []).step s e = some r → siteHandled e = false) ∧
    ∃ s tr, (siteMachine readServers []).Run SiteLaunches clientEvents s tr ∧
      ∃ e r, e.leftEvent = some (.closeRead 0 none) ∧ SiteLaunches s e ∧
        (siteMachine readServers []).step s e = some r :=
  have hwaits := Machine.exec_run (M := siteMachine readServers []) (G := SiteLaunches)
    (g := fun _ => siteLaunches) (fun _ _ h => siteLaunches_sound h) (clientEvents.take 2) rfl
  have hrun := Machine.exec_run (M := siteMachine readServers []) (G := SiteLaunches)
    (g := fun _ => siteLaunches) (fun _ _ h => siteLaunches_sound h) clientEvents rfl
  ⟨⟨_, _, hwaits, ((site_unblocked (by simp) hwaits).2.2 rfl).2⟩,
    _, _, hrun, (site_unblocked (by simp) hrun).1 rfl (.closeRead 0 none) _ (by simp) rfl⟩

/-! ## At rest -/

/-- **Nothing is left behind.** When the server has come to rest in a site whose commands can be
launched and whose scripts tell the truth, the servers that exist are exactly the ten of the builders
in reserve: every server that was ever started for a client has been deleted. -/
theorem site_rest {readJson : Bytes → Option Ptree} {launches : List ErrorCode}
    (hls : ∀ l ∈ launches, l = none) {es : List SiteEvent} {s : Site} {tr : List SiteObs}
    (h : (siteMachine readJson launches).Run (Faithful readJson) es s tr) (hi : s.1.Idle) :
    s.2.vms.Perm (ids s.2.queue.reserveBuilders) ∧ s.2.vms.length = maxReserveBuilderCount := by
  have hn := site_distinct hls h
  have hrel := site_refines hls (h.mono fun _ _ hg fe hfe => (hg fe hfe).1)
  have hvms := site_vmInv hls h
  have hnone : s.2.creates = [] ∧ s.2.createDones = [] := by
    have hout := hrel.creates.symm.trans hi.creates
    rw [Fleet.outstanding, Nat.add_eq_zero_iff] at hout
    exact ⟨List.length_eq_zero_iff.1 hout.1, List.length_eq_zero_iff.1 hout.2⟩
  have hactive : s.2.queue.activeBuilders = [] := hrel.queue ▸ hi.active
  have hreserve : (ids s.2.queue.reserveBuilders).Nodup := by
    rw [← (site_kept h).created, Multiset.map_add, Multiset.map_add, Multiset.map_add] at hn
    have hr := (Multiset.nodup_add.1 (Multiset.nodup_add.1 (Multiset.nodup_add.1 hn).1).1).1
    rw [← hrel.queue]
    exact Multiset.coe_nodup.1 hr
  have hperm : s.2.vms.Perm (ids s.2.queue.reserveBuilders) := by
    refine (List.perm_ext_iff_of_nodup hvms.nodup hreserve).2 fun v => ⟨fun hv => ?_, fun hv => ?_⟩
    · rcases hvms.accounted v hv with hr | hr | ⟨c, hc, -⟩ | ⟨b, hb, -⟩
      · exact hr
      · rw [hactive] at hr
        cases hr
      · rw [hnone.1] at hc
        cases hc
      · rw [hnone.2] at hb
        cases hb
    · obtain ⟨b, hb, rfl⟩ := List.mem_map.1 hv
      have hplace : b ∈ s.1.places.reserve := Multiset.mem_coe.2 (hrel.queue ▸ hb)
      exact site_exists hls h (Multiset.mem_add.2 (Or.inl (Multiset.mem_add.2 (Or.inl hplace))))
  refine ⟨hperm, ?_⟩
  rw [hperm.length_eq, ids, List.length_map, ← hrel.queue]
  exact hi.reserve

/-- The ids of ten servers. -/
def tenIds : List String := ["0", "1", "2", "3", "4", "5", "6", "7", "8", "9"]

/-- `read_json` for the texts of the ten servers. -/
def readTen (output : Bytes) : Option Ptree :=
  (tenIds.find? fun id => output = serverJson id).map serverTree

/-- The first command is carried out and its builder reaches the queue. -/
def fillEvents (id : String) : List SiteEvent :=
  [.right (.startVm 0 (ascii id)), .right (.createRead 0 (.eof (serverJson id)) 0),
    .right .processExits, .both (.queue (.createDone none (server id) false)) (.createDone 0 [])]

/-- The reserve is filled and no client comes. -/
theorem site_rest_run :
    ∃ s tr, (siteMachine readTen []).Run (Faithful readTen) (tenIds.flatMap fillEvents) s tr ∧
      s.2.vms.Perm (ids s.2.queue.reserveBuilders) ∧ s.2.vms.length = maxReserveBuilderCount :=
  have hrun := Machine.exec_run (M := siteMachine readTen []) (G := Faithful readTen)
    (g := faithful readTen) (fun _ _ h => faithful_sound h) (tenIds.flatMap fillEvents) rfl
  ⟨_, _, hrun, site_rest (by simp) hrun ⟨fun _ => rfl, rfl, rfl, rfl, rfl, rfl, rfl, rfl, rfl⟩⟩

end ContainerBuilder
