import ContainerBuilder.BuilderQueue.Places
import ContainerBuilder.BuilderQueue.Server
import ContainerBuilder.Lib.Tally

/-!
# Who has a builder

Every event of the server passes through the queue as at most one event of the pool (`Routed`), with
the builders in the connections as what the clients of the queue hold. So the server is a custody of
its builders, and what `Lib.Custody` says of runs of moves holds of it.

`Phase` lists the shapes of a live connection; it is what makes sure that a connection asks for a
builder once and that `builder_ready` never overwrites one.
-/

namespace ContainerBuilder

open Lib Lib.Custody

/-! ## What the queue sees of the server -/

/-- What the queue and its environment do in a trace. -/
def poolTrace (tr : List ServerObs) : List (PoolObs ConnectionId) :=
  tr.filterMap fun
    | .pool o => some o
    | _ => none

/-- What has happened to the builders. -/
def builderHistory (tr : List ServerObs) : History BuilderData := history (events (poolTrace tr))

@[simp] theorem poolTrace_append (tr us : List ServerObs) :
    poolTrace (tr ++ us) = poolTrace tr ++ poolTrace us := List.filterMap_append

@[simp] theorem poolTrace_map (tr : List (PoolObs ConnectionId)) :
    poolTrace (tr.map .pool) = tr := by
  simp [poolTrace, List.filterMap_map]

/-- The builders in the `builder` fields of the live connections. -/
def held (m : Connections) : Multiset BuilderData :=
  tally (fun _ conn => (conn.builder.toList : Multiset BuilderData)) m

/-- The connections that wait for the handler they gave to `checkout_builder`. -/
def checkouts (m : Connections) : Multiset ConnectionId :=
  tally (fun c conn => Multiset.replicate (conn.waits.count .checkout) c) m

theorem mem_held {m : Connections} {b : BuilderData} :
    b ∈ held m ↔ ∃ c conn, m.lookup c = some conn ∧ conn.builder = some b := by
  rw [held, mem_tally]
  simp only [Multiset.mem_coe, Option.mem_toList]

/-! ## The shapes of a connection -/

/-- The operations of `request_image_list`. -/
def Wait.image : Wait → Bool
  | .imageListRead => true
  | .imageListPosted => true
  | .writeImageList => true
  | _ => false

inductive Phase : Connection → Prop
  | accept : Phase ⟨none, [.accept]⟩
  | readRequest : Phase ⟨none, [.readRequest]⟩
  | checkout : Phase ⟨none, [.checkout]⟩
  | writeBuilder (b : BuilderData) : Phase ⟨some b, [.writeBuilder b]⟩
  | waitForClose (b : BuilderData) : Phase ⟨some b, [.waitForClose]⟩
  | writeStats : Phase ⟨none, [.writeStats]⟩
  | imageList (ws : List Wait) : (∀ w ∈ ws, w.image = true) → Phase ⟨none, ws⟩

/-- Every live connection has one of the shapes, and its number has been used. -/
def Phases (s : Server) : Prop :=
  ∀ c conn, s.connections.lookup c = some conn → Phase conn ∧ c < s.nextId

theorem resume_some {s : Server} {c : ConnectionId} {w : Wait} {conn : Connection}
    (h : s.resume c w = some conn) : ∃ old, s.connections.lookup c = some old ∧ w ∈ old.waits ∧
      conn = { old with waits := old.waits.erase w } := by
  unfold Server.resume at h
  split at h
  · rename_i old hl
    split at h
    · rename_i hw
      exact ⟨old, hl, hw, (Option.some.inj h).symm⟩
    · cases h
  · cases h

/-- A connection that waits for something other than an image list waits for nothing else. -/
theorem resume_alone {s : Server} (hph : Phases s) {c : ConnectionId} {w : Wait}
    {conn : Connection} (hw : w.image = false) (h : s.resume c w = some conn) :
    ∃ b, conn = ⟨b, []⟩ ∧ s.connections.lookup c = some ⟨b, [w]⟩ ∧ Phase ⟨b, [w]⟩ := by
  obtain ⟨old, hl, hmem, rfl⟩ := resume_some h
  have hp := (hph c old hl).1
  have hold : old.waits = [w] := by
    cases hp with
    | imageList ws hws => exact absurd (hws w hmem) (by simp [hw])
    | _ => simp only [List.mem_singleton] at hmem; rw [hmem]
  obtain ⟨b, ws⟩ := old
  subst hold
  exact ⟨b, by simp, hl, hp⟩

/-- A connection that waits for an image list holds no builder. -/
theorem resume_image {s : Server} (hph : Phases s) {c : ConnectionId} {w : Wait}
    {conn : Connection} (hw : w.image = true) (h : s.resume c w = some conn) :
    ∃ ws, s.connections.lookup c = some ⟨none, ws⟩ ∧ (∀ v ∈ ws, v.image = true) ∧
      conn = ⟨none, ws.erase w⟩ := by
  obtain ⟨old, hl, hmem, rfl⟩ := resume_some h
  have hp := (hph c old hl).1
  cases hp with
  | imageList ws hws => exact ⟨ws, hl, hws, rfl⟩
  | _ => simp only [List.mem_singleton] at hmem; subst hmem; cases hw

theorem count_checkout_of_image {ws : List Wait} (h : ∀ w ∈ ws, w.image = true) :
    ws.count .checkout = 0 :=
  List.count_eq_zero.2 fun hmem => absurd (h _ hmem) (by simp [Wait.image])

/-! ## One event of the server -/

/-- A step from `s` to `s'` either leaves the queue and all builders alone, or passes one event to
the queue, and the connections hold and wait for what that event says. -/
inductive Routed (s : Server) (again : Bool) (s' : Server) (out : List ServerObs) : Prop
  | apart : s'.pool = s.pool → poolTrace out = [] → held s'.connections = held s.connections →
      checkouts s'.connections = checkouts s.connections → Routed s again s' out
  | queue (e : PoolEvent ConnectionId) (h : Multiset BuilderData) :
      s.pool.step e = some (s'.pool, poolTrace out) → e.again = again →
      held s.connections = e.takes + h → held s'.connections = e.gives + h →
      checkouts s'.connections + e.runs = checkouts s.connections + e.brings → Routed s again s' out

theorem enter_some {s s' : Server} {e : PoolEvent ConnectionId} {out : List ServerObs}
    (h : s.enter e = some (s', out)) :
    s.pool.step e = some (s'.pool, poolTrace out) ∧ s'.connections = s.connections ∧
      s'.nextId = s.nextId ∧ s'.ended = s.ended ∧ out = (poolTrace out).map .pool := by
  unfold Server.enter at h
  split at h
  · rename_i p out' hp
    cases h
    simp [hp]
  · cases h

section entry
variable {s : Server} {m : Connections} {c : ConnectionId} {old : Connection}

theorem held_insert (conn : Connection) (hl : m.lookup c = some old) :
    held (m.insert c conn) + old.builder.toList = held m + conn.builder.toList :=
  tally_insert_of_lookup _ hl

theorem checkouts_insert (conn : Connection) (hl : m.lookup c = some old) :
    checkouts (m.insert c conn) + Multiset.replicate (old.waits.count .checkout) c =
      checkouts m + Multiset.replicate (conn.waits.count .checkout) c :=
  tally_insert_of_lookup _ hl

theorem phases_insert {conn : Connection} (hph : Phases s)
    (hl : s.connections.lookup c = some old) (hp : Phase conn) :
    Phases { s with connections := s.connections.insert c conn } := by
  intro c' conn' hc'
  by_cases h : c' = c
  · subst h
    rw [AList.lookup_insert] at hc'
    cases hc'
    exact ⟨hp, (hph _ _ hl).2⟩
  · rw [AList.lookup_insert_ne h] at hc'
    exact hph _ _ hc'

theorem phases_erase (hph : Phases s) (c : ConnectionId) (e : List ConnectionId) :
    Phases { s with connections := s.connections.erase c, ended := e } := by
  intro c' conn' hc'
  by_cases h : c' = c
  · subst h
    rw [AList.lookup_erase] at hc'
    cases hc'
  · rw [AList.lookup_erase_ne h] at hc'
    exact hph _ _ hc'

end entry

/-- A handler of `c` that neither takes nor leaves a builder and does not deal with the queue. -/
theorem finish_routed {s s' : Server} {c : ConnectionId} {old conn : Connection}
    {out : List ServerObs} (hph : Phases s) (hl : s.connections.lookup c = some old)
    (h : s.finish c conn = some (s', out)) (hb : conn.builder = old.builder)
    (hck : old.waits.count .checkout = 0) (hck' : conn.waits.count .checkout = 0)
    (hp : conn.waits ≠ [] → Phase conn) : Routed s false s' out ∧ Phases s' := by
  unfold Server.finish at h
  split at h
  · -- the last operation is over and the destructor runs
    have hheld := tally_of_lookup
      (fun _ conn => (conn.builder.toList : Multiset BuilderData)) hl
    have hwait := tally_of_lookup
      (fun c conn => Multiset.replicate (conn.waits.count Wait.checkout) c) hl
    rw [hck, Multiset.replicate_zero, zero_add] at hwait
    rw [hb] at h
    unfold Server.destruct at h
    cases hold : old.builder with
    | none =>
      rw [hold] at h hheld
      cases h
      refine ⟨.apart rfl rfl ?_ hwait.symm, phases_erase hph c _⟩
      rw [Option.toList_none, Multiset.coe_nil, zero_add] at hheld
      exact hheld.symm
    | some b =>
      rw [hold] at h hheld
      simp only [Option.map_eq_some_iff] at h
      obtain ⟨⟨s₁, out₁⟩, he, hs⟩ := h
      simp only [Prod.mk.injEq] at hs
      obtain ⟨rfl, rfl⟩ := hs
      obtain ⟨hpool, hc, hn, hend, -⟩ := enter_some he
      have hp' : Phases s₁ := by
        intro c' conn' hc'
        rw [hc] at hc'
        rw [hn]
        exact phases_erase hph c s.ended c' conn' hc'
      refine ⟨.queue (.returnBuilder b) (held s₁.connections) ?_ rfl ?_ (zero_add _).symm ?_, hp'⟩
      · rw [poolTrace_append]
        simpa [poolTrace] using hpool
      · rw [hc]
        exact hheld
      · rw [hc]
        exact congrArg (· + 0) hwait.symm
  · rename_i hne
    cases h
    refine ⟨.apart rfl rfl ?_ ?_, phases_insert hph hl (hp hne)⟩
    · have := held_insert conn hl
      rw [hb] at this
      exact add_right_cancel this
    · have := checkouts_insert conn hl
      rw [hck, hck', Multiset.replicate_zero, add_zero, add_zero] at this
      exact this

/-- The one operation of `c` is over, and nothing follows. -/
theorem close_routed {s s' : Server} {c : ConnectionId} {builder : Option BuilderData} {w : Wait}
    {out : List ServerObs} (hph : Phases s) (hl : s.connections.lookup c = some ⟨builder, [w]⟩)
    (hw : w ≠ .checkout) (h : s.finish c ⟨builder, []⟩ = some (s', out)) :
    Routed s false s' out ∧ Phases s' := by
  have hcount : [w].count .checkout = 0 :=
    List.count_eq_zero.2 fun hmem => hw (List.mem_singleton.1 hmem).symm
  exact finish_routed hph hl h rfl hcount rfl fun hne => absurd rfl hne

theorem outside_quiet {e : PoolEvent ConnectionId} (h : e.outside = true) :
    e.takes = 0 ∧ e.gives = 0 ∧ e.runs = 0 ∧ e.brings = 0 := by
  cases e <;> first | exact ⟨rfl, rfl, rfl, rfl⟩ | cases h

theorem enter_phases {s s' : Server} {e : PoolEvent ConnectionId} {out : List ServerObs}
    (hph : Phases s) (h : s.enter e = some (s', out)) : Phases s' := by
  obtain ⟨-, hc, hn, -⟩ := enter_some h
  intro c conn hl
  rw [hc] at hl
  rw [hn]
  exact hph c conn hl

/-- A connection that asks for an image list waits for nothing else. -/
theorem requestImageList_image (launch : ErrorCode) :
    ∃ ws, Connection.requestImageList launch ⟨none, []⟩ = ⟨none, ws⟩ ∧
      ∀ w ∈ ws, w.image = true := by
  cases launch with
  | none => exact ⟨[.imageListRead], rfl, by simp [Wait.image]⟩
  | some v => exact ⟨[.imageListRead, .imageListPosted], rfl, by simp [Wait.image]⟩

theorem request_routed {s s' : Server} {c : ConnectionId} {request : Bytes} {launch : ErrorCode}
    {out : List ServerObs} (hph : Phases s)
    (hl : s.connections.lookup c = some ⟨none, [.readRequest]⟩)
    (h : s.request c request launch ⟨none, []⟩ = some (s', out)) :
    Routed s false s' out ∧ Phases s' := by
  unfold Server.request at h
  split at h
  · have hins := phases_insert hph hl Phase.checkout
    have hheld := held_insert ⟨none, [.checkout]⟩ hl
    have hwait := checkouts_insert ⟨none, [.checkout]⟩ hl
    obtain ⟨hpool, hc, -⟩ := enter_some h
    refine ⟨.queue (.checkoutBuilder c) (held s.connections) hpool rfl (zero_add _).symm ?_ ?_,
      enter_phases hins h⟩
    · rw [hc]
      simpa [PoolEvent.gives, Connection.wait, add_singleton_eq_cons] using hheld
    · rw [hc]
      simpa [PoolEvent.runs, PoolEvent.brings, Connection.wait] using hwait
  · split at h
    · exact finish_routed hph hl h rfl (by simp) (by simp [Connection.wait]) fun _ => .writeStats
    · split at h
      · obtain ⟨ws, hws, himage⟩ := requestImageList_image launch
        rw [hws] at h
        exact finish_routed hph hl h rfl rfl (count_checkout_of_image himage)
          fun _ => .imageList ws himage
      · exact close_routed hph hl (by simp) h

theorem builderReady_routed {s s' : Server} {c : ConnectionId} {b : BuilderData}
    {out : List ServerObs} (hph : Phases s)
    (hl : s.connections.lookup c = some ⟨none, [.checkout]⟩)
    (h : s.builderReady c b ⟨none, []⟩ = some (s', out)) : Routed s false s' out ∧ Phases s' := by
  unfold Server.builderReady at h
  have hins := phases_insert hph hl (Phase.writeBuilder b)
  have hheld := held_insert ⟨some b, [.writeBuilder b]⟩ hl
  have hwait := checkouts_insert ⟨some b, [.writeBuilder b]⟩ hl
  obtain ⟨hpool, hc, -⟩ := enter_some h
  refine ⟨.queue (.runHandler c b) (held s.connections) hpool rfl (zero_add _).symm ?_ ?_,
    enter_phases hins h⟩
  · rw [hc]
    simpa [PoolEvent.gives, Connection.wait, add_singleton_eq_cons] using hheld
  · rw [hc]
    simpa [PoolEvent.runs, PoolEvent.brings, Connection.wait] using hwait

theorem builderWritten_routed {s s' : Server} {c : ConnectionId} {b : BuilderData}
    {error : ErrorCode} {out : List ServerObs} (hph : Phases s)
    (hl : s.connections.lookup c = some ⟨some b, [.writeBuilder b]⟩)
    (h : s.builderWritten c b error ⟨some b, []⟩ = some (s', out)) :
    Routed s false s' out ∧ Phases s' := by
  cases error with
  | none =>
    cases h
    refine ⟨.apart rfl rfl ?_ ?_, phases_insert hph hl (.waitForClose b)⟩
    · have := held_insert ⟨some b, [.waitForClose]⟩ hl
      exact add_right_cancel this
    · have := checkouts_insert ⟨some b, [.waitForClose]⟩ hl
      simpa [Connection.wait] using this
  | some v => exact close_routed hph hl (by simp) h

/-- A connection that waits for an image list goes on with one operation less and some more. -/
theorem image_routed {s s' : Server} {c : ConnectionId} {w : Wait} {conn : Connection}
    {out : List ServerObs} (hph : Phases s) (hw : w.image = true) (more : List Wait)
    (hmore : ∀ v ∈ more, v.image = true) (hc : s.resume c w = some conn)
    (h : s.finish c ⟨conn.builder, more ++ conn.waits⟩ = some (s', out)) :
    Routed s false s' out ∧ Phases s' := by
  obtain ⟨ws, hl, hws, rfl⟩ := resume_image hph hw hc
  have hall : ∀ v ∈ more ++ ws.erase w, v.image = true := by
    intro v hv
    rcases List.mem_append.1 hv with hv | hv
    · exact hmore v hv
    · exact hws v (List.mem_of_mem_erase hv)
  exact finish_routed hph hl h rfl (count_checkout_of_image hws) (count_checkout_of_image hall)
    fun _ => .imageList _ hall

/-- **Every event** of the server is at most one event of the pool. -/
theorem server_routed {s s' : Server} {e : ServerEvent} {out : List ServerObs} (hph : Phases s)
    (hs : s.step e = some (s', out)) : Routed s e.again s' out ∧ Phases s' := by
  cases e with
  | accept =>
    cases hs
    have hnone : s.connections.lookup s.nextId = none := by
      cases hl : s.connections.lookup s.nextId with
      | none => rfl
      | some conn => exact absurd (hph _ _ hl).2 (Nat.lt_irrefl _)
    refine ⟨.apart rfl rfl ?_ ?_, ?_⟩
    · exact (tally_insert_of_none _ hnone).trans (zero_add _)
    · exact (tally_insert_of_none _ hnone).trans (zero_add _)
    · intro c conn hc
      by_cases h : c = s.nextId
      · subst h
        simp only [Server.accept, AList.lookup_insert, Option.some.injEq] at hc
        exact ⟨hc ▸ .accept, Nat.lt_succ_self _⟩
      · simp only [Server.accept, AList.lookup_insert_ne h] at hc
        exact ⟨(hph _ _ hc).1, Nat.lt_succ_of_lt (hph _ _ hc).2⟩
  | handshakeDone c error =>
    obtain ⟨conn, hc, h⟩ := Option.bind_eq_some_iff.1 hs
    obtain ⟨b, rfl, hl, hp⟩ := resume_alone hph rfl hc
    cases hp with
    | accept =>
      cases error with
      | none =>
        refine finish_routed hph hl h rfl (by simp) ?_ fun _ => .readRequest
        simp [Connection.started, Connection.wait]
      | some v => exact close_routed hph hl (by simp) h
    | imageList _ hi => exact absurd (hi _ (List.mem_singleton_self _)) (by simp [Wait.image])
  | requestRead c error request launch =>
    obtain ⟨conn, hc, h⟩ := Option.bind_eq_some_iff.1 hs
    obtain ⟨b, rfl, hl, hp⟩ := resume_alone hph rfl hc
    cases hp with
    | readRequest =>
      split at h
      · exact request_routed hph hl h
      · exact close_routed hph hl (by simp) h
    | imageList _ hi => exact absurd (hi _ (List.mem_singleton_self _)) (by simp [Wait.image])
  | builderReady c b =>
    obtain ⟨conn, hc, h⟩ := Option.bind_eq_some_iff.1 hs
    obtain ⟨b, rfl, hl, hp⟩ := resume_alone hph rfl hc
    cases hp with
    | checkout => exact builderReady_routed hph hl h
    | imageList _ hi => exact absurd (hi _ (List.mem_singleton_self _)) (by simp [Wait.image])
  | builderWritten c b error =>
    obtain ⟨conn, hc, h⟩ := Option.bind_eq_some_iff.1 hs
    obtain ⟨b, rfl, hl, hp⟩ := resume_alone hph rfl hc
    cases hp with
    | writeBuilder => exact builderWritten_routed hph hl h
    | imageList _ hi => exact absurd (hi _ (List.mem_singleton_self _)) (by simp [Wait.image])
  | closeRead c error =>
    simp only [Server.step] at hs
    split at hs
    · obtain ⟨conn, hc, h⟩ := Option.bind_eq_some_iff.1 hs
      obtain ⟨b, rfl, hl, hp⟩ := resume_alone hph rfl hc
      exact close_routed hph hl (by simp) h
    · cases hs
  | statsWritten c =>
    obtain ⟨conn, hc, h⟩ := Option.bind_eq_some_iff.1 hs
    obtain ⟨b, rfl, hl, hp⟩ := resume_alone hph rfl hc
    exact close_routed hph hl (by simp) h
  | imageListRead c =>
    obtain ⟨conn, hc, h⟩ := Option.bind_eq_some_iff.1 hs
    exact image_routed hph rfl [.imageListPosted] (by simp [Wait.image]) hc h
  | imageListReady c =>
    obtain ⟨conn, hc, h⟩ := Option.bind_eq_some_iff.1 hs
    exact image_routed hph rfl [.writeImageList] (by simp [Wait.image]) hc h
  | imageListWritten c =>
    obtain ⟨conn, hc, h⟩ := Option.bind_eq_some_iff.1 hs
    exact image_routed hph rfl [] (by simp) hc h
  | connectionEnds c =>
    simp only [Server.step] at hs
    split at hs <;> cases hs
    exact ⟨.apart rfl rfl rfl rfl, hph⟩
  | queue e =>
    simp only [Server.step] at hs
    split at hs
    · rename_i ho
      obtain ⟨hpool, hc, -⟩ := enter_some hs
      refine ⟨.queue e (held s.connections) hpool rfl ?_ ?_ ?_, enter_phases hph hs⟩
      · rw [(outside_quiet ho).1, zero_add]
      · rw [hc, (outside_quiet ho).2.1, zero_add]
      · rw [hc, (outside_quiet ho).2.2.1, (outside_quiet ho).2.2.2]
    · cases hs

/-! ## Runs of the server -/

/-- Every request of the queue completes once. -/
def RequestsOnce (_ : Server) (e : ServerEvent) : Prop := e.again = false

/-- **Projection**: a run of the server is a run of its pool. -/
theorem server_projects {G : Server → ServerEvent → Prop}
    {K : Pool ConnectionId → PoolEvent ConnectionId → Prop}
    (hG : ∀ s e p pe, G s e → pe.again = e.again → K p pe) {es : List ServerEvent} {s : Server}
    {tr : List ServerObs} (h : serverMachine.Run G es s tr) :
    Phases s ∧ (poolMachine ConnectionId).Run K (events (poolTrace tr)) s.pool (poolTrace tr) := by
  refine Machine.Run.inv (fun _ s tr => Phases s ∧
    (poolMachine ConnectionId).Run K (events (poolTrace tr)) s.pool (poolTrace tr)) ?_ ?_ h
  · refine ⟨fun c conn hl => ?_, ?_⟩
    · simp [serverMachine] at hl
    · have htr : poolTrace serverMachine.initOut = (poolMachine ConnectionId).initOut :=
        poolTrace_map _
      have hev : events (poolMachine ConnectionId).initOut = [] := events_actions _
      rw [htr, hev]
      exact .start
  · intro es s tr e s' out _ ih hg hs
    obtain ⟨hr, hph⟩ := server_routed ih.1 hs
    refine ⟨hph, ?_⟩
    rw [poolTrace_append, events_append]
    cases hr with
    | apart hp ht _ _ =>
      rw [ht, hp]
      simpa [events] using ih.2
    | queue pe h hstep hag _ _ _ =>
      rw [events_step hstep]
      exact ih.2.snoc (hG _ _ _ _ hg hag) hstep

def Server.places (s : Server) : Places BuilderData := s.pool.places (held s.connections)

section
variable {G : Server → ServerEvent → Prop} {es : List ServerEvent} {s : Server}
  {tr : List ServerObs}

theorem server_phases (h : serverMachine.Run G es s tr) : Phases s :=
  (server_projects (K := Machine.always) (fun _ _ _ _ _ _ => trivial) h).1

/-- **Every event** of the server is a move of its builders. -/
theorem server_move (h : serverMachine.Run G es s tr) {e : ServerEvent} {s' : Server}
    {out : List ServerObs} (hs : s.step e = some (s', out)) :
    ∃ l, Move BuilderData.id s.places l s'.places ∧ (e.again = false → l.once) ∧
      builderHistory (tr ++ out) = (builderHistory tr).add l ∧
      (s.pool.waiters = checkouts s.connections → s'.pool.waiters = checkouts s'.connections) := by
  obtain ⟨hph, hpool⟩ := server_projects (K := Machine.always) (fun _ _ _ _ _ _ => trivial) h
  cases (server_routed hph hs).1 with
  | apart hp ht hh hc =>
    refine ⟨.stay, ?_, fun _ => trivial, ?_, fun hw => by rw [hp, hc, hw]⟩
    · rw [Server.places, Server.places, hp, hh]
      exact .stay _
    · rw [builderHistory, poolTrace_append, ht, List.append_nil]
      rfl
  | queue pe held hstep hag hh hh' hc =>
    obtain ⟨l, hm⟩ := pool_moves (pool_idle hpool) hstep held
    refine ⟨l, ?_, fun ha => hm.once (hag.trans ha), ?_, fun hw => ?_⟩
    · rw [Server.places, Server.places, hh, hh']
      exact hm.move
    · rw [builderHistory, poolTrace_append, events_append, events_step hstep, history_snoc,
        builderHistory, hm.record]
    · have hw' := hm.waiters
      rw [hw, ← hc] at hw'
      exact add_right_cancel hw'

/-- Until it is given back every builder is accounted for, however requests complete. -/
theorem server_kept (h : serverMachine.Run G es s tr) : Kept (builderHistory tr) s.places := by
  refine Machine.Run.inv (fun _ s tr => Kept (builderHistory tr) s.places) ?_ ?_ h
  · exact kept_start
  · intro es s tr e s' out hr ih _ hs
    obtain ⟨l, hm, -, hh, -⟩ := server_move hr hs
    rw [hh]
    exact ih.move hm

/-- After it is given back too, if ids are distinct and every request completes once. -/
theorem server_settled (h : serverMachine.Run RequestsOnce es s tr) :
    ((builderHistory tr).created.map BuilderData.id).Nodup →
      Settled (builderHistory tr) s.places := by
  refine Machine.Run.inv (fun _ s tr => ((builderHistory tr).created.map BuilderData.id).Nodup →
    Settled (builderHistory tr) s.places) ?_ ?_ h
  · exact fun _ => settled_start
  · intro es s tr e s' out hr ih ha hs hn
    obtain ⟨l, hm, hl, hh, -⟩ := server_move hr hs
    rw [hh] at hn ⊢
    have hn₀ := Multiset.nodup_of_le (Multiset.map_le_map (History.created_le_add _ l)) hn
    exact (ih hn₀).move hn₀ (hl ha) hm

end

/-- **Ownership.** When every request completes once and the ids of the builders created are
distinct: no builder is active twice or active and in reserve; the active builders are exactly
those bound into a posted handler, those in a connection, those whose destroy request is in flight
and those with a pending retry timer; each is in the hands of one connection at most, now and over
the whole run; and whatever happens next takes every builder forward, if at all. -/
theorem active_builders_owned {es : List ServerEvent} {s : Server} {tr : List ServerObs}
    (h : serverMachine.Run RequestsOnce es s tr)
    (hn : ((builderHistory tr).created.map BuilderData.id).Nodup) :
    (ids s.pool.queue.activeBuilders).Nodup ∧
    (∀ b ∈ s.pool.queue.activeBuilders, ∀ r ∈ s.pool.queue.reserveBuilders, b.id ≠ r.id) ∧
    (s.pool.queue.activeBuilders : Multiset BuilderData) =
      s.pool.posted.map Prod.snd + held s.connections + s.pool.destroys + s.pool.returnTimers ∧
    (∀ b ∈ held s.connections,
      ∃! c, ∃ conn, s.connections.lookup c = some conn ∧ conn.builder = some b) ∧
    ((builderHistory tr).bound.map BuilderData.id).Nodup ∧
    (∀ e s' out, e.again = false → s.step e = some (s', out) →
      ((builderHistory (tr ++ out)).created.map BuilderData.id).Nodup →
      ∀ b, Forward (stage (builderHistory tr) s.places b)
        (stage (builderHistory (tr ++ out)) s'.places b)) := by
  have hs := server_settled h hn
  have hcensus := hn
  rw [← hs.census, Multiset.map_add, Multiset.map_add] at hcensus
  have hra := (Multiset.nodup_add.1 (Multiset.nodup_add.1 hcensus).1)
  have hbound := hs.bound_nodup hn
  have hheld : (held s.connections).Nodup := by
    have hb := Multiset.Nodup.of_map _ hbound
    rw [← hs.bound] at hb
    exact (Multiset.nodup_add.1 hb).1
  refine ⟨hra.2.1, ?_, hs.active.symm, ?_, hbound, ?_⟩
  · intro b hb r hr hid
    have hr' : r.id ∈ Multiset.map BuilderData.id s.places.reserve :=
      Multiset.mem_map_of_mem _ (Multiset.mem_coe.2 hr)
    have hb' : r.id ∈ Multiset.map BuilderData.id s.places.active :=
      hid ▸ Multiset.mem_map_of_mem _ (Multiset.mem_coe.2 hb)
    exact Multiset.disjoint_left.1 hra.2.2 hr' hb'
  · intro b hb
    obtain ⟨c, conn, hl, hcb⟩ := mem_held.1 hb
    refine ⟨c, ⟨conn, hl, hcb⟩, fun c' hc' => ?_⟩
    obtain ⟨conn', hl', hcb'⟩ := hc'
    exact tally_unique (x := b) hheld hl' hl (by simp [hcb']) (by simp [hcb])
  · intro e s' out ha hstep hn' b
    obtain ⟨l, hm, hl, hh, -⟩ := server_move h hstep
    rw [hh] at hn' ⊢
    exact hs.forward hn' (hl ha) hm b

/-- Two clients: the builder of the first is being destroyed again after a failure, the second
holds its own. -/
theorem active_builders_owned_run :
    ∃ s tr, serverMachine.Run RequestsOnce
        [.queue (.createDone none ⟨[1], [], [1]⟩ false), .accept, .handshakeDone 0 none,
          .requestRead 0 none (ascii "checkout_builder_request") none,
          .builderReady 0 ⟨[1], [], [1]⟩, .builderWritten 0 ⟨[1], [], [1]⟩ (some 32),
          .accept, .handshakeDone 1 none,
          .requestRead 1 none (ascii "checkout_builder_request") none,
          .queue (.destroyDone ⟨[1], [], [1]⟩ (some 5) false),
          .queue (.createDone none ⟨[2], [], [2]⟩ false), .queue (.retryReturnBuilder ⟨[1], [], [1]⟩),
          .builderReady 1 ⟨[2], [], [2]⟩] s tr ∧
      (s.pool.queue.activeBuilders : Multiset BuilderData) =
        s.pool.posted.map Prod.snd + held s.connections + s.pool.destroys + s.pool.returnTimers ∧
      held s.connections = {⟨[2], [], [2]⟩} ∧ s.pool.destroys = [⟨[1], [], [1]⟩] :=
  have hrun := Machine.exec_run (M := serverMachine) (G := RequestsOnce)
    (g := fun _ e => !e.again) (fun _ e h => by simpa [RequestsOnce] using h)
    [.queue (.createDone none ⟨[1], [], [1]⟩ false), .accept, .handshakeDone 0 none,
      .requestRead 0 none (ascii "checkout_builder_request") none,
      .builderReady 0 ⟨[1], [], [1]⟩, .builderWritten 0 ⟨[1], [], [1]⟩ (some 32),
      .accept, .handshakeDone 1 none,
      .requestRead 1 none (ascii "checkout_builder_request") none,
      .queue (.destroyDone ⟨[1], [], [1]⟩ (some 5) false),
      .queue (.createDone none ⟨[2], [], [2]⟩ false), .queue (.retryReturnBuilder ⟨[1], [], [1]⟩),
      .builderReady 1 ⟨[2], [], [2]⟩] rfl
  ⟨_, _, hrun, (active_builders_owned hrun (by decide)).2.2.1, rfl, rfl⟩

end ContainerBuilder
