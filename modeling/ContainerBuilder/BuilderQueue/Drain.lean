import ContainerBuilder.BuilderQueue.Capacity
import ContainerBuilder.BuilderQueue.Ownership
import ContainerBuilder.Lib.Potential

/-!
# The server comes to rest

Each client and each failure causes a bounded amount of work: requests to OpenStack, retries, reads and
writes. `Wait.work` and `Pool.work` price what is outstanding so that every event pays for what it starts:
a builder that is missing in the reserve costs two (its request, and its completion), and what a client
may still cause is charged when it is accepted. Once no client comes and nothing fails any more the
server runs out of work, and it can only stop when it is idle: no connections, no builder active, the
reserve full.
-/

namespace ContainerBuilder

open Lib Lib.Custody

/-! ## The price of what is outstanding -/

def Wait.work : Wait → Nat
  | .accept => 8
  | .readRequest => 7
  | .checkout => 3
  | .writeBuilder _ => 3
  | .waitForClose => 2
  | .writeStats => 1
  | .imageListRead => 3
  | .imageListPosted => 2
  | .writeImageList => 1

def Connection.work (conn : Connection) : Nat := (conn.waits.map Wait.work).sum

section
variable {H : Type}

/-- `creates` requests are in flight. -/
def BuilderQueue.work (q : BuilderQueue H) (creates : Nat) : Nat :=
  2 * (maxReserveBuilderCount - (q.reserveBuilders.length + creates)) + creates +
    3 * q.pendingHandlers.length

def Pool.work (p : Pool H) : Nat :=
  p.queue.work p.creates + p.createTimers + p.destroys.length + 2 * p.returnTimers.length +
    p.posted.length

/-- What an event does for what is outstanding. -/
def PoolEvent.spends : PoolEvent H → Nat
  | .checkoutBuilder _ => 0
  | .returnBuilder _ => 0
  | .createDone (some _) _ _ => 0
  | .destroyDone _ (some _) _ => 0
  | _ => 1

/-- What it adds: a client wants a builder or gives one back, a request has failed. -/
def PoolEvent.adds : PoolEvent H → Nat
  | .checkoutBuilder _ => 3
  | .returnBuilder _ => 1
  | .createDone (some _) _ _ => 2
  | .destroyDone _ (some _) _ => 1
  | _ => 0

/-! ## The pool -/

/-- A request costs less than the gap it fills. -/
theorem createReserveBuilders_work {q : BuilderQueue H} {creates : Nat} (h : Ledger q creates) :
    (createReserveBuilders q).queue.work (creates + q.launched) ≤ q.work creates := by
  have := h.launched_eq
  simp only [BuilderQueue.work, createReserveBuilders_reserveBuilders,
    createReserveBuilders_pendingHandlers]
  omega

/-- The work that the actions of a callback leave. -/
def Out.work (o : Out H) (creates : Nat) : Nat :=
  o.queue.work (creates + requests o.actions) + createTimers o.actions +
    (destroyed o.actions).length + 2 * (returnTimers o.actions).length + (posted o.actions).length

theorem createReserveBuilders_out_work {q : BuilderQueue H} {creates : Nat} (h : Ledger q creates) :
    (createReserveBuilders q).work creates ≤ q.work creates := by
  simp only [Out.work, requests_createReserveBuilders, createTimers_createReserveBuilders,
    destroyed_createReserveBuilders, returnTimers_createReserveBuilders,
    posted_createReserveBuilders, List.length_nil]
  exact createReserveBuilders_work h

theorem handOver_out_work (handler : H) (builder : BuilderData) {q : BuilderQueue H} {creates : Nat}
    (h : Ledger q creates) : (handOver handler builder q).work creates ≤ q.work creates + 1 := by
  have hw := createReserveBuilders_out_work h
  have hct : createTimers (handOver handler builder q).actions =
      createTimers (createReserveBuilders q).actions := by
    simp [handOver, createTimers]
  have hrq : requests (handOver handler builder q).actions =
      requests (createReserveBuilders q).actions := by
    simp [handOver, requests]
  simp only [Out.work, posted_handOver, destroyed_handOver, returnTimers_handOver,
    handOver_queue, hct, hrq, destroyed_createReserveBuilders, returnTimers_createReserveBuilders,
    posted_createReserveBuilders, List.length_singleton, List.length_nil] at hw ⊢
  omega

/-- What a callback may add. -/
def Callback.costs : Callback H → Nat
  | .checkoutBuilder _ => 3
  | .returnBuilder _ => 1
  | .createDone none _ => 0
  | .createDone (some _) _ => 3
  | .destroyDone _ none => 0
  | .destroyDone _ (some _) => 2
  | .retryReturnBuilder _ => 1
  | .retryCreateReserveBuilders => 0

/-- **One callback** adds no more work than it costs, and has completed a request if it is its
completion. -/
theorem run_work {q : BuilderQueue H} (hidle : q.pendingHandlers = [] ∨ q.reserveBuilders = [])
    {c : Callback H} {m n : Nat} (h : Ledger q n) (hn : m + c.completes = n) :
    (c.run q).work m + c.completes ≤ q.work n + c.costs := by
  have hres := h.reserve
  cases c with
  | checkoutBuilder handler =>
    simp only [Callback.completes, Nat.add_zero] at hn
    subst hn
    cases hr : q.reserveBuilders with
    | nil =>
      have hrun : checkoutBuilder handler q = _ := checkoutBuilder_wait hr
      simp only [Callback.run, hrun, Out.work, BuilderQueue.work, requests, createTimers, destroyed,
        returnTimers, Callback.costs, Callback.completes, posted_nil, List.length_append,
        List.length_singleton, List.filterMap_nil, List.countP_nil, List.length_nil]
      omega
    | cons builder builders =>
      have hp := hidle.resolve_right (by simp [hr])
      have hlen : q.reserveBuilders.length = builders.length + 1 := by rw [hr]; rfl
      have htotal := h.total
      have hl : Ledger (q.handOut builder [] builders) m := by
        refine ⟨h.count, ?_, ?_⟩
        · simp only [BuilderQueue.handOut]; omega
        · simp only [BuilderQueue.handOut, List.length_append, List.length_singleton]; omega
      have hw := handOver_out_work handler builder hl
      simp only [Callback.run, checkoutBuilder_serve hp hr, Callback.costs, Callback.completes]
      simp only [BuilderQueue.work, BuilderQueue.handOut, hp, List.length_nil] at hw ⊢
      omega
  | returnBuilder builder =>
    simp only [Callback.completes, Nat.add_zero] at hn
    subst hn
    simp [Callback.run, returnBuilder, Out.work, requests, createTimers, destroyed, returnTimers,
      posted, Callback.costs, Callback.completes]
  | createDone error builder =>
    simp only [Callback.completes] at hn
    subst hn
    have hcount := h.count
    have htotal := h.total
    cases error with
    | some v =>
      simp only [Callback.run, createDone_error, Out.work, BuilderQueue.work, requests,
        createTimers, destroyed, returnTimers, posted, Callback.costs, Callback.completes,
        List.countP_cons, List.filterMap_cons, List.countP_nil, List.filterMap_nil,
        List.length_nil, if_true]
      simp
      omega
    | none =>
      cases hp : q.pendingHandlers with
      | nil =>
        simp only [Callback.run, createDone_wait hp, Out.work, BuilderQueue.work, requests,
          createTimers, destroyed, returnTimers, Callback.costs, Callback.completes, posted_nil,
          List.length_append, List.length_singleton, List.filterMap_nil, List.countP_nil,
          List.length_nil, hp]
        omega
      | cons handler handlers =>
        have hr := hidle.resolve_left (by simp [hp])
        have hlen : q.reserveBuilders.length = 0 := by rw [hr]; rfl
        have hl : Ledger { q.handOut builder handlers [] with
            outstandingCreateCount := q.outstandingCreateCount - 1 } m := by
          refine ⟨?_, ?_, ?_⟩
          · show q.outstandingCreateCount - 1 = (m : Int)
            omega
          · simp only [BuilderQueue.handOut, List.length_nil]; omega
          · simp only [BuilderQueue.handOut, List.length_nil, List.length_append,
              List.length_singleton]
            omega
        have hw := handOver_out_work handler builder hl
        simp only [Callback.run, createDone_serve hp hr, Callback.costs, Callback.completes]
        simp only [BuilderQueue.work, BuilderQueue.handOut, hp, hr, List.length_nil,
          List.length_cons] at hw ⊢
        omega
  | destroyDone builder error =>
    simp only [Callback.completes, Nat.add_zero] at hn
    subst hn
    cases error with
    | some v =>
      simp [Callback.run, destroyDone, Out.work, requests, createTimers, destroyed, returnTimers,
        posted, Callback.costs, Callback.completes]
    | none =>
      have hlen := length_removeBuilder_le builder q.activeBuilders
      have hl : Ledger { q with activeBuilders := removeBuilder builder q.activeBuilders } m := by
        obtain ⟨h1, h2, h3⟩ := h
        exact ⟨h1, h2, by simp only; omega⟩
      have hw := createReserveBuilders_out_work hl
      simpa [Callback.run, destroyDone, BuilderQueue.work, Callback.costs, Callback.completes]
        using hw
  | retryReturnBuilder builder =>
    simp only [Callback.completes, Nat.add_zero] at hn
    subst hn
    simp [Callback.run, retryReturnBuilder, returnBuilder, Out.work, requests, createTimers,
      destroyed, returnTimers, posted, Callback.costs, Callback.completes]
  | retryCreateReserveBuilders =>
    simp only [Callback.completes, Nat.add_zero] at hn
    subst hn
    have hw := createReserveBuilders_out_work h
    simpa [Callback.run, retryCreateReserveBuilders, Callback.costs, Callback.completes] using hw

/-- What is outstanding after a callback, when `p` is what is left of the pool. -/
theorem enter_work (p : Pool H) (o : Out H) : (p.enter o).work =
    o.work p.creates + p.createTimers + p.destroys.length + 2 * p.returnTimers.length +
      p.posted.length := by
  simp only [Pool.work, Pool.enter, Out.work, List.length_append]
  omega

/-- **One event of the pool**, when its request completes once. -/
theorem pool_work_step [DecidableEq H] {p p' : Pool H} {e : PoolEvent H} {out : List (PoolObs H)}
    (hidle : p.queue.pendingHandlers = [] ∨ p.queue.reserveBuilders = [])
    (h : Ledger p.queue p.creates) (ha : e.again = false) (hs : p.step e = some (p', out)) :
    p'.work + e.spends ≤ p.work + e.adds := by
  obtain ⟨p₁, hp, hrun⟩ := pool_step_cases hs
  have hq := consume_queue hp
  obtain ⟨hready, rfl⟩ := consume_eq_some.1 hp
  rcases hrun with ⟨c, hc, rfl, -⟩ | ⟨hc, rfl, -⟩
  · have hw := run_work hidle h (consume_creates hc ha hp)
    rw [enter_work]
    simp only [Pool.work]
    cases e with
    | checkoutBuilder handler =>
      cases hc
      simp only [Callback.completes, Callback.costs, PoolEvent.spends, PoolEvent.adds,
        Pool.without] at hw ⊢
      omega
    | returnBuilder builder =>
      cases hc
      simp only [Callback.completes, Callback.costs, PoolEvent.spends, PoolEvent.adds,
        Pool.without] at hw ⊢
      omega
    | createDone error builder again =>
      cases hc
      cases ha
      cases error <;>
        simp only [Callback.completes, Callback.costs, PoolEvent.spends, PoolEvent.adds,
          Pool.without] at hw ⊢ <;>
        omega
    | destroyDone builder error again =>
      cases hc
      cases ha
      have hlen := List.length_erase_of_mem hready
      have hpos := List.length_pos_of_mem hready
      cases error <;>
        simp only [Callback.completes, Callback.costs, PoolEvent.spends, PoolEvent.adds,
          Pool.without, Bool.false_eq_true, if_false] at hw hlen ⊢ <;>
        omega
    | retryReturnBuilder builder =>
      cases hc
      have hlen := List.length_erase_of_mem hready
      have hpos := List.length_pos_of_mem hready
      simp only [Callback.completes, Callback.costs, PoolEvent.spends, PoolEvent.adds,
        Pool.without] at hw hlen ⊢
      omega
    | retryCreateReserveBuilders =>
      cases hc
      simp only [Callback.completes, Callback.costs, PoolEvent.spends, PoolEvent.adds,
        Pool.without, Pool.Ready] at hw hready ⊢
      omega
    | runHandler handler builder => cases hc
  · cases e with
    | runHandler handler builder =>
      have hlen := List.length_erase_of_mem hready
      have hpos := List.length_pos_of_mem hready
      simp only [Pool.work, PoolEvent.spends, PoolEvent.adds, Pool.without] at hlen ⊢
      omega
    | _ => cases hc

end

/-! ## The server -/

def Server.work (s : Server) : Nat :=
  s.pool.work + tally (fun _ conn => Connection.work conn) s.connections

/-- A client is charged when it is accepted; that a connection ends costs nothing. -/
def ServerEvent.adds : ServerEvent → Nat
  | .accept => 8
  | .queue e => e.adds
  | _ => 0

def ServerEvent.spends : ServerEvent → Nat
  | .accept => 0
  | .connectionEnds _ => 0
  | .queue e => e.spends
  | _ => 1

section
variable {s s' : Server} {c : ConnectionId} {old conn : Connection} {out : List ServerObs}

theorem returnBuilder_work (p : Pool ConnectionId) (b : BuilderData) :
    (p.enter (returnBuilder b p.queue)).work = p.work + 1 := by
  rw [enter_work]
  simp only [Pool.work, Out.work, returnBuilder, requests, createTimers, destroyed, returnTimers,
    posted, List.countP_cons, List.filterMap_cons, List.countP_nil, List.filterMap_nil,
    List.length_singleton, List.length_nil]
  simp
  omega

theorem work_insert {m : Connections} (conn : Connection) (hl : m.lookup c = some old) :
    tally (fun _ conn => Connection.work conn) (m.insert c conn) + old.work =
      tally (fun _ conn => Connection.work conn) m + conn.work :=
  tally_insert_of_lookup _ hl

/-- A handler returns: the connection goes on, or gives its builder back. -/
theorem finish_work (hl : s.connections.lookup c = some old)
    (h : s.finish c conn = some (s', out)) :
    s'.work + old.work ≤ s.work + conn.work + conn.builder.toList.length := by
  have hold := tally_of_lookup (fun _ conn => Connection.work conn) hl
  unfold Server.finish at h
  split at h
  · unfold Server.destruct at h
    cases hb : conn.builder with
    | none =>
      rw [hb] at h
      cases h
      simp only [Server.work, Option.toList_none, List.length_nil]
      omega
    | some b =>
      rw [hb] at h
      simp only [Option.map_eq_some_iff] at h
      obtain ⟨⟨s₁, out₁⟩, he, hs⟩ := h
      cases hs
      obtain ⟨hpool, hc, -⟩ := enter_some he
      have hp : s₁.pool = s.pool.enter (returnBuilder b s.pool.queue) :=
        (congrArg Prod.fst (Option.some.inj hpool)).symm
      have hw := returnBuilder_work s.pool b
      simp only [Server.work, hp, hc, Option.toList_some, List.length_singleton]
      omega
  · cases h
    have hnew := work_insert conn hl
    simp only [Server.work]
    omega

/-- The one operation of a connection is over, and what follows costs less. -/
theorem alone_work {b : Option BuilderData} {w : Wait} (hl : s.connections.lookup c = some ⟨b, [w]⟩)
    (h : s.finish c conn = some (s', out))
    (hle : conn.work + conn.builder.toList.length + 1 ≤ w.work) : s'.work + 1 ≤ s.work := by
  have hw := finish_work hl h
  simp only [Connection.work, List.map_cons, List.map_nil, List.sum_cons, List.sum_nil] at hw hle
  omega

theorem image_work {w : Wait} {ws : List Wait} (more : List Wait)
    (hl : s.connections.lookup c = some ⟨none, ws⟩)
    (hw : w ∈ ws) (h : s.finish c ⟨none, more ++ ws.erase w⟩ = some (s', out))
    (hle : (more.map Wait.work).sum + 1 ≤ w.work) : s'.work + 1 ≤ s.work := by
  have hfin := finish_work hl h
  have hsum := ((List.perm_cons_erase hw).map Wait.work).sum_eq
  simp only [Connection.work, List.map_append, List.sum_append, List.map_cons, List.sum_cons,
    Option.toList_none, List.length_nil] at hfin hsum
  omega

/-- The queue reacts to what the connection `c` does. -/
theorem connection_enter_work {pe : PoolEvent ConnectionId}
    (hidle : s.pool.queue.pendingHandlers = [] ∨ s.pool.queue.reserveBuilders = [])
    (hledger : Ledger s.pool.queue s.pool.creates) (ha : pe.again = false)
    (hl : s.connections.lookup c = some old)
    (h : ({ s with connections := s.connections.insert c conn } : Server).enter pe =
      some (s', out)) :
    s'.work + old.work + pe.spends ≤ s.work + conn.work + pe.adds := by
  obtain ⟨hpool, hc, -⟩ := enter_some h
  have hw := pool_work_step hidle hledger ha hpool
  have hnew := work_insert conn hl
  simp only [Server.work, hc]
  omega

theorem request_work {request : Bytes} {launch : ErrorCode}
    (hidle : s.pool.queue.pendingHandlers = [] ∨ s.pool.queue.reserveBuilders = [])
    (hledger : Ledger s.pool.queue s.pool.creates)
    (hl : s.connections.lookup c = some ⟨none, [.readRequest]⟩)
    (h : s.request c request launch ⟨none, []⟩ = some (s', out)) : s'.work + 1 ≤ s.work := by
  unfold Server.request at h
  split at h
  · have hw := connection_enter_work hidle hledger rfl hl h
    simp only [Connection.work, Connection.wait, List.map_cons, List.map_nil, List.sum_cons,
      List.sum_nil, Wait.work, PoolEvent.spends, PoolEvent.adds] at hw
    omega
  · split at h
    · exact alone_work hl h (by simp [Connection.work, Connection.wait, Wait.work])
    · split at h
      · refine alone_work hl h ?_
        cases launch <;> simp [Connection.work, Connection.requestImageList, Connection.wait,
          Wait.work]
      · exact alone_work hl h (by simp [Connection.work, Wait.work])

end

/-- **Every event** of the server pays for what it starts. -/
theorem server_work_step {s s' : Server} {e : ServerEvent} {out : List ServerObs} (hph : Phases s)
    (hidle : s.pool.queue.pendingHandlers = [] ∨ s.pool.queue.reserveBuilders = [])
    (hledger : Ledger s.pool.queue s.pool.creates) (ha : e.again = false)
    (hs : s.step e = some (s', out)) : s'.work + e.spends ≤ s.work + e.adds := by
  cases e with
  | accept =>
    cases hs
    have hnone : s.connections.lookup s.nextId = none := by
      cases hl : s.connections.lookup s.nextId with
      | none => rfl
      | some conn => exact absurd (hph _ _ hl).2 (Nat.lt_irrefl _)
    have hnew := tally_insert_of_none (fun _ conn => Connection.work conn)
      (b := ⟨none, [.accept]⟩) hnone
    have hone : Connection.work ⟨none, [.accept]⟩ = 8 := rfl
    simp only [Server.work, Server.accept, hnew, hone, ServerEvent.spends, ServerEvent.adds]
    omega
  | handshakeDone c error =>
    show s'.work + 1 ≤ s.work
    obtain ⟨conn, hc, h⟩ := Option.bind_eq_some_iff.1 hs
    obtain ⟨b, rfl, hl, hp⟩ := resume_alone hph rfl hc
    cases hp with
    | accept =>
      refine alone_work hl h ?_
      cases error <;> simp [Connection.work, Connection.started, Connection.wait, Wait.work]
    | imageList _ hi => exact absurd (hi _ (List.mem_singleton_self _)) (by simp [Wait.image])
  | requestRead c error request launch =>
    show s'.work + 1 ≤ s.work
    obtain ⟨conn, hc, h⟩ := Option.bind_eq_some_iff.1 hs
    obtain ⟨b, rfl, hl, hp⟩ := resume_alone hph rfl hc
    cases hp with
    | readRequest =>
      split at h
      · exact request_work hidle hledger hl h
      · exact alone_work hl h (by simp [Connection.work, Wait.work])
    | imageList _ hi => exact absurd (hi _ (List.mem_singleton_self _)) (by simp [Wait.image])
  | builderReady c b =>
    show s'.work + 1 ≤ s.work
    obtain ⟨conn, hc, h⟩ := Option.bind_eq_some_iff.1 hs
    obtain ⟨b', rfl, hl, hp⟩ := resume_alone hph rfl hc
    have henter : ({ s with connections := s.connections.insert c ⟨some b, [.writeBuilder b]⟩ } :
        Server).enter (.runHandler c b) = some (s', out) := h
    have hw := connection_enter_work hidle hledger rfl hl henter
    simp only [Connection.work, List.map_cons, List.map_nil, List.sum_cons,
      List.sum_nil, Wait.work, PoolEvent.spends, PoolEvent.adds] at hw
    omega
  | builderWritten c b error =>
    show s'.work + 1 ≤ s.work
    obtain ⟨conn, hc, h⟩ := Option.bind_eq_some_iff.1 hs
    obtain ⟨b', rfl, hl, hp⟩ := resume_alone hph rfl hc
    cases error with
    | none =>
      cases h
      have hnew := work_insert (⟨b', [.waitForClose]⟩ : Connection) hl
      have hthree : Connection.work ⟨b', [.writeBuilder b]⟩ = 3 := rfl
      have htwo : Connection.work ⟨b', [.waitForClose]⟩ = 2 := rfl
      simp only [Server.work, Connection.wait]
      omega
    | some v =>
      refine alone_work hl h ?_
      cases b' <;> simp [Connection.work, Wait.work]
  | closeRead c error =>
    show s'.work + 1 ≤ s.work
    simp only [Server.step] at hs
    split at hs
    · obtain ⟨conn, hc, h⟩ := Option.bind_eq_some_iff.1 hs
      obtain ⟨b', rfl, hl, hp⟩ := resume_alone hph rfl hc
      refine alone_work hl h ?_
      cases b' <;> simp [Connection.work, Wait.work]
    · cases hs
  | statsWritten c =>
    show s'.work + 1 ≤ s.work
    obtain ⟨conn, hc, h⟩ := Option.bind_eq_some_iff.1 hs
    obtain ⟨b', rfl, hl, hp⟩ := resume_alone hph rfl hc
    cases hp with
    | writeStats => exact alone_work hl h (by simp [Connection.work, Wait.work])
    | imageList _ hi => exact absurd (hi _ (List.mem_singleton_self _)) (by simp [Wait.image])
  | imageListRead c =>
    show s'.work + 1 ≤ s.work
    obtain ⟨conn, hc, h⟩ := Option.bind_eq_some_iff.1 hs
    obtain ⟨old, hl, hw, rfl⟩ := resume_some hc
    obtain ⟨ws, hl', -, -⟩ := resume_image hph rfl hc
    rw [hl] at hl'
    cases hl'
    exact image_work [.imageListPosted] hl hw h (by simp [Wait.work])
  | imageListReady c =>
    show s'.work + 1 ≤ s.work
    obtain ⟨conn, hc, h⟩ := Option.bind_eq_some_iff.1 hs
    obtain ⟨old, hl, hw, rfl⟩ := resume_some hc
    obtain ⟨ws, hl', -, -⟩ := resume_image hph rfl hc
    rw [hl] at hl'
    cases hl'
    exact image_work [.writeImageList] hl hw h (by simp [Wait.work])
  | imageListWritten c =>
    show s'.work + 1 ≤ s.work
    obtain ⟨conn, hc, h⟩ := Option.bind_eq_some_iff.1 hs
    obtain ⟨old, hl, hw, rfl⟩ := resume_some hc
    obtain ⟨ws, hl', -, -⟩ := resume_image hph rfl hc
    rw [hl] at hl'
    cases hl'
    exact image_work [] hl hw h (by simp [Wait.work])
  | connectionEnds c =>
    simp only [Server.step] at hs
    split at hs <;> cases hs
    exact le_refl _
  | queue pe =>
    simp only [Server.step] at hs
    split at hs
    · obtain ⟨hpool, hc, -⟩ := enter_some hs
      have hw := pool_work_step hidle hledger ha hpool
      simp only [Server.work, hc, ServerEvent.spends, ServerEvent.adds]
      omega
    · cases hs

/-! ## A connection is there as long as it waits for something -/

section
variable {s s' : Server} {c : ConnectionId} {conn : Connection} {out : List ServerObs}

end

/-! ## When nothing is left to do -/

/-- No client, no builder in use, nothing outstanding, and the reserve is full. -/
structure Server.Idle (s : Server) : Prop where
  connections : ∀ c, s.connections.lookup c = none
  pending : s.pool.queue.pendingHandlers = []
  active : s.pool.queue.activeBuilders = []
  reserve : s.pool.queue.reserveBuilders.length = maxReserveBuilderCount
  creates : s.pool.creates = 0
  createTimers : s.pool.createTimers = 0
  destroys : s.pool.destroys = []
  returnTimers : s.pool.returnTimers = []
  posted : s.pool.posted = []

section
variable {s : Server} {c : ConnectionId} {conn : Connection}

end

section
variable {es : List ServerEvent} {s : Server} {tr : List ServerObs}

/-- The pool of a server whose requests complete once. -/
theorem server_pool (h : serverMachine.Run RequestsOnce es s tr) :
    (poolMachine ConnectionId).Run ExactlyOnce (events (poolTrace tr)) s.pool (poolTrace tr) :=
  (server_projects (K := ExactlyOnce) (fun _ _ _ _ hg ha => ha.trans hg) h).2

/-- The work of the server as a potential of its runs. -/
def serverPotential : serverMachine.Potential RequestsOnce where
  work := Server.work
  spends := ServerEvent.spends
  adds := ServerEvent.adds
  step := fun hr hg hs =>
    server_work_step (server_phases hr) (pool_idle (server_pool hr)) (pool_inv (server_pool hr)).ledger
      hg hs

end

/-- **Work is bounded by clients and failures.** When every request of the queue completes once, a
whole run has no more events than the ten requests of the start, eight for each client accepted, two
for each failed create and one for each failed destroy, not counting these themselves and the ends of
connections; so no interleaving of clients, completions and timers makes the server busy for ever. -/
theorem work_bounded {es : List ServerEvent} {s : Server} {tr : List ServerObs}
    (h : serverMachine.Run RequestsOnce es s tr) :
    s.work + (es.map ServerEvent.spends).sum ≤
      maxReserveBuilderCount + (es.map ServerEvent.adds).sum :=
  serverPotential.run h

/-- A client that is served and leaves, while one request fails. -/
theorem work_bounded_run :
    ∃ s tr, serverMachine.Run RequestsOnce
        [.accept, .handshakeDone 0 none,
          .requestRead 0 none (ascii "checkout_builder_request") none,
          .queue (.createDone (some 5) noBuilder false),
          .queue (.createDone none ⟨[1], [], [1]⟩ false), .builderReady 0 ⟨[1], [], [1]⟩,
          .builderWritten 0 ⟨[1], [], [1]⟩ none, .connectionEnds 0, .closeRead 0 (some 1)] s tr ∧
      s.work + 6 ≤ maxReserveBuilderCount + 10 :=
  have hrun := Machine.exec_run (M := serverMachine) (G := RequestsOnce)
    (g := fun _ e => !e.again) (fun _ e h => by simpa [RequestsOnce] using h)
    [.accept, .handshakeDone 0 none,
      .requestRead 0 none (ascii "checkout_builder_request") none,
      .queue (.createDone (some 5) noBuilder false),
      .queue (.createDone none ⟨[1], [], [1]⟩ false), .builderReady 0 ⟨[1], [], [1]⟩,
      .builderWritten 0 ⟨[1], [], [1]⟩ none, .connectionEnds 0, .closeRead 0 (some 1)] rfl
  ⟨_, _, hrun, work_bounded hrun⟩

end ContainerBuilder
