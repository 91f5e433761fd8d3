import ContainerBuilder.BuilderQueue.Pool
import ContainerBuilder.Lib.Custody

/-!
# Where the builders are

The pool seen as the custody of its builders: every event of the pool is one `Custody.Move`, where
`held` is what the clients of the queue have in their hands. The handlers are counted beside it.
-/

namespace ContainerBuilder

open Lib Lib.Custody

variable {H : Type}

def Pool.places (p : Pool H) (held : Multiset BuilderData) : Places BuilderData where
  reserve := p.queue.reserveBuilders
  active := p.queue.activeBuilders
  posted := p.posted.map Prod.snd
  held := held
  destroys := p.destroys
  timers := p.returnTimers

/-- The handlers that have not run yet. -/
def Pool.waiters (p : Pool H) : Multiset H := p.queue.pendingHandlers + p.posted.map Prod.fst

/-- What the clients of the queue lose. -/
def PoolEvent.takes : PoolEvent H → Multiset BuilderData
  | .returnBuilder builder => {builder}
  | _ => 0

/-- What the clients of the queue get. -/
def PoolEvent.gives : PoolEvent H → Multiset BuilderData
  | .runHandler _ builder => {builder}
  | _ => 0

/-- Handlers an event brings. -/
def PoolEvent.brings : PoolEvent H → Multiset H
  | .checkoutBuilder handler => {handler}
  | _ => 0

/-- Handlers an event runs. -/
def PoolEvent.runs : PoolEvent H → Multiset H
  | .runHandler handler _ => {handler}
  | _ => 0

/-- What an event adds to the history of the builders. -/
def PoolEvent.record : PoolEvent H → History BuilderData → History BuilderData
  | .createDone none builder _, h => { h with created := builder ::ₘ h.created }
  | .runHandler _ builder, h => { h with bound := builder ::ₘ h.bound }
  | .returnBuilder builder, h => { h with givenBack := builder ::ₘ h.givenBack }
  | .destroyDone builder none _, h => { h with gone := builder ::ₘ h.gone }
  | _, h => h

/-- The history of the builders after the events `es`. -/
def history (es : List (PoolEvent H)) : History BuilderData :=
  es.foldl (fun h e => e.record h) ⟨0, 0, 0, 0⟩

/-- The events of a trace. -/
def events (tr : List (PoolObs H)) : List (PoolEvent H) :=
  tr.filterMap fun
    | .event e => some e
    | .action _ => none

@[simp] theorem events_append (tr us : List (PoolObs H)) :
    events (tr ++ us) = events tr ++ events us := List.filterMap_append

theorem events_actions (as : List (Action H)) : events (as.map PoolObs.action) = [] := by
  simp [events]

theorem events_step [DecidableEq H] {p p' : Pool H} {e : PoolEvent H} {out : List (PoolObs H)}
    (h : p.step e = some (p', out)) : events out = [e] := by
  obtain ⟨p₁, -, ⟨c, -, -, rfl⟩ | ⟨-, -, rfl⟩⟩ := pool_step_cases h
  · exact congrArg (e :: ·) (events_actions _)
  · rfl

theorem history_snoc (es : List (PoolEvent H)) (e : PoolEvent H) :
    history (es ++ [e]) = e.record (history es) := by
  simp [history]

/-- What event `e` does: a move with the effect of `e`, and handlers come and go as `e` says. -/
structure Moves (p : Pool H) (e : PoolEvent H) (p' : Pool H) (held : Multiset BuilderData)
    (l : Label BuilderData) : Prop where
  move : Move BuilderData.id (p.places (e.takes + held)) l (p'.places (e.gives + held))
  record : ∀ h : History BuilderData, h.add l = e.record h
  once : e.again = false → l.once
  waiters : p'.waiters + e.runs = p.waiters + e.brings

section lists
variable {α : Type}

theorem add_singleton_eq_cons (s : Multiset α) (a : α) : s + {a} = a ::ₘ s := by
  rw [Multiset.add_comm, Multiset.singleton_add]

theorem coe_snoc (l : List α) (a : α) : ((l ++ [a] : List α) : Multiset α) = a ::ₘ l := by
  rw [← Multiset.coe_add, Multiset.coe_singleton, add_singleton_eq_cons]

theorem coe_erase [BEq α] [LawfulBEq α] {a : α} {l : List α} (h : a ∈ l) :
    (l : Multiset α) = a ::ₘ (l.erase a : List α) :=
  Multiset.coe_eq_coe.2 (List.perm_cons_erase h)

theorem coe_removeBuilder (b : BuilderData) (l : List BuilderData) :
    (removeBuilder b l : Multiset BuilderData) =
      Multiset.filter (fun x => x.id ≠ b.id) (l : Multiset BuilderData) := by
  rw [Multiset.filter_coe]
  congr 1
  refine List.filter_congr fun x _ => ?_
  simp only [sameBuilder, ne_eq, decide_not, Bool.beq_eq_decide_eq]

end lists

section enter
variable (p : Pool H)

theorem enter_places (o : Out H) (held : Multiset BuilderData) :
    (p.enter o).places held =
      { reserve := o.queue.reserveBuilders
        active := o.queue.activeBuilders
        posted := p.posted.map Prod.snd + (posted o.actions).map Prod.snd
        held := held
        destroys := p.destroys + destroyed o.actions
        timers := p.returnTimers + returnTimers o.actions } := by
  simp [Pool.places, Pool.enter]

theorem enter_waiters (o : Out H) :
    (p.enter o).waiters = o.queue.pendingHandlers + (p.posted.map Prod.fst : List H) +
      ((posted o.actions).map Prod.fst : List H) := by
  simp [Pool.waiters, Pool.enter]

end enter

section handOver
variable (handler : H) (builder : BuilderData) (q : BuilderQueue H)

@[simp] theorem handOver_queue :
    (handOver handler builder q).queue = (createReserveBuilders q).queue := rfl

@[simp] theorem posted_handOver :
    posted (handOver handler builder q).actions = [(handler, builder)] := by
  simp [handOver]

@[simp] theorem destroyed_handOver : destroyed (handOver handler builder q).actions = [] :=
  destroyed_createReserveBuilders q

@[simp] theorem returnTimers_handOver : returnTimers (handOver handler builder q).actions = [] :=
  returnTimers_createReserveBuilders q

end handOver

/-! ## One event -/

section
variable {p : Pool H} {held : Multiset BuilderData}

theorem checkoutBuilder_moves (handler : H)
    (hidle : p.queue.pendingHandlers = [] ∨ p.queue.reserveBuilders = []) :
    ∃ l, Moves p (.checkoutBuilder handler) (p.enter (checkoutBuilder handler p.queue)) held l := by
  cases hr : p.queue.reserveBuilders with
  | nil =>
    refine ⟨.stay, ?_, fun _ => rfl, fun _ => trivial, ?_⟩
    · rw [enter_places, checkoutBuilder_wait hr]
      have hm : Move BuilderData.id _ _ _ := .stay (p.places (0 + held))
      simpa [Pool.places, PoolEvent.takes, PoolEvent.gives, destroyed, returnTimers] using hm
    · rw [enter_waiters, checkoutBuilder_wait hr]
      simp only [posted_nil, List.map_nil, coe_snoc, Multiset.coe_nil, Multiset.add_zero,
        PoolEvent.runs, PoolEvent.brings, Pool.waiters, Multiset.cons_add, add_singleton_eq_cons]
  | cons builder builders =>
    have hp := hidle.resolve_right (by simp [hr])
    refine ⟨.serve builder, ?_, fun _ => rfl, fun _ => trivial, ?_⟩
    · rw [enter_places, checkoutBuilder_serve hp hr]
      have hm : Move BuilderData.id _ _ _ := .serve { p.places held with reserve := builders } builder
      simpa [Pool.places, PoolEvent.takes, PoolEvent.gives, BuilderQueue.handOut, hr,
        coe_snoc, add_singleton_eq_cons] using hm
    · rw [enter_waiters, checkoutBuilder_serve hp hr]
      simp [Pool.waiters, PoolEvent.runs, PoolEvent.brings, BuilderQueue.handOut, hp]

theorem createDone_moves (error : ErrorCode) (builder : BuilderData) (again : Bool) (n : Nat)
    (hidle : p.queue.pendingHandlers = [] ∨ p.queue.reserveBuilders = []) :
    ∃ l, Moves p (.createDone error builder again)
      ({ p with creates := n }.enter (createDone error builder p.queue)) held l := by
  cases error with
  | some v =>
    refine ⟨.stay, ?_, fun _ => rfl, fun _ => trivial, ?_⟩
    · rw [enter_places, createDone_error]
      have hm : Move BuilderData.id _ _ _ := .stay (p.places held)
      simpa [Pool.places, PoolEvent.takes, PoolEvent.gives, destroyed, returnTimers, posted] using hm
    · rw [enter_waiters, createDone_error]
      simp [Pool.waiters, posted, PoolEvent.runs, PoolEvent.brings]
  | none =>
    cases hp : p.queue.pendingHandlers with
    | nil =>
      refine ⟨.stock builder, ?_, fun _ => rfl, fun _ => trivial, ?_⟩
      · rw [enter_places, createDone_wait hp]
        have hm : Move BuilderData.id _ _ _ := .stock (p.places held) builder
        simpa [Pool.places, PoolEvent.takes, PoolEvent.gives, destroyed, returnTimers, coe_snoc]
          using hm
      · rw [enter_waiters, createDone_wait hp]
        simp [Pool.waiters, hp, PoolEvent.runs, PoolEvent.brings]
    | cons handler handlers =>
      have hr := hidle.resolve_left (by simp [hp])
      refine ⟨.deliver builder, ?_, fun _ => rfl, fun _ => trivial, ?_⟩
      · rw [enter_places, createDone_serve hp hr]
        have hm : Move BuilderData.id _ _ _ := .deliver (p.places held) builder
        simpa [Pool.places, PoolEvent.takes, PoolEvent.gives, BuilderQueue.handOut, hr,
          coe_snoc, add_singleton_eq_cons] using hm
      · rw [enter_waiters, createDone_serve hp hr]
        simp [Pool.waiters, BuilderQueue.handOut, hp, PoolEvent.runs, PoolEvent.brings,
          ← Multiset.cons_coe, add_singleton_eq_cons]

theorem destroyDone_moves {builder : BuilderData} (error : ErrorCode) (again : Bool)
    (hb : builder ∈ p.destroys) :
    ∃ l, Moves p (.destroyDone builder error again)
      ({ p with destroys := if again then p.destroys else p.destroys.erase builder }.enter
        (destroyDone builder error p.queue)) held l := by
  have hd := coe_erase hb
  cases error with
  | none =>
    refine ⟨.destroyed builder again, ?_, fun _ => rfl, fun h => h, ?_⟩
    · rw [enter_places]
      have hm : Move BuilderData.id _ _ _ := .destroyed
        { p.places held with destroys := (p.destroys.erase builder : List BuilderData) } builder again
      cases again <;>
        simpa [Pool.places, PoolEvent.takes, PoolEvent.gives, destroyDone, coe_removeBuilder, hd]
          using hm
    · rw [enter_waiters]
      simp [Pool.waiters, destroyDone, PoolEvent.runs, PoolEvent.brings]
  | some v =>
    refine ⟨.failed builder again, ?_, fun _ => rfl, fun h => h, ?_⟩
    · rw [enter_places]
      have hm : Move BuilderData.id _ _ _ := .failed
        { p.places held with destroys := (p.destroys.erase builder : List BuilderData) } builder again
      cases again <;>
        simpa [Pool.places, PoolEvent.takes, PoolEvent.gives, destroyDone, destroyed, returnTimers,
          posted, add_singleton_eq_cons, hd] using hm
    · rw [enter_waiters]
      simp [Pool.waiters, destroyDone, posted, PoolEvent.runs, PoolEvent.brings]

/-- **Every event** is a move. -/
theorem pool_moves [DecidableEq H] {p' : Pool H} {e : PoolEvent H} {out : List (PoolObs H)}
    (hidle : p.queue.pendingHandlers = [] ∨ p.queue.reserveBuilders = [])
    (hs : p.step e = some (p', out)) (held : Multiset BuilderData) : ∃ l, Moves p e p' held l := by
  obtain ⟨p₁, hp, hrun⟩ := pool_step_cases hs
  cases e with
  | checkoutBuilder handler =>
    cases hp
    obtain ⟨_, ⟨⟩, rfl, -⟩ := hrun.resolve_right (by simp [PoolEvent.callback])
    exact checkoutBuilder_moves handler hidle
  | returnBuilder builder =>
    cases hp
    obtain ⟨_, ⟨⟩, rfl, -⟩ := hrun.resolve_right (by simp [PoolEvent.callback])
    refine ⟨.giveBack builder, ?_, fun _ => rfl, fun _ => trivial, ?_⟩
    · rw [enter_places]
      have hm : Move BuilderData.id _ _ _ := .giveBack (p.places held) builder
      simpa [Pool.places, PoolEvent.takes, PoolEvent.gives, Callback.run, returnBuilder, destroyed,
        returnTimers, posted, add_singleton_eq_cons] using hm
    · rw [enter_waiters]
      simp [Pool.waiters, Callback.run, returnBuilder, posted, PoolEvent.runs, PoolEvent.brings]
  | createDone error builder again =>
    obtain ⟨-, rfl⟩ := consume_eq_some.1 hp
    obtain ⟨_, ⟨⟩, rfl, -⟩ := hrun.resolve_right (by simp [PoolEvent.callback])
    exact createDone_moves error builder again _ hidle
  | destroyDone builder error again =>
    obtain ⟨hb, rfl⟩ := consume_eq_some.1 hp
    obtain ⟨_, ⟨⟩, rfl, -⟩ := hrun.resolve_right (by simp [PoolEvent.callback])
    exact destroyDone_moves error again hb
  | retryReturnBuilder builder =>
    obtain ⟨hb, rfl⟩ := consume_eq_some.1 hp
    obtain ⟨_, ⟨⟩, rfl, -⟩ := hrun.resolve_right (by simp [PoolEvent.callback])
    refine ⟨.retry builder, ?_, fun _ => rfl, fun _ => trivial, ?_⟩
    · rw [enter_places]
      have hm : Move BuilderData.id _ _ _ := .retry
        { p.places held with timers := (p.returnTimers.erase builder : List BuilderData) } builder
      simpa [Pool.places, PoolEvent.takes, PoolEvent.gives, Callback.run, retryReturnBuilder,
        returnBuilder, destroyed, returnTimers, posted, add_singleton_eq_cons, coe_erase hb] using hm
    · rw [enter_waiters]
      simp [Pool.waiters, Callback.run, retryReturnBuilder, returnBuilder, posted, PoolEvent.runs,
        PoolEvent.brings]
  | retryCreateReserveBuilders =>
    obtain ⟨-, rfl⟩ := consume_eq_some.1 hp
    obtain ⟨_, ⟨⟩, rfl, -⟩ := hrun.resolve_right (by simp [PoolEvent.callback])
    refine ⟨.stay, ?_, fun _ => rfl, fun _ => trivial, ?_⟩
    · rw [enter_places]
      have hm : Move BuilderData.id _ _ _ := .stay (p.places held)
      simpa [Pool.places, PoolEvent.takes, PoolEvent.gives, Callback.run,
        retryCreateReserveBuilders] using hm
    · rw [enter_waiters]
      simp [Pool.waiters, Callback.run, retryCreateReserveBuilders, PoolEvent.runs,
        PoolEvent.brings]
  | runHandler handler builder =>
    obtain ⟨hb, rfl⟩ := consume_eq_some.1 hp
    obtain ⟨-, rfl, -⟩ := hrun.resolve_left (by simp [PoolEvent.callback])
    have hp₁ := coe_erase hb
    have hsnd := congrArg (Multiset.map Prod.snd) hp₁
    have hfst := congrArg (Multiset.map Prod.fst) hp₁
    refine ⟨.bind builder, ?_, fun _ => rfl, fun _ => trivial, ?_⟩
    · have hm : Move BuilderData.id _ _ _ := .bind
        { p.places held with
          posted := ((p.posted.erase (handler, builder)).map Prod.snd : List BuilderData) } builder
      simp only [Multiset.map_coe, Multiset.map_cons] at hsnd
      simpa [Pool.places, PoolEvent.takes, PoolEvent.gives, hsnd] using hm
    · simp only [Multiset.map_coe, Multiset.map_cons] at hfst
      simp only [Pool.waiters, Pool.without, PoolEvent.runs, PoolEvent.brings, hfst,
        Multiset.add_zero, add_singleton_eq_cons, Multiset.add_cons]

end

end ContainerBuilder
