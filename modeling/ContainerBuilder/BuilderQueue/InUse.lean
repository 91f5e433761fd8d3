import ContainerBuilder.BuilderQueue.Ownership

/-!
# A builder in use

Once a builder has been written to a client it should live as long as the client's connection to the
queue. `wait_for_close` waits with a single `async_read` and lets the connection go when that read
completes, *whatever* it completes with; the destructor then returns the builder before the stream,
and with it the socket, is destroyed. So a message of the client, which the handler only takes for a
failed close (`Connection.cpp:38-42`), destroys a builder that is in use. `not_in_use_iff` says that
nothing else does.
-/

namespace ContainerBuilder

open Lib Lib.Custody

/-- If a destroy request for a builder is issued here, then every connection it was written to has
ended before. -/
def NotInUse (past : List ServerObs) (o : ServerObs) : Prop :=
  ∀ b c b', o = .pool (.action (.destroy b)) → .written c b' ∈ past → b'.id = b.id →
    .ended c ∈ past

/-- No message completes the read of `wait_for_close` while the connection is open. -/
def NoMessage (s : Server) (e : ServerEvent) : Prop :=
  ∀ c error, e = .closeRead c error → c ∈ s.ended

/-! ## What a step does to the connections in use -/

/-- `c` has been given `b` and waits for the close. -/
def Server.uses (s : Server) (c : ConnectionId) (b : BuilderData) : Prop :=
  s.connections.lookup c = some ⟨some b, [.waitForClose]⟩

structure UseStep (s : Server) (e : ServerEvent) (s' : Server) (out : List ServerObs) : Prop where
  keeps : ∀ c b, s.uses c b → s'.uses c b ∨ ∃ error, e = .closeRead c error
  starts : ∀ c b, s'.uses c b → s.uses c b ∨ .written c b ∈ out
  written : ∀ c b, .written c b ∈ out → s'.uses c b ∧ poolTrace out = []
  ended : ∀ c, c ∈ s'.ended ↔ c ∈ s.ended ∨ .ended c ∈ out

section steps
variable {s s₁ s' : Server} {e : ServerEvent} {pe : PoolEvent ConnectionId} {c : ConnectionId}
  {old conn : Connection} {out : List ServerObs}

/-- The entry of `c` changes and nothing is written. -/
theorem useStep_of_entry (entry : Option Connection)
    (hother : ∀ d, d ≠ c → s'.connections.lookup d = s.connections.lookup d)
    (hself : s'.connections.lookup c = entry)
    (hold : (∀ b, ¬ s.uses c b) ∨ ∃ error, e = .closeRead c error)
    (hnew : ∀ b, entry ≠ some ⟨some b, [.waitForClose]⟩)
    (hw : ∀ d b, .written d b ∉ out)
    (hend : ∀ d, d ∈ s'.ended ↔ d ∈ s.ended ∨ .ended d ∈ out) : UseStep s e s' out := by
  refine ⟨fun d b hd => ?_, fun d b hd => ?_, fun d b hd => absurd hd (hw d b), hend⟩
  · by_cases hdc : d = c
    · subst hdc
      rcases hold with hold | hold
      · exact absurd hd (hold b)
      · exact Or.inr hold
    · exact Or.inl ((hother d hdc).trans hd)
  · by_cases hdc : d = c
    · subst hdc
      exact absurd (hself.symm.trans hd) (hnew b)
    · exact Or.inl ((hother d hdc).symm.trans hd)

theorem enter_written (h : s.enter pe = some (s', out)) (d : ConnectionId) (b : BuilderData) :
    .written d b ∉ out := by
  obtain ⟨-, -, -, -, ho⟩ := enter_some h
  rw [ho]
  simp

theorem enter_ended (h : s.enter pe = some (s', out)) (d : ConnectionId) :
    d ∈ s'.ended ↔ d ∈ s.ended ∨ .ended d ∈ out := by
  obtain ⟨-, -, -, he, ho⟩ := enter_some h
  rw [he, ho]
  simp

theorem finish_useStep (h : s.finish c conn = some (s', out))
    (hold : (∀ b, ¬ s.uses c b) ∨ ∃ error, e = .closeRead c error)
    (hnew : ∀ b, conn ≠ ⟨some b, [.waitForClose]⟩) : UseStep s e s' out := by
  unfold Server.finish at h
  split at h
  · unfold Server.destruct at h
    cases hb : conn.builder with
    | none =>
      rw [hb] at h
      cases h
      refine useStep_of_entry none (fun d hd => ?_) (AList.lookup_erase c _) hold (by simp) (by simp) ?_
      · exact AList.lookup_erase_ne hd
      · intro d
        simp only [List.mem_cons, ServerObs.ended.injEq, List.not_mem_nil, or_false]
        exact or_comm
    | some b =>
      rw [hb] at h
      simp only [Option.map_eq_some_iff] at h
      obtain ⟨⟨s₁, out₁⟩, he, hs⟩ := h
      simp only [Prod.mk.injEq] at hs
      obtain ⟨rfl, rfl⟩ := hs
      obtain ⟨-, hc, -, hend, ho⟩ := enter_some he
      refine useStep_of_entry none (fun d hd => ?_) ?_ hold (by simp) (fun d b' hd => ?_) fun d => ?_
      · rw [hc]; exact AList.lookup_erase_ne hd
      · rw [hc]; exact AList.lookup_erase c _
      · rw [List.mem_append] at hd
        exact hd.elim (enter_written he d b') (by simp)
      · rw [hend, ho]
        simp only [List.mem_cons, List.mem_append, List.mem_map, reduceCtorEq, and_false,
          exists_false, false_or, ServerObs.ended.injEq, List.not_mem_nil, or_false]
        exact or_comm
  · cases h
    refine useStep_of_entry conn (fun d hd => ?_) (AList.lookup_insert _) hold ?_ (by simp) (by simp)
    · exact AList.lookup_insert_ne hd
    · exact fun b hb => hnew b (Option.some.inj hb)

theorem enter_useStep
    (h : ({ s with connections := s.connections.insert c conn } : Server).enter pe = some (s', out))
    (hold : ∀ b, ¬ s.uses c b) (hnew : ∀ b, conn ≠ ⟨some b, [.waitForClose]⟩) :
    UseStep s e s' out := by
  obtain ⟨-, hc, -⟩ := enter_some h
  refine useStep_of_entry conn (fun d hd => ?_) ?_ (Or.inl hold) ?_ (enter_written h) fun d => ?_
  · rw [hc]; exact AList.lookup_insert_ne hd
  · rw [hc]; exact AList.lookup_insert _
  · exact fun b hb => hnew b (Option.some.inj hb)
  · exact enter_ended h d

/-- A connection that waits for something else is not in use. -/
theorem not_uses {w : Wait} (hw : w ≠ .waitForClose) (h : s.resume c w = some conn)
    (b : BuilderData) : ¬ s.uses c b := by
  intro hu
  obtain ⟨old, hl, hmem, -⟩ := resume_some h
  rw [hu] at hl
  cases hl
  simp only [List.mem_singleton] at hmem
  exact hw hmem

theorem request_useStep {request : Bytes} {launch : ErrorCode} {b : Option BuilderData}
    (h : s.request c request launch ⟨b, []⟩ = some (s', out)) (hold : ∀ b, ¬ s.uses c b) :
    UseStep s e s' out := by
  unfold Server.request at h
  split at h
  · exact enter_useStep h hold (by simp [Connection.wait])
  · split at h
    · exact finish_useStep h (Or.inl hold) (by simp [Connection.wait])
    · split at h
      · refine finish_useStep h (Or.inl hold) fun b' => ?_
        cases launch <;> simp [Connection.requestImageList, Connection.wait]
      · exact finish_useStep h (Or.inl hold) (by simp)

/-- From the write of the builder on the connection is in use. -/
theorem written_useStep {b : BuilderData} {error : ErrorCode} (hold : ∀ b, ¬ s.uses c b) :
    UseStep s (.builderWritten c b error)
      { s with connections := s.connections.insert c ⟨some b, [.waitForClose]⟩ } [.written c b] := by
  have hself : (s.connections.insert c ⟨some b, [.waitForClose]⟩).lookup c =
      some ⟨some b, [.waitForClose]⟩ := AList.lookup_insert _
  refine ⟨fun d b' hd => Or.inl ?_, fun d b' hd => ?_, fun d b' hd => ?_, by simp⟩
  · have hdc : d ≠ c := fun he => hold b' (he ▸ hd)
    exact (AList.lookup_insert_ne hdc).trans hd
  · by_cases hdc : d = c
    · subst hdc
      have hboth := hself.symm.trans hd
      simp only [Option.some.injEq, Connection.mk.injEq, and_true] at hboth
      exact Or.inr (by simp [hboth])
    · exact Or.inl ((AList.lookup_insert_ne hdc).symm.trans hd)
  · simp only [List.mem_singleton, ServerObs.written.injEq] at hd
    obtain ⟨rfl, rfl⟩ := hd
    exact ⟨hself, rfl⟩

end steps

/-- **Every event** keeps what is in use, unless it completes the read of `wait_for_close`. -/
theorem use_step {s s' : Server} {e : ServerEvent} {out : List ServerObs} (hph : Phases s)
    (hs : s.step e = some (s', out)) : UseStep s e s' out := by
  cases e with
  | accept =>
    cases hs
    refine useStep_of_entry _ (fun d hd => AList.lookup_insert_ne hd) (AList.lookup_insert _)
      (Or.inl fun b hu => ?_) (by simp) (by simp) (by simp [Server.accept])
    exact absurd (hph _ _ hu).2 (Nat.lt_irrefl _)
  | handshakeDone c error =>
    obtain ⟨conn, hc, h⟩ := Option.bind_eq_some_iff.1 hs
    obtain ⟨b, rfl, hl, hp⟩ := resume_alone hph rfl hc
    refine finish_useStep h (Or.inl (not_uses (by simp) hc)) fun b' => ?_
    cases error <;> simp [Connection.started, Connection.wait]
  | requestRead c error request launch =>
    obtain ⟨conn, hc, h⟩ := Option.bind_eq_some_iff.1 hs
    obtain ⟨b, rfl, hl, hp⟩ := resume_alone hph rfl hc
    have hold := not_uses (by simp) hc
    split at h
    · exact request_useStep h hold
    · exact finish_useStep h (Or.inl hold) (by simp)
  | builderReady c b =>
    obtain ⟨conn, hc, h⟩ := Option.bind_eq_some_iff.1 hs
    exact enter_useStep h (not_uses (by simp) hc) (by simp [Connection.wait])
  | builderWritten c b error =>
    obtain ⟨conn, hc, h⟩ := Option.bind_eq_some_iff.1 hs
    obtain ⟨b', rfl, hl, hp⟩ := resume_alone hph rfl hc
    have hold := not_uses (by simp) hc
    cases error with
    | some v => exact finish_useStep h (Or.inl hold) (by simp)
    | none =>
      cases hp with
      | imageList _ hi => exact absurd (hi _ (List.mem_singleton_self _)) (by simp [Wait.image])
      | writeBuilder =>
        cases h
        exact written_useStep hold
  | closeRead c error =>
    simp only [Server.step] at hs
    split at hs
    · obtain ⟨conn, hc, h⟩ := Option.bind_eq_some_iff.1 hs
      obtain ⟨b, rfl, hl, hp⟩ := resume_alone hph rfl hc
      exact finish_useStep h (Or.inr ⟨error, rfl⟩) (by simp)
    · cases hs
  | statsWritten c =>
    obtain ⟨conn, hc, h⟩ := Option.bind_eq_some_iff.1 hs
    obtain ⟨b, rfl, hl, hp⟩ := resume_alone hph rfl hc
    exact finish_useStep h (Or.inl (not_uses (by simp) hc)) (by simp)
  | imageListRead c =>
    obtain ⟨conn, hc, h⟩ := Option.bind_eq_some_iff.1 hs
    exact finish_useStep h (Or.inl (not_uses (by simp) hc)) (by simp [Connection.wait])
  | imageListReady c =>
    obtain ⟨conn, hc, h⟩ := Option.bind_eq_some_iff.1 hs
    exact finish_useStep h (Or.inl (not_uses (by simp) hc)) (by simp [Connection.wait])
  | imageListWritten c =>
    obtain ⟨conn, hc, h⟩ := Option.bind_eq_some_iff.1 hs
    obtain ⟨ws, -, -, rfl⟩ := resume_image hph rfl hc
    exact finish_useStep h (Or.inl (not_uses (by simp) hc)) (by simp)
  | connectionEnds c =>
    simp only [Server.step] at hs
    split at hs <;> cases hs
    refine ⟨fun d b hd => Or.inl hd, fun d b hd => Or.inl hd, by simp, fun d => ?_⟩
    simp only [List.mem_cons, ServerObs.ended.injEq, List.not_mem_nil, or_false]
    exact or_comm
  | queue e =>
    simp only [Server.step] at hs
    split at hs
    · obtain ⟨-, hc, -⟩ := enter_some hs
      refine ⟨fun d b hd => Or.inl ?_, fun d b hd => Or.inl ?_, fun d b hd => ?_, enter_ended hs⟩
      · rw [Server.uses, hc]; exact hd
      · rw [Server.uses, hc] at hd; exact hd
      · exact absurd hd (enter_written hs d b)
    · cases hs

/-! ## Runs -/

/-- A destroy request is made by `return_builder` or by its retry. -/
theorem destroy_requested {p p' : Pool ConnectionId} {pe : PoolEvent ConnectionId}
    {out : List (PoolObs ConnectionId)} (h : p.step pe = some (p', out)) {b : BuilderData}
    (hb : .action (.destroy b) ∈ out) :
    pe = .returnBuilder b ∨ pe = .retryReturnBuilder b ∧ b ∈ p.returnTimers := by
  obtain ⟨p₁, hp, ⟨c, hc, -, rfl⟩ | ⟨-, -, rfl⟩⟩ := pool_step_cases h
  · simp only [List.mem_cons, reduceCtorEq, List.mem_map, PoolObs.action.injEq, exists_eq_right,
      false_or] at hb
    have hd : b ∈ c.destroys := by
      rw [← run_destroyed c p.queue]
      exact List.mem_filterMap.2 ⟨_, hb, rfl⟩
    cases pe <;> cases hc <;> simp only [Callback.destroys, List.mem_singleton, List.not_mem_nil] at hd
    · exact Or.inl (by rw [hd])
    · subst hd
      obtain ⟨hready, -⟩ := consume_eq_some.1 hp
      exact Or.inr ⟨rfl, hready⟩
  · simp at hb

section runs
variable {G : Server → ServerEvent → Prop} {es : List ServerEvent} {s s' : Server}
  {tr out : List ServerObs} {e : ServerEvent}

theorem created_le (hr : serverMachine.Run G es s tr) (hs : s.step e = some (s', out)) :
    (builderHistory tr).created ≤ (builderHistory (tr ++ out)).created := by
  obtain ⟨l, -, -, hh, -⟩ := server_move hr hs
  rw [hh]
  exact History.created_le_add _ l

theorem created_nodup_of_step (hr : serverMachine.Run G es s tr)
    (hs : s.step e = some (s', out))
    (hn : ((builderHistory (tr ++ out)).created.map BuilderData.id).Nodup) :
    ((builderHistory tr).created.map BuilderData.id).Nodup :=
  Multiset.nodup_of_le (Multiset.map_le_map (created_le hr hs)) hn

/-- A builder for which a destroy request is issued is in no connection afterwards. -/
theorem destroyed_not_used (hr : serverMachine.Run G es s tr) (hg : G s e)
    (hs : s.step e = some (s', out))
    (hn : ((builderHistory (tr ++ out)).created.map BuilderData.id).Nodup) {b : BuilderData}
    (hb : .pool (.action (.destroy b)) ∈ out) {c : ConnectionId} {b' : BuilderData}
    (hu : s'.uses c b') : b'.id ≠ b.id := by
  have hkept := server_kept (hr.snoc hg hs)
  have hmem : PoolObs.action (.destroy b) ∈ poolTrace out := List.mem_filterMap.2 ⟨_, hb, rfl⟩
  have hback : b ∈ (builderHistory (tr ++ out)).givenBack := by
    cases (server_routed (server_phases hr) hs).1 with
    | apart _ ht _ _ => rw [ht] at hmem; cases hmem
    | queue pe h hstep hag hh hh' hc =>
      have hrec : builderHistory (tr ++ out) = pe.record (builderHistory tr) := by
        rw [builderHistory, poolTrace_append, events_append, events_step hstep, history_snoc]
        rfl
      rw [hrec]
      rcases destroy_requested hstep hmem with rfl | ⟨rfl, ht⟩
      · exact Multiset.mem_cons_self _ _
      · exact (server_kept hr).late b (Or.inr (Multiset.mem_coe.2 ht))
  exact hkept.not_given_back hn (mem_held.2 ⟨c, _, hu, rfl⟩) hback

theorem ended_iff (h : serverMachine.Run G es s tr) (c : ConnectionId) :
    c ∈ s.ended ↔ .ended c ∈ tr := by
  refine Machine.Run.inv (fun _ s tr => c ∈ s.ended ↔ .ended c ∈ tr) ?_ ?_ h
  · simp [serverMachine]
  · intro es s tr e s' out hr ih _ hs
    rw [(use_step (server_phases hr) hs).ended c, ih, List.mem_append]

/-- Who waits for the close has been given a builder. -/
theorem written_of_uses (h : serverMachine.Run G es s tr) :
    ∀ c b, s.uses c b → .written c b ∈ tr := by
  refine Machine.Run.inv (fun _ s tr => ∀ c b, s.uses c b → .written c b ∈ tr) ?_ ?_ h
  · intro c b hu
    simp [Server.uses, serverMachine] at hu
  · intro es s tr e s' out hr ih _ hs c b hu
    rcases (use_step (server_phases hr) hs).starts c b hu with hu | hw
    · exact List.mem_append_left _ (ih c b hu)
    · exact List.mem_append_right _ hw

/-- Without messages, whoever was given a builder still waits for the close or has ended, and no
builder in use is destroyed. -/
theorem not_in_use (h : serverMachine.Run NoMessage es s tr) :
    ((builderHistory tr).created.map BuilderData.id).Nodup →
      (∀ c b, .written c b ∈ tr → .ended c ∈ tr ∨ s.uses c b) ∧ Everywhere NotInUse tr := by
  refine Machine.Run.inv (fun _ s tr => ((builderHistory tr).created.map BuilderData.id).Nodup →
    (∀ c b, .written c b ∈ tr → .ended c ∈ tr ∨ s.uses c b) ∧ Everywhere NotInUse tr) ?_ ?_ h
  · intro _
    refine ⟨by simp [serverMachine], everywhere_of_forall fun o ho past b c b' hd => ?_⟩
    subst hd
    simp [serverMachine, poolMachine, BuilderQueue.new, createReserveBuilders_actions] at ho
  · intro es s tr e s' out hr ih hg hs hn
    obtain ⟨ihw, ihe⟩ := ih (created_nodup_of_step hr hs hn)
    have hu := use_step (server_phases hr) hs
    have hstill : ∀ c b, .written c b ∈ tr → .ended c ∈ tr ∨ s'.uses c b := by
      intro c b hw
      rcases ihw c b hw with hend | huse
      · exact Or.inl hend
      · rcases hu.keeps c b huse with huse | ⟨error, he⟩
        · exact Or.inr huse
        · exact Or.inl ((ended_iff hr c).1 (hg c error he))
    constructor
    · intro c b hw
      rcases List.mem_append.1 hw with hw | hw
      · exact (hstill c b hw).imp (List.mem_append_left _) id
      · exact Or.inr (hu.written c b hw).1
    · rw [everywhere_append]
      refine ⟨ihe, fun past x rest hout b c b' hx hw hid => ?_⟩
      have hb : .pool (.action (.destroy b)) ∈ out := by rw [hout, hx]; simp
      rcases List.mem_append.1 hw with hw | hw
      · rcases hstill c b' hw with hend | huse
        · exact List.mem_append_left _ hend
        · exact absurd hid (destroyed_not_used hr hg hs hn hb huse)
      · -- a step that writes does not deal with the queue
        have ht := (hu.written c b' (by rw [hout]; exact List.mem_append_left _ hw)).2
        have : PoolObs.action (.destroy b) ∈ poolTrace out := List.mem_filterMap.2 ⟨_, hb, rfl⟩
        rw [ht] at this
        cases this

/-- A message that ends the wait of an open connection destroys a builder in use. -/
theorem message_destroys (hr : serverMachine.Run G es s tr) (hs : s.step e = some (s', out))
    (hm : ¬ NoMessage s e) : ¬ Everywhere NotInUse (tr ++ out) := by
  intro hall
  apply hm
  rintro c error rfl
  by_contra hopen
  simp only [Server.step] at hs
  split at hs
  · obtain ⟨conn, hc, h⟩ := Option.bind_eq_some_iff.1 hs
    obtain ⟨b, rfl, hl, hp⟩ := resume_alone (server_phases hr) rfl hc
    cases hp with
    | imageList _ hi => exact absurd (hi _ (List.mem_singleton_self _)) (by simp [Wait.image])
    | waitForClose b =>
      cases h
      have hw := written_of_uses hr c b hl
      have hend := hall (tr ++ [.pool (.event (.returnBuilder b))]) (.pool (.action (.destroy b)))
        [.ended c] (by simp [Callback.run, returnBuilder]) b c b rfl (List.mem_append_left _ hw) rfl
      simp only [List.mem_append, List.mem_singleton, reduceCtorEq, or_false] at hend
      exact hopen ((ended_iff hr c).2 hend)
  · cases hs

end runs

/-- **A builder in use is not destroyed** in exactly those runs in which no message completes the
read of `wait_for_close` while the connection is open (the ids of the builders being distinct). -/
theorem not_in_use_iff {es : List ServerEvent} {s : Server} {tr : List ServerObs}
    (h : serverMachine.Run Machine.always es s tr)
    (hn : ((builderHistory tr).created.map BuilderData.id).Nodup) :
    Everywhere NotInUse tr ↔ serverMachine.Run NoMessage es s tr := by
  refine ⟨fun hall => ?_, fun hr => (not_in_use hr hn).2⟩
  refine Machine.Run.inv (fun es s tr => Everywhere NotInUse tr →
    serverMachine.Run NoMessage es s tr) (fun _ => .start) ?_ h hall
  intro es s tr e s' out hr ih _ hs hall
  refine (ih ((everywhere_append _ _ _).1 hall).1).snoc ?_ hs
  by_contra hm
  exact message_destroys hr hs hm hall

/-- The shipped client: it closes, and only then its builder is destroyed. -/
theorem not_in_use_run :
    ∃ s tr, serverMachine.Run Machine.always
        [.queue (.createDone none ⟨[1], [], [1]⟩ false), .accept, .handshakeDone 0 none,
          .requestRead 0 none (ascii "checkout_builder_request") none,
          .builderReady 0 ⟨[1], [], [1]⟩, .builderWritten 0 ⟨[1], [], [1]⟩ none,
          .connectionEnds 0, .closeRead 0 (some 1)] s tr ∧
      s.pool.destroys = [⟨[1], [], [1]⟩] ∧ Everywhere NotInUse tr :=
  have hrun := Machine.exec_run (M := serverMachine) (G := NoMessage)
    (g := fun s e => match e with
      | .closeRead c _ => c ∈ s.ended
      | _ => true)
    (fun s e h c error he => by subst he; simpa using h)
    [.queue (.createDone none ⟨[1], [], [1]⟩ false), .accept, .handshakeDone 0 none,
      .requestRead 0 none (ascii "checkout_builder_request") none,
      .builderReady 0 ⟨[1], [], [1]⟩, .builderWritten 0 ⟨[1], [], [1]⟩ none,
      .connectionEnds 0, .closeRead 0 (some 1)] rfl
  have hrun' := hrun.mono (fun _ _ _ => trivial)
  ⟨_, _, hrun', rfl, (not_in_use_iff hrun' (by decide)).2 hrun⟩

/-- A client that sends one message after it was given its builder: the builder is destroyed while
the connection is open. -/
theorem message_destroys_builder_in_use :
    ∃ es s tr, serverMachine.Run RequestsOnce es s tr ∧
      ((builderHistory tr).created.map BuilderData.id).Nodup ∧ ¬ Everywhere NotInUse tr := by
  have hrun := Machine.exec_run (M := serverMachine) (G := RequestsOnce)
    (g := fun _ e => !e.again) (fun _ e h => by simpa [RequestsOnce] using h)
    [.queue (.createDone none ⟨[1], [], [1]⟩ false), .accept, .handshakeDone 0 none,
      .requestRead 0 none (ascii "checkout_builder_request") none,
      .builderReady 0 ⟨[1], [], [1]⟩, .builderWritten 0 ⟨[1], [], [1]⟩ none] rfl
  have honce : ∀ s, RequestsOnce s (.closeRead 0 none) := fun _ => rfl
  refine ⟨_, _, _, hrun.snoc (honce _) rfl, by decide,
    message_destroys (e := .closeRead 0 none) hrun rfl fun h => ?_⟩
  cases h 0 none rfl

end ContainerBuilder
