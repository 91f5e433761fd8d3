import ContainerBuilder.BuilderQueue.InUse
import ContainerBuilder.BuilderQueue.Site

/-!
# The servers behind the builders

When the scripts tell the truth, what the queue believes of its builders is so. A server that a script
has started is promised until the result of the script reaches the queue, from then on it is the server
of a builder that was created, and nothing deletes it before that builder has been given back
(`Alive`). So the ids of the builders are distinct by themselves, and who holds a builder holds a server
that exists.
-/

namespace ContainerBuilder

open Lib Lib.Custody

variable {H : Type}

/-- The server that a posted result of `request_create` brings. -/
def told (r : ErrorCode × BuilderData) : Option Bytes :=
  match r.1 with
  | none => some r.2.id
  | some _ => none

/-- The servers whose builders have not reached the queue. -/
def Fleet.promised (f : Fleet H) : Multiset Bytes :=
  (f.createDones.filterMap told : Multiset Bytes) + (f.creates.filterMap CreateCommand.vm : List Bytes)

/-- Where the servers come from and how long they stay. -/
structure Alive (h : History BuilderData) (f : Fleet H) : Prop where
  nodup : (h.created.map BuilderData.id + f.promised).Nodup
  seen : ∀ v ∈ h.created.map BuilderData.id + f.promised, v ∈ f.seen
  promised : ∀ v ∈ f.promised, v ∈ f.vms
  created : ∀ b ∈ h.created, b ∈ h.givenBack ∨ b.id ∈ f.vms

theorem told_createResult (readJson : Bytes → Option Ptree) (read : PipeRead) :
    told (createResult readJson read) = read.names readJson := by
  cases read with
  | error value => rfl
  | eof output =>
    simp only [createResult, PipeRead.names]
    cases builderOf readJson output <;> rfl

/-- What is left of a list of optional contributions when one entry goes. -/
theorem filterMap_eraseIdx {α β : Type} (f : α → Option β) {l : List α} {k : Nat} {x : α}
    (h : l[k]? = some x) : (l.filterMap f : Multiset β) =
      (f x).toList + ((l.eraseIdx k).filterMap f : List β) := by
  obtain ⟨hk, rfl⟩ := List.getElem?_eq_some_iff.1 h
  have hcons := (List.getElem_cons_eraseIdx_perm hk).filterMap f
  have heq := (Multiset.coe_eq_coe.2 hcons).symm
  rw [heq]
  cases hf : f l[k] with
  | none => simp [hf]
  | some y => simp [hf, ← Multiset.cons_coe]

/-- A callback of the queue promises nothing: its requests have not started a server yet. -/
theorem promised_enter (f : Fleet H) (c : Callback H) {ls : List ErrorCode}
    (hls : ∀ l ∈ ls, l = none) : (f.enter c ls).1.promised = f.promised := by
  have hs : (f.enter c ls).1 = _ := start_eq ls (c.run f.queue).actions
    { f with queue := (c.run f.queue).queue } hls
  rw [hs]
  simp [Fleet.promised, List.filterMap_append]

/-! ## What an event records -/

theorem record_created (pe : PoolEvent H) (h : History BuilderData) :
    (pe.record h).created = h.created ∨
      ∃ b again, pe = .createDone none b again ∧ (pe.record h).created = b ::ₘ h.created := by
  cases pe with
  | createDone error builder again =>
    cases error with
    | none => exact Or.inr ⟨builder, again, rfl, rfl⟩
    | some v => exact Or.inl rfl
  | destroyDone builder error again => cases error <;> exact Or.inl rfl
  | _ => exact Or.inl rfl

theorem mem_record_givenBack {pe : PoolEvent H} {h : History BuilderData} {b : BuilderData}
    (hb : b ∈ h.givenBack) : b ∈ (pe.record h).givenBack := by
  cases pe with
  | returnBuilder builder => exact Multiset.mem_cons_of_mem hb
  | createDone error builder again => cases error <;> exact hb
  | destroyDone builder error again => cases error <;> exact hb
  | _ => exact hb

/-- The history after an event of the fleet. -/
def Fleet.recorded (f : Fleet H) (e : FleetEvent H) (h : History BuilderData) :
    History BuilderData :=
  match f.poolEvent e with
  | some pe => pe.record h
  | none => h

theorem recorded_eq {f : Fleet H} {e : FleetEvent H} {pe : PoolEvent H}
    (h : f.poolEvent e = some pe) (past : History BuilderData) :
    f.recorded e past = pe.record past := by
  simp [Fleet.recorded, h]

/-- Nothing happens to the create requests and the servers. -/
structure Fleet.SameServers (f f' : Fleet H) : Prop where
  creates : f'.creates = f.creates
  createDones : f'.createDones = f.createDones
  vms : f'.vms = f.vms
  seen : f'.seen = f.seen

/-- No builder is created. -/
structure SameCreated (h h' : History BuilderData) : Prop where
  created : h'.created = h.created
  givenBack : ∀ b ∈ h.givenBack, b ∈ h'.givenBack

theorem SameCreated.refl (h : History BuilderData) : SameCreated h h := ⟨rfl, fun _ hb => hb⟩

/-- What an event comes to for the servers and the history. -/
inductive Fleet.Effect (readJson : Bytes → Option Ptree) (h : History BuilderData) (f : Fleet H) :
    FleetEvent H → Fleet H → History BuilderData → Prop
  | quiet {e : FleetEvent H} {f' : Fleet H} {h' : History BuilderData} :
    f.SameServers f' → SameCreated h h' → Effect readJson h f e f' h'
  | enter {e : FleetEvent H} {f₁ : Fleet H} {h' : History BuilderData} (c : Callback H) :
    f.SameServers f₁ → SameCreated h h' → Effect readJson h f e (f₁.enter c e.launches).1 h'
  | createDone (k : Nat) (launches : List ErrorCode) (error : ErrorCode) (builder : BuilderData) :
    f.createDones[k]? = some (error, builder) →
    Effect readJson h f (.createDone k launches)
      (({ f with createDones := f.createDones.eraseIdx k } : Fleet H).enter
        (.createDone error builder) launches).1
      ((PoolEvent.createDone (H := H) error builder false).record h)
  | createRead (k : Nat) (read : PipeRead) (exitCode : Int) (command : CreateCommand) :
    f.creates[k]? = some command →
    Effect readJson h f (.createRead k read exitCode)
      { f with
        creates := f.creates.eraseIdx k
        createDones := f.createDones ++ [createResult readJson read]
        waiting := command.launched } h
  | startVm (k : Nat) (id : Bytes) (command : CreateCommand) :
    f.creates[k]? = some command → command.vm = none → id ∉ f.seen →
    Effect readJson h f (.startVm k id)
      { f with
        creates := f.creates.set k ⟨true, some id⟩
        vms := id :: f.vms
        seen := id :: f.seen } h
  | deleteVm (k : Nat) (command : DestroyCommand) :
    f.destroys[k]? = some command →
    Effect readJson h f (.deleteVm k) { f with vms := f.vms.filter (· ≠ command.builder.id) } h

/-- The queue is told something else than that a builder was created. -/
theorem sameCreated_record {pe : PoolEvent H} (hne : ∀ b again, pe ≠ .createDone none b again)
    (h : History BuilderData) : SameCreated h (pe.record h) := by
  refine ⟨?_, fun b hb => mem_record_givenBack hb⟩
  rcases record_created pe h with hc | ⟨b, again, rfl, -⟩
  · exact hc
  · exact absurd rfl (hne b again)

/-- **The effect of each event**, as the history records it. -/
theorem Fleet.effect {readJson : Bytes → Option Ptree} {f f' : Fleet H} {e : FleetEvent H}
    {out : List (Action H)} (hs : f.step readJson e = some (f', out)) (h : History BuilderData) :
    Effect readJson h f e f' (f.recorded e h) := by
  have hsame : ∀ {pe : PoolEvent H}, f.poolEvent e = some pe →
      (∀ b again, pe ≠ .createDone none b again) → SameCreated h (f.recorded e h) := by
    intro pe hpe hne
    rw [recorded_eq hpe]
    exact sameCreated_record hne h
  cases Fleet.step_rule hs with
  | checkoutBuilder handler launches =>
    exact .enter (.checkoutBuilder handler) ⟨rfl, rfl, rfl, rfl⟩ (hsame rfl (by simp))
  | returnBuilder builder launch f₁ hb hf₁ =>
    subst hf₁
    exact .enter (.returnBuilder builder) ⟨rfl, rfl, rfl, rfl⟩ (hsame rfl (by simp))
  | runHandler k handler builder hk =>
    have hpe : f.poolEvent (.runHandler k) = some (.runHandler handler builder) := by
      simp [Fleet.poolEvent, hk]
    exact .quiet ⟨rfl, rfl, rfl, rfl⟩ (hsame hpe (by simp))
  | createRead k read exitCode command hk hread => exact .createRead k read exitCode command hk
  | createDone k launches error builder s₁ hk hs₁ =>
    subst hs₁
    have hpe : f.poolEvent (.createDone k launches) = some (.createDone error builder false) := by
      simp [Fleet.poolEvent, hk]
    rw [recorded_eq hpe]
    exact .createDone k launches error builder hk
  | destroyRead k read exitCode command hk hread hgone =>
    exact .quiet ⟨rfl, rfl, rfl, rfl⟩ (SameCreated.refl h)
  | destroyDone k launches builder error s₁ hk hs₁ =>
    subst hs₁
    have hpe : f.poolEvent (.destroyDone k launches) = some (.destroyDone builder error false) := by
      simp [Fleet.poolEvent, hk]
    exact .enter (.destroyDone builder error) ⟨rfl, rfl, rfl, rfl⟩ (hsame hpe (by simp))
  | retryReturnBuilder k launch builder s₁ hk hs₁ =>
    subst hs₁
    have hpe : f.poolEvent (.retryReturnBuilder k launch) = some (.retryReturnBuilder builder) := by
      simp [Fleet.poolEvent, hk]
    exact .enter (.retryReturnBuilder builder) ⟨rfl, rfl, rfl, rfl⟩ (hsame hpe (by simp))
  | retryCreateReserveBuilders launches s₁ hpos hs₁ =>
    subst hs₁
    exact .enter .retryCreateReserveBuilders ⟨rfl, rfl, rfl, rfl⟩ (hsame rfl (by simp))
  | processExits hw => exact .quiet ⟨rfl, rfl, rfl, rfl⟩ (SameCreated.refl h)
  | startVm k id command hk hlaunched hvm hnew => exact .startVm k id command hk hvm hnew
  | deleteVm k command hk hlaunched => exact .deleteVm k command hk

/-! ## One event -/

section
variable {h h' : History BuilderData} {f f' : Fleet H} {e : FleetEvent H}

theorem Fleet.SameServers.promised (hf : f.SameServers f') : f'.promised = f.promised := by
  rw [Fleet.promised, hf.creates, hf.createDones, Fleet.promised]

/-- Nothing happens to the servers, and no builder is created. -/
theorem Alive.keep (ha : Alive h f) (hp : f'.promised = f.promised) (hv : f'.vms = f.vms)
    (hs : f'.seen = f.seen) (hh : SameCreated h h') : Alive h' f' := by
  refine ⟨?_, ?_, ?_, fun b hb => ?_⟩
  · rw [hh.created, hp]; exact ha.nodup
  · rw [hh.created, hp, hs]; exact ha.seen
  · rw [hp, hv]; exact ha.promised
  · rw [hh.created] at hb
    rw [hv]
    exact (ha.created b hb).imp_left (hh.givenBack b)

/-- A callback that brings no builder. -/
theorem Alive.enter (ha : Alive h f) {f₁ : Fleet H} {c : Callback H} {ls : List ErrorCode}
    (hls : ∀ l ∈ ls, l = none) (hp : f₁.promised = f.promised) (hv : f₁.vms = f.vms)
    (hs : f₁.seen = f.seen) (hh : SameCreated h h') : Alive h' (f₁.enter c ls).1 := by
  have hframe := Fleet.enter_frame f₁ c ls
  exact ha.keep ((promised_enter f₁ c hls).trans hp) (hframe.vms.trans hv) (hframe.seen.trans hs) hh

/-- The result of a create request reaches the queue: what was promised is there. -/
theorem Alive.createDone (ha : Alive h f) {k : Nat} {error : ErrorCode} {builder : BuilderData}
    {ls : List ErrorCode} (hls : ∀ l ∈ ls, l = none)
    (hk : f.createDones[k]? = some (error, builder)) :
    Alive ((PoolEvent.createDone (H := H) error builder false).record h)
      (({ f with createDones := f.createDones.eraseIdx k } : Fleet H).enter
        (.createDone error builder) ls).1 := by
  cases error with
  | some v =>
    refine ha.enter hls ?_ rfl rfl (SameCreated.refl h)
    have hd := filterMap_eraseIdx told hk
    simp only [told, Option.toList_none, Multiset.coe_nil, zero_add] at hd
    simp only [Fleet.promised, hd]
  | none =>
    have hd := filterMap_eraseIdx told hk
    simp only [told, Option.toList_some, Multiset.coe_singleton] at hd
    have hsame : h.created.map BuilderData.id + f.promised =
        (builder ::ₘ h.created).map BuilderData.id +
          Fleet.promised { f with createDones := f.createDones.eraseIdx k } := by
      simp only [Fleet.promised, hd, Multiset.map_cons, Multiset.singleton_add, Multiset.cons_add,
        Multiset.add_cons]
    have hsub : ∀ v ∈ Fleet.promised { f with createDones := f.createDones.eraseIdx k },
        v ∈ f.promised := by
      intro v hv
      simp only [Fleet.promised, hd, Multiset.mem_add] at hv ⊢
      exact hv.imp_left Or.inr
    have hnew : builder.id ∈ f.promised := by
      simp [Fleet.promised, hd]
    obtain ⟨-, -, -, hv', hs'⟩ := Fleet.enter_frame
      { f with createDones := f.createDones.eraseIdx k } (.createDone none builder) ls
    refine ⟨?_, ?_, ?_, ?_⟩
    · rw [promised_enter _ _ hls]
      exact hsame ▸ ha.nodup
    · rw [promised_enter _ _ hls, hs']
      exact hsame ▸ ha.seen
    · rw [promised_enter _ _ hls, hv']
      exact fun v hv => ha.promised v (hsub v hv)
    · rw [hv']
      intro b hb
      rcases Multiset.mem_cons.1 hb with rfl | hb
      · exact Or.inr (ha.promised _ hnew)
      · exact ha.created b hb

/-- The pipe of a create command has been read, and names what the script has started. -/
theorem promised_createRead {readJson : Bytes → Option Ptree} {k : Nat} {read : PipeRead}
    {command : CreateCommand} (waiting : Bool) (hk : f.creates[k]? = some command)
    (hnames : read.names readJson = command.vm) :
    Fleet.promised { f with
      creates := f.creates.eraseIdx k
      createDones := f.createDones ++ [createResult readJson read]
      waiting := waiting } = f.promised := by
  have hc := filterMap_eraseIdx CreateCommand.vm hk
  have hnew : ([createResult readJson read].filterMap told : Multiset Bytes) =
      command.vm.toList := by
    rw [← hnames, ← told_createResult]
    cases h : told (createResult readJson read) <;> simp [h]
  simp only [Fleet.promised, List.filterMap_append, ← Multiset.coe_add, hnew, hc, add_assoc]

/-- A script starts a server that no one has seen. -/
theorem Alive.startVm (ha : Alive h f) {k : Nat} {id : Bytes} {command : CreateCommand}
    (hk : f.creates[k]? = some command) (hvm : command.vm = none) (hnew : id ∉ f.seen) :
    Alive h { f with
      creates := f.creates.set k ⟨true, some id⟩
      vms := id :: f.vms
      seen := id :: f.seen } := by
  have hp : Fleet.promised { f with
      creates := f.creates.set k ⟨true, some id⟩
      vms := id :: f.vms
      seen := id :: f.seen } = id ::ₘ f.promised := by
    have hc := filterMap_eraseIdx CreateCommand.vm hk
    obtain ⟨hlt, -⟩ := List.getElem?_eq_some_iff.1 hk
    have hset := Multiset.coe_eq_coe.2
      ((List.set_perm_cons_eraseIdx hlt (⟨true, some id⟩ : CreateCommand)).filterMap
        CreateCommand.vm)
    simp only [List.filterMap_cons] at hset
    simp only [Fleet.promised, hset, hc, hvm, Option.toList_none, Multiset.coe_nil, zero_add,
      ← Multiset.cons_coe, Multiset.add_cons]
  have hfresh : id ∉ h.created.map BuilderData.id + f.promised := fun hmem =>
    hnew (ha.seen id hmem)
  refine ⟨?_, ?_, ?_, fun b hb => (ha.created b hb).imp_right (List.mem_cons_of_mem _)⟩
  · rw [hp, Multiset.add_cons]
    exact Multiset.nodup_cons.2 ⟨hfresh, ha.nodup⟩
  · rw [hp, Multiset.add_cons]
    intro v hv
    rcases Multiset.mem_cons.1 hv with rfl | hv
    · exact List.mem_cons_self ..
    · exact List.mem_cons_of_mem _ (ha.seen v hv)
  · rw [hp]
    intro v hv
    rcases Multiset.mem_cons.1 hv with rfl | hv
    · exact List.mem_cons_self ..
    · exact List.mem_cons_of_mem _ (ha.promised v hv)

/-- The server of a builder that has been given back is deleted: no other builder has it. -/
theorem Alive.deleteVm (ha : Alive h f) {builder : BuilderData} (hback : builder ∈ h.givenBack)
    (hcreated : builder ∈ h.created) :
    Alive h { f with vms := f.vms.filter (· ≠ builder.id) } := by
  obtain ⟨hids, -, hdisj⟩ := Multiset.nodup_add.1 ha.nodup
  have hmem : builder.id ∈ h.created.map BuilderData.id := Multiset.mem_map_of_mem _ hcreated
  refine ⟨ha.nodup, ha.seen, fun v hv => ?_, fun b hb => ?_⟩
  · have hne : v ≠ builder.id := fun he => Multiset.disjoint_left.1 hdisj hmem (he ▸ hv)
    exact List.mem_filter.2 ⟨ha.promised v hv, by simpa using hne⟩
  · rcases ha.created b hb with hg | hv
    · exact Or.inl hg
    · by_cases he : b.id = builder.id
      · exact Or.inl (Multiset.inj_on_of_nodup_map hids b hb builder hcreated he ▸ hback)
      · exact Or.inr (List.mem_filter.2 ⟨hv, by simpa using he⟩)

/-- **One event** of a fleet whose scripts tell the truth, when only what has been given back is
being destroyed. -/
theorem Alive.step {readJson : Bytes → Option Ptree} {out : List (Action H)} (ha : Alive h f)
    (hlate : ∀ c ∈ f.destroys, c.builder ∈ h.givenBack)
    (hback : ∀ b ∈ h.givenBack, b ∈ h.created) (hg : Launches f e) (ht : Truthful readJson f e)
    (hs : f.step readJson e = some (f', out)) : Alive (f.recorded e h) f' := by
  have heffect := Fleet.effect hs h
  generalize f.recorded e h = h' at heffect
  cases heffect with
  | quiet hf hh => exact ha.keep hf.promised hf.vms hf.seen hh
  | enter c hf hh => exact ha.enter hg hf.promised hf.vms hf.seen hh
  | createDone k launches error builder hk => exact ha.createDone hg hk
  | createRead k read exitCode command hk =>
    exact ha.keep (promised_createRead _ hk (ht.create k read exitCode command rfl hk)) rfl rfl
      (SameCreated.refl h)
  | startVm k id command hk hvm hnew => exact ha.startVm hk hvm hnew
  | deleteVm k command hk =>
    have hmem := hlate command (List.mem_of_getElem? hk)
    exact ha.deleteVm hmem (hback _ hmem)

end

theorem alive_start {launches : List ErrorCode} (hls : ∀ l ∈ launches, l = none) :
    Alive ⟨0, 0, 0, 0⟩ (Fleet.new launches : Fleet H) := by
  have h0 : Alive ⟨0, 0, 0, 0⟩ (Fleet.ofQueue ⟨[], [], [], 0⟩ : Fleet H) :=
    ⟨Multiset.nodup_zero, by simp [Fleet.promised, Fleet.ofQueue],
      by simp [Fleet.promised, Fleet.ofQueue], by simp⟩
  exact h0.enter (c := .retryCreateReserveBuilders) hls rfl rfl rfl (SameCreated.refl _)

/-! ## Runs of the site -/

/-- Every command is launched, and what the queue is told is true. -/
def Faithful (readJson : Bytes → Option Ptree) (s : Site) (e : SiteEvent) : Prop :=
  ∀ fe, e.rightEvent = some fe → Launches s.2 fe ∧ Truthful readJson s.2 fe

section
variable {readJson : Bytes → Option Ptree} {launches : List ErrorCode} {es : List SiteEvent}
  {s : Site} {tr : List SiteObs}

theorem site_kept {G : Site → SiteEvent → Prop}
    (h : (siteMachine readJson launches).Run G es s tr) :
    Kept (builderHistory (serverTrace tr)) s.1.places :=
  server_kept (site_server (K := Machine.always) (fun _ _ _ _ _ => trivial) h)

/-- The history records what the fleet does. -/
theorem site_record {G : Site → SiteEvent → Prop} {s' : Site} {e : SiteEvent} {out : List SiteObs}
    (hr : (siteMachine readJson launches).Run G es s tr)
    (hs : (siteMachine readJson launches).step s e = some (s', out)) :
    builderHistory (serverTrace (tr ++ out)) =
      match e.rightEvent with
      | some fe => s.2.recorded fe (builderHistory (serverTrace tr))
      | none => builderHistory (serverTrace tr) := by
  have hph := site_phases hr
  have hquiet : ∀ {us : List ServerObs}, events (poolTrace us) = [] →
      builderHistory (serverTrace tr ++ us) = builderHistory (serverTrace tr) := by
    intro us hus
    rw [builderHistory, poolTrace_append, events_append, hus, List.append_nil]
    rfl
  rw [serverTrace_append]
  cases (site_step_iff.1 hs).2 with
  | left e t out hnone hstep =>
    have hout : serverTrace (out.map Sum.inl) = out := Machine.getLeft_inl _
    rw [hout]
    refine hquiet ?_
    cases (server_routed hph hstep).1 with
    | apart _ ht _ _ => rw [ht]; rfl
    | queue pe _ hp _ _ _ _ => rw [poolEvent_queue hstep hp] at hnone; cases hnone
  | right fe t out hnone hstep =>
    have hout : serverTrace (out.map Sum.inr) = [] := Machine.getLeft_inr _
    rw [hout]
    exact (hquiet rfl).trans (by simp only [Joint.rightEvent, Fleet.recorded, hnone])
  | both se fe a t₁ t₂ out₁ out₂ ha₁ ha₂ hs₁ hs₂ =>
    have hout : serverTrace (out₁.map Sum.inl ++ out₂.map Sum.inr) = out₁ :=
      Machine.getLeft_append _ _
    rw [hout]
    rcases server_pool_step hph hs₁ with ⟨hnone, -⟩ | ⟨pe, hpe, hp⟩
    · rw [ha₁] at hnone
      cases hnone
    · rw [ha₁] at hpe
      cases hpe
      rw [builderHistory, poolTrace_append, events_append, events_step hp, history_snoc]
      simp only [Joint.rightEvent, Fleet.recorded, ha₂]
      rfl

theorem site_alive (hls : ∀ l ∈ launches, l = none)
    (h : (siteMachine readJson launches).Run (Faithful readJson) es s tr) :
    Alive (builderHistory (serverTrace tr)) s.2 := by
  refine Machine.Run.inv (fun _ s tr => Alive (builderHistory (serverTrace tr)) s.2) ?_ ?_ h
  · exact alive_start hls
  · intro es s tr e s' out hr ih hg hs
    have hrel := site_refines hls (hr.mono fun _ _ hg fe hfe => (hg fe hfe).1)
    have hkept := site_kept hr
    rw [site_record hr hs]
    have hlate : ∀ c ∈ s.2.destroys, c.builder ∈ (builderHistory (serverTrace tr)).givenBack := by
      intro c hc
      have hmem : c.builder ∈ s.2.destroying :=
        List.mem_append_left _ (List.mem_map_of_mem (f := DestroyCommand.builder) hc)
      exact hkept.late _ (Or.inl (Multiset.mem_coe.2 (hrel.destroys.mem_iff.2 hmem)))
    have hback : ∀ b ∈ (builderHistory (serverTrace tr)).givenBack,
        b ∈ (builderHistory (serverTrace tr)).created := by
      intro b hb
      rw [← hkept.created]
      exact Multiset.mem_add.2 (Or.inr hb)
    cases (site_step_iff.1 hs).2 with
    | left e t out hnone hstep => exact ih
    | right fe t out hnone hstep =>
      exact ih.step hlate hback (hg fe rfl).1 (hg fe rfl).2 hstep
    | both se fe a t₁ t₂ out₁ out₂ ha₁ ha₂ hs₁ hs₂ =>
      exact ih.step hlate hback (hg fe rfl).1 (hg fe rfl).2 hs₂

theorem site_distinct (hls : ∀ l ∈ launches, l = none)
    (h : (siteMachine readJson launches).Run (Faithful readJson) es s tr) :
    ((builderHistory (serverTrace tr)).created.map BuilderData.id).Nodup :=
  (Multiset.nodup_add.1 (site_alive hls h).nodup).1

/-- What has not been given back exists. -/
theorem site_exists (hls : ∀ l ∈ launches, l = none)
    (h : (siteMachine readJson launches).Run (Faithful readJson) es s tr) {b : BuilderData}
    (hb : b ∈ s.1.places.reserve + s.1.places.posted + s.1.places.held) : b.id ∈ s.2.vms := by
  have hn := site_distinct hls h
  have hcreated := (site_kept h).created
  have hin : b ∈ (builderHistory (serverTrace tr)).created := by
    rw [← hcreated]
    exact Multiset.mem_add.2 (Or.inl hb)
  refine ((site_alive hls h).created b hin).resolve_left fun hback => ?_
  rw [← hcreated, Multiset.map_add] at hn
  exact Multiset.disjoint_left.1 (Multiset.nodup_add.1 hn).2.2
    (Multiset.mem_map_of_mem _ hb) (Multiset.mem_map_of_mem _ hback)

theorem site_vmInv (hls : ∀ l ∈ launches, l = none)
    (h : (siteMachine readJson launches).Run (Faithful readJson) es s tr) : VmInv s.2 :=
  vm_inv hls (site_fleet (fun _ _ fe hg hfe => (hg fe hfe).2) h)

end

/-- **Whoever holds a builder holds a server that exists.** While every command can be launched and
the scripts tell the truth: the builders created have distinct ids, the servers of the builders in
reserve, on their way to a client and with a client exist, and no server exists that the queue does not
know of. -/
theorem builders_alive {readJson : Bytes → Option Ptree} {launches : List ErrorCode}
    (hls : ∀ l ∈ launches, l = none) {es : List SiteEvent} {s : Site} {tr : List SiteObs}
    (h : (siteMachine readJson launches).Run (Faithful readJson) es s tr) :
    ((builderHistory (serverTrace tr)).created.map BuilderData.id).Nodup ∧
    (∀ b, b ∈ s.2.queue.reserveBuilders ∨ b ∈ s.2.posted.map Prod.snd ∨
      b ∈ held s.1.connections → b.id ∈ s.2.vms) ∧
    (∀ v ∈ s.2.vms, s.2.accounted v) := by
  have hrel := site_refines hls (h.mono fun _ _ hg fe hfe => (hg fe hfe).1)
  refine ⟨site_distinct hls h, fun b hb => site_exists hls h ?_, (site_vmInv hls h).accounted⟩
  simp only [Server.places, Pool.places, Multiset.mem_add, Multiset.mem_coe, hrel.queue,
    (hrel.posted.map Prod.snd).mem_iff, or_assoc]
  exact hb

/-- Decides `Faithful`. -/
def faithful (readJson : Bytes → Option Ptree) (s : Site) (e : SiteEvent) : Bool :=
  match e.rightEvent with
  | some fe => decide (∀ l ∈ fe.launches, l = none) && truthful readJson s.2 fe
  | none => true

theorem faithful_sound {readJson : Bytes → Option Ptree} {s : Site} {e : SiteEvent}
    (h : faithful readJson s e = true) : Faithful readJson s e := by
  intro fe hfe
  simp only [faithful, hfe, Bool.and_eq_true, decide_eq_true_eq] at h
  exact ⟨h.1, truthful_sound h.2⟩

/-- A server is started, its builder goes to a client, and another server is being started. -/
def clientEvents : List SiteEvent :=
  [.right (.startVm 0 (ascii "a")), .right (.createRead 0 (.eof (serverJson "a")) 0),
    .right .processExits, .both (.queue (.createDone none (server "a") false)) (.createDone 0 []),
    .left .accept, .left (.handshakeDone 0 none),
    .both (.requestRead 0 none (ascii "checkout_builder_request") none) (.checkoutBuilder 0 []),
    .right (.startVm 3 (ascii "b")), .both (.builderReady 0 (server "a")) (.runHandler 0),
    .left (.builderWritten 0 (server "a") none)]

theorem builders_alive_run :
    ∃ s tr, (siteMachine readServers []).Run (Faithful readServers) clientEvents s tr ∧
      held s.1.connections = {server "a"} ∧ s.2.vms = [ascii "b", ascii "a"] ∧
      ∀ b ∈ held s.1.connections, b.id ∈ s.2.vms :=
  have hrun := Machine.exec_run (M := siteMachine readServers []) (G := Faithful readServers)
    (g := faithful readServers) (fun _ _ h => faithful_sound h) clientEvents rfl
  ⟨_, _, hrun, rfl, rfl, fun b hb => (builders_alive (by simp) hrun).2.1 b (Or.inr (Or.inr hb))⟩

end ContainerBuilder
