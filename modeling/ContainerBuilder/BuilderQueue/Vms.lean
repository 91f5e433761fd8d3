import Mathlib.Data.List.Perm.Basic
import ContainerBuilder.BuilderQueue.Stall

/-!
# Which servers the queue knows of

A server costs money and counts against the quota until `destroy-builder.sh` has deleted it, so the
queue must not lose sight of one. Two of its beliefs come without evidence. A create request whose
output cannot be read or parsed counts as not having created anything, although its script may have
started a server (`OpenStack.h:45-50`, `:87-91`); and a `destroy` whose pipe reached eof counts as done
although the script may have failed, or never have been launched: the exit code is only logged
(`:133-148`). `vms_accounted` says that these, and launches that fail, are the only ways to lose one.
-/

namespace ContainerBuilder

open Lib

variable {H : Type}

/-- The server `v` is in reserve, active, or belongs to a create request in flight. -/
def Fleet.accounted (s : Fleet H) (v : Bytes) : Prop :=
  v ∈ ids s.queue.reserveBuilders ∨ v ∈ ids s.queue.activeBuilders ∨
  (∃ c ∈ s.creates, c.vm = some v) ∨ ∃ b, (none, b) ∈ s.createDones ∧ b.id = v

/-- The server a run of `create-builder.sh` is taken to have started. -/
def PipeRead.names (readJson : Bytes → Option Ptree) : PipeRead → Option Bytes
  | .eof output => (builderOf readJson output).map BuilderData.id
  | .error _ => none

/-- The launches of `create-builder.sh` succeed, and what the queue is told is true: a create
request names the server that its script has started, and none if there is none, and a destroy
whose pipe reached eof has deleted its server. -/
structure Truthful (readJson : Bytes → Option Ptree) (s : Fleet H) (e : FleetEvent H) : Prop where
  launch : CreatesLaunch s e
  create : ∀ k read exitCode command, e = .createRead k read exitCode →
    s.creates[k]? = some command → read.names readJson = command.vm
  destroy : ∀ k output exitCode command, e = .destroyRead k (.eof output) exitCode →
    s.destroys[k]? = some command → command.builder.id ∉ s.vms

/-! ## The invariant -/

/-- Builders on their way out. -/
def Fleet.leaving (s : Fleet H) : List BuilderData :=
  s.destroys.map DestroyCommand.builder ++ s.destroyDones.map Prod.fst ++ s.returnTimers

/-- Builders that handlers are given or have. -/
def Fleet.given (s : Fleet H) : List BuilderData := s.posted.map Prod.snd ++ s.held

structure VmInv (s : Fleet H) : Prop where
  nodup : s.vms.Nodup
  accounted : ∀ v ∈ s.vms, s.accounted v
  known : ∀ v, s.accounted v → v ∈ s.seen
  leaving : ∀ b ∈ s.leaving, b.id ∈ s.seen
  given : ∀ b ∈ s.given, b.id ∈ s.seen
  gone : ∀ b, (b, none) ∈ s.destroyDones → b.id ∉ s.vms

theorem accounted_iff {s : Fleet H} {v : Bytes} :
    s.accounted v ↔ (∃ b, s.queue.has b ∧ b.id = v) ∨ (∃ c ∈ s.creates, c.vm = some v) ∨
      ∃ b, (none, b) ∈ s.createDones ∧ b.id = v := by
  simp only [Fleet.accounted, ids, List.mem_map, BuilderQueue.has, or_and_right, exists_or, or_assoc]

theorem mem_eraseIdx_iff {α : Type} {l : List α} {k : Nat} {a : α} (h : l[k]? = some a) (x : α) :
    x ∈ l ↔ x = a ∨ x ∈ l.eraseIdx k := by
  obtain ⟨hk, rfl⟩ := List.getElem?_eq_some_iff.1 h
  rw [← List.mem_cons]
  exact (List.getElem_cons_eraseIdx_perm hk).mem_iff.symm

theorem mem_set_iff {α : Type} {l : List α} {k : Nat} {a a' : α} (h : l[k]? = some a) (x : α) :
    x ∈ l.set k a' ↔ x = a' ∨ x ∈ l.eraseIdx k := by
  obtain ⟨hk, -⟩ := List.getElem?_eq_some_iff.1 h
  rw [← List.mem_cons]
  exact (List.set_perm_cons_eraseIdx hk a').mem_iff

/-! ## What a callback starts -/

section start
variable (ls : List ErrorCode) (as : List (Action H)) (s : Fleet H)

/-- What is leaving after a callback. -/
theorem mem_leaving_start (b : BuilderData) :
    b ∈ (Fleet.start ls as s).leaving ↔ b ∈ s.leaving ∨ b ∈ destroyed as ∨ b ∈ returnTimers as := by
  induction as generalizing ls s with
  | nil => simp [Fleet.start, destroyed, returnTimers]
  | cons a as ih =>
    cases a with
    | check q => exact ih ls s
    | post handler builder => exact ih ls _
    | requestCreate =>
      rw [Fleet.start, ih]
      have hl : (s.requestCreate (ls.headD none)).leaving = s.leaving := by
        cases ls.headD none <;> rfl
      rw [hl]
      rfl
    | destroy builder =>
      have hd : destroyed (.destroy builder :: as) = builder :: destroyed as := rfl
      have ht : returnTimers (.destroy builder :: as) = returnTimers as := rfl
      rw [Fleet.start, ih, hd, ht]
      cases ls.headD none <;> simp [Fleet.leaving, Fleet.destroy] <;> grind
    | returnTimer builder =>
      have hd : destroyed (.returnTimer builder :: as) = destroyed as := rfl
      have ht : returnTimers (.returnTimer builder :: as) = builder :: returnTimers as := rfl
      rw [Fleet.start, ih, hd, ht]
      simp [Fleet.leaving]
      grind
    | createTimer => exact ih ls _

/-- Who is given a builder after a callback. -/
theorem mem_given_start (b : BuilderData) :
    b ∈ (Fleet.start ls as s).given ↔ b ∈ s.given ∨ ∃ handler, (handler, b) ∈ posted as := by
  induction as generalizing ls s with
  | nil => simp [Fleet.start]
  | cons a as ih =>
    cases a with
    | check q => exact ih ls s
    | post handler builder =>
      rw [Fleet.start, ih]
      simp only [Fleet.given, posted_post, List.map_append, List.map_cons, List.map_nil,
        List.mem_append, List.mem_cons, List.not_mem_nil, or_false, Prod.mk.injEq, exists_or]
      grind
    | requestCreate =>
      rw [Fleet.start, ih]
      have hg : (s.requestCreate (ls.headD none)).given = s.given := by
        cases ls.headD none <;> rfl
      rw [hg]
      rfl
    | destroy builder =>
      rw [Fleet.start, ih]
      have hg : (s.destroy builder (ls.headD none)).given = s.given := by
        cases ls.headD none <;> rfl
      rw [hg]
      rfl
    | returnTimer builder => exact ih ls _
    | createTimer => exact ih ls _

/-- No callback reports a destruction that has succeeded. -/
theorem mem_destroyDones_start (b : BuilderData) :
    (b, none) ∈ (Fleet.start ls as s).destroyDones ↔ (b, none) ∈ s.destroyDones := by
  induction as generalizing ls s with
  | nil => rfl
  | cons a as ih =>
    cases a with
    | check q => exact ih ls s
    | post handler builder => exact ih ls _
    | requestCreate =>
      rw [Fleet.start, ih]
      cases ls.headD none <;> rfl
    | destroy builder =>
      rw [Fleet.start, ih]
      cases ls.headD none <;> simp [Fleet.destroy]
    | returnTimer builder => exact ih ls _
    | createTimer => exact ih ls _

end start

section enter
variable {c : Callback H} {ls : List ErrorCode} {s : Fleet H}

theorem enter_accounted (hls : requests (c.run s.queue).actions = 0 ∨ ∀ l ∈ ls, l = none)
    (v : Bytes) : (s.enter c ls).1.accounted v ↔
      (∃ b, (c.run s.queue).queue.has b ∧ b.id = v) ∨ (∃ c ∈ s.creates, c.vm = some v) ∨
        ∃ b, (none, b) ∈ s.createDones ∧ b.id = v := by
  have hq : (s.enter c ls).1.queue = (c.run s.queue).queue := (Fleet.enter_frame s c ls).queue
  obtain ⟨hc, hd⟩ : (s.enter c ls).1.creates = s.creates ++ _ ∧ _ = s.createDones :=
    start_creates ls _ _ hls
  rw [accounted_iff, hq, hc]
  -- the new requests have not started a server yet
  simp only [List.mem_append, List.mem_replicate, or_and_right, exists_or, Fleet.enter, hd]
  simp

theorem enter_leaving (b : BuilderData) :
    b ∈ (s.enter c ls).1.leaving ↔ b ∈ s.leaving ∨ b ∈ c.destroys ∨ b ∈ c.putsOff := by
  have h := mem_leaving_start ls (c.run s.queue).actions { s with queue := (c.run s.queue).queue } b
  rw [run_destroyed, run_returnTimers] at h
  exact h

/-- Who is given a builder by a callback is given an active one. -/
theorem enter_given {b : BuilderData} (hb : b ∈ (s.enter c ls).1.given) :
    b ∈ s.given ∨ b ∈ (s.enter c ls).1.queue.activeBuilders := by
  have h := (mem_given_start ls (c.run s.queue).actions { s with queue := (c.run s.queue).queue }
    b).1 hb
  refine h.imp_right fun ⟨handler, hposted⟩ => ?_
  rw [(Fleet.enter_frame s c ls).queue]
  exact active_of_mem_posted hposted

/-- A callback that does not change what the queue has, when `s₁` is what is left of `s`. -/
theorem VmInv.enter {s₁ : Fleet H} (h : VmInv s)
    (hls : requests (c.run s₁.queue).actions = 0 ∨ ∀ l ∈ ls, l = none)
    (hvms : s₁.vms = s.vms) (hseen : s₁.seen = s.seen)
    (hacc : ∀ v ∈ s.vms, s.accounted v → (∃ b, (c.run s₁.queue).queue.has b ∧ b.id = v) ∨
      (∃ c ∈ s₁.creates, c.vm = some v) ∨ ∃ b, (none, b) ∈ s₁.createDones ∧ b.id = v)
    (hknown : ∀ v, ((∃ b, (c.run s₁.queue).queue.has b ∧ b.id = v) ∨
      (∃ c ∈ s₁.creates, c.vm = some v) ∨ ∃ b, (none, b) ∈ s₁.createDones ∧ b.id = v) →
      s.accounted v)
    (hleave : ∀ b, b ∈ s₁.leaving ∨ b ∈ c.destroys ∨ b ∈ c.putsOff →
      b ∈ s.leaving ∨ s.accounted b.id ∨ b ∈ s.given)
    (hgiven : ∀ b ∈ s₁.given, b ∈ s.given)
    (hgone : ∀ b, (b, none) ∈ s₁.destroyDones → (b, none) ∈ s.destroyDones) :
    VmInv (s₁.enter c ls).1 := by
  have hv : (s₁.enter c ls).1.vms = s₁.vms := (Fleet.enter_frame s₁ c ls).vms
  have hs : (s₁.enter c ls).1.seen = s₁.seen := (Fleet.enter_frame s₁ c ls).seen
  have hseen' : ∀ v, (s₁.enter c ls).1.accounted v → v ∈ s.seen := fun v ha =>
    h.known v (hknown v ((enter_accounted hls v).1 ha))
  refine ⟨?_, fun v hmem => ?_, fun v ha => ?_, fun b hb => ?_, fun b hb => ?_, fun b hb => ?_⟩
  · rw [hv, hvms]; exact h.nodup
  · rw [hv, hvms] at hmem
    rw [enter_accounted hls]
    exact hacc v hmem (h.accounted v hmem)
  · rw [hs, hseen]
    exact hseen' v ha
  · rw [hs, hseen]
    rcases hleave b ((enter_leaving b).1 hb) with hb | ha | hb
    · exact h.leaving b hb
    · exact h.known _ ha
    · exact h.given b hb
  · rw [hs, hseen]
    rcases enter_given hb with hb | hb
    · exact h.given b (hgiven b hb)
    · exact hseen' b.id (Or.inr (Or.inl (mem_ids_of_mem hb)))
  · rw [hv, hvms]
    have hb' := (mem_destroyDones_start ls (c.run s₁.queue).actions
      { s₁ with queue := (c.run s₁.queue).queue } b).1 hb
    exact h.gone b (hgone b hb')

/-- A callback after which the queue has the builders it had; `s₁` is `s` but for the timers. -/
theorem VmInv.enter_same {s₁ : Fleet H} (h : VmInv s)
    (hls : requests (c.run s₁.queue).actions = 0 ∨ ∀ l ∈ ls, l = none)
    (hhas : ∀ b, (c.run s₁.queue).queue.has b ↔ s.queue.has b)
    (hvms : s₁.vms = s.vms) (hseen : s₁.seen = s.seen) (hcreates : s₁.creates = s.creates)
    (hdones : s₁.createDones = s.createDones) (hdestroyed : s₁.destroyDones = s.destroyDones)
    (hgiven : ∀ b ∈ s₁.given, b ∈ s.given)
    (hleave : ∀ b, b ∈ s₁.leaving ∨ b ∈ c.destroys ∨ b ∈ c.putsOff →
      b ∈ s.leaving ∨ s.accounted b.id ∨ b ∈ s.given) : VmInv (s₁.enter c ls).1 := by
  refine h.enter hls hvms hseen (fun v _ ha => ?_) (fun v ha => ?_) hleave hgiven fun b hb =>
    hdestroyed ▸ hb
  · simpa only [hhas, hcreates, hdones] using accounted_iff.1 ha
  · exact accounted_iff.2 (by simpa only [hhas, hcreates, hdones] using ha)

end enter

/-- What a posted result says agrees with what the output names. -/
theorem createResult_names {readJson : Bytes → Option Ptree} {read : PipeRead} {v : Bytes} :
    (∃ b, createResult readJson read = (none, b) ∧ b.id = v) ↔ read.names readJson = some v := by
  cases read with
  | error value => simp [createResult, PipeRead.names]
  | eof output =>
    simp only [createResult, PipeRead.names]
    cases builderOf readJson output <;> simp

/-! ## One event -/

section events
variable {readJson : Bytes → Option Ptree} {s : Fleet H} {k : Nat} (h : VmInv s)
include h

theorem VmInv.createRead {read : PipeRead} {command : CreateCommand} (waiting : Bool)
    (hk : s.creates[k]? = some command) (hnames : read.names readJson = command.vm) :
    VmInv { s with
      creates := s.creates.eraseIdx k
      createDones := s.createDones ++ [createResult readJson read]
      waiting := waiting } := by
  have hacc : ∀ v, Fleet.accounted { s with
      creates := s.creates.eraseIdx k
      createDones := s.createDones ++ [createResult readJson read]
      waiting := waiting } v ↔ s.accounted v := by
    intro v
    simp only [Fleet.accounted, List.mem_append, List.mem_singleton, mem_eraseIdx_iff hk,
      or_and_right, exists_or, exists_eq_left, ← hnames, ← createResult_names]
    simp only [eq_comm (a := createResult readJson read)]
    grind
  exact ⟨h.nodup, fun v hv => (hacc v).2 (h.accounted v hv),
    fun v hv => h.known v ((hacc v).1 hv), h.leaving, h.given, h.gone⟩

/-- The builder of a create request that has succeeded joins the reserve. -/
theorem VmInv.createDone {error : ErrorCode} {builder : BuilderData} {ls : List ErrorCode}
    (hls : ∀ l ∈ ls, l = none) (hk : s.createDones[k]? = some (error, builder)) :
    VmInv (({ s with createDones := s.createDones.eraseIdx k } : Fleet H).enter
      (.createDone error builder) ls).1 := by
  refine h.enter (Or.inr hls) rfl rfl (fun v _ ha => ?_) (fun v ha => ?_)
    (fun b hb => Or.inl ?_) (fun b hb => hb) fun b hb => hb
  · rw [accounted_iff] at ha
    simp only [mem_eraseIdx_iff hk] at ha
    cases error <;> simp only [has_run] <;> grind
  · rw [accounted_iff]
    simp only [mem_eraseIdx_iff hk]
    cases error <;> simp only [has_run] at ha <;> grind
  · simpa [Callback.destroys, Callback.putsOff, Fleet.leaving] using hb

theorem VmInv.destroyRead {read : PipeRead} {command : DestroyCommand} (waiting : Bool)
    (hk : s.destroys[k]? = some command)
    (hgone : ∀ output, read = .eof output → command.builder.id ∉ s.vms) :
    VmInv { s with
      destroys := s.destroys.eraseIdx k
      destroyDones := s.destroyDones ++ [(command.builder, destroyResult read)]
      waiting := waiting } := by
  refine ⟨h.nodup, h.accounted, h.known, fun b hb => h.leaving b ?_, h.given, fun b hb => ?_⟩
  · have hmem : command ∈ s.destroys := List.mem_of_getElem? hk
    have hsub : ∀ d, d ∈ s.destroys.eraseIdx k → d ∈ s.destroys :=
      fun d hd => List.mem_of_mem_eraseIdx hd
    simp only [Fleet.leaving, List.mem_append, List.mem_map, List.map_append, List.map_cons,
      List.map_nil, List.mem_singleton] at hb ⊢
    grind
  · simp only [List.mem_append, List.mem_singleton, Prod.mk.injEq] at hb
    rcases hb with hb | ⟨rfl, hr⟩
    · exact h.gone b hb
    · cases read with
      | error value => cases hr
      | eof output => exact hgone output rfl

/-- The builder of a destroy that has succeeded leaves the queue, and its server is gone. -/
theorem VmInv.destroyDone {error : ErrorCode} {builder : BuilderData} {ls : List ErrorCode}
    (hls : ∀ l ∈ ls, l = none) (hk : s.destroyDones[k]? = some (builder, error)) :
    VmInv (({ s with destroyDones := s.destroyDones.eraseIdx k } : Fleet H).enter
      (.destroyDone builder error) ls).1 := by
  have hmem : (builder, error) ∈ s.destroyDones := List.mem_of_getElem? hk
  refine h.enter (Or.inr hls) rfl rfl (fun v hv ha => ?_) (fun v ha => ?_)
    (fun b hb => Or.inl ?_) (fun b hb => hb) fun b hb => List.mem_of_mem_eraseIdx hb
  · rw [accounted_iff] at ha
    cases error with
    | some w => simpa only [has_run] using ha
    | none =>
      -- the server that goes is not the one of `v`
      have hne : builder.id ≠ v := fun he => h.gone builder hmem (he ▸ hv)
      simp only [has_run]
      simp only [BuilderQueue.has] at ha ⊢
      grind
  · rw [accounted_iff]
    cases error with
    | some w => simpa only [has_run] using ha
    | none =>
      simp only [has_run] at ha
      simp only [BuilderQueue.has] at ha ⊢
      grind
  · have hin : builder ∈ s.destroyDones.map Prod.fst := List.mem_map_of_mem (f := Prod.fst) hmem
    have hsub : ∀ d, d ∈ (s.destroyDones.eraseIdx k).map Prod.fst →
        d ∈ s.destroyDones.map Prod.fst :=
      fun d hd => List.map_subset _ (List.eraseIdx_subset) hd
    simp only [Fleet.leaving, List.mem_append, Callback.destroys, List.not_mem_nil,
      false_or] at hb ⊢
    cases error with
    | none =>
      simp only [Callback.putsOff, List.not_mem_nil, or_false] at hb
      grind
    | some w =>
      simp only [Callback.putsOff, List.mem_singleton] at hb
      grind

/-- A new server belongs to the create request whose script has started it. -/
theorem VmInv.startVm {id : Bytes} {command : CreateCommand} (hk : s.creates[k]? = some command)
    (hvm : command.vm = none) (hnew : id ∉ s.seen) :
    VmInv { s with
      creates := s.creates.set k ⟨true, some id⟩
      vms := id :: s.vms
      seen := id :: s.seen } := by
  have hvms : ∀ v ∈ s.vms, v ∈ s.seen := fun v hv => h.known v (h.accounted v hv)
  have hacc : ∀ v, Fleet.accounted { s with
      creates := s.creates.set k ⟨true, some id⟩
      vms := id :: s.vms
      seen := id :: s.seen } v ↔ v = id ∨ s.accounted v := by
    intro v
    simp only [Fleet.accounted, mem_set_iff hk, mem_eraseIdx_iff hk, or_and_right, exists_or,
      exists_eq_left, hvm, Option.some.injEq, reduceCtorEq, false_or, eq_comm (a := id)]
    grind
  refine ⟨List.nodup_cons.2 ⟨fun hid => hnew (hvms id hid), h.nodup⟩, fun v hv => ?_,
    fun v hv => ?_, fun b hb => List.mem_cons_of_mem _ (h.leaving b hb),
    fun b hb => List.mem_cons_of_mem _ (h.given b hb), fun b hb hid => ?_⟩
  · rw [hacc]
    exact (List.mem_cons.1 hv).imp_right (h.accounted v)
  · rw [hacc] at hv
    exact List.mem_cons.2 (hv.imp_right (h.known v))
  · rcases List.mem_cons.1 hid with hid | hid
    · have hl : b ∈ s.leaving := by
        simp only [Fleet.leaving, List.mem_append]
        exact Or.inl (Or.inr (List.mem_map_of_mem (f := Prod.fst) hb))
      exact hnew (hid ▸ h.leaving b hl)
    · exact h.gone b hb hid

/-- A builder is given back by the handler that has it. -/
theorem VmInv.returnBuilder {builder : BuilderData} (ls : List ErrorCode) (hb : builder ∈ s.held) :
    VmInv (({ s with held := s.held.erase builder } : Fleet H).enter
      (.returnBuilder builder) ls).1 := by
  refine h.enter_same (Or.inl rfl) (fun b => by simp only [has_run]) rfl rfl rfl rfl rfl
    (fun b hmem => ?_) fun b hmem => ?_
  · rcases List.mem_append.1 hmem with hposted | hheld
    · exact List.mem_append_left _ hposted
    · exact List.mem_append_right _ (List.mem_of_mem_erase hheld)
  · simp only [Callback.destroys, Callback.putsOff, List.mem_singleton, List.not_mem_nil,
      or_false] at hmem
    rcases hmem with hmem | rfl
    · exact Or.inl hmem
    · exact Or.inr (Or.inr (List.mem_append_right _ hb))

/-- A handler that is given a builder has it from then on. -/
theorem VmInv.runHandler {handler : H} {builder : BuilderData}
    (hk : s.posted[k]? = some (handler, builder)) :
    VmInv { s with posted := s.posted.eraseIdx k, held := builder :: s.held } := by
  refine ⟨h.nodup, h.accounted, h.known, h.leaving, fun b hb => h.given b ?_, h.gone⟩
  have hmem : builder ∈ s.posted.map Prod.snd :=
    List.mem_map_of_mem (f := Prod.snd) (List.mem_of_getElem? hk)
  simp only [Fleet.given, List.mem_append, List.mem_cons] at hb ⊢
  rcases hb with hposted | rfl | hheld
  · exact Or.inl (List.map_subset _ (List.eraseIdx_subset) hposted)
  · exact Or.inl hmem
  · exact Or.inr hheld

theorem VmInv.retryReturnBuilder {builder : BuilderData} (ls : List ErrorCode)
    (hk : s.returnTimers[k]? = some builder) :
    VmInv (({ s with returnTimers := s.returnTimers.eraseIdx k } : Fleet H).enter
      (.retryReturnBuilder builder) ls).1 := by
  have hmem : builder ∈ s.returnTimers := List.mem_of_getElem? hk
  have hsub : ∀ d, d ∈ s.returnTimers.eraseIdx k → d ∈ s.returnTimers :=
    fun d hd => List.mem_of_mem_eraseIdx hd
  refine h.enter_same (Or.inl rfl) (fun b => by simp only [has_run]) rfl rfl rfl rfl rfl
    (fun b hb => hb) fun b hb => Or.inl ?_
  simp only [Fleet.leaving, List.mem_append, Callback.destroys, Callback.putsOff,
    List.mem_singleton, List.not_mem_nil, or_false] at hb ⊢
  grind

end events

/-- **One event** of a run in which the scripts tell the truth keeps the invariant. -/
theorem vmInv_step {readJson : Bytes → Option Ptree} {s s' : Fleet H} {e : FleetEvent H}
    {out : List (Action H)} (h : VmInv s) (hg : Truthful readJson s e)
    (hs : s.step readJson e = some (s', out)) : VmInv s' := by
  cases Fleet.step_rule hs with
  | checkoutBuilder handler launches =>
    exact h.enter_same (Or.inr hg.launch) (fun b => by simp only [has_run]) rfl rfl rfl rfl rfl
      (fun b hb => hb) fun b hb => Or.inl (by simpa [Callback.destroys, Callback.putsOff] using hb)
  | returnBuilder builder launch s₁ hb hs₁ =>
    subst hs₁
    exact h.returnBuilder _ hb
  | runHandler k handler builder hk => exact h.runHandler hk
  | createRead k read exitCode command hk hread =>
    exact h.createRead _ hk (hg.create k read exitCode command rfl hk)
  | createDone k launches error builder s₁ hk hs₁ =>
    subst hs₁
    exact h.createDone hg.launch hk
  | destroyRead k read exitCode command hk hread hgone =>
    refine h.destroyRead _ hk fun output heof => ?_
    subst heof
    exact hg.destroy k output exitCode command rfl hk
  | destroyDone k launches builder error s₁ hk hs₁ =>
    subst hs₁
    exact h.destroyDone hg.launch hk
  | retryReturnBuilder k launch builder s₁ hk hs₁ =>
    subst hs₁
    exact h.retryReturnBuilder _ hk
  | retryCreateReserveBuilders launches s₁ hpos hs₁ =>
    subst hs₁
    exact h.enter_same (Or.inr hg.launch) (fun b => by simp only [has_run]) rfl rfl rfl rfl rfl
      (fun b hb => hb)
      fun b hb => Or.inl (by simpa [Callback.destroys, Callback.putsOff, Fleet.leaving] using hb)
  | processExits hw => exact ⟨h.nodup, h.accounted, h.known, h.leaving, h.given, h.gone⟩
  | startVm k id command hk hlaunched hvm hnew => exact h.startVm hk hvm hnew
  | deleteVm k command hk hlaunched =>
    exact ⟨h.nodup.filter _, fun v hv => h.accounted v (List.mem_of_mem_filter hv), h.known,
      h.leaving, h.given, fun b hb hid => h.gone b hb (List.mem_of_mem_filter hid)⟩

/-! ## Runs -/

theorem vmInv_start (launches : List ErrorCode) (hls : ∀ l ∈ launches, l = none) :
    VmInv (Fleet.new launches : Fleet H) := by
  have h0 : VmInv (Fleet.ofQueue ⟨[], [], [], 0⟩ : Fleet H) := by
    refine ⟨List.nodup_nil, ?_, ?_, ?_, ?_, ?_⟩
    all_goals simp [Fleet.ofQueue, Fleet.accounted, Fleet.leaving, Fleet.given]
  have henter : (Fleet.new launches : Fleet H) =
      ((Fleet.ofQueue ⟨[], [], [], 0⟩ : Fleet H).enter .retryCreateReserveBuilders launches).1 := rfl
  rw [henter]
  refine h0.enter_same (Or.inr hls) (fun b => by simp only [has_run]) rfl rfl rfl rfl rfl
    (fun b hb => hb) fun b hb => ?_
  simp [Callback.destroys, Callback.putsOff, Fleet.leaving, Fleet.ofQueue] at hb

theorem vm_inv {readJson : Bytes → Option Ptree} {launches : List ErrorCode}
    (hls : ∀ l ∈ launches, l = none) {es : List (FleetEvent H)} {s : Fleet H}
    {tr : List (Action H)}
    (h : (fleetMachine H readJson launches).Run (Truthful readJson) es s tr) : VmInv s :=
  Machine.Run.inv (fun _ s _ => VmInv s) (vmInv_start launches hls)
    (fun _ _ _ _ _ _ _ ih hg hs => vmInv_step ih hg hs) h

/-- Everything that may account for a server. -/
def Fleet.books (s : Fleet H) : List Bytes :=
  ids s.queue.reserveBuilders ++ ids s.queue.activeBuilders ++ s.creates.filterMap CreateCommand.vm ++
    s.createDones.map fun r => r.2.id

theorem mem_books {s : Fleet H} {v : Bytes} (h : s.accounted v) : v ∈ s.books := by
  simp only [Fleet.books, List.mem_append, List.mem_filterMap, List.mem_map]
  rcases h with h | h | h | ⟨b, hb, rfl⟩
  · exact Or.inl (Or.inl (Or.inl h))
  · exact Or.inl (Or.inl (Or.inr h))
  · exact Or.inl (Or.inr h)
  · exact Or.inr ⟨_, hb, rfl⟩

/-- **No server is forgotten** while the queue is told the truth and can launch its scripts: each
server is in reserve, active or belongs to a create request in flight, and there are never more than
the maximum. -/
theorem vms_accounted {readJson : Bytes → Option Ptree} {launches : List ErrorCode}
    (hls : ∀ l ∈ launches, l = none) {es : List (FleetEvent H)} {s : Fleet H}
    {tr : List (Action H)}
    (h : (fleetMachine H readJson launches).Run (Truthful readJson) es s tr) :
    (∀ v ∈ s.vms, s.accounted v) ∧ s.vms.length ≤ maxBuilderCount := by
  have hv := vm_inv hls h
  have hl := (fleet_inv hls (h.mono fun _ _ hg => hg.launch)).ledger
  refine ⟨hv.accounted, ?_⟩
  have hsub : s.vms ⊆ s.books := fun v hmem => mem_books (hv.accounted v hmem)
  have hlen := (List.subperm_of_subset hv.nodup hsub).length_le
  have hcr := List.length_filterMap_le CreateCommand.vm s.creates
  have ht := hl.total
  simp only [Fleet.books, ids, List.length_append, List.length_map] at hlen
  simp only [Fleet.outstanding] at ht
  omega

/-! ## Two runs -/

/-- What `create-builder.sh` prints about the server `id`. -/
def serverJson (id : String) : Bytes :=
  ascii "\x7b\"addresses\": \"net=10.0.0.1\", \"id\": \"" ++ ascii id ++ ascii "\"\x7d"

/-- The tree of that text. -/
def serverTree (id : String) : Ptree :=
  .node [] [(ascii "addresses", .node (ascii "net=10.0.0.1") []), (ascii "id", .node (ascii id) [])]

/-- `read_json` for the texts of two servers and the empty one. -/
def readServers (output : Bytes) : Option Ptree :=
  if output = serverJson "a" then some (serverTree "a")
  else if output = serverJson "b" then some (serverTree "b")
  else none

def server (id : String) : BuilderData := ⟨ascii "10.0.0.1", ascii "8080", ascii id⟩

example : builderOf readServers (serverJson "b") = some (server "b") := by decide

/-- Decides `Truthful`. -/
def truthful (readJson : Bytes → Option Ptree) (s : Fleet H) (e : FleetEvent H) : Bool :=
  e.createLaunches.all (·.isNone) &&
  match e with
  | .createRead k read _ =>
    match s.creates[k]? with
    | some command => read.names readJson == command.vm
    | none => true
  | .destroyRead k (.eof _) _ =>
    match s.destroys[k]? with
    | some command => !s.vms.contains command.builder.id
    | none => true
  | _ => true

theorem truthful_sound {readJson : Bytes → Option Ptree} {s : Fleet H} {e : FleetEvent H}
    (h : truthful readJson s e = true) : Truthful readJson s e := by
  unfold truthful at h
  rw [Bool.and_eq_true] at h
  refine ⟨fun l hl => ?_, ?_, ?_⟩
  · have := List.all_eq_true.1 h.1 l hl
    simpa using this
  · rintro k read exitCode command rfl hk
    have := h.2
    simp only [hk] at this
    exact eq_of_beq this
  · rintro k output exitCode command rfl hk
    have := h.2
    simp only [hk] at this
    simpa using this

/-- A server that is used and deleted, and one that is being started. -/
theorem vms_accounted_run :
    ∃ s tr, (fleetMachine Nat readServers []).Run (Truthful readServers)
        [.startVm 0 (ascii "a"), .createRead 0 (.eof (serverJson "a")) 0, .processExits,
          .createDone 0 [], .checkoutBuilder 7 [], .runHandler 0,
          .returnBuilder (server "a") none, .startVm 4 (ascii "b"), .deleteVm 0,
          .destroyRead 0 (.eof []) 0, .processExits, .destroyDone 0 []] s tr ∧
      s.vms = [ascii "b"] ∧ ∀ v ∈ s.vms, s.accounted v :=
  have hrun := Machine.exec_run (M := fleetMachine Nat readServers [])
    (G := Truthful readServers) (g := truthful readServers) (fun _ _ h => truthful_sound h)
    [.startVm 0 (ascii "a"), .createRead 0 (.eof (serverJson "a")) 0, .processExits,
      .createDone 0 [], .checkoutBuilder 7 [], .runHandler 0, .returnBuilder (server "a") none,
      .startVm 4 (ascii "b"), .deleteVm 0, .destroyRead 0 (.eof []) 0, .processExits,
      .destroyDone 0 []] rfl
  ⟨_, _, hrun, rfl, (vms_accounted (by simp) hrun).1⟩

/-- `destroy-builder.sh` fails: its builder leaves the queue and the server stays. -/
theorem failed_destroy_forgets :
    ∃ es s tr, (fleetMachine Nat readServers []).Run CreatesLaunch es s tr ∧
      ascii "a" ∈ s.vms ∧ ¬ s.accounted (ascii "a") := by
  have hrun := Machine.exec_run (M := fleetMachine Nat readServers []) (G := CreatesLaunch)
    (g := fun _ e => decide (∀ l ∈ e.createLaunches, l = none))
    (fun _ _ h => by simpa [CreatesLaunch] using h)
    [.startVm 0 (ascii "a"), .createRead 0 (.eof (serverJson "a")) 0, .processExits,
      .createDone 0 [], .checkoutBuilder 7 [], .runHandler 0, .returnBuilder (server "a") none,
      .destroyRead 0 (.eof []) 1, .processExits, .destroyDone 0 []] rfl
  refine ⟨_, _, _, hrun, by decide, fun h => ?_⟩
  have := mem_books h
  revert this
  decide

end ContainerBuilder
