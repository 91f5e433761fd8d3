import ContainerBuilder.Client.Queries
import ContainerBuilder.Lib.Machine
import ContainerBuilder.Lib.Terminal

/-!
# The animation of a client that waits (`Client/include/WaitingAnimation.h`)

While a client waits, a thread of its own draws dots behind a message. What stops it resets a flag,
joins the thread and replaces the dots by how the wait has ended. The thread looks at the flag before
each of three frames, so it may draw one more; `animation_line` says that whatever it has drawn by
then, the line that stays has no trace of it.

| here | there |
| --- | --- |
| `animationMachine`  | the constructor (`:14-26`), and the calls and steps after it |
| `AnimationStep`     | the loop of the thread (`:27-42`) |
| `.stopSuccess`, `.joined` | `stop_success`; `stop_error` is the same (`:53-76`) |
| `.destruct`         | `~WaitingAnimation` (`:46-50`), then that of the thread |

A stop that waits for the thread is `joining`; `active` is true up to there. An animation is stopped
once, and the line is its own: what the client logs meanwhile (`Client/src/main.cpp:123`) goes to
`std::clog`.
-/

namespace ContainerBuilder

open Lib

/-! ## The class -/

/-- What the thread does next. -/
inductive AnimationStep
  | check₁
  | carriageReturn
  | linePrefix
  | dot
  | sleep₁
  | check₂
  | secondDot
  | sleep₂
  | check₃
  | thirdDot
  | sleep₃
deriving DecidableEq, Repr

namespace AnimationStep

/-- What it prints. -/
def text (linePrefix : Bytes) : AnimationStep → Bytes
  | .carriageReturn => [13]
  | .linePrefix => linePrefix
  | .dot => ascii ".  "
  | .secondDot => [8, 8] ++ ascii ". "
  | .thirdDot => 8 :: ascii "."
  | _ => []

def next : AnimationStep → AnimationStep
  | .check₁ => .carriageReturn
  | .carriageReturn => .linePrefix
  | .linePrefix => .dot
  | .dot => .sleep₁
  | .sleep₁ => .check₂
  | .check₂ => .secondDot
  | .secondDot => .sleep₂
  | .sleep₂ => .check₃
  | .check₃ => .thirdDot
  | .thirdDot => .sleep₃
  | .sleep₃ => .check₁

/-- `if (!active) break;` -/
def checks : AnimationStep → Bool
  | .check₁ => true
  | .check₂ => true
  | .check₃ => true
  | _ => false

end AnimationStep

inductive AnimationThread
  /-- `joinable()` is false. -/
  | none
  | running (step : AnimationStep)
  | ended
deriving DecidableEq, Repr

inductive AnimationStage
  | active
  /-- Stopped with this message, by the destructor or before. -/
  | joining (message : Bytes) (destructing : Bool)
  | stopped (message : Bytes)
  | destroyed (message : Bytes)
deriving DecidableEq, Repr

/-- The stage after a stop. -/
def AnimationStage.after (message : Bytes) (destructing : Bool) : AnimationStage :=
  if destructing then .destroyed message else .stopped message

structure WaitingAnimation where
  thread : AnimationThread
  stage : AnimationStage
deriving DecidableEq, Repr

inductive AnimationEvent
  /-- The thread does its next step. -/
  | thread
  | stopSuccess (message : Bytes)
  /-- The thread is joined, or there is none. -/
  | joined
  | destruct
deriving DecidableEq, Repr

/-- `prefix` -/
def animationPrefix (message : Bytes) : Bytes := message ++ ascii ": "

namespace WaitingAnimation

def step (message : Bytes) (s : WaitingAnimation) :
    AnimationEvent → Option (WaitingAnimation × Bytes)
  | .thread =>
    match s.thread with
    | .running k =>
      if k.checks && s.stage ≠ .active then some ({ s with thread := .ended }, [])
      else some ({ s with thread := .running k.next }, k.text (animationPrefix message))
    | _ => none
  | .stopSuccess result =>
    if s.stage = .active then some ({ s with stage := .joining result false }, []) else none
  | .joined =>
    match s.stage, s.thread with
    | .joining _ _, .running _ => none
    | .joining result destructing, _ =>
      some (⟨.none, AnimationStage.after result destructing⟩, [8, 8, 8] ++ result ++ [10])
    | _, _ => none
  | .destruct =>
    match s.stage with
    | .active => some ({ s with stage := .joining (ascii "Error encountered") true }, [])
    | .stopped result => some ({ s with stage := .destroyed result }, [])
    | _ => none

end WaitingAnimation

/-- An animation; with debug logging it has no thread. -/
def animationMachine (debug : Bool) (message : Bytes) :
    Machine WaitingAnimation AnimationEvent UInt8 where
  init := ⟨if debug then .none else .running .check₁, .active⟩
  initOut := animationPrefix message ++ ascii ".  "
  step := WaitingAnimation.step message

/-! ## What stands in the line -/

/-- Where the cursor is, behind a prefix of this length. -/
def AnimationThread.column (n : Nat) : AnimationThread → Nat
  | .running .linePrefix => 0
  | .running .dot => n
  | _ => n + 3

/-- What stands in the line: three cells after the prefix, and at last the result in their place. -/
def WaitingAnimation.Shown (above : List Bytes) (linePrefix : Bytes) (s : WaitingAnimation)
    (t : Terminal) : Prop :=
  match s.stage with
  | .stopped result => s.thread = .none ∧ (Plain result → 3 ≤ result.length →
      t = .fresh (above ++ [linePrefix ++ result]))
  | .destroyed result => s.thread = .none ∧ (Plain result → 3 ≤ result.length →
      t = .fresh (above ++ [linePrefix ++ result]))
  | _ => ∃ cells : Bytes, cells.length = 3 ∧
      t = ⟨above, linePrefix ++ cells, s.thread.column linePrefix.length⟩

section
variable {above : List Bytes} {p cells : Bytes}

/-- A step of the thread redraws the three cells. -/
theorem write_animationStep (hp : Plain p) (hcells : cells.length = 3) (k : AnimationStep) :
    ∃ cells' : Bytes, cells'.length = 3 ∧
      (⟨above, p ++ cells, AnimationThread.column p.length (.running k)⟩ : Terminal).write
          (k.text p) =
        ⟨above, p ++ cells', AnimationThread.column p.length (.running k.next)⟩ := by
  obtain ⟨a, b, c, rfl⟩ := List.length_eq_three.1 hcells
  cases k with
  | check₁ | sleep₁ | check₂ | sleep₂ | check₃ | sleep₃ => exact ⟨[a, b, c], rfl, rfl⟩
  | carriageReturn => exact ⟨[a, b, c], rfl, rfl⟩
  | linePrefix =>
    refine ⟨[a, b, c], rfl, ?_⟩
    have hwrite := Terminal.write_plain (t := ⟨above, p ++ [a, b, c], 0⟩) hp
      (List.nil_append _).symm rfl
    simpa [AnimationStep.text, AnimationStep.next, AnimationThread.column] using hwrite
  | dot =>
    have hlength : (ascii ".  ").length = 3 := rfl
    refine ⟨ascii ".  ", hlength, ?_⟩
    have hwrite := Terminal.write_plain (t := ⟨above, p ++ [a, b, c], p.length⟩)
      (show Plain (ascii ".  ") by decide) rfl rfl
    simpa [AnimationStep.text, AnimationStep.next, AnimationThread.column, hlength] using hwrite
  | secondDot =>
    have hlength : (ascii ". ").length = 2 := rfl
    refine ⟨a :: ascii ". ", rfl, ?_⟩
    have hwrite : Terminal.write ⟨above, (p ++ [a]) ++ [b, c], ((p ++ [a]) ++ [b, c]).length⟩
        ([8, 8] ++ ascii ". ") = _ := Terminal.write_back (show Plain (ascii ". ") by decide)
    simpa [AnimationStep.text, AnimationStep.next, AnimationThread.column, hlength] using hwrite
  | thirdDot =>
    have hlength : (ascii ".").length = 1 := rfl
    refine ⟨a :: b :: ascii ".", rfl, ?_⟩
    have hwrite : Terminal.write ⟨above, (p ++ [a, b]) ++ [c], ((p ++ [a, b]) ++ [c]).length⟩
        ([8] ++ ascii ".") = _ := Terminal.write_back (show Plain (ascii ".") by decide)
    simpa [AnimationStep.text, AnimationStep.next, AnimationThread.column, hlength] using hwrite

/-- The result replaces them. -/
theorem write_result (hcells : cells.length = 3) {result : Bytes} (hresult : Plain result)
    (hlong : 3 ≤ result.length) :
    (⟨above, p ++ cells, p.length + 3⟩ : Terminal).write ([8, 8, 8] ++ result ++ [10]) =
      .fresh (above ++ [p ++ result]) := by
  have hback : ([8, 8, 8] : Bytes) = List.replicate cells.length 8 := by rw [hcells]; rfl
  have hend : p.length + 3 = (p ++ cells).length := by rw [List.length_append, hcells]
  have hnone : cells.drop result.length = [] := List.drop_of_length_le (hcells.trans_le hlong)
  rw [Terminal.write_append, hback, hend, Terminal.write_back hresult, hnone, List.append_nil]
  rfl

/-- **One event** keeps what stands in the line. -/
theorem WaitingAnimation.Shown.step {message : Bytes} {s s' : WaitingAnimation} {t : Terminal}
    {e : AnimationEvent} {out : Bytes} (hp : Plain (animationPrefix message))
    (h : s.Shown above (animationPrefix message) t) (hs : s.step message e = some (s', out)) :
    s'.Shown above (animationPrefix message) (t.write out) := by
  obtain ⟨thread, stage⟩ := s
  cases e with
  | thread =>
    cases thread with
    | none => cases hs
    | ended => cases hs
    | running k =>
      simp only [WaitingAnimation.step] at hs
      cases stage with
      | stopped result => cases h.1
      | destroyed result => cases h.1
      | active =>
        obtain ⟨cells, hcells, rfl⟩ := h
        simp only [ne_eq, not_true_eq_false, decide_false, Bool.and_false, Bool.false_eq_true,
          if_false, Option.some.injEq, Prod.mk.injEq] at hs
        obtain ⟨rfl, rfl⟩ := hs
        exact write_animationStep hp hcells k
      | joining result destructing =>
        obtain ⟨cells, hcells, rfl⟩ := h
        split at hs
        · rename_i hchecks
          obtain ⟨rfl, rfl⟩ := Prod.mk.inj (Option.some.inj hs)
          -- the cursor is at the end where the flag is looked at
          have hend : AnimationThread.column (animationPrefix message).length (.running k) =
              (animationPrefix message).length + 3 := by
            cases k <;> first | rfl | simp [AnimationStep.checks] at hchecks
          exact ⟨cells, hcells, by rw [hend]; rfl⟩
        · obtain ⟨rfl, rfl⟩ := Prod.mk.inj (Option.some.inj hs)
          exact write_animationStep hp hcells k
  | stopSuccess result =>
    cases stage with
    | active =>
      cases hs
      exact h
    | _ => cases hs
  | joined =>
    cases stage with
    | joining result destructing =>
      obtain ⟨cells, hcells, rfl⟩ := h
      cases thread with
      | running k => cases hs
      | none =>
        cases hs
        cases destructing with
        | true => exact ⟨rfl, fun hresult hlong => write_result hcells hresult hlong⟩
        | false => exact ⟨rfl, fun hresult hlong => write_result hcells hresult hlong⟩
      | ended =>
        cases hs
        cases destructing with
        | true => exact ⟨rfl, fun hresult hlong => write_result hcells hresult hlong⟩
        | false => exact ⟨rfl, fun hresult hlong => write_result hcells hresult hlong⟩
    | _ => cases hs
  | destruct =>
    cases stage with
    | active =>
      cases hs
      exact h
    | stopped result =>
      cases hs
      exact h
    | _ => cases hs

theorem animation_shown {debug : Bool} {message : Bytes} (hmessage : Plain message)
    {es : List AnimationEvent} {s : WaitingAnimation} {tr : Bytes}
    (h : (animationMachine debug message).Run Machine.always es s tr) :
    s.Shown above (animationPrefix message) ((Terminal.fresh above).write tr) := by
  have hp : Plain (animationPrefix message) := plain_append.2 ⟨hmessage, by decide⟩
  refine Machine.Run.inv (fun _ s tr => s.Shown above (animationPrefix message)
    ((Terminal.fresh above).write tr)) ?_ ?_ h
  · have hdots : Plain (ascii ".  ") := by decide
    have hlength : (ascii ".  ").length = 3 := rfl
    have hwrite := Terminal.write_plain (t := .fresh above) (plain_append.2 ⟨hp, hdots⟩)
      (List.nil_append _).symm rfl
    simp only [Terminal.fresh, List.nil_append, List.drop_nil, List.append_nil, List.length_append,
      hlength, List.length_nil, Nat.zero_add] at hwrite
    cases debug with
    | true => exact ⟨ascii ".  ", rfl, hwrite⟩
    | false => exact ⟨ascii ".  ", rfl, hwrite⟩
  · intro es s tr e s' out _ ih _ hs
    rw [Terminal.write_append]
    exact ih.step hp hs

end

/-! ## A stop comes to its end -/

/-- The steps that the thread may still do once the flag is reset. -/
def AnimationThread.left : AnimationThread → Nat
  | .running .carriageReturn => 5
  | .running .linePrefix => 4
  | .running .dot => 3
  | .running .secondDot => 3
  | .running .thirdDot => 3
  | .running .sleep₁ => 2
  | .running .sleep₂ => 2
  | .running .sleep₃ => 2
  | .running .check₁ => 1
  | .running .check₂ => 1
  | .running .check₃ => 1
  | _ => 0

/-- **The screen of `cb-status`** when nothing fails, whatever its animation has drawn by then. -/
theorem status_screen {H : Type} {c : QueryCalls} {x : QueryMain} {q : BuilderQueue H}
    {text host : Bytes}
    (hanswered : Status.Answered c x text) (htree : c.readJson text = some q.statusTree)
    (hx : x.shown = []) (hhost : Plain host)
    (hlines : ∀ line ∈ statusLines q.activeBuilders q.reserveBuilders, Plain line)
    {es : List AnimationEvent} {s : WaitingAnimation} {tr : Bytes}
    (h : (animationMachine false (ascii "Connecting to BuilderQueue")).Run Machine.always es s tr)
    (hs : s.stage = .destroyed (ascii "Connected to queue: " ++ host)) :
    (Terminal.fresh []).write (tr ++ (exec (Status.main c) x).2.shown) =
      .fresh ((ascii "Connecting to BuilderQueue: Connected to queue: " ++ host) ::
        statusLines q.activeBuilders q.reserveBuilders) := by
  have hresult : Plain (ascii "Connected to queue: " ++ host) := plain_append.2 ⟨by decide, hhost⟩
  have hlong : 3 ≤ (ascii "Connected to queue: " ++ host).length := by
    rw [List.length_append]
    exact Nat.le_add_right_of_le (by decide)
  have hshown : s.Shown [] (animationPrefix (ascii "Connecting to BuilderQueue"))
      ((Terminal.fresh []).write tr) := animation_shown (by decide) h
  rw [WaitingAnimation.Shown, hs] at hshown
  rw [Terminal.write_append, hshown.2 hresult hlong, hanswered.shown htree, hx, List.nil_append,
    List.nil_append, Terminal.write_unlines hlines]
  rfl

end ContainerBuilder
