import ContainerBuilder.Lib.Machine
import ContainerBuilder.Lib.Wire

/-!
# Two sequential programs on a connection

A `Program` says of each of its states what it does next: write a frame, wait for a piece of a
message, a step of its own, or nothing more. Writes and reads name the message they are meant for;
the names are not sent. `session` runs two programs over a connection that keeps the order of the
tokens and cuts them into pieces as it likes, in any interleaving.

A `Plan` says what one program has yet to write (`toSend`) and, provided that this is what arrives,
what it has yet to read (`toRead`); a `Script` is a plan the program keeps. If two programs have
scripts that match, then in every run of the session each token is read for the message it was
written for (`Flow.got_prefix`), and if one of them never writes after it has begun to read, then
the two cannot wait for each other (`not_both_waiting`) and stop after a bounded number of steps
(`run_inStep`, `stuck_stopped`).
-/

namespace Lib

variable {σ τ μ α : Type}

/-- What a program does next. -/
inductive Act (σ μ α : Type)
  | write (m : μ) (f : Frame α) (next : σ)
  | read (m : μ) (next : Frame α → σ)
  | step (next : σ)
  | stop

abbrev Program (σ μ α : Type) := σ → Act σ μ α

/-- A program that does this does nothing more by itself. -/
def Act.Waits : Act σ μ α → Prop
  | .read _ _ => True
  | .stop => True
  | _ => False

/-- The act of a part of a program, as an act of the whole. -/
def Act.map {σ' μ' : Type} (g : σ → σ') (name : μ → μ') : Act σ μ α → Act σ' μ' α
  | .write m f next => .write (name m) f (g next)
  | .read m next => .read (name m) fun p => g (next p)
  | .step next => .step (g next)
  | .stop => .stop

namespace Act

variable {σ' μ' : Type} {g : σ → σ'} {name : μ → μ'} {a : Act σ μ α}

theorem map_eq_stop (h : a.map g name = .stop) : a = .stop := by
  cases a with
  | stop => rfl
  | write m f next => cases h
  | read m next => cases h
  | step next => cases h

theorem map_eq_read {m' : μ'} {next' : Frame α → σ'} (h : a.map g name = .read m' next') :
    ∃ m next, a = .read m next := by
  cases a with
  | read m next => exact ⟨m, next, rfl⟩
  | write m f next => cases h
  | step next => cases h
  | stop => cases h

end Act

namespace Program

/-- At most `n` acts of a program, up to its first read: the frames it writes and where it is
then. -/
def emit (P : Program σ μ α) : Nat → σ → List (μ × Frame α) × σ
  | 0, s => ([], s)
  | n + 1, s =>
    match P s with
    | .write m f next => ((m, f) :: (emit P n next).1, (emit P n next).2)
    | .step next => emit P n next
    | .read _ _ => ([], s)
    | .stop => ([], s)

/-- **Loop rule**: what holds of the frames written so far and the state, and is kept by every act,
holds wherever the program gets. -/
theorem emit_inv (P : Program σ μ α) (I : List (μ × Frame α) → σ → Prop)
    (hwrite : ∀ fs s m f next, I fs s → P s = .write m f next → I (fs ++ [(m, f)]) next)
    (hstep : ∀ fs s next, I fs s → P s = .step next → I fs next) (n : Nat) {s : σ}
    (h : I [] s) : I (P.emit n s).1 (P.emit n s).2 := by
  suffices key : ∀ (n : Nat) (fs : List (μ × Frame α)) (s : σ), I fs s →
      I (fs ++ (P.emit n s).1) (P.emit n s).2 by
    simpa using key n [] s h
  intro n
  induction n with
  | zero =>
    intro fs s h
    simpa [emit] using h
  | succ n ih =>
    intro fs s h
    unfold emit
    cases hs : P s with
    | write m f next => simpa using ih _ _ (hwrite _ _ _ _ _ h hs)
    | step next => exact ih _ _ (hstep _ _ _ h hs)
    | read m next => simpa using h
    | stop => simpa using h

/-- Without reading, the program writes `fs` on its way from one state to another. -/
inductive Writes (P : Program σ μ α) : σ → List (μ × Frame α) → σ → Prop
  | refl (s : σ) : Writes P s [] s
  | write {s next t : σ} {m : μ} {f : Frame α} {fs : List (μ × Frame α)} :
    P s = .write m f next → Writes P next fs t → Writes P s ((m, f) :: fs) t
  | step {s next t : σ} {fs : List (μ × Frame α)} :
    P s = .step next → Writes P next fs t → Writes P s fs t

theorem Writes.trans {P : Program σ μ α} {s t u : σ} {fs gs : List (μ × Frame α)}
    (h : P.Writes s fs t) (h' : P.Writes t gs u) : P.Writes s (fs ++ gs) u := by
  induction h with
  | refl s => exact h'
  | write hs _ ih => exact .write hs (ih h')
  | step hs _ ih => exact .step hs (ih h')

theorem writes_emit (P : Program σ μ α) (n : Nat) (s : σ) :
    P.Writes s (P.emit n s).1 (P.emit n s).2 := by
  induction n generalizing s with
  | zero => exact .refl s
  | succ n ih =>
    unfold emit
    cases hs : P s with
    | write m f next => exact .write hs (ih next)
    | step next => exact .step hs (ih next)
    | read m next => exact .refl s
    | stop => exact .refl s

/-- A part of a program writes within the whole. -/
theorem Writes.part {σ' μ' : Type} {P : Program σ μ α} {Q : Program σ' μ' α} {g : σ → σ'}
    {name : μ → μ'} (hpart : ∀ s, P s ≠ .stop → Q (g s) = (P s).map g name) {s t : σ}
    {fs : List (μ × Frame α)} (h : P.Writes s fs t) :
    Q.Writes (g s) (fs.map (Prod.map name id)) (g t) := by
  induction h with
  | refl s => exact .refl _
  | @write s next t m f fs hs _ ih =>
    have hg := hpart s (by simp [hs])
    rw [hs] at hg
    exact .write hg ih
  | @step s next t fs hs _ ih =>
    have hg := hpart s (by simp [hs])
    rw [hs] at hg
    exact .step hg ih

/-- Hands pieces to a program as long as it reads: where it is then and the pieces it has left. -/
def absorb (P : Program σ μ α) : σ → List (Frame α) → σ × List (Frame α)
  | s, [] => (s, [])
  | s, p :: ps =>
    match P s with
    | .read _ next => absorb P (next p) ps
    | _ => (s, p :: ps)

theorem absorb_stop (P : Program σ μ α) {s : σ} (hs : P s = .stop) (ps : List (Frame α)) :
    P.absorb s ps = (s, ps) := by
  cases ps with
  | nil => rfl
  | cons p ps => simp only [absorb, hs]

/-- A part of a program takes as many pieces within the whole as it does alone. -/
theorem absorb_part {σ' μ' : Type} {P : Program σ μ α} {Q : Program σ' μ' α} {g : σ → σ'}
    {name : μ → μ'} (hpart : ∀ s, P s ≠ .stop → Q (g s) = (P s).map g name)
    (hstop : ∀ s, P s = .stop → ∀ m next, Q (g s) ≠ .read m next) (s : σ) (ps : List (Frame α)) :
    Q.absorb (g s) ps = (g (P.absorb s ps).1, (P.absorb s ps).2) := by
  induction ps generalizing s with
  | nil => rfl
  | cons p ps ih =>
    cases hs : P s with
    | read m next =>
      have hg := hpart s (by simp [hs])
      rw [hs] at hg
      simp only [absorb, hs, hg, Act.map, ih]
    | write m f next =>
      have hg := hpart s (by simp [hs])
      rw [hs] at hg
      simp only [absorb, hs, hg, Act.map]
    | step next =>
      have hg := hpart s (by simp [hs])
      rw [hs] at hg
      simp only [absorb, hs, hg, Act.map]
    | stop =>
      rw [absorb_stop P hs]
      unfold absorb
      split
      · rename_i hg
        exact absurd hg (hstop s hs _ _)
      · rfl

theorem absorb_append (P : Program σ μ α) : ∀ (ps more : List (Frame α)) {s : σ},
    (P.absorb s ps).2 = [] → P.absorb s (ps ++ more) = P.absorb (P.absorb s ps).1 more
  | [], _, _, _ => rfl
  | p :: ps, more, s, h => by
    simp only [List.cons_append, absorb] at h ⊢
    split at h
    · exact absorb_append P ps more h
    · cases h

end Program

/-! ## Scripts -/

/-- What a program is to do from each of its states on: write `toSend` and read `toRead`, where
`later m` is what it reads after the message `m`, in at most `work` acts. `Inv` holds where it gets
if all that arrives is what it is to read. -/
structure Plan (σ μ α : Type) where
  toSend : σ → List (μ × Token α)
  toRead : σ → List (μ × Token α)
  later : μ → List (μ × Token α)
  work : σ → Nat
  Inv : σ → Prop

/-- Where reading `n` tokens in the state `s` leads to, `read` being what is then left to read. -/
structure Plan.Reads (A : Plan σ μ α) (s : σ) (read : List (μ × Token α)) (n : Nat) (next : σ) :
    Prop where
  inv : A.Inv next
  toSend : A.toSend next = A.toSend s
  toRead : A.toRead next = read
  work : A.work next + n ≤ A.work s

/-- The act of `s` is the next one of the plan. -/
def Plan.Keeps (A : Plan σ μ α) (s : σ) : Act σ μ α → Prop
  | .write m f next =>
    A.Inv next ∧ A.toSend s = label m f.tokens ++ A.toSend next ∧ A.toRead next = A.toRead s ∧
      A.work next < A.work s
  | .step next =>
    A.Inv next ∧ A.toSend next = A.toSend s ∧ A.toRead next = A.toRead s ∧ A.work next < A.work s
  | .read m next =>
    ∃ rest, A.toRead s = label m (message rest) ++ A.later m ∧
      (∀ as bs, rest = as ++ bs →
        A.Reads s (label m (message bs) ++ A.later m) as.length (next ⟨false, as⟩)) ∧
      A.Reads s (A.later m) (rest.length + 1) (next ⟨true, rest⟩)
  | .stop => A.toSend s = [] ∧ A.toRead s = []

/-- A plan that `P` keeps. -/
structure Script (P : Program σ μ α) extends Plan σ μ α where
  keeps : ∀ s, Inv s → toPlan.Keeps s (P s)

/-- In the states `g buf` the message `text` is collected in a buffer, until its end leads to
`final`. -/
structure Plan.Collects (A : Plan σ μ α) (m : μ) (text : List α) (g : List α → σ) (final : σ)
    (k : Nat) : Prop where
  inv : ∀ buf, buf <+: text → A.Inv (g buf)
  toSend : ∀ buf, A.toSend (g buf) = A.toSend final
  toRead : ∀ buf, A.toRead (g buf) = label m (message (text.drop buf.length)) ++ A.later m
  work : ∀ buf, A.work (g buf) = (text.drop buf.length).length + 1 + k
  final_inv : A.Inv final
  final_toRead : A.toRead final = A.later m
  final_work : A.work final ≤ k

/-- A loop that reads up to the end of a message keeps the plan. -/
theorem Plan.Collects.keeps {A : Plan σ μ α} {m : μ} {text : List α} {g : List α → σ} {final : σ}
    {k : Nat} (h : A.Collects m text g final k) {buf : List α} (hbuf : buf <+: text)
    {next : Frame α → σ} (hmore : ∀ as, next ⟨false, as⟩ = g (buf ++ as))
    (hend : ∀ as, buf ++ as = text → next ⟨true, as⟩ = final) :
    A.Keeps (g buf) (.read m next) := by
  refine ⟨text.drop buf.length, h.toRead buf, fun as bs he => ?_, ?_⟩
  · obtain ⟨hpre, hdrop⟩ := prefix_append_of_drop hbuf he
    rw [hmore]
    refine ⟨h.inv _ hpre, by rw [h.toSend, h.toSend], by rw [h.toRead, hdrop], ?_⟩
    rw [h.work, h.work, hdrop, he, List.length_append]
    omega
  · rw [hend _ (List.prefix_iff_eq_append.1 hbuf)]
    refine ⟨h.final_inv, (h.toSend buf).symm, h.final_toRead, ?_⟩
    have := h.final_work
    rw [h.work]
    omega

/-- In the states `g s` the whole has to do what the part has to do in `s`, with `send` and `read`
after it. -/
structure Plan.Embeds {σ' μ' : Type} (A : Plan σ μ α) (B : Plan σ' μ' α) (g : σ → σ')
    (name : μ → μ') (send read : List (μ' × Token α)) (k : Nat) : Prop where
  inv : ∀ s, A.Inv s → B.Inv (g s)
  toSend : ∀ s, B.toSend (g s) = (A.toSend s).map (Prod.map name id) ++ send
  toRead : ∀ s, B.toRead (g s) = (A.toRead s).map (Prod.map name id) ++ read
  work : ∀ s, B.work (g s) = A.work s + k

/-- A part of a program keeps the plan of the whole, until it stops. -/
theorem Plan.Embeds.keeps {σ' μ' : Type} {A : Plan σ μ α} {B : Plan σ' μ' α} {g : σ → σ'}
    {name : μ → μ'} {send read : List (μ' × Token α)} {k : Nat}
    (e : A.Embeds B g name send read k) {s : σ} {a : Act σ μ α} (h : A.Keeps s a)
    (hstop : a ≠ .stop)
    (hlater : ∀ m next, a = .read m next →
      B.later (name m) = (A.later m).map (Prod.map name id) ++ read) :
    B.Keeps (g s) (a.map g name) := by
  cases a with
  | write m f next =>
    obtain ⟨h1, h2, h3, h4⟩ := h
    refine ⟨e.inv _ h1, ?_, by rw [e.toRead, e.toRead, h3], by rw [e.work, e.work]; omega⟩
    rw [e.toSend, e.toSend, h2, List.map_append, label_rename, List.append_assoc]
  | step next =>
    obtain ⟨h1, h2, h3, h4⟩ := h
    exact ⟨e.inv _ h1, by rw [e.toSend, e.toSend, h2], by rw [e.toRead, e.toRead, h3], by
      rw [e.work, e.work]; omega⟩
  | read m next =>
    obtain ⟨rest, h1, h2, h3⟩ := h
    have hm := hlater m next rfl
    have lift : ∀ {r : List (μ × Token α)} {n : Nat} {s' : σ}, A.Reads s r n s' →
        B.Reads (g s) (r.map (Prod.map name id) ++ read) n (g s') := fun hr =>
      ⟨e.inv _ hr.inv, by rw [e.toSend, e.toSend, hr.toSend], by rw [e.toRead, hr.toRead], by
        have := hr.work
        rw [e.work, e.work]; omega⟩
    refine ⟨rest, ?_, fun as bs he => ?_, ?_⟩
    · rw [e.toRead, h1, hm, List.map_append, label_rename, List.append_assoc]
    · have hr := lift (h2 as bs he)
      rwa [List.map_append, label_rename, List.append_assoc, ← hm] at hr
    · have hr := lift h3
      rwa [← hm] at hr
  | stop => exact absurd rfl hstop

namespace Script

variable {P : Program σ μ α}

section acts
variable (A : Script P) {s : σ} (h : A.Inv s)
include h

theorem write {m : μ} {f : Frame α} {next : σ} (hs : P s = .write m f next) :
    A.Inv next ∧ A.toSend s = label m f.tokens ++ A.toSend next ∧ A.toRead next = A.toRead s ∧
      A.work next < A.work s := by
  have hkeeps := A.keeps s h
  rwa [hs] at hkeeps

theorem step {next : σ} (hs : P s = .step next) :
    A.Inv next ∧ A.toSend next = A.toSend s ∧ A.toRead next = A.toRead s ∧
      A.work next < A.work s := by
  have hkeeps := A.keeps s h
  rwa [hs] at hkeeps

theorem read {m : μ} {next : Frame α → σ} {p : Frame α} {t : List (Token α)}
    (hs : P s = .read m next) (ht : (A.toRead s).map Prod.snd = p.tokens ++ t) :
    A.Inv (next p) ∧ A.toSend (next p) = A.toSend s ∧
      A.toRead s = label m p.tokens ++ A.toRead (next p) ∧
      A.work (next p) + p.tokens.length ≤ A.work s := by
  have hkeeps := A.keeps s h
  rw [hs] at hkeeps
  obtain ⟨rest, hrest, hmore, hend⟩ := hkeeps
  rw [hrest, List.map_append, label_unlabelled] at ht
  obtain ⟨fin, payload⟩ := p
  rcases tokens_append_eq_message ht.symm with ⟨hf, bs, hbs, -⟩ | ⟨hf, hpay, -⟩
  · obtain rfl : fin = false := hf
    have hr := hmore payload bs hbs
    refine ⟨hr.inv, hr.toSend, ?_, by simpa using hr.work⟩
    rw [hr.toRead, hrest, hbs, message_append, tokens_more, label_append, List.append_assoc]
  · obtain rfl : fin = true := hf
    obtain rfl : rest = payload := hpay
    refine ⟨hend.inv, hend.toSend, ?_, by simpa [message] using hend.work⟩
    rw [hend.toRead, hrest, tokens_fin]

theorem reading {m : μ} {next : Frame α → σ} (hs : P s = .read m next) :
    ∃ rest, A.toRead s = label m (message rest) ++ A.later m := by
  have hkeeps := A.keeps s h
  rw [hs] at hkeeps
  obtain ⟨rest, hrest, -, -⟩ := hkeeps
  exact ⟨rest, hrest⟩

theorem stopped (hs : P s = .stop) : A.toSend s = [] ∧ A.toRead s = [] := by
  have hkeeps := A.keeps s h
  rwa [hs] at hkeeps

end acts

/-- A program that does not read comes to its end. -/
theorem emit_stops (A : Script P) (hP : ∀ s m next, P s ≠ .read m next) {s : σ} (h : A.Inv s) :
    ∃ n, P (P.emit n s).2 = .stop := by
  generalize hw : A.work s = w
  induction w using Nat.strongRecOn generalizing s with
  | ind w ih =>
    cases hs : P s with
    | write m f next =>
      obtain ⟨hinv, -, -, hlt⟩ := A.write h hs
      obtain ⟨n, hn⟩ := ih _ (hw ▸ hlt) hinv rfl
      exact ⟨n + 1, by simpa only [Program.emit, hs] using hn⟩
    | step next =>
      obtain ⟨hinv, -, -, hlt⟩ := A.step h hs
      obtain ⟨n, hn⟩ := ih _ (hw ▸ hlt) hinv rfl
      exact ⟨n + 1, by simpa only [Program.emit, hs] using hn⟩
    | read m next => exact absurd hs (hP s m next)
    | stop => exact ⟨0, hs⟩

/-- **Pieces of what a program expects are read without a rest**, however they are cut, as long
as it reads while it expects anything. -/
theorem absorb_all (A : Script P)
    (hP : ∀ s, A.Inv s → A.toRead s ≠ [] → ∃ m next, P s = .read m next) :
    ∀ (ps : List (Frame α)) {s : σ}, A.Inv s → (∀ p ∈ ps, p.tokens ≠ []) →
      (A.toRead s).map Prod.snd = wire ps →
        (P.absorb s ps).2 = [] ∧ A.Inv (P.absorb s ps).1 ∧ A.toRead (P.absorb s ps).1 = []
  | [], s, h, _, hr => ⟨rfl, h, List.map_eq_nil_iff.1 hr⟩
  | p :: ps, s, h, hne, hr => by
    have hp : p.tokens ≠ [] := hne p (List.mem_cons_self ..)
    rw [wire_cons] at hr
    have hexp : A.toRead s ≠ [] := by
      intro he
      rw [he] at hr
      exact hp (List.append_eq_nil_iff.1 hr.symm).1
    obtain ⟨m, next, hs⟩ := hP s h hexp
    obtain ⟨hinv, -, hread, -⟩ := A.read h hs hr
    have hrest : (A.toRead (next p)).map Prod.snd = wire ps := by
      rw [hread, List.map_append, label_unlabelled] at hr
      exact List.append_cancel_left hr
    have := absorb_all A hP ps hinv (fun q hq => hne q (List.mem_cons_of_mem _ hq)) hrest
    simpa only [Program.absorb, hs] using this

theorem toRead_ne_nil (A : Script P) {s : σ} {m : μ} {next : Frame α → σ} (h : A.Inv s)
    (hs : P s = .read m next) : A.toRead s ≠ [] := by
  obtain ⟨rest, hrest⟩ := A.reading h hs
  rw [hrest]
  exact List.append_ne_nil_of_left_ne_nil (mt label_eq_nil.1 (message_ne_nil _)) _

end Script

/-! ## Sessions -/

/-- Takes the piece `p` off the tokens that have arrived. -/
def take [DecidableEq α] (p : Frame α) (inbox : List (Token α)) : Option (List (Token α)) :=
  if p.tokens <+: inbox then some (inbox.drop p.tokens.length) else none

theorem take_eq_some [DecidableEq α] {p : Frame α} {inbox rest : List (Token α)} :
    take p inbox = some rest ↔ inbox = p.tokens ++ rest := by
  unfold take
  constructor
  · intro h
    split at h
    · rename_i hpre
      obtain ⟨t, rfl⟩ := hpre
      simpa using h
    · cases h
  · rintro rfl
    simp

/-- What one side does: it acts, or a piece arrives for which it waits. -/
inductive Move (α : Type)
  | act
  | arrive (p : Frame α)

/-- The arrival of an empty piece that ends nothing. -/
def Move.idle : Move α → Bool
  | .act => false
  | .arrive p => p.tokens.isEmpty

inductive Note (μ α : Type)
  | sent (m : μ) (f : Frame α)
  | got (m : μ) (p : Frame α)

def sentTokens (notes : List (Note μ α)) : List (μ × Token α) :=
  notes.flatMap fun
    | .sent m f => label m f.tokens
    | .got _ _ => []

def gotTokens (notes : List (Note μ α)) : List (μ × Token α) :=
  notes.flatMap fun
    | .sent _ _ => []
    | .got m p => label m p.tokens

/-- One side of a session after a move: its state, what there is for it to read, what it has
written for the other side, and the note of it. -/
structure Turn (σ μ α : Type) where
  state : σ
  inbox : List (Token α)
  outbox : List (Token α)
  notes : List (Note μ α)

def move [DecidableEq α] (P : Program σ μ α) (s : σ) (inbox outbox : List (Token α)) :
    Move α → Option (Turn σ μ α)
  | .act =>
    match P s with
    | .write m f next => some ⟨next, inbox, outbox ++ f.tokens, [.sent m f]⟩
    | .step next => some ⟨next, inbox, outbox, []⟩
    | _ => none
  | .arrive p =>
    match P s with
    | .read m next => (take p inbox).map fun rest => ⟨next p, rest, outbox, [.got m p]⟩
    | _ => none

/-- `toRight` and `toLeft` are the tokens on their way. -/
structure Session (σ τ α : Type) where
  left : σ
  right : τ
  toRight : List (Token α)
  toLeft : List (Token α)

inductive SessionEvent (α : Type)
  | left (e : Move α)
  | right (e : Move α)

inductive SessionObs (μ α : Type)
  | left (n : Note μ α)
  | right (n : Note μ α)

def leftNotes (tr : List (SessionObs μ α)) : List (Note μ α) :=
  tr.filterMap fun
    | .left n => some n
    | .right _ => none

def rightNotes (tr : List (SessionObs μ α)) : List (Note μ α) :=
  tr.filterMap fun
    | .left _ => none
    | .right n => some n

def SessionEvent.idle : SessionEvent α → Bool
  | .left e => e.idle
  | .right e => e.idle

def session [DecidableEq α] (P : Program σ μ α) (Q : Program τ μ α) (s : σ) (t : τ) :
    Machine (Session σ τ α) (SessionEvent α) (SessionObs μ α) where
  init := ⟨s, t, [], []⟩
  initOut := []
  step := fun s e =>
    match e with
    | .left e => (move P s.left s.toLeft s.toRight e).map fun r =>
        (⟨r.state, s.right, r.outbox, r.inbox⟩, r.notes.map .left)
    | .right e => (move Q s.right s.toRight s.toLeft e).map fun r =>
        (⟨s.left, r.state, r.inbox, r.outbox⟩, r.notes.map .right)

/-! ## One direction -/

/-- The tokens of one direction: `agreed` in all, of which `sent` are written and `got` read. -/
structure Flow (agreed sent toSend got toRead : List (μ × Token α)) (channel : List (Token α)) :
    Prop where
  sent_eq : sent ++ toSend = agreed
  got_eq : got ++ toRead = agreed
  fifo : sent.map Prod.snd = got.map Prod.snd ++ channel

namespace Flow

variable {agreed sent toSend got toRead : List (μ × Token α)} {channel : List (Token α)}

/-- What is on its way and what is still to be written is what the reader expects. -/
theorem expected (h : Flow agreed sent toSend got toRead channel) :
    toRead.map Prod.snd = channel ++ toSend.map Prod.snd := by
  have h1 : (got ++ toRead).map Prod.snd = (sent ++ toSend).map Prod.snd := by
    rw [h.got_eq, h.sent_eq]
  rw [List.map_append, List.map_append, h.fifo, List.append_assoc] at h1
  exact List.append_cancel_left h1

/-- **What is read is what was written, for the message it was written for.** -/
theorem got_prefix (h : Flow agreed sent toSend got toRead channel) : got <+: sent := by
  have hlen := congrArg List.length h.fifo
  simp only [List.length_map, List.length_append] at hlen
  exact List.prefix_of_prefix_length_le ⟨toRead, h.got_eq⟩ ⟨toSend, h.sent_eq⟩ (by omega)

theorem write {m : μ} {ts : List (Token α)} {toSend' : List (μ × Token α)}
    (h : Flow agreed sent toSend got toRead channel) (hs : toSend = label m ts ++ toSend') :
    Flow agreed (sent ++ label m ts) toSend' got toRead (channel ++ ts) where
  sent_eq := by rw [List.append_assoc, ← hs, h.sent_eq]
  got_eq := h.got_eq
  fifo := by rw [List.map_append, h.fifo, label_unlabelled, List.append_assoc]

theorem read {m : μ} {ts rest : List (Token α)} {toRead' : List (μ × Token α)}
    (h : Flow agreed sent toSend got toRead (ts ++ rest)) (hr : toRead = label m ts ++ toRead') :
    Flow agreed sent toSend (got ++ label m ts) toRead' rest where
  sent_eq := h.sent_eq
  got_eq := by rw [List.append_assoc, ← hr, h.got_eq]
  fifo := by rw [h.fifo, List.map_append, label_unlabelled, List.append_assoc]

/-- Nothing is left of what was agreed when the reader expects nothing more. -/
theorem all_got (h : Flow agreed sent toSend got [] channel) : got = agreed := by
  simpa using h.got_eq

/-- A reader that expects something which is not on its way has a peer that is yet to write it. -/
theorem toSend_ne_nil (h : Flow agreed sent toSend got toRead []) (hr : toRead ≠ []) :
    toSend ≠ [] := by
  rintro rfl
  exact hr (List.map_eq_nil_iff.1 h.expected)

end Flow

/-! ## Notes -/

section notes

@[simp] theorem sentTokens_append (ns ms : List (Note μ α)) :
    sentTokens (ns ++ ms) = sentTokens ns ++ sentTokens ms :=
  List.flatMap_append

@[simp] theorem gotTokens_append (ns ms : List (Note μ α)) :
    gotTokens (ns ++ ms) = gotTokens ns ++ gotTokens ms :=
  List.flatMap_append

@[simp] theorem leftNotes_append (tr out : List (SessionObs μ α)) :
    leftNotes (tr ++ out) = leftNotes tr ++ leftNotes out :=
  List.filterMap_append

@[simp] theorem rightNotes_append (tr out : List (SessionObs μ α)) :
    rightNotes (tr ++ out) = rightNotes tr ++ rightNotes out :=
  List.filterMap_append

@[simp] theorem leftNotes_left (ns : List (Note μ α)) : leftNotes (ns.map .left) = ns := by
  rw [leftNotes, List.filterMap_map]
  exact List.filterMap_some

@[simp] theorem leftNotes_right (ns : List (Note μ α)) : leftNotes (ns.map .right) = [] := by
  simp [leftNotes]

@[simp] theorem rightNotes_left (ns : List (Note μ α)) : rightNotes (ns.map .left) = [] := by
  simp [rightNotes]

@[simp] theorem rightNotes_right (ns : List (Note μ α)) : rightNotes (ns.map .right) = ns := by
  rw [rightNotes, List.filterMap_map]
  exact List.filterMap_some

end notes

/-! ## Agreement -/

section agreement
variable [DecidableEq α] {P : Program σ μ α} {Q : Program τ μ α}

/-- **One side moves**: it keeps its script, and both directions stay what was agreed. -/
theorem Script.move_keeps (A : Script P) {s : σ} {inbox outbox : List (Token α)} {e : Move α}
    {r : Turn σ μ α} {x sent toSend got toRead y : List (μ × Token α)}
    {sent' got' : List (μ × Token α)}
    (hinv : A.Inv s) (hout : Flow x sent (A.toSend s) got toRead outbox)
    (hin : Flow y sent' toSend got' (A.toRead s) inbox)
    (h : move P s inbox outbox e = some r) :
    A.Inv r.state ∧ Flow x (sent ++ sentTokens r.notes) (A.toSend r.state) got toRead r.outbox ∧
      Flow y sent' toSend (got' ++ gotTokens r.notes) (A.toRead r.state) r.inbox ∧
      A.work r.state ≤ A.work s ∧ (e.idle = false → A.work r.state < A.work s) := by
  cases e with
  | act =>
    simp only [move] at h
    cases hs : P s with
    | write m f next =>
      rw [hs] at h
      obtain rfl := Option.some.inj h
      obtain ⟨h1, h2, h3, h4⟩ := A.write hinv hs
      refine ⟨h1, ?_, ?_, Nat.le_of_lt h4, fun _ => h4⟩
      · simpa [sentTokens] using hout.write h2
      · simpa [gotTokens, h3] using hin
    | step next =>
      rw [hs] at h
      obtain rfl := Option.some.inj h
      obtain ⟨h1, h2, h3, h4⟩ := A.step hinv hs
      refine ⟨h1, ?_, ?_, Nat.le_of_lt h4, fun _ => h4⟩
      · simpa [sentTokens, h2] using hout
      · simpa [gotTokens, h3] using hin
    | read m next => simp [hs] at h
    | stop => simp [hs] at h
  | arrive p =>
    simp only [move] at h
    cases hs : P s with
    | read m next =>
      rw [hs] at h
      obtain ⟨rest, htake, rfl⟩ := Option.map_eq_some_iff.1 h
      obtain rfl := take_eq_some.1 htake
      have hexp := hin.expected
      rw [List.append_assoc] at hexp
      obtain ⟨h1, h2, h3, h4⟩ := A.read hinv hs hexp
      refine ⟨h1, ?_, ?_, Nat.le_trans (Nat.le_add_right ..) h4, fun hidle => ?_⟩
      · simpa [sentTokens, h2] using hout
      · simpa [gotTokens] using hin.read h3
      · have hne : p.tokens ≠ [] := by simpa [Move.idle] using hidle
        exact Nat.lt_of_lt_of_le (Nat.lt_add_of_pos_right (List.length_pos_iff.2 hne)) h4
    | write m f next => simp [hs] at h
    | step next => simp [hs] at h
    | stop => simp [hs] at h

variable {A : Script P} {B : Script Q} {s₀ : σ} {t₀ : τ}

/-- Each side is to write what the other is to read. -/
structure Matched (A : Script P) (B : Script Q) (s : σ) (t : τ) : Prop where
  left : A.Inv s
  right : B.Inv t
  toRight : A.toSend s = B.toRead t
  toLeft : B.toSend t = A.toRead s

/-- Both sides keep to what was agreed, `x` to the right and `y` to the left. -/
structure InStep (A : Script P) (B : Script Q) (x y : List (μ × Token α)) (s : Session σ τ α)
    (tr : List (SessionObs μ α)) : Prop where
  left : A.Inv s.left
  right : B.Inv s.right
  toRight : Flow x (sentTokens (leftNotes tr)) (A.toSend s.left)
    (gotTokens (rightNotes tr)) (B.toRead s.right) s.toRight
  toLeft : Flow y (sentTokens (rightNotes tr)) (B.toSend s.right)
    (gotTokens (leftNotes tr)) (A.toRead s.left) s.toLeft

/-- How much the two sides still do. -/
def workLeft (A : Script P) (B : Script Q) (s : Session σ τ α) : Nat :=
  A.work s.left + B.work s.right

theorem step_inStep {x y : List (μ × Token α)} {s s' : Session σ τ α} {e : SessionEvent α}
    {tr out : List (SessionObs μ α)} (h : InStep A B x y s tr)
    (hs : (session P Q s₀ t₀).step s e = some (s', out)) :
    InStep A B x y s' (tr ++ out) ∧ workLeft A B s' ≤ workLeft A B s ∧
      (e.idle = false → workLeft A B s' < workLeft A B s) := by
  cases e with
  | left e =>
    obtain ⟨r, hr, he⟩ := Option.map_eq_some_iff.1 hs
    obtain ⟨rfl, rfl⟩ := Prod.mk.inj he
    obtain ⟨h1, h2, h3, h4, h5⟩ := A.move_keeps h.left h.toRight h.toLeft hr
    refine ⟨⟨h1, h.right, ?_, ?_⟩, Nat.add_le_add_right h4 _, fun hi =>
      Nat.add_lt_add_right (h5 hi) _⟩
    · simpa using h2
    · simpa using h3
  | right e =>
    obtain ⟨r, hr, he⟩ := Option.map_eq_some_iff.1 hs
    obtain ⟨rfl, rfl⟩ := Prod.mk.inj he
    obtain ⟨h1, h2, h3, h4, h5⟩ := B.move_keeps h.right h.toLeft h.toRight hr
    refine ⟨⟨h.left, h1, ?_, ?_⟩, Nat.add_le_add_left h4 _, fun hi =>
      Nat.add_lt_add_left (h5 hi) _⟩
    · simpa using h3
    · simpa using h2

variable {G : Session σ τ α → SessionEvent α → Prop} {es : List (SessionEvent α)}
  {s : Session σ τ α} {tr : List (SessionObs μ α)}

/-- **Two programs whose scripts match keep in step**, in any interleaving and however their
frames are cut, and there is a bound on what they do. -/
theorem run_inStep (h : Matched A B s₀ t₀) (hrun : (session P Q s₀ t₀).Run G es s tr) :
    InStep A B (A.toSend s₀) (B.toSend t₀) s tr ∧
      es.countP (fun e => !e.idle) + workLeft A B s ≤ A.work s₀ + B.work t₀ := by
  refine Machine.Run.inv (fun es s tr => InStep A B (A.toSend s₀) (B.toSend t₀) s tr ∧
    es.countP (fun e => !e.idle) + workLeft A B s ≤ A.work s₀ + B.work t₀) ?_ ?_ hrun
  · refine ⟨⟨h.left, h.right, ⟨rfl, ?_, rfl⟩, ⟨rfl, ?_, rfl⟩⟩, by simp [workLeft, session]⟩
    · exact h.toRight.symm
    · exact h.toLeft.symm
  · intro es s tr e s' out _ ih _ hs
    obtain ⟨h1, h2, h3⟩ := step_inStep ih.1 hs
    refine ⟨h1, ?_⟩
    have hih := ih.2
    rw [List.countP_append, List.countP_singleton]
    cases hidle : e.idle with
    | true => simpa [hidle] using Nat.le_trans (Nat.add_le_add_left h2 _) hih
    | false =>
      have := h3 hidle
      simp only [Bool.not_false, if_true]
      omega

/-! ## Progress -/

/-- Where the left side reads, it has nothing more to write. -/
def SpeaksFirst (A : Script P) : Prop :=
  ∀ s m next, A.Inv s → P s = .read m next → A.toSend s = []

omit [DecidableEq α] in
/-- **The two sides never wait for each other.** -/
theorem InStep.not_both_waiting {x y : List (μ × Token α)} (h : InStep A B x y s tr)
    (hfirst : SpeaksFirst A) {m m' : μ} {next : Frame α → σ} {next' : Frame α → τ}
    (hl : P s.left = .read m next) (hr : Q s.right = .read m' next') :
    s.toRight ≠ [] ∨ s.toLeft ≠ [] := by
  refine Or.inl fun hempty => ?_
  have hflow := h.toRight
  rw [hempty] at hflow
  exact hflow.toSend_ne_nil (B.toRead_ne_nil h.right hr) (hfirst _ _ _ h.left hl)

/-- A side that reads can take a piece of what has arrived. -/
theorem move_arrive {m : μ} {next : Frame α → σ} {s : σ} {inbox : List (Token α)}
    (outbox : List (Token α)) (hs : P s = .read m next) (h : inbox ≠ []) :
    ∃ e : Move α, e.idle = false ∧ (move P s inbox outbox e).isSome = true := by
  obtain ⟨t, rest, rfl⟩ := List.exists_cons_of_ne_nil h
  have hpiece : ∃ p : Frame α, p.tokens = [t] := by
    cases t with
    | sym a => exact ⟨⟨false, [a]⟩, rfl⟩
    | fin => exact ⟨⟨true, []⟩, rfl⟩
  obtain ⟨p, hp⟩ := hpiece
  have htake : take p (t :: rest) = some rest := take_eq_some.2 (by rw [hp]; rfl)
  exact ⟨.arrive p, by simp [Move.idle, hp], by simp [move, hs, htake]⟩

/-- A side without a move has stopped, or waits for something that is not on its way. -/
theorem move_none (P : Program σ μ α) (s : σ) (inbox outbox : List (Token α))
    (h : ∀ e : Move α, e.idle = false → move P s inbox outbox e = none) :
    P s = .stop ∨ ((∃ m next, P s = .read m next) ∧ inbox = []) := by
  have hact := h .act rfl
  cases hs : P s with
  | write m f next => simp [move, hs] at hact
  | step next => simp [move, hs] at hact
  | stop => exact .inl rfl
  | read m next =>
    refine .inr ⟨⟨m, next, rfl⟩, ?_⟩
    by_cases hne : inbox = []
    · exact hne
    · obtain ⟨e, hidle, he⟩ := move_arrive outbox hs hne
      rw [h e hidle] at he
      cases he

/-- **Where nothing more can happen, both sides have stopped.** -/
theorem InStep.stuck_stopped {x y : List (μ × Token α)} (h : InStep A B x y s tr)
    (hfirst : SpeaksFirst A)
    (hstuck : ∀ e, e.idle = false → (session P Q s₀ t₀).step s e = none) :
    P s.left = .stop ∧ Q s.right = .stop := by
  have hleft := move_none P s.left s.toLeft s.toRight fun e he =>
    Option.map_eq_none_iff.1 (hstuck (.left e) he)
  have hright := move_none Q s.right s.toRight s.toLeft fun e he =>
    Option.map_eq_none_iff.1 (hstuck (.right e) he)
  rcases hleft with hl | ⟨⟨m, next, hl⟩, hli⟩
  · rcases hright with hr | ⟨⟨m', next', hr⟩, hri⟩
    · exact ⟨hl, hr⟩
    · have hflow := h.toRight
      rw [hri] at hflow
      exact absurd (A.stopped h.left hl).1 (hflow.toSend_ne_nil (B.toRead_ne_nil h.right hr))
  · rcases hright with hr | ⟨⟨m', next', hr⟩, hri⟩
    · have hflow := h.toLeft
      rw [hli] at hflow
      exact absurd (B.stopped h.right hr).1 (hflow.toSend_ne_nil (A.toRead_ne_nil h.left hl))
    · rcases h.not_both_waiting hfirst hl hr with hne | hne
      · exact absurd hri hne
      · exact absurd hli hne

end agreement

end Lib
