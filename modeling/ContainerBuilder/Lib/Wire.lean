/-!
# Messages on a stream of frames

A message is a list of symbols and an end mark. It is written as frames, of which the last carries
the mark, and read as pieces, which need not be the frames: the transport may cut and join them as
long as the tokens stay what they are. So two lists of frames are the same traffic when their
`wire`s are equal.

A reader takes a piece `p` off the tokens of a message. `tokens_append_eq_message` says what that
leaves: the rest of this message, or what follows it.
-/

namespace Lib

variable {α : Type} {μ : Type}

/-- A frame, or the piece of a message that one read returns. `fin` ends the message. -/
structure Frame (α : Type) where
  fin : Bool
  payload : List α
deriving DecidableEq, Repr

inductive Token (α : Type)
  | sym (a : α)
  | fin
deriving DecidableEq, Repr

def Frame.tokens (f : Frame α) : List (Token α) :=
  f.payload.map .sym ++ if f.fin then [.fin] else []

def wire (fs : List (Frame α)) : List (Token α) := fs.flatMap Frame.tokens

/-- The message `as` as it is read to its end. -/
def message (as : List α) : List (Token α) := as.map .sym ++ [.fin]

/-- The tokens `ts` of the message named `m`. -/
def label (m : μ) (ts : List (Token α)) : List (μ × Token α) := ts.map fun t => (m, t)

/-! ## Frames -/

@[simp] theorem wire_nil : wire ([] : List (Frame α)) = [] := rfl

@[simp] theorem wire_cons (f : Frame α) (fs : List (Frame α)) :
    wire (f :: fs) = f.tokens ++ wire fs := by
  simp [wire]

@[simp] theorem wire_append (fs gs : List (Frame α)) : wire (fs ++ gs) = wire fs ++ wire gs := by
  simp [wire]

/-- A message in one frame. -/
@[simp] theorem tokens_fin (as : List α) : Frame.tokens ⟨true, as⟩ = message as := by
  simp [Frame.tokens, message]

@[simp] theorem tokens_more (as : List α) : Frame.tokens ⟨false, as⟩ = as.map .sym := by
  simp [Frame.tokens]

@[simp] theorem message_nil : message ([] : List α) = [.fin] := rfl

@[simp] theorem message_cons (a : α) (as : List α) : message (a :: as) = .sym a :: message as := rfl

theorem message_append (as bs : List α) : message (as ++ bs) = as.map .sym ++ message bs := by
  simp [message]

@[simp] theorem message_ne_nil (as : List α) : message as ≠ [] := by
  simp [message]

/-! ## Labels -/

@[simp] theorem label_append (m : μ) (ts us : List (Token α)) :
    label m (ts ++ us) = label m ts ++ label m us := by
  simp [label]

@[simp] theorem label_unlabelled (m : μ) (ts : List (Token α)) :
    (label m ts).map Prod.snd = ts := by
  simp [label, Function.comp_def]

@[simp] theorem label_eq_nil {m : μ} {ts : List (Token α)} : label m ts = [] ↔ ts = [] := by
  simp [label]

@[simp] theorem label_rename {μ' : Type} (name : μ → μ') (m : μ) (ts : List (Token α)) :
    (label m ts).map (Prod.map name id) = label (name m) ts := by
  simp [label, Function.comp_def]

/-! ## Reading -/

/-- **What a piece leaves of a message**: a rest of it, if the piece does not end it, and what
follows it otherwise. -/
theorem tokens_append_eq_message {p : Frame α} {as : List α} {t rest : List (Token α)}
    (h : p.tokens ++ t = message as ++ rest) :
    (p.fin = false ∧ ∃ bs, as = p.payload ++ bs ∧ t = message bs ++ rest) ∨
      (p.fin = true ∧ as = p.payload ∧ t = rest) := by
  obtain ⟨fin, payload⟩ := p
  induction payload generalizing as with
  | nil =>
    cases fin with
    | false => exact .inl ⟨rfl, as, rfl, by simpa [Frame.tokens] using h⟩
    | true =>
      cases as with
      | nil => exact .inr ⟨rfl, rfl, by simpa [Frame.tokens] using h⟩
      | cons a as => simp [Frame.tokens] at h
  | cons b payload ih =>
    cases as with
    | nil => simp [Frame.tokens] at h
    | cons a as =>
      have hcons : Frame.tokens ⟨fin, b :: payload⟩ = .sym b :: Frame.tokens ⟨fin, payload⟩ := by
        simp [Frame.tokens]
      rw [hcons, message_cons, List.cons_append, List.cons_append, List.cons.injEq] at h
      obtain ⟨hba, htail⟩ := h
      obtain rfl := Token.sym.inj hba
      rcases ih htail with ⟨hf, bs, rfl, ht⟩ | ⟨hf, has, ht⟩
      · exact .inl ⟨hf, bs, rfl, ht⟩
      · exact .inr ⟨hf, by rw [has], ht⟩

/-- The same where not all of it has been sent. -/
theorem tokens_append_prefix_message {p : Frame α} {as : List α} {t rest : List (Token α)}
    (h : p.tokens ++ t <+: message as ++ rest) :
    (p.fin = false ∧ ∃ bs, as = p.payload ++ bs ∧ t <+: message bs ++ rest) ∨
      (p.fin = true ∧ as = p.payload ∧ t <+: rest) := by
  obtain ⟨us, hus⟩ := h
  rw [List.append_assoc] at hus
  rcases tokens_append_eq_message hus with ⟨hfin, bs, has, ht⟩ | ⟨hfin, has, ht⟩
  · exact .inl ⟨hfin, bs, has, us, ht⟩
  · exact .inr ⟨hfin, has, us, ht⟩

/-- A reader that has `buf` of `text` and takes `as` of the rest. -/
theorem prefix_append_of_drop {text buf as bs : List α} (h : buf <+: text)
    (hdrop : text.drop buf.length = as ++ bs) :
    buf ++ as <+: text ∧ text.drop (buf ++ as).length = bs := by
  obtain ⟨rest, rfl⟩ := h
  rw [List.drop_left] at hdrop
  rw [hdrop, ← List.append_assoc]
  exact ⟨List.prefix_append .., List.drop_left⟩

end Lib
