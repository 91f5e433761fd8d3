import ContainerBuilder.Lib.Wire

/-!
# Connections that may break

Tokens are sent on one side of a connection, and the reads on the other side return pieces of them,
in their order, until the connection breaks; from then on every read fails. `Delivers` says so, for
whatever `read` makes of the results of the reads. `readMessage` is what a reader gets as a whole
message. A connection that breaks can hold a message back but not change it (`Delivers.reads`):
whoever has read a message to its end has the one that was sent.
-/

namespace Lib

variable {α ρ : Type}

/-- The reads return `as` where `ts` is sent. -/
inductive Delivers (read : ρ → Option (Frame α)) : List (Token α) → List ρ → Prop
  | breaks {ts : List (Token α)} {as : List ρ} : (∀ a ∈ as, read a = none) → Delivers read ts as
  | piece {a : ρ} {p : Frame α} {ts : List (Token α)} {as : List ρ} : read a = some p →
    Delivers read ts as → Delivers read (p.tokens ++ ts) (a :: as)

/-- The first message of `as`, if it is read to its end, and what follows it. -/
def readMessage (read : ρ → Option (Frame α)) : List ρ → Option (List α × List ρ)
  | [] => none
  | a :: as =>
    match read a with
    | none => none
    | some p =>
      if p.fin then some (p.payload, as)
      else (readMessage read as).map fun r => (p.payload ++ r.1, r.2)

theorem message_append_inj {as bs : List α} {t u : List (Token α)}
    (h : message as ++ t = message bs ++ u) : as = bs ∧ t = u := by
  have hframe : Frame.tokens ⟨true, as⟩ ++ t = message bs ++ u := by rwa [tokens_fin]
  rcases tokens_append_eq_message hframe with ⟨hfin, -⟩ | ⟨-, has, ht⟩
  · cases hfin
  · exact ⟨has.symm, ht⟩

variable {read : ρ → Option (Frame α)}

theorem readMessage_broken {as : List ρ} (h : ∀ a ∈ as, read a = none) :
    readMessage read as = none := by
  cases as with
  | nil => rfl
  | cons a as =>
    have ha : read a = none := h a (List.mem_cons_self ..)
    simp only [readMessage, ha]

/-- **A message that is read was sent.** -/
theorem Delivers.sent {ts : List (Token α)} {as as' : List ρ} {bs : List α}
    (h : Delivers read ts as) (hr : readMessage read as = some (bs, as')) :
    ∃ ts', ts = message bs ++ ts' ∧ Delivers read ts' as' := by
  induction h generalizing bs with
  | breaks hnone =>
    rw [readMessage_broken hnone] at hr
    cases hr
  | @piece a p ts as ha hd ih =>
    simp only [readMessage, ha] at hr
    obtain ⟨fin, payload⟩ := p
    cases fin with
    | true =>
      obtain ⟨rfl, rfl⟩ : payload = bs ∧ as = as' := by simpa using hr
      exact ⟨ts, by rw [tokens_fin], hd⟩
    | false =>
      obtain ⟨⟨cs, rest⟩, hrest, he⟩ := Option.map_eq_some_iff.1 hr
      obtain ⟨rfl, rfl⟩ : payload ++ cs = bs ∧ rest = as' := by simpa using he
      obtain ⟨ts', rfl, hd'⟩ := ih hrest
      exact ⟨ts', by rw [tokens_more, message_append, List.append_assoc], hd'⟩

/-- **What is read is what was to be sent**, even if the sender has not come to the end of it. -/
theorem Delivers.reads {ts : List (Token α)} {text bs : List α} {rest : List (Token α)}
    {as as' : List ρ} (h : Delivers read ts as) (hts : ts <+: message text ++ rest)
    (hr : readMessage read as = some (bs, as')) :
    bs = text ∧ ∃ ts', ts' <+: rest ∧ Delivers read ts' as' := by
  obtain ⟨ts', rfl, hd⟩ := h.sent hr
  obtain ⟨us, hus⟩ := hts
  rw [List.append_assoc] at hus
  obtain ⟨hbs, ht⟩ := message_append_inj hus
  exact ⟨hbs, ts', ⟨us, ht⟩, hd⟩

end Lib
