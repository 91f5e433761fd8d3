import ContainerBuilder.Lib.Machine

/-!
# Machines side by side

Two machines run together. Some of their events are the two halves of one shared action, and those
happen in both machines at once: `a₁` and `a₂` say which action an event is in which state. All other
events happen in one machine and leave the other as it is. So the runs of the composition project to
runs of either machine, and what is known of each of them holds of the composition.
-/

namespace Lib

variable {σ₁ ε₁ ο₁ σ₂ ε₂ ο₂ α : Type}

inductive Joint (ε₁ ε₂ : Type)
  | left (e : ε₁)
  | right (e : ε₂)
  | both (e₁ : ε₁) (e₂ : ε₂)

namespace Joint

def leftEvent : Joint ε₁ ε₂ → Option ε₁
  | .left e => some e
  | .right _ => none
  | .both e _ => some e

def rightEvent : Joint ε₁ ε₂ → Option ε₂
  | .left _ => none
  | .right e => some e
  | .both _ e => some e

end Joint

namespace Machine

def beside [DecidableEq α] (M₁ : Machine σ₁ ε₁ ο₁) (M₂ : Machine σ₂ ε₂ ο₂)
    (a₁ : σ₁ → ε₁ → Option α) (a₂ : σ₂ → ε₂ → Option α) :
    Machine (σ₁ × σ₂) (Joint ε₁ ε₂) (ο₁ ⊕ ο₂) where
  init := (M₁.init, M₂.init)
  initOut := M₁.initOut.map .inl ++ M₂.initOut.map .inr
  step
    | s, .left e =>
      if a₁ s.1 e = none then (M₁.step s.1 e).map fun r => ((r.1, s.2), r.2.map .inl) else none
    | s, .right e =>
      if a₂ s.2 e = none then (M₂.step s.2 e).map fun r => ((s.1, r.1), r.2.map .inr) else none
    | s, .both e₁ e₂ =>
      if (a₁ s.1 e₁).isSome = true ∧ a₁ s.1 e₁ = a₂ s.2 e₂ then
        (M₁.step s.1 e₁).bind fun r₁ =>
          (M₂.step s.2 e₂).map fun r₂ => ((r₁.1, r₂.1), r₁.2.map .inl ++ r₂.2.map .inr)
      else none

/-- What the composition can do. -/
inductive BesideStep (M₁ : Machine σ₁ ε₁ ο₁) (M₂ : Machine σ₂ ε₂ ο₂) (a₁ : σ₁ → ε₁ → Option α)
    (a₂ : σ₂ → ε₂ → Option α) (s : σ₁ × σ₂) :
    Joint ε₁ ε₂ → σ₁ × σ₂ → List (ο₁ ⊕ ο₂) → Prop
  | left (e : ε₁) (t : σ₁) (out : List ο₁) : a₁ s.1 e = none → M₁.step s.1 e = some (t, out) →
    BesideStep M₁ M₂ a₁ a₂ s (.left e) (t, s.2) (out.map .inl)
  | right (e : ε₂) (t : σ₂) (out : List ο₂) : a₂ s.2 e = none → M₂.step s.2 e = some (t, out) →
    BesideStep M₁ M₂ a₁ a₂ s (.right e) (s.1, t) (out.map .inr)
  | both (e₁ : ε₁) (e₂ : ε₂) (a : α) (t₁ : σ₁) (t₂ : σ₂) (out₁ : List ο₁) (out₂ : List ο₂) :
    a₁ s.1 e₁ = some a → a₂ s.2 e₂ = some a → M₁.step s.1 e₁ = some (t₁, out₁) →
    M₂.step s.2 e₂ = some (t₂, out₂) →
    BesideStep M₁ M₂ a₁ a₂ s (.both e₁ e₂) (t₁, t₂) (out₁.map .inl ++ out₂.map .inr)

variable [DecidableEq α] {M₁ : Machine σ₁ ε₁ ο₁} {M₂ : Machine σ₂ ε₂ ο₂}
  {a₁ : σ₁ → ε₁ → Option α} {a₂ : σ₂ → ε₂ → Option α}

/-- **The steps of the composition**, exactly. -/
theorem beside_step_iff {s s' : σ₁ × σ₂} {e : Joint ε₁ ε₂} {out : List (ο₁ ⊕ ο₂)} :
    (beside M₁ M₂ a₁ a₂).step s e = some (s', out) ↔ BesideStep M₁ M₂ a₁ a₂ s e s' out := by
  constructor
  · intro h
    cases e with
    | left e =>
      simp only [beside] at h
      split at h
      · rename_i hnone
        obtain ⟨⟨t, out₁⟩, hs, ho⟩ := Option.map_eq_some_iff.1 h
        cases ho
        exact .left e t out₁ hnone hs
      · cases h
    | right e =>
      simp only [beside] at h
      split at h
      · rename_i hnone
        obtain ⟨⟨t, out₂⟩, hs, ho⟩ := Option.map_eq_some_iff.1 h
        cases ho
        exact .right e t out₂ hnone hs
      · cases h
    | both e₁ e₂ =>
      simp only [beside] at h
      split at h
      · rename_i hboth
        obtain ⟨a, ha⟩ := Option.isSome_iff_exists.1 hboth.1
        obtain ⟨⟨t₁, out₁⟩, h₁, h⟩ := Option.bind_eq_some_iff.1 h
        obtain ⟨⟨t₂, out₂⟩, h₂, ho⟩ := Option.map_eq_some_iff.1 h
        cases ho
        exact .both e₁ e₂ a t₁ t₂ out₁ out₂ ha (hboth.2 ▸ ha) h₁ h₂
      · cases h
  · intro h
    cases h with
    | left e t out hnone hs => simp [beside, hnone, hs]
    | right e t out hnone hs => simp [beside, hnone, hs]
    | both e₁ e₂ a t₁ t₂ out₁ out₂ h₁ h₂ hs₁ hs₂ => simp [beside, h₁, h₂, hs₁, hs₂]

section
variable {G : σ₁ × σ₂ → Joint ε₁ ε₂ → Prop}

theorem getLeft_inl (out : List ο₁) :
    (out.map (Sum.inl (β := ο₂))).filterMap Sum.getLeft? = out := by
  rw [List.filterMap_map]
  exact List.filterMap_some

theorem getLeft_inr (out : List ο₂) :
    (out.map (Sum.inr (α := ο₁))).filterMap Sum.getLeft? = [] := by
  rw [List.filterMap_map, List.filterMap_eq_nil_iff]
  exact fun _ _ => rfl

theorem getRight_inr (out : List ο₂) :
    (out.map (Sum.inr (α := ο₁))).filterMap Sum.getRight? = out := by
  rw [List.filterMap_map]
  exact List.filterMap_some

theorem getRight_inl (out : List ο₁) :
    (out.map (Sum.inl (β := ο₂))).filterMap Sum.getRight? = [] := by
  rw [List.filterMap_map, List.filterMap_eq_nil_iff]
  exact fun _ _ => rfl

theorem getLeft_append (out₁ : List ο₁) (out₂ : List ο₂) :
    (out₁.map Sum.inl ++ out₂.map Sum.inr).filterMap Sum.getLeft? = out₁ := by
  rw [List.filterMap_append, getLeft_inl, getLeft_inr, List.append_nil]

theorem getRight_append (out₁ : List ο₁) (out₂ : List ο₂) :
    (out₁.map Sum.inl ++ out₂.map Sum.inr).filterMap Sum.getRight? = out₂ := by
  rw [List.filterMap_append, getRight_inl, getRight_inr, List.nil_append]

/-- **Projection** to the left machine. What a step shows may be used for its side condition. -/
theorem Run.left {G₁ : σ₁ → ε₁ → Prop}
    (hG : ∀ s e s' out e₁, G s e → (beside M₁ M₂ a₁ a₂).step s e = some (s', out) →
      e.leftEvent = some e₁ → G₁ s.1 e₁) {es : List (Joint ε₁ ε₂)} {s : σ₁ × σ₂}
    {tr : List (ο₁ ⊕ ο₂)} (h : (beside M₁ M₂ a₁ a₂).Run G es s tr) :
    M₁.Run G₁ (es.filterMap Joint.leftEvent) s.1 (tr.filterMap Sum.getLeft?) := by
  refine Run.inv (fun es s tr =>
    M₁.Run G₁ (es.filterMap Joint.leftEvent) s.1 (tr.filterMap Sum.getLeft?)) ?_ ?_ h
  · have hout : (beside M₁ M₂ a₁ a₂).initOut.filterMap Sum.getLeft? = M₁.initOut :=
      getLeft_append _ _
    rw [hout]
    exact .start
  · intro es s tr e s' out _ ih hg hs
    rw [List.filterMap_append, List.filterMap_append]
    cases beside_step_iff.1 hs with
    | left e t out₁ _ hs₁ =>
      rw [getLeft_inl]
      exact ih.snoc (hG _ _ _ _ e hg hs rfl) hs₁
    | right e t out₂ _ _ =>
      rw [getLeft_inr, List.append_nil]
      exact (List.append_nil _).symm ▸ ih
    | both e₁ e₂ a t₁ t₂ out₁ out₂ _ _ hs₁ _ =>
      rw [getLeft_append]
      exact ih.snoc (hG _ _ _ _ e₁ hg hs rfl) hs₁

/-- **Projection** to the right machine. -/
theorem Run.right {G₂ : σ₂ → ε₂ → Prop}
    (hG : ∀ s e s' out e₂, G s e → (beside M₁ M₂ a₁ a₂).step s e = some (s', out) →
      e.rightEvent = some e₂ → G₂ s.2 e₂) {es : List (Joint ε₁ ε₂)} {s : σ₁ × σ₂}
    {tr : List (ο₁ ⊕ ο₂)} (h : (beside M₁ M₂ a₁ a₂).Run G es s tr) :
    M₂.Run G₂ (es.filterMap Joint.rightEvent) s.2 (tr.filterMap Sum.getRight?) := by
  refine Run.inv (fun es s tr =>
    M₂.Run G₂ (es.filterMap Joint.rightEvent) s.2 (tr.filterMap Sum.getRight?)) ?_ ?_ h
  · have hout : (beside M₁ M₂ a₁ a₂).initOut.filterMap Sum.getRight? = M₂.initOut :=
      getRight_append _ _
    rw [hout]
    exact .start
  · intro es s tr e s' out _ ih hg hs
    rw [List.filterMap_append, List.filterMap_append]
    cases beside_step_iff.1 hs with
    | left e t out₁ _ _ =>
      rw [getRight_inl, List.append_nil]
      exact (List.append_nil _).symm ▸ ih
    | right e t out₂ _ hs₂ =>
      rw [getRight_inr]
      exact ih.snoc (hG _ _ _ _ e hg hs rfl) hs₂
    | both e₁ e₂ a t₁ t₂ out₁ out₂ _ _ _ hs₂ =>
      rw [getRight_append]
      exact ih.snoc (hG _ _ _ _ e₂ hg hs rfl) hs₂

end

end Machine

end Lib
