/-!
# Histories

**A history** (`History.log`). The commands of a run in their order, each with the state that it
met; its answer is seen from both. What is true of a run and its history is proved by going from one
command to the next (`log_induction`).

**Since** (`History.Since`). An event after which all events are of one kind, as in "loaded, and only
added to since". The next event either begins such a stretch or makes it longer
(`since_append_single`).
-/

namespace Phrasebook.History

variable {σ γ : Type}

/-- A command and the state that it met. -/
structure Event (σ γ : Type) where
  state : σ
  command : γ

/-- The events of a run. -/
def log (step : σ → γ → σ) (s : σ) : List γ → List (Event σ γ)
  | [] => []
  | c :: cs => ⟨s, c⟩ :: log step (step s c) cs

/-- What holds at the start and is kept by each command holds of every run and its history. -/
theorem log_induction {step : σ → γ → σ} {s : σ} {P : List (Event σ γ) → σ → Prop}
    (hstart : P [] s)
    (hstep : ∀ history t c, P history t → P (history ++ [⟨t, c⟩]) (step t c)) (cs : List γ) :
    P (log step s cs) (cs.foldl step s) := by
  suffices hfrom : ∀ history t, P history t →
      P (history ++ log step t cs) (cs.foldl step t) from hfrom [] s hstart
  induction cs with
  | nil =>
    intro history t h
    rwa [log, List.append_nil]
  | cons c cs ih =>
    intro history t h
    rw [log, List.append_cons]
    exact ih _ _ (hstep history t c h)

variable {α : Type} {P : α → Prop} {history since : List α} {e x : α}

/-- An event of a history, and all that happened since; it is of one kind. -/
def Since (P : α → Prop) (history : List α) (e : α) (since : List α) : Prop :=
  (∃ before, history = before ++ e :: since) ∧ ∀ e' ∈ since, P e'

@[simp] theorem not_since_nil : ¬ Since P [] e since := by
  rintro ⟨⟨before, h⟩, -⟩
  simp at h

/-- **One event more** is itself the event in question, or has happened since. -/
theorem since_append_single : Since P (history ++ [x]) e since ↔
    e = x ∧ since = [] ∨ ∃ earlier, since = earlier ++ [x] ∧ P x ∧ Since P history e earlier := by
  constructor
  · rintro ⟨⟨before, h⟩, hkind⟩
    rcases List.eq_nil_or_concat since with rfl | ⟨earlier, last, rfl⟩
    · obtain ⟨-, hlast⟩ := List.append_inj' h rfl
      exact .inl ⟨(List.cons.inj hlast).1.symm, rfl⟩
    · rw [List.concat_eq_append] at h hkind ⊢
      rw [← List.cons_append, ← List.append_assoc] at h
      obtain ⟨rfl, hlast⟩ := List.append_inj' h rfl
      obtain ⟨rfl, -⟩ := List.cons.inj hlast
      refine .inr ⟨earlier, rfl, hkind x (by simp), ⟨before, rfl⟩, fun e' he' => ?_⟩
      exact hkind e' (List.mem_append_left _ he')
  · rintro (⟨rfl, rfl⟩ | ⟨earlier, rfl, hx, ⟨before, rfl⟩, hkind⟩)
    · exact ⟨⟨history, rfl⟩, nofun⟩
    · refine ⟨⟨before, by simp⟩, fun e' he' => ?_⟩
      rcases List.mem_append.1 he' with he' | he'
      · exact hkind e' he'
      · exact List.mem_singleton.1 he' ▸ hx

end Phrasebook.History
