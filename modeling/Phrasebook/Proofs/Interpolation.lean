import Phrasebook.Interpolation
import Phrasebook.Proofs.Placeholder

/-!
# What is left after filling in

Values are put in one after another, and a value may hold braces of its own, so a placeholder can
arise that no text had. What the completeness check lets through is described here by its result
alone.

**Acceptance** (`complete_eq_ok_iff`). A filled text is given out exactly when no placeholder occurs
in it, and otherwise the error lists what the scan finds in it.

**Fixed points** (`Settled`). A text in which no placeholder occurs has nothing to put a value for:
filling it again, with variables whose names can stand in a placeholder and with any quantity,
gives it back.

Main result: `settled_of_complete`. Every text that is given out is settled.
-/

namespace Phrasebook

open Placeholder

/-! ## Replacing what does not occur -/

theorem Text.replaceFrom_eq_self {needle replacement cs : List Char} (h : ¬ needle <:+: cs) :
    Text.replaceFrom needle replacement 0 cs = cs := by
  induction cs with
  | nil => rfl
  | cons c cs ih =>
    rw [List.infix_cons_iff, not_or] at h
    obtain ⟨hhere, hlater⟩ := h
    rw [Text.replaceFrom, if_neg (by rwa [List.isPrefixOf_iff_prefix]), ih hlater]

namespace Interpolation

theorem put_eq_self {cs name : List Char} (h : ¬ Occurs cs) (hn : IsName name)
    (value : List Char) : put cs name value = cs :=
  Text.replaceFrom_eq_self fun hi => h ⟨name, hn, hi⟩

theorem isName_quantityName : IsName quantityName := by
  decide

/-- Names that can stand in a placeholder; any other name stands for nothing. -/
def ProperNames (vars : Variables) : Prop :=
  ∀ v ∈ vars, IsName v.1.toList

theorem foldl_put_eq_self {cs : List Char} (h : ¬ Occurs cs) (vars : Variables)
    (hvars : ProperNames vars) :
    vars.foldl (fun cs v => put cs v.1.toList v.2.text.toList) cs = cs := by
  induction vars with
  | nil => rfl
  | cons v vars ih =>
    rw [List.foldl_cons, put_eq_self h (hvars v List.mem_cons_self)]
    exact ih fun w hw => hvars w (List.mem_cons_of_mem v hw)

theorem fill_eq_self {cs : List Char} (h : ¬ Occurs cs) {vars : Variables}
    (hvars : ProperNames vars) (q : Option Quantity) : fill vars q cs = cs := by
  unfold fill
  rw [foldl_put_eq_self h vars hvars]
  cases q with
  | none => rfl
  | some q => exact put_eq_self h isName_quantityName _

theorem substitute_eq_self {s : String} (h : ¬ Occurs s.toList) {vars : Variables}
    (hvars : ProperNames vars) (q : Option Quantity) : substitute s vars q = s := by
  rw [substitute, fill_eq_self h hvars, String.ofList_toList]

/-! ## The completeness check -/

theorem complete_of_not_occurs {text : String} {vars : Variables} {q : Option Quantity}
    (h : ¬ Occurs (substitute text vars q).toList) (key : Option String) :
    complete key text vars q = .ok (substitute text vars q) := by
  rw [complete, (find_eq_nil_iff _).2 h]
  rfl

theorem complete_of_occurs {text : String} {vars : Variables} {q : Option Quantity}
    (h : Occurs (substitute text vars q).toList) (key : Option String) :
    complete key text vars q = .error (.missingVariable key (find (substitute text vars q))) := by
  have hne : ¬ (find (substitute text vars q)).isEmpty := by
    rw [List.isEmpty_iff, find_eq_nil_iff]
    exact fun hn => hn h
  rw [complete, if_neg hne]

theorem complete_eq_ok_iff {key : Option String} {text s : String} {vars : Variables}
    {q : Option Quantity} :
    complete key text vars q = .ok s ↔ s = substitute text vars q ∧ ¬ Occurs s.toList := by
  by_cases h : Occurs (substitute text vars q).toList
  · rw [complete_of_occurs h]
    refine ⟨fun he => (by cases he), ?_⟩
    rintro ⟨rfl, hs⟩
    exact absurd h hs
  · rw [complete_of_not_occurs h, Except.ok.injEq, eq_comm]
    refine ⟨?_, And.left⟩
    rintro rfl
    exact ⟨rfl, h⟩

theorem complete_eq_error_iff {key : Option String} {text : String} {vars : Variables}
    {q : Option Quantity} {e : LookupError} :
    complete key text vars q = .error e ↔
      e = .missingVariable key (find (substitute text vars q)) ∧
        Occurs (substitute text vars q).toList := by
  by_cases h : Occurs (substitute text vars q).toList
  · rw [complete_of_occurs h, Except.error.injEq, eq_comm]
    exact ⟨fun he => ⟨he, h⟩, And.left⟩
  · rw [complete_of_not_occurs h]
    exact ⟨fun he => (by cases he), fun he => absurd he.2 h⟩

/-- A text with nothing left to fill in. -/
structure Settled (s : String) : Prop where
  /-- No placeholder occurs in it. -/
  clean : ¬ Occurs s.toList
  /-- Filling it again gives it back. -/
  fixed : ∀ (vars : Variables) (q : Option Quantity), ProperNames vars →
    interpolate s vars q = .ok s

theorem settled_of_not_occurs {s : String} (h : ¬ Occurs s.toList) : Settled s where
  clean := h
  fixed _ q hvars := complete_eq_ok_iff.2 ⟨(substitute_eq_self h hvars q).symm, h⟩

/-- **What is given out is settled.** -/
theorem settled_of_complete {key : Option String} {text s : String} {vars : Variables}
    {q : Option Quantity} (h : complete key text vars q = .ok s) : Settled s :=
  settled_of_not_occurs (complete_eq_ok_iff.1 h).2

end Interpolation

end Phrasebook
