import Phrasebook.Proofs.PlainSearch

/-!
# Rewriting a text

**Rewriting by a function** (`Rewritten`). A function tells for the front of a text whether
something is rewritten there, what is written, and what is left. From left to right the text is
rewritten where this is so, and a character is kept where it is not.

**Reading** (`Reads`). A regular expression reads a text as such a function says: its search gives
the first place where something is rewritten, and what is written is made of the captures.

Main result: `replaceAll?_of_rewritten`. Replacing all matches is rewriting.
-/

namespace Phrasebook.Regex

/-- What is written for the front of a text, and what is left of the text. -/
abbrev Rewriter := List Char → Option (List Char × List Char)

/-- A text becomes another one by rewriting from left to right. -/
inductive Rewritten (f : Rewriter) : List Char → List Char → Prop
  | nil : f [] = none → Rewritten f [] []
  | keep {c : Char} {cs ds : List Char} :
      f (c :: cs) = none → Rewritten f cs ds → Rewritten f (c :: cs) (c :: ds)
  | write {cs out rest ds : List Char} :
      f cs = some (out, rest) → Rewritten f rest ds → Rewritten f cs (out ++ ds)

/-- What is rewritten at a place: the place, what is written, and what is left. -/
structure Change where
  place : Cursor
  out : List Char
  rest : List Char

/-- What a function rewrites at a place. -/
def Rewriter.changeAt (f : Rewriter) (place : Cursor) : Option Change :=
  (f place.after).map fun (out, rest) => ⟨place, out, rest⟩

/-- What a match changes. -/
def Captures.change (write : Captures → List Char) (caps : Captures) : Change :=
  ⟨caps.whole.start, write caps, caps.whole.stop.after⟩

/-- A search finds a change, or nothing where there is none. -/
inductive Finding.Is (write : Captures → List Char) : Finding → Option Change → Prop
  | hit (caps : Captures) : Is write (.hit caps) (some (caps.change write))
  | nothing : Is write .nothing none

theorem Finding.Is.eq_nothing {write : Captures → List Char} {finding : Finding}
    (h : finding.Is write none) : finding = .nothing := by
  cases h
  rfl

theorem Finding.Is.exists_hit {write : Captures → List Char} {finding : Finding} {change : Change}
    (h : finding.Is write (some change)) :
    ∃ caps, finding = .hit caps ∧ caps.change write = change := by
  cases h with
  | hit caps => exact ⟨caps, rfl, rfl⟩

/-- **A regular expression reads texts** of some kind as a function says. -/
structure Reads (r : Regex) (write : Captures → List Char) (kind : List Char → Prop)
    (f : Rewriter) : Prop where
  find : ∀ passed place, kind place.after →
    (r.find passed place).Is write (firstFrom f.changeAt place.left place)
  /-- Something is taken wherever something is written. -/
  taken : ∀ {cs out rest}, f cs = some (out, rest) → ∃ taken, taken ≠ [] ∧ cs = taken ++ rest

theorem Reads.mono {r : Regex} {write : Captures → List Char} {kind kind' : List Char → Prop}
    {f : Rewriter} (h : Reads r write kind f) (hkind : ∀ cs, kind' cs → kind cs) :
    Reads r write kind' f where
  find passed place hplace := h.find passed place (hkind _ hplace)
  taken := h.taken

/-! ## The first change -/

theorem firstFrom_of_some {α : Type} {answer : Cursor → Option α} {a : α} {place : Cursor}
    (h : answer place = some a) (further : Nat) : firstFrom answer further place = some a := by
  cases further with
  | zero => exact h
  | succ further =>
    rw [firstFrom, h]
    rfl

theorem firstFrom_of_next {α : Type} {answer : Cursor → Option α} {place next : Cursor} {c : Char}
    (h : answer place = none) (hnext : place.next? = some (c, next)) :
    firstFrom answer place.left place = firstFrom answer next.left next := by
  rw [Cursor.left_of_next? hnext, firstFrom, h, hnext]
  rfl

theorem firstFrom_of_end {α : Type} {answer : Cursor → Option α} {place : Cursor}
    (h : answer place = none) (hend : place.after = []) :
    firstFrom answer place.left place = none := by
  rw [place.left_eq, hend, List.length_nil, firstFrom, h]

theorem firstFrom_map {α β : Type} (answer : Cursor → Option α) (g : α → β) (further : Nat)
    (place : Cursor) :
    firstFrom (fun place => (answer place).map g) further place =
      (firstFrom answer further place).map g := by
  induction further generalizing place with
  | zero => rfl
  | succ further ih =>
    rw [firstFrom, firstFrom, Option.map_or, Option.map_bind]
    simp only [ih]
    rfl

theorem Cursor.exists_next?_of_after {place : Cursor} {c : Char} {cs : List Char}
    (h : place.after = c :: cs) : ∃ next, place.next? = some (c, next) ∧ next.after = cs := by
  cases hnext : place.next? with
  | none =>
    rw [next?_eq_none_iff.1 hnext] at h
    cases h
  | some dn =>
    obtain ⟨d, next⟩ := dn
    obtain ⟨hd, hcs⟩ := List.cons.inj (h.symm.trans (next?_eq_some_iff.1 hnext).1)
    exact ⟨next, by rw [hd], hcs.symm⟩

theorem Cursor.textTo_eq {place stop : Cursor} {taken : List Char}
    (h : place.after = taken ++ stop.after) : place.textTo stop = taken := by
  rw [textTo, place.left_eq, stop.left_eq, h, List.length_append, Nat.add_sub_cancel,
    List.take_left]

section

variable {f : Rewriter} {cs ds : List Char} {place : Cursor}

/-- **The first change** of a text that is rewritten: either there is none and the text stays, or it
is rewritten behind the change as well. -/
theorem Rewritten.first (h : Rewritten f cs ds) (hplace : place.after = cs) :
    (firstFrom f.changeAt place.left place = none ∧ ds = cs) ∨
      ∃ gap c, firstFrom f.changeAt place.left place = some c ∧ cs = gap ++ c.place.after ∧
        f c.place.after = some (c.out, c.rest) ∧
        ∃ es, Rewritten f c.rest es ∧ ds = gap ++ (c.out ++ es) := by
  induction h generalizing place with
  | nil hnone =>
    refine .inl ⟨firstFrom_of_end ?_ hplace, rfl⟩
    rw [Rewriter.changeAt, hplace, hnone]
    rfl
  | @keep c cs ds hnone _ ih =>
    obtain ⟨next, hnext, hafter⟩ := Cursor.exists_next?_of_after hplace
    -- Nothing is changed here, so the first change is that of the next place.
    have hstep : firstFrom f.changeAt place.left place = firstFrom f.changeAt next.left next :=
      firstFrom_of_next (by rw [Rewriter.changeAt, hplace, hnone]; rfl) hnext
    rw [hstep]
    rcases ih hafter with ⟨hfirst, rfl⟩ | ⟨gap, change, hfirst, rfl, hchange, es, hes, rfl⟩
    · exact .inl ⟨hfirst, rfl⟩
    · exact .inr ⟨c :: gap, change, hfirst, rfl, hchange, es, hes, rfl⟩
  | @write cs out rest ds hsome hrest _ =>
    have hchange : f.changeAt place = some ⟨place, out, rest⟩ := by
      rw [Rewriter.changeAt, hplace, hsome]
      rfl
    exact .inr ⟨[], _, firstFrom_of_some hchange _, hplace.symm, by rw [hplace, hsome], ds, hrest,
      rfl⟩

end

/-! ## Texts that are kept -/

section

variable {f : Rewriter} {cs ds es : List Char}

/-- A front in which nothing is rewritten is kept. -/
theorem Rewritten.append (h : ∀ s, s <:+ cs → s ≠ [] → f (s ++ ds) = none)
    (hrest : Rewritten f ds es) : Rewritten f (cs ++ ds) (cs ++ es) := by
  induction cs with
  | nil => exact hrest
  | cons c cs ih =>
    refine .keep (h (c :: cs) List.suffix_rfl (List.cons_ne_nil c cs)) (ih fun s hs => ?_)
    exact h s (hs.trans (List.suffix_cons c cs))

theorem Rewritten.of_append (h : ∀ s, s <:+ cs → s ≠ [] → f (s ++ ds) = none)
    (hrest : Rewritten f (cs ++ ds) es) : ∃ es', es = cs ++ es' ∧ Rewritten f ds es' := by
  induction cs generalizing es with
  | nil => exact ⟨es, rfl, hrest⟩
  | cons c cs ih =>
    have hnone := h (c :: cs) List.suffix_rfl (List.cons_ne_nil c cs)
    cases hrest with
    | keep _ hrest =>
      obtain ⟨es', rfl, hrest'⟩ := ih (fun s hs => h s (hs.trans (List.suffix_cons c cs))) hrest
      exact ⟨es', rfl, hrest'⟩
    | write hsome _ =>
      rw [List.cons_append] at hnone
      cases hnone.symm.trans hsome

end

/-! ## All changes -/

variable {r : Regex} {write : Captures → List Char} {kind : List Char → Prop} {f : Rewriter}
  {purpose : Purpose}

theorem kind_of_append (hkind : ∀ c cs, kind (c :: cs) → kind cs) {cs rest : List Char}
    (h : kind (cs ++ rest)) : kind rest := by
  induction cs with
  | nil => exact h
  | cons c cs ih => exact ih (hkind c _ h)

/-- The cuts from the end of the last match on, put together again. -/
theorem rebuild_collect (hr : Reads r write kind f) (hkind : ∀ c cs, kind (c :: cs) → kind cs)
    {searches : Nat} {matched : Bool} {last : Cursor} {ds : List Char}
    (h : Rewritten f last.after ds) (hlast : kind last.after) (hsearches : last.left < searches) :
    (r.collect purpose matched last searches (some last)).map
      (·.rebuild fun hit => write hit.caps) = some ds := by
  induction searches generalizing matched last ds with
  | zero => omega
  | succ searches ih =>
    rw [collect]
    dsimp only
    generalize (purpose == .places && matched && decide (last.left < last.left)) = passed
    have hfind := hr.find passed last hlast
    -- Either the search ends here, or it goes on behind the first change, with one search less.
    rcases h.first rfl with ⟨hfirst, rfl⟩ | ⟨gap, change, hfirst, hgap, hchange, es, hes, rfl⟩
    · rw [hfirst] at hfind
      rw [hfind.eq_nothing]
      rfl
    · rw [hfirst] at hfind
      obtain ⟨caps, hcaps, rfl⟩ := hfind.exists_hit
      obtain ⟨taken, hne, htaken⟩ := hr.taken hchange
      have htaken : caps.whole.start.after = taken ++ caps.whole.stop.after := htaken
      -- Something is taken, so that the next search begins behind the match and no match is passed
      -- over.
      have hnotEmpty : caps.whole.isEmpty = false := by
        rw [Span.isEmpty, caps.whole.start.left_eq, caps.whole.stop.left_eq, htaken,
          beq_eq_false_iff_ne, List.length_append]
        have := List.length_pos_iff.2 hne
        omega
      have hstop : kind caps.whole.stop.after :=
        kind_of_append hkind (htaken ▸ kind_of_append hkind (hgap ▸ hlast))
      have hleft : caps.whole.stop.left < searches := by
        have hlength := congrArg List.length (hgap.trans (congrArg (gap ++ ·) htaken))
        rw [List.length_append, List.length_append, ← last.left_eq,
          ← caps.whole.stop.left_eq] at hlength
        have := List.length_pos_iff.2 hne
        omega
      have hrest : (r.collect purpose true caps.whole.stop searches (some caps.whole.stop)).map
          (·.rebuild fun hit => write hit.caps) = some es := ih hes hstop hleft
      obtain ⟨cuts, hcuts, hrebuild⟩ := Option.map_eq_some_iff.1 hrest
      have hgapText : last.textTo caps.whole.start = gap := Cursor.textTo_eq hgap
      rw [hcaps]
      dsimp only
      rw [hnotEmpty, if_neg Bool.false_ne_true, hcuts, hgapText, Option.map_some, Option.map_some,
        ← hrebuild]
      exact congrArg some (by simp [Cuts.cons, Cuts.rebuild, Captures.change])

/-- **Replacing all matches is rewriting.** -/
theorem replaceAll?_of_rewritten (hr : Reads r write kind f)
    (hkind : ∀ c cs, kind (c :: cs) → kind cs) {cs ds : List Char} (h : Rewritten f cs ds)
    (hcs : kind cs) :
    r.replaceAll? purpose (fun hit => write hit.caps) cs = some ds := by
  rw [replaceAll?, cuts?]
  exact rebuild_collect hr hkind h hcs (Nat.lt_add_of_pos_right Nat.two_pos)

end Phrasebook.Regex
