import Mathlib
import Phrasebook.Proofs.FoundPlaces
import Phrasebook.Proofs.NormalReplacement

/-!
# Inserting is replacing

**Matches in a row** (`Regex.Successive`). Matches that come one after another and do not overlap.
Taken apart at such matches a text is put together again as it was (`Regex.rebuild_text`). An
expression that is matched as a whole finds no others (`Regex.successive_of_whole`).

**What the matches are searched for** does not matter for an expression that does not ask where the
search started (`Regex.cuts?_purpose`).

**The replacement of an insertion** (`Position.keeping`). The whole match, and the insertion with
every dollar twice. It is read for every pattern (`Template.read_keeping`).

Main result: `Rule.insert_as_replace`.
-/

namespace Phrasebook

namespace Regex

variable {r : Regex} {purpose : Purpose} {matched : Bool} {searches : Nat} {text : List Char}
  {last : Cursor} {place : Option Cursor} {cuts : Cuts}

/-! ## What the matches are searched for -/

theorem find_of_not_resumes (h : r.resumes = false) (passed : Bool) (place : Cursor) :
    r.find passed place = r.find false place := by
  rw [find, find, h, Bool.and_false, Bool.and_false]

theorem collect_purpose (h : r.resumes = false) (matched : Bool) (last : Cursor) (searches : Nat)
    (place : Option Cursor) :
    r.collect .places matched last searches place =
      r.collect .groups matched last searches place := by
  induction searches generalizing matched last place with
  | zero => cases place <;> rfl
  | succ searches ih =>
    cases place with
    | none => rfl
    | some place =>
      rw [collect, collect]
      simp only [find_of_not_resumes h (_ && _), ih]

theorem cuts?_purpose (h : r.resumes = false) (text : List Char) :
    r.cuts? .places text = r.cuts? .groups text :=
  collect_purpose h _ _ _ _

/-! ## Matches in a row -/

/-- Matches that come one after another and do not overlap, in what is left of a text. -/
inductive Successive : (left : Nat) → List Hit → Prop
  | nil {left : Nat} : Successive left []
  | cons {left : Nat} {h : Hit} {hits : List Hit} : h.caps.whole.start.left ≤ left →
      h.caps.whole.stop.left ≤ h.caps.whole.start.left →
      Successive h.caps.whole.stop.left hits → Successive left (h :: hits)

namespace Cursor

variable {place stop : Cursor}

theorem In.after_eq (h : place.In text) : place.after = text.drop (text.length - place.left) := by
  subst h
  rw [place.left_eq, List.length_append, Nat.add_sub_cancel, List.drop_left]

theorem In.left_le (h : place.In text) : place.left ≤ text.length := by
  subst h
  rw [place.left_eq, List.length_append]
  omega

/-- The text up to a later place, and what follows that. -/
theorem In.textTo_append (h : place.In text) (hstop : stop.In text) (hle : stop.left ≤ place.left) :
    place.textTo stop ++ stop.after = place.after := by
  have hplace := h.left_le
  have hafter : stop.after = place.after.drop (place.left - stop.left) := by
    rw [hstop.after_eq, h.after_eq, List.drop_drop]
    congr 1
    omega
  rw [textTo, hafter, List.take_append_drop]

end Cursor

/-- The next search goes on at the end of the last match, or behind the next character. -/
def Cursor.GoesOnAt (stop place : Cursor) : Prop :=
  place = stop ∨ ∃ c, stop.next? = some (c, place)

namespace Cursor.GoesOnAt

variable {stop place : Cursor}

theorem in_text (h : stop.GoesOnAt place) (hstop : stop.In text) : place.In text := by
  rcases h with rfl | ⟨c, hnext⟩
  · exact hstop
  · exact hstop.next? hnext

theorem left_le (h : stop.GoesOnAt place) : place.left ≤ stop.left := by
  rcases h with rfl | ⟨c, hnext⟩
  · exact Nat.le_refl _
  · have := left_of_next? hnext
    omega

theorem of_next? (h : stop.next?.map (·.2) = some place) : stop.GoesOnAt place := by
  obtain ⟨⟨c, next⟩, hnext, rfl⟩ := Option.map_eq_some_iff.1 h
  exact .inr ⟨c, hnext⟩

end Cursor.GoesOnAt

/-- **How matches are collected**: there is none any more; or an empty one at the end of the last
match is passed over; or a match is taken, and those behind it after it. -/
theorem collect_cases {here : Cursor}
    (h : r.collect purpose matched last (searches + 1) (some here) = some cuts) :
    cuts = ⟨[], last.after⟩ ∨ ∃ passed caps next, r.find passed here = .hit caps ∧
      (∀ place, next = some place → caps.whole.stop.GoesOnAt place) ∧
      ((caps.whole.stop.left = last.left ∧
        r.collect purpose matched last searches next = some cuts) ∨
      ∃ rest, r.collect purpose true caps.whole.stop searches next = some rest ∧
        cuts = rest.cons ⟨last.textTo caps.whole.start, caps⟩) := by
  rw [collect] at h
  dsimp only at h
  generalize (purpose == .places && matched && decide (here.left < last.left)) = passed at h
  cases hfind : r.find passed here with
  | gaveUp =>
    rw [hfind] at h
    cases h
  | nothing =>
    rw [hfind] at h
    exact .inl (Option.some.inj h).symm
  | hit caps =>
    rw [hfind] at h
    dsimp only at h
    refine .inr ⟨passed, caps, ?_⟩
    split at h
    · refine ⟨_, hfind, fun place => Cursor.GoesOnAt.of_next?, ?_⟩
      split at h
      · next hskip =>
        -- An empty match at the end of the last one is passed over.
        rw [Bool.and_eq_true, beq_iff_eq] at hskip
        exact .inl ⟨hskip.2, h⟩
      · obtain ⟨rest, hrest, rfl⟩ := Option.map_eq_some_iff.1 h
        exact .inr ⟨rest, hrest, rfl⟩
    · refine ⟨_, hfind, fun place hplace => .inl (Option.some.inj hplace).symm, .inr ?_⟩
      obtain ⟨rest, hrest, rfl⟩ := Option.map_eq_some_iff.1 h
      exact ⟨rest, hrest, rfl⟩

theorem collect_stopped (h : searches = 0 ∨ place = none) :
    r.collect purpose matched last searches place = some ⟨[], last.after⟩ := by
  rcases h with rfl | rfl
  · cases place <;> rfl
  · cases searches <;> rfl

theorem rebuild_cons (rest : Cuts) (h : Hit) (f : Hit → List Char) :
    (rest.cons h).rebuild f = h.gap ++ (f h ++ rest.rebuild f) := by
  simp [Cuts.cons, Cuts.rebuild]

/-- **A text is put together again as it was**, if its matches come one after another. -/
theorem rebuild_collect_text (h : r.collect purpose matched last searches place = some cuts)
    (hlast : last.In text) (hplace : ∀ here, place = some here → here.In text)
    (hcuts : Successive last.left cuts.hits) : cuts.rebuild Hit.text = last.after := by
  induction searches generalizing matched last place cuts with
  | zero =>
    rw [collect_stopped (.inl rfl)] at h
    cases h
    rfl
  | succ searches ih =>
    cases place with
    | none =>
      rw [collect_stopped (.inr rfl)] at h
      cases h
      rfl
    | some here =>
      rcases collect_cases h with rfl | ⟨passed, caps, next, hfind, hnext, hcases⟩
      · rfl
      · obtain ⟨hstart, hstop⟩ := find_in (hplace here rfl) hfind
        have hnextIn : ∀ place, next = some place → place.In text :=
          fun place hplace => (hnext place hplace).in_text hstop
        -- A match that is passed over is empty, and nothing is put together for it.
        rcases hcases with ⟨-, hskip⟩ | ⟨rest, hrest, rfl⟩
        · exact ih hskip hlast hnextIn hcuts
        · cases hcuts with
          | cons hle hle' hcuts =>
            rw [rebuild_cons, ih hrest hstop hnextIn hcuts]
            show last.textTo caps.whole.start ++
              (caps.whole.start.textTo caps.whole.stop ++ caps.whole.stop.after) = last.after
            rw [hstart.textTo_append hstop hle', hlast.textTo_append hstart hle]

theorem rebuild_text (h : r.cuts? purpose text = some cuts)
    (hcuts : Successive text.length cuts.hits) : cuts.rebuild Hit.text = text := by
  refine rebuild_collect_text h (Cursor.in_ofText text) (fun here hhere => ?_) hcuts
  cases hhere
  exact Cursor.in_ofText text

/-- **An expression that is matched as a whole** finds matches that come one after another. -/
theorem successive_collect {p : Plain} (hwhole : r.method = .whole p)
    (h : r.collect purpose matched last searches place = some cuts)
    (hplace : ∀ here, place = some here → here.left ≤ last.left) :
    Successive last.left cuts.hits := by
  induction searches generalizing matched last place cuts with
  | zero =>
    rw [collect_stopped (.inl rfl)] at h
    cases h
    exact .nil
  | succ searches ih =>
    cases place with
    | none =>
      rw [collect_stopped (.inr rfl)] at h
      cases h
      exact .nil
    | some here =>
      rcases collect_cases h with rfl | ⟨passed, caps, next, hfind, hnext, hcases⟩
      · exact .nil
      · obtain ⟨hstart, hstop⟩ := find_whole hwhole hfind
        have hhere := hplace here rfl
        -- Either way the next search does not begin in front of the end of the last match.
        rcases hcases with ⟨hskip, hrest⟩ | ⟨rest, hrest, rfl⟩
        · exact ih hrest fun place hplace => hskip ▸ (hnext place hplace).left_le
        · exact .cons (Nat.le_trans hstart hhere) hstop
            (ih hrest fun place hplace => (hnext place hplace).left_le)

/-- Whether an expression is matched as a whole. -/
def isWhole (r : Regex) : Bool :=
  match r.method with
  | .whole _ => true
  | .stepwise _ => false

theorem successive_of_whole (hwhole : r.isWhole) (h : r.cuts? purpose text = some cuts) :
    Successive text.length cuts.hits := by
  cases hmethod : r.method with
  | whole p =>
    refine successive_collect hmethod h fun here hhere => ?_
    cases hhere
    exact Nat.le_refl _
  | stepwise p => simp [isWhole, hmethod] at hwhole

end Regex

namespace Speech

open Regex (Purpose Hit)

/-! ## The replacement of an insertion -/

namespace Template

/-- A text with every dollar twice. -/
def doubled (cs : List Char) : List Char :=
  cs.flatMap fun c => if c = '$' then ['$', '$'] else [c]

/-- **A text with every dollar twice is read as the text.** -/
theorem read_doubled_append (groups : Nat) (cs more : List Char) :
    read groups (doubled cs ++ more) = (read groups more).map (cs.map .char ++ ·) := by
  induction cs with
  | nil =>
    show read groups more = _
    cases read groups more <;> rfl
  | cons c cs ih =>
    have hfront : Front groups (doubled (c :: cs) ++ more) (.char c) (doubled cs ++ more) := by
      by_cases hc : c = '$'
      · subst hc
        exact .dollar
      · simpa [doubled, hc] using Front.char hc
    rw [read_of_front hfront, ih]
    cases read groups more <;> rfl

end Template

namespace Position

/-- A text, put before or after another one. -/
def around (position : Position) (insertion text : List Char) : List Char :=
  match position with
  | before => insertion ++ text
  | after => text ++ insertion

/-- The replacement that keeps the match and puts a text before or after it. -/
def keeping (position : Position) (insertion : String) : String :=
  String.ofList (position.around (Template.doubled insertion.toList) ['$', '&'])

/-- The template of the replacement that keeps the match. -/
def template : Position → List Char → Template
  | before, insertion => insertion.map .char ++ [.group 0]
  | after, insertion => .group 0 :: insertion.map .char

variable (position : Position) (insertion : String)

/-- **The replacement that keeps the match is read** for every pattern. -/
theorem read_keeping (groups : Nat) :
    Template.read groups (position.keeping insertion).toList =
      .ok (position.template insertion.toList) := by
  have hwhole (more : List Char) : Template.read groups ('$' :: '&' :: more) =
      (Template.read groups more).map (.group 0 :: ·) := Template.read_of_front .whole
  rw [keeping, String.toList_ofList]
  cases position with
  | before =>
    rw [around, Template.read_doubled_append, hwhole]
    rfl
  | after =>
    have hdoubled := Template.read_doubled_append groups insertion.toList []
    rw [List.append_nil] at hdoubled
    show Template.read groups ('$' :: '&' :: Template.doubled insertion.toList) = _
    rw [hwhole, hdoubled]
    simp [Template.read, Except.map, template]

theorem not_isLiteral_template (insertion : List Char) :
    (position.template insertion).isLiteral = false := by
  cases position <;> simp [template, Template.isLiteral]

theorem expand_template (insertion : List Char) (caps : Regex.Captures) :
    (position.template insertion).expand caps = position.around insertion caps.whole.text := by
  have hchars : Template.expand (insertion.map .char) caps = insertion := by
    induction insertion with
    | nil => rfl
    | cons c cs ih => exact congrArg (c :: ·) ih
  have hwhole : Template.expand [.group 0] caps = caps.whole.text := List.append_nil _
  cases position with
  | before =>
    show Template.expand (insertion.map .char ++ [.group 0]) caps = insertion ++ caps.whole.text
    rw [Template.expand, List.flatMap_append]
    exact congrArg₂ (· ++ ·) hchars hwhole
  | after => exact congrArg (caps.whole.text ++ ·) hchars

end Position

/-! ## Rules that insert -/

namespace Rule

variable {r : Regex} {pattern insertion : String} {position : Position} {problem : RuleProblem}
  {phrase : List Char}

theorem replacement_insert (r : Regex) (insertion : String) (position : Position) (h : Hit) :
    replacement (.insert r insertion position) h = position.around insertion.toList h.text := by
  cases position <;> rfl

theorem applyTo?_insert (r : Regex) (insertion : String) (position : Position)
    (phrase : List Char) : applyTo? (.insert r insertion position) phrase =
      (r.cuts? .places phrase).map
        (·.rebuild fun h => position.around insertion.toList h.text) := by
  have hreplacement : replacement (.insert r insertion position) =
      fun h => position.around insertion.toList h.text :=
    funext (replacement_insert r insertion position)
  rw [applyTo?, hreplacement]
  rfl

theorem applyTo?_replace_template (r : Regex) (insertion : List Char) (position : Position)
    (phrase : List Char) : applyTo? (.replace r (position.template insertion)) phrase =
      (r.cuts? .groups phrase).map (·.rebuild fun h => position.around insertion h.text) := by
  have hpurpose : purpose (.replace r (position.template insertion)) = .groups := by
    rw [purpose, position.not_isLiteral_template]
    rfl
  have hreplacement : replacement (.replace r (position.template insertion)) =
      fun h => position.around insertion h.text :=
    funext fun h => position.expand_template insertion h.caps
  rw [applyTo?, hpurpose, hreplacement]
  rfl

theorem compile_insert_of_pattern (h : compilePattern pattern = .ok r) :
    compile (.insert pattern insertion position) = .ok (.insert r insertion position) := by
  rw [compile, h]
  rfl

theorem compile_keeping_of_pattern (h : compilePattern pattern = .ok r) :
    compile (.replace pattern (position.keeping insertion)) =
      .ok (.replace r (position.template insertion.toList)) := by
  rw [compile, h]
  show (Template.read r.groups (position.keeping insertion).toList >>= _) = _
  rw [position.read_keeping]
  rfl

theorem compile_of_fault (h : compilePattern pattern = .error problem) :
    compile (.insert pattern insertion position) = .error problem ∧
      compile (.replace pattern (position.keeping insertion)) = .error problem := by
  rw [compile, compile, h]
  exact ⟨rfl, rfl⟩

/-- Rules that make the same of a phrase can stand for one another in a row of rules. -/
theorem applyFrom_congr {one other : Rule} (h : one.applyTo? phrase = other.applyTo? phrase)
    (key : String) (index : Nat) (rest : List Rule) :
    Mapping.applyFrom key index (one :: rest) phrase =
      Mapping.applyFrom key index (other :: rest) phrase := by
  rw [Mapping.applyFrom, Mapping.applyFrom, h]

/-- **Inserting is replacing.** A rule that inserts compiles exactly where its pattern does, and so
does the rule that replaces each match by itself, with the insertion behind or in front of it and
every dollar of that twice. Where both see the same matches, which is a question only for a pattern
that asks where the search started, both make the same of a phrase, or both give up. Where the
matches come one after another, the phrase is copied as it is, once, and the insertion is added at
each match. -/
theorem insert_as_replace (pattern insertion : String) (position : Position) :
    (∀ problem, compilePattern pattern = .error problem →
      compile (.insert pattern insertion position) = .error problem ∧
        compile (.replace pattern (position.keeping insertion)) = .error problem) ∧
    ∀ r, compilePattern pattern = .ok r → ∃ template,
      compile (.insert pattern insertion position) = .ok (.insert r insertion position) ∧
      compile (.replace pattern (position.keeping insertion)) = .ok (.replace r template) ∧
      ∀ phrase,
        ((r.resumes → r.cuts? .places phrase = r.cuts? .groups phrase) → ∀ key index rest,
          Mapping.applyFrom key index (.insert r insertion position :: rest) phrase =
            Mapping.applyFrom key index (.replace r template :: rest) phrase) ∧
        ∀ cuts, r.cuts? .places phrase = some cuts → Regex.Successive phrase.length cuts.hits →
          cuts.rebuild Hit.text = phrase ∧
            applyTo? (.insert r insertion position) phrase =
              some (cuts.rebuild fun h => position.around insertion.toList h.text) := by
  refine ⟨fun problem h => compile_of_fault h, fun r hr => ?_⟩
  refine ⟨_, compile_insert_of_pattern hr, compile_keeping_of_pattern hr, fun phrase => ⟨?_, ?_⟩⟩
  · intro hsame key index rest
    apply applyFrom_congr
    -- Only a pattern that asks where the search started can see different matches.
    have hcuts : r.cuts? .places phrase = r.cuts? .groups phrase := by
      cases hresumes : r.resumes with
      | false => exact Regex.cuts?_purpose hresumes phrase
      | true => exact hsame hresumes
    rw [applyTo?_insert, applyTo?_replace_template, hcuts]
  · intro cuts hcuts hsuccessive
    refine ⟨Regex.rebuild_text hcuts hsuccessive, ?_⟩
    rw [applyTo?_insert, hcuts]
    rfl

/-- Empty matches stand in front of the first letter and behind the last one; the one at the end of
the match in the middle does not count. -/
theorem insert_as_replace_stars :
    ∃ r template cuts, compilePattern "a*" = .ok r ∧ r.resumes = false ∧
      compile (.replace "a*" "$&$$1") = .ok (.replace r template) ∧
      Mapping.applyFrom "stars" 0 [.replace r template] "åaaö".toList =
        .ok "$1åaa$1ö$1".toList ∧
      r.cuts? .places "åaaö".toList = some cuts ∧ Regex.Successive 4 cuts.hits ∧
      cuts.rebuild Hit.text = "åaaö".toList := by
  have hresumes : (Regex.ofText? "a*").map (·.resumes) = some false := by cbv
  have hwhole : (Regex.ofText? "a*").map (·.isWhole) = some true := by cbv
  have happly : (Regex.ofText? "a*").bind (fun r =>
      applyTo? (.insert r "$1" .after) "åaaö".toList) = some "$1åaa$1ö$1".toList := by cbv
  obtain ⟨r, hr⟩ : ∃ r, Regex.ofText? "a*" = some r := Option.isSome_iff_exists.1 (by cbv)
  rw [hr] at hresumes hwhole happly
  have hresumes : r.resumes = false := Option.some.inj hresumes
  have happly : applyTo? (.insert r "$1" .after) "åaaö".toList = some "$1åaa$1ö$1".toList := happly
  have hpattern : compilePattern "a*" = .ok r := by rw [compilePattern, hr]
  have hkeeping : Position.after.keeping "$1" = "$&$$1" := by decide
  obtain ⟨template, -, hreplace, hphrase⟩ := (insert_as_replace "a*" "$1" .after).2 r hpattern
  obtain ⟨hequal, hcopied⟩ := hphrase "åaaö".toList
  rw [hkeeping] at hreplace
  have hsame := hequal (fun h => absurd h (by simp [hresumes])) "stars" 0 []
  rw [Mapping.applyFrom, happly] at hsame
  have hcuts := applyTo?_insert r "$1" .after "åaaö".toList
  rw [happly] at hcuts
  obtain ⟨cuts, hcuts, -⟩ := Option.map_eq_some_iff.1 hcuts.symm
  have hsuccessive : Regex.Successive 4 cuts.hits :=
    Regex.successive_of_whole (Option.some.inj hwhole) hcuts
  exact ⟨r, template, cuts, hpattern, hresumes, hreplace, hsame.symm, hcuts, hsuccessive,
    (hcopied cuts hcuts hsuccessive).1⟩

end Rule

end Speech

end Phrasebook
