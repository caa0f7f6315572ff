import Mathlib.Data.List.TakeWhile
import Phrasebook.Proofs.Rewriting

/-!
# Patterns with a head

A headed pattern matches one of some words, a blank, and then something else. The word is group 1.

**Heads** (`headedRewriter`). Heads are words of letters. So a head is there exactly where all
letters that come next are a head and a blank follows, and no two heads are there at once.

**Endings** (`Ending`). What comes behind the blank has group 2. A function says what it matches.

Main result: `reads_headed`. A headed pattern that is matched as a whole reads every text as the
head and the function of its ending say.
-/

namespace Phrasebook.Regex

open Unicode (CharSet)

/-! ## Behind a text -/

namespace Cursor

variable {place stop : Cursor} {cs rest : List Char}

theorem ext_of_sides (hbefore : place.before = stop.before) (hafter : place.after = stop.after) :
    place = stop := by
  obtain ⟨before, after, left, rfl⟩ := place
  obtain ⟨before', after', left', rfl⟩ := stop
  obtain rfl : before = before' := hbefore
  obtain rfl : after = after' := hafter
  rfl

theorem skip?_eq_some_iff :
    place.skip? cs = some stop ↔
      place.after = cs ++ stop.after ∧ stop.before = cs.reverse ++ place.before := by
  induction cs generalizing place with
  | nil =>
    rw [skip?, Option.some.injEq]
    constructor
    · rintro rfl
      exact ⟨rfl, rfl⟩
    · rintro ⟨hafter, hbefore⟩
      exact ext_of_sides hbefore.symm hafter
  | cons d cs ih =>
    rw [skip?]
    cases hnext : place.next? with
    | none => simp [next?_eq_none_iff.1 hnext]
    | some cn =>
      obtain ⟨c, next⟩ := cn
      obtain ⟨hafter, hbefore⟩ := next?_eq_some_iff.1 hnext
      dsimp only
      split
      · next hc =>
        rw [ih, hafter, hc, List.cons_append, List.cons_inj_right, hbefore, hc, List.reverse_cons,
          List.append_assoc, List.singleton_append]
      · next hc =>
        rw [hafter, List.cons_append]
        simp [hc]

theorem skip?_cons {c : Char} (h : place.skip? (c :: cs) = some stop) :
    ∃ next, place.next? = some (c, next) ∧ next.skip? cs = some stop := by
  rw [skip?] at h
  cases hnext : place.next? with
  | none =>
    rw [hnext] at h
    cases h
  | some dn =>
    obtain ⟨d, next⟩ := dn
    rw [hnext] at h
    dsimp only at h
    split at h
    · next hd => exact ⟨next, by rw [hd], h⟩
    · cases h

/-- A text that comes next can be skipped. -/
theorem exists_skip? (h : place.after = cs ++ rest) :
    ∃ stop, place.skip? cs = some stop ∧ stop.after = rest := by
  refine ⟨⟨cs.reverse ++ place.before, rest, rest.length, rfl⟩, skip?_eq_some_iff.2 ⟨h, rfl⟩, rfl⟩

end Cursor

/-! ## Words -/

namespace Simple

variable {k : Finder} {place : Cursor} {spans : Spans}

/-- The characters of a word in a row. -/
def word (w : List Char) : Simple :=
  w.foldr (fun c p => .seq (.set (.single c)) p) .empty

/-- One of some words. -/
def oneOf : List (List Char) → Simple
  | [] => .empty
  | [w] => word w
  | w :: v :: ws => .choice (word w) (oneOf (v :: ws))

theorem has_single {c d : Char} : (CharSet.single d).has c ↔ c = d := by
  have hrange : (CharSet.single d).has c ↔ c.toNat = d.toNat := by
    simp only [CharSet.has, CharSet.hasCode, CharSet.single, CharSet.range, Text.inRanges]
    split_ifs <;> simp <;> omega
  rw [hrange]
  exact Char.toNat_inj

theorem behind?_single (d : Char) : behind? (.single d) place = place.skip? [d] := by
  rw [behind?, Cursor.skip?]
  cases place.next? with
  | none => rfl
  | some cn =>
    obtain ⟨c, next⟩ := cn
    simp only [has_single, Cursor.skip?]

theorem scan_word (w : List Char) :
    (word w).scan place spans k = (place.skip? w).bind fun next => k next spans := by
  induction w generalizing place with
  | nil => rfl
  | cons d w ih =>
    show ((behind? (.single d) place).bind fun next => (word w).scan next spans k) = _
    rw [behind?_single, Cursor.skip?, Cursor.skip?]
    cases place.next? with
    | none => rfl
    | some cn =>
      obtain ⟨c, next⟩ := cn
      dsimp only
      split
      · exact ih
      · rfl

/-- The first of some words that is there decides. -/
theorem scan_oneOf {ws : List (List Char)} (h : ws ≠ []) :
    (oneOf ws).scan place spans k =
      ws.findSome? fun w => (place.skip? w).bind fun next => k next spans := by
  induction ws with
  | nil => exact absurd rfl h
  | cons w ws ih =>
    cases ws with
    | nil => rw [oneOf, scan_word, List.findSome?_singleton]
    | cons v ws =>
      rw [oneOf, scan, scan_word, ih (List.cons_ne_nil v ws)]
      conv_rhs => rw [List.findSome?_cons]
      cases (place.skip? w).bind fun next => k next spans <;> rfl

/-! ## Letters -/

/-- The letters without accents. -/
def letters : CharSet :=
  ⟨[(65, 90), (97, 122)]⟩

end Simple

/-- Whether a character is a letter without an accent. -/
def isLetter (c : Char) : Bool :=
  Simple.letters.has c

/-- Characters that are all letters without accents. -/
def Lettered (cs : List Char) : Prop :=
  ∀ c ∈ cs, isLetter c

instance : DecidablePred Lettered := fun _ =>
  decidable_of_iff _ List.all_eq_true

theorem Lettered.head {c : Char} {cs : List Char} (h : Lettered (c :: cs)) : isLetter c :=
  h c List.mem_cons_self

theorem Lettered.tail {c : Char} {cs : List Char} (h : Lettered (c :: cs)) : Lettered cs :=
  fun d hd => h d (List.mem_cons_of_mem c hd)

namespace Simple

variable {k : Finder} {place stop : Cursor} {spans : Spans}

theorem behind?_letters_of_letter {c : Char} {next : Cursor} (h : place.next? = some (c, next))
    (hc : isLetter c) : behind? letters place = some next := by
  rw [behind?, h]
  exact if_pos hc

theorem behind?_letters_of_end (h : place.after.head?.all fun c => !isLetter c) :
    behind? letters place = none := by
  rw [behind?]
  cases hnext : place.next? with
  | none => rfl
  | some cn =>
    obtain ⟨c, next⟩ := cn
    rw [(Cursor.next?_eq_some_iff.1 hnext).1] at h
    have hc : isLetter c = false := by simpa using h
    exact if_neg (by simpa [isLetter] using hc)

/-- **All letters that come next are taken**, if what comes after them is accepted there. -/
theorem scanRounds_of_isSome {cs : List Char} (hcs : Lettered cs)
    (hskip : place.skip? cs = some stop) (hend : stop.after.head?.all fun c => !isLetter c)
    (hk : (k stop spans).isSome) {rounds : Nat} (hrounds : cs.length < rounds) :
    scanRounds letters k rounds place spans = k stop spans := by
  induction cs generalizing place rounds with
  | nil =>
    obtain ⟨rounds, rfl⟩ := Nat.exists_eq_succ_of_ne_zero (Nat.ne_zero_of_lt hrounds)
    obtain rfl := Option.some.inj hskip
    rw [scanRounds, behind?_letters_of_end hend]
    rfl
  | cons c cs ih =>
    obtain ⟨rounds, rfl⟩ := Nat.exists_eq_succ_of_ne_zero (Nat.ne_zero_of_lt hrounds)
    obtain ⟨next, hnext, hrest⟩ := Cursor.skip?_cons hskip
    have hletter := hcs c List.mem_cons_self
    -- The longest row is tried first, and it is found already.
    have hlater := ih hcs.tail hrest
      (Nat.lt_of_succ_lt_succ hrounds)
    rw [scanRounds, behind?_letters_of_letter hnext hletter, Option.bind_some, hlater]
    exact Option.or_of_isSome hk

end Simple

/-! ## Heads -/

/-- What is written for one of some words, a blank and an ending. -/
def headedRewriter (heads : List (List Char)) (joint close : List Char) (ending : Rewriter) :
    Rewriter := fun cs =>
  let head := cs.takeWhile isLetter
  if head ∈ heads then
    match cs.dropWhile isLetter with
    | ' ' :: more => (ending more).map fun (text, rest) => (head ++ joint ++ text ++ close, rest)
    | _ => none
  else none

/-- What is written for the match of a headed pattern. -/
def writeHeaded (joint close : List Char) (caps : Captures) : List Char :=
  caps.textOf 1 ++ joint ++ caps.textOf 2 ++ close

/-- **A pattern ends with what a function says**: it takes some characters, the first of which are
group 2. -/
def Ending (p : Simple) (ending : Rewriter) : Prop :=
  ∀ place spans,
    (ending place.after = none ∧ p.scan place spans (fun stop spans => some (stop, spans)) = none) ∨
      ∃ middle stop text close, p.scan place spans (fun stop spans => some (stop, spans)) =
          some (stop, (2, ⟨place, middle⟩) :: spans) ∧
        ending place.after = some (text, stop.after) ∧ place.skip? text = some middle ∧
        place.skip? (text ++ close) = some stop ∧ text ≠ []

namespace Simple

/-- One of some words, a blank and an ending. -/
def headed (heads : List (List Char)) (ending : Simple) : Simple :=
  .seq (.group 1 (oneOf heads)) (.seq (.set (.single ' ')) ending)

variable {heads : List (List Char)} {ending : Simple} {f : Rewriter} {place : Cursor}
  {joint close : List Char}

theorem scan_headed (hheads : heads ≠ []) (k : Finder) :
    (headed heads ending).scan place [] k = heads.findSome? fun head =>
      (place.skip? head).bind fun stop => (stop.skip? [' ']).bind fun next =>
        ending.scan next [(1, ⟨place, stop⟩)] k := by
  show (oneOf heads).scan place [] (fun stop spans =>
    (behind? (.single ' ') stop).bind fun next =>
      ending.scan next ((1, ⟨place, stop⟩) :: spans) k) = _
  rw [scan_oneOf hheads]
  simp only [behind?_single]

end Simple

section

variable {heads : List (List Char)} {ending : Simple} {f : Rewriter} {place : Cursor}
  {joint close head more : List Char}

theorem takeWhile_isLetter_append (h : Lettered head) :
    (head ++ ' ' :: more).takeWhile isLetter = head := by
  rw [List.takeWhile_append_of_pos h, List.takeWhile_cons_of_neg (by decide), List.append_nil]

theorem dropWhile_isLetter_append (h : Lettered head) :
    (head ++ ' ' :: more).dropWhile isLetter = ' ' :: more := by
  rw [List.dropWhile_append_of_pos h, List.dropWhile_cons_of_neg (by decide)]

/-- A head and a blank at the front of a text, and what is left. -/
theorem headedRewriter_of_head (h : Lettered head) (hhead : head ∈ heads) :
    headedRewriter heads joint close f (head ++ ' ' :: more) =
      (f more).map fun (text, rest) => (head ++ joint ++ text ++ close, rest) := by
  rw [headedRewriter, takeWhile_isLetter_append h, dropWhile_isLetter_append h]
  exact if_pos hhead

/-- Where no head with a blank comes next, nothing is written. -/
theorem headedRewriter_of_no_head {cs : List Char}
    (h : ∀ head ∈ heads, ∀ more, cs ≠ head ++ ' ' :: more) :
    headedRewriter heads joint close f cs = none := by
  rw [headedRewriter]
  dsimp only
  split
  · next hhead =>
    split
    · next more hmore =>
      exact absurd (hmore ▸ List.takeWhile_append_dropWhile.symm) (h _ hhead more)
    · rfl
  · rfl

/-- Only one head and blank comes next. -/
theorem head_unique {head' more' : List Char} (h : Lettered head)
    (h' : Lettered head') (heq : head ++ ' ' :: more = head' ++ ' ' :: more') :
    head = head' := by
  rw [← takeWhile_isLetter_append h, heq, takeWhile_isLetter_append h']

end

theorem findSome?_eq_of_unique {α β : Type} {l : List α} {g : α → Option β} {a : α} (ha : a ∈ l)
    (h : ∀ x ∈ l, x ≠ a → g x = none) : l.findSome? g = g a := by
  cases hg : g a with
  | none =>
    refine List.findSome?_eq_none_iff.2 fun x hx => ?_
    by_cases hxa : x = a
    · rw [hxa, hg]
    · exact h x hx hxa
  | some b =>
    induction l with
    | nil => cases ha
    | cons x l ih =>
      rw [List.findSome?_cons]
      by_cases hxa : x = a
      · rw [hxa, hg]
      · rw [h x List.mem_cons_self hxa]
        exact ih ((List.mem_cons.1 ha).resolve_left (Ne.symm hxa)) fun y hy =>
          h y (List.mem_cons_of_mem x hy)

/-! ## Endings -/

section

variable {place : Cursor} {ws : List (List Char)}

theorem no_letter_of_takeWhile_eq_nil {cs : List Char} (h : cs.takeWhile isLetter = []) :
    cs.head?.all fun c => !isLetter c := by
  cases cs with
  | nil => rfl
  | cons c cs =>
    rw [List.takeWhile_cons] at h
    split at h
    · cases h
    · next hc => simpa using hc

theorem no_letter_dropWhile (cs : List Char) :
    (cs.dropWhile isLetter).head?.all fun c => !isLetter c := by
  have h := List.head?_dropWhile_not isLetter cs
  cases hrest : (cs.dropWhile isLetter).head? with
  | none => rfl
  | some c =>
    rw [hrest] at h
    simpa using h

/-- The first of some words that is at the front of a text, and what is left. -/
def firstWord (ws : List (List Char)) : Rewriter := fun cs =>
  ws.findSome? fun w => if w.isPrefixOf cs then some (w, cs.drop w.length) else none

/-- The letters at the front of a text, if there are any, and what is left. -/
def letterRow : Rewriter := fun cs =>
  match cs.takeWhile isLetter with
  | [] => none
  | c :: w => some (c :: w, cs.dropWhile isLetter)

theorem Cursor.map_skip? (w : List Char) (place : Cursor) :
    ((place.skip? w).map fun stop => (w, stop.after)) =
      if w.isPrefixOf place.after then some (w, place.after.drop w.length) else none := by
  split
  · next h =>
    obtain ⟨rest, hrest⟩ := List.isPrefixOf_iff_prefix.1 h
    obtain ⟨stop, hstop, rfl⟩ := exists_skip? hrest.symm
    rw [hstop, ← hrest, List.drop_left]
    rfl
  · next h =>
    refine Option.map_eq_none_iff.2 (Option.eq_none_iff_forall_ne_some.2 fun stop hstop => h ?_)
    exact List.isPrefixOf_iff_prefix.2 ⟨stop.after, (skip?_eq_some_iff.1 hstop).1.symm⟩

/-- One of some words at the end of a pattern. -/
theorem ending_oneOf (hws : ws ≠ []) (hne : [] ∉ ws) :
    Ending (.seq (.group 2 (.oneOf ws)) .empty) (firstWord ws) := by
  intro place spans
  -- The scan and the function take the same first word, each with what it makes of the place behind
  -- it.
  have hfirst : firstWord ws place.after = (ws.findSome? fun w => (place.skip? w).map fun stop =>
      (w, stop)).map fun (w, stop) => (w, stop.after) := by
    rw [firstWord, List.map_findSome?]
    refine congrArg (ws.findSome? ·) (funext fun w => ?_)
    rw [← Cursor.map_skip?, Function.comp, Option.map_map]
    rfl
  have hscan : (Simple.seq (.group 2 (.oneOf ws)) .empty).scan place spans
      (fun stop spans => some (stop, spans)) =
        (ws.findSome? fun w => (place.skip? w).map fun stop => (w, stop)).map
          fun (_, stop) => (stop, (2, ⟨place, stop⟩) :: spans) := by
    show (Simple.oneOf ws).scan place spans (fun stop spans =>
      some (stop, (2, ⟨place, stop⟩) :: spans)) = _
    rw [Simple.scan_oneOf hws, List.map_findSome?]
    refine congrArg (ws.findSome? ·) (funext fun w => ?_)
    rw [Function.comp, Option.map_map]
    cases place.skip? w <;> rfl
  rw [hfirst, hscan]
  cases hfound : ws.findSome? fun w => (place.skip? w).map fun stop => (w, stop) with
  | none => exact .inl ⟨rfl, rfl⟩
  | some found =>
    obtain ⟨w', hw', hskip⟩ := List.exists_of_findSome?_eq_some hfound
    obtain ⟨stop, hstop, rfl⟩ := Option.map_eq_some_iff.1 hskip
    refine .inr ⟨stop, stop, w', [], rfl, rfl, hstop, by rwa [List.append_nil], ?_⟩
    rintro rfl
    exact hne hw'

/-- A row of letters at the end of a pattern. -/
theorem ending_many : Ending (.seq (.group 2 (.many Simple.letters)) .empty) letterRow := by
  intro place spans
  have hscan : (Simple.seq (.group 2 (.many Simple.letters)) .empty).scan place spans
      (fun stop spans => some (stop, spans)) =
        (Simple.behind? Simple.letters place).bind fun next =>
          Simple.scanRounds Simple.letters
            (fun stop spans => some (stop, (2, ⟨place, stop⟩) :: spans)) (next.left + 2) next
            spans :=
    rfl
  have hsplit := List.takeWhile_append_dropWhile (p := isLetter) (l := place.after)
  rw [hscan, letterRow]
  cases hrow : place.after.takeWhile isLetter with
  | nil =>
    rw [Simple.behind?_letters_of_end (no_letter_of_takeWhile_eq_nil hrow)]
    exact .inl ⟨rfl, rfl⟩
  | cons c w =>
    rw [hrow] at hsplit
    have hletters : Lettered (c :: w) := fun d hd => List.mem_takeWhile_imp (hrow ▸ hd)
    obtain ⟨next, hnext, hnextAfter⟩ := Cursor.exists_next?_of_after hsplit.symm
    obtain ⟨stop, hstop, hstopAfter⟩ := Cursor.exists_skip? hnextAfter
    have hwhole : place.skip? (c :: w) = some stop := by
      rw [Cursor.skip?, hnext]
      exact (if_pos rfl).trans hstop
    -- The row takes all letters, so that the rounds end where it does.
    have hend : stop.after.head?.all fun c => !isLetter c :=
      hstopAfter ▸ no_letter_dropWhile place.after
    have hrounds : w.length < next.left + 2 := by
      rw [next.left_eq, hnextAfter, List.append_eq, List.length_append]
      omega
    rw [Simple.behind?_letters_of_letter hnext hletters.head, Option.bind_some,
      Simple.scanRounds_of_isSome hletters.tail hstop hend rfl hrounds]
    exact .inr ⟨stop, stop, c :: w, [], rfl, by rw [hstopAfter], hwhole, by rwa [List.append_nil],
      List.cons_ne_nil c w⟩

end

/-! ## Reading -/

variable {heads : List (List Char)} {ending : Simple} {f : Rewriter} {place stop next : Cursor}
  {joint close head : List Char}

namespace Simple

theorem after_of_skip?_blank (hstop : place.skip? head = some stop)
    (hnext : stop.skip? [' '] = some next) : place.after = head ++ ' ' :: next.after := by
  rw [(Cursor.skip?_eq_some_iff.1 hstop).1, (Cursor.skip?_eq_some_iff.1 hnext).1]
  rfl

theorem scan_headed_of_head (hletters : ∀ h ∈ heads, Lettered h) (hhead : head ∈ heads)
    (hstop : place.skip? head = some stop) (hnext : stop.skip? [' '] = some next) (k : Finder) :
    (headed heads ending).scan place [] k = ending.scan next [(1, ⟨place, stop⟩)] k := by
  rw [scan_headed (List.ne_nil_of_mem hhead), findSome?_eq_of_unique hhead]
  · rw [hstop, Option.bind_some, hnext, Option.bind_some]
  · intro other hother hne
    refine Option.eq_none_iff_forall_ne_some.2 fun found hfound => hne ?_
    obtain ⟨stop', hstop', hfound⟩ := Option.bind_eq_some_iff.1 hfound
    obtain ⟨next', hnext', -⟩ := Option.bind_eq_some_iff.1 hfound
    -- Another head that is there would be the same one.
    have hhere := after_of_skip?_blank hstop hnext
    exact (head_unique (hletters head hhead) (hletters other hother)
      (hhere.symm.trans (after_of_skip?_blank hstop' hnext'))).symm

theorem scan_headed_of_no_head (hheads : heads ≠ [])
    (h : ∀ head ∈ heads, ∀ more, place.after ≠ head ++ ' ' :: more) (k : Finder) :
    (headed heads ending).scan place [] k = none := by
  rw [scan_headed hheads, List.findSome?_eq_none_iff]
  intro head hhead
  refine Option.eq_none_iff_forall_ne_some.2 fun found hfound => ?_
  obtain ⟨stop, hstop, hfound⟩ := Option.bind_eq_some_iff.1 hfound
  obtain ⟨next, hnext, -⟩ := Option.bind_eq_some_iff.1 hfound
  exact h head hhead next.after (after_of_skip?_blank hstop hnext)

end Simple

theorem changeAt_headed (hheads : heads ≠ []) (hletters : ∀ h ∈ heads, Lettered h)
    (hending : Ending ending f) (place : Cursor) :
    (headedRewriter heads joint close f).changeAt place =
      ((Simple.headed heads ending).matchAt place).map fun (whole, groups) =>
        Captures.change (writeHeaded joint close) ⟨whole, groups⟩ := by
  rw [Simple.matchAt, Rewriter.changeAt]
  -- Both sides look for a head with a blank first, and there is one at most.
  by_cases h : ∃ head ∈ heads, ∃ more, place.after = head ++ ' ' :: more
  · obtain ⟨head, hhead, more, hafter⟩ := h
    obtain ⟨stop, hstop, hstopAfter⟩ := Cursor.exists_skip? hafter
    obtain ⟨next, hnext, rfl⟩ : ∃ next, stop.skip? [' '] = some next ∧ next.after = more :=
      Cursor.exists_skip? hstopAfter
    rw [hafter, headedRewriter_of_head (hletters head hhead) hhead,
      Simple.scan_headed_of_head hletters hhead hstop hnext]
    rcases hending next [(1, ⟨place, stop⟩)] with ⟨hf, hscan⟩ | ⟨middle, last, text, beyond, hscan,
      hf, hmiddle, -, -⟩
    · rw [hf, hscan]
      rfl
    · rw [hf, hscan]
      have hhead' : place.textTo stop = head :=
        Cursor.textTo_eq (Cursor.skip?_eq_some_iff.1 hstop).1
      have htext : next.textTo middle = text :=
        Cursor.textTo_eq (Cursor.skip?_eq_some_iff.1 hmiddle).1
      have hwrite : writeHeaded joint close
          ⟨⟨place, last⟩, [(2, ⟨next, middle⟩), (1, ⟨place, stop⟩)]⟩ =
            head ++ joint ++ text ++ close := by
        rw [← hhead', ← htext]
        rfl
      simp [Captures.change, hwrite]
  · have hno : ∀ head ∈ heads, ∀ more, place.after ≠ head ++ ' ' :: more :=
      fun head hhead more hafter => h ⟨head, hhead, more, hafter⟩
    rw [headedRewriter_of_no_head hno, Simple.scan_headed_of_no_head hheads hno]
    rfl

theorem taken_of_headed (hletters : ∀ h ∈ heads, Lettered h) (hending : Ending ending f)
    {cs out rest : List Char} (h : headedRewriter heads joint close f cs = some (out, rest)) :
    ∃ taken, taken ≠ [] ∧ cs = taken ++ rest := by
  by_cases hhead : ∃ head ∈ heads, ∃ more, cs = head ++ ' ' :: more
  · obtain ⟨head, hhead, more, rfl⟩ := hhead
    rw [headedRewriter_of_head (hletters head hhead) hhead] at h
    obtain ⟨⟨text, rest'⟩, hf, hout⟩ := Option.map_eq_some_iff.1 h
    obtain ⟨-, rfl⟩ := Prod.mk.inj hout
    rcases hending (.ofText more) [] with
      ⟨hnone, -⟩ | ⟨middle, stop, text', beyond, -, hsome, -, hskip, -⟩
    · cases hf.symm.trans hnone
    · obtain ⟨-, rfl⟩ := Prod.mk.inj (Option.some.inj (hf.symm.trans hsome))
      have hmore : more = (text' ++ beyond) ++ stop.after := (Cursor.skip?_eq_some_iff.1 hskip).1
      refine ⟨head ++ ' ' :: (text' ++ beyond), by simp, ?_⟩
      rw [hmore, List.append_assoc head, List.cons_append]
  · rw [headedRewriter_of_no_head fun head hmem more hcs => hhead ⟨head, hmem, more, hcs⟩] at h
    cases h

/-- **A headed pattern that is matched as a whole** reads every text as its heads and its ending
say. -/
theorem reads_headed (hheads : heads ≠ []) (hletters : ∀ h ∈ heads, Lettered h)
    (hending : Ending ending f) (groups : Nat) (source : String) :
    Reads ⟨.whole ((Simple.headed heads ending).toPlain 0), groups, false, source⟩
      (writeHeaded joint close) (fun _ => True) (headedRewriter heads joint close f) where
  find passed place _ := by
    rw [funext (changeAt_headed hheads hletters hending), firstFrom_map, find]
    dsimp only
    rw [Simple.seek_toPlain]
    cases firstFrom (Simple.headed heads ending).matchAt place.left place with
    | none => exact .nothing
    | some found => exact .hit _
  taken := taken_of_headed hletters hending

end Phrasebook.Regex
