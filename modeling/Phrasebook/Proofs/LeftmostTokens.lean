import Phrasebook.Proofs.Placeholder

/-!
# The scan takes the leftmost placeholders

**Places** (`Place`). A placeholder with the character where it begins. At each character of a text
stands one at most, so a place is settled by its start (`Place.Stands.eq_of_start_eq`).

**Leftmost places** (`Leftmost`). From some character on, take the placeholder that begins first,
and go on behind its end in the same way until none is left. There is one such row of places only
(`Leftmost.unique`).

**What such a row covers.** Its places stand in order and apart (`Leftmost.pairwise`), and every
placeholder of the text shares a character with one of them (`Leftmost.exists_overlap`), be it
longer braces, a name with braces of its own, or what begins inside a placeholder that was taken.

Main result: `find_leftmost`.
-/

namespace Phrasebook.Placeholder

/-! ## Places -/

/-- A placeholder that begins at a character of a text. -/
structure Place where
  start : Nat
  name : List Char
  deriving DecidableEq, Repr

namespace Place

variable {cs : List Char} {p q : Place}

/-- The character behind the placeholder. -/
def stop (p : Place) : Nat :=
  p.start + (ofName p.name).length

/-- The placeholder as a text. -/
def token (p : Place) : String :=
  String.ofList (ofName p.name)

/-- A placeholder stands in a text. -/
def Stands (cs : List Char) (p : Place) : Prop :=
  IsName p.name ∧ ofName p.name <+: cs.drop p.start

instance (cs : List Char) (p : Place) : Decidable (Stands cs p) := by
  unfold Stands; infer_instance

/-- Two placeholders have a character in common. -/
def Overlaps (p q : Place) : Prop :=
  p.start < q.stop ∧ q.start < p.stop

theorem stop_eq (p : Place) : p.stop = p.start + p.name.length + 4 := by
  simp [stop, ofName]
  omega

theorem start_lt_stop (p : Place) : p.start < p.stop := by
  rw [stop_eq]
  omega

theorem stands_iff : Stands cs p ↔ start? (cs.drop p.start) = some p.name :=
  start?_eq_some_iff.symm

/-- **One placeholder at most begins at a character.** -/
theorem Stands.eq_of_start_eq (hp : Stands cs p) (hq : Stands cs q) (h : p.start = q.start) :
    p = q := by
  rw [stands_iff] at hp hq
  rw [h, hq] at hp
  obtain ⟨start, name⟩ := p
  obtain ⟨start', name'⟩ := q
  simp_all

/-- A placeholder takes its characters from the text. -/
theorem Stands.stop_le (h : Stands cs p) : p.stop ≤ cs.length := by
  have hlength := h.2.length_le
  have hpos : 0 < (ofName p.name).length := by simp [ofName]
  rw [List.length_drop] at hlength
  unfold stop
  omega

end Place

open Place (Stands)

/-! ## Leftmost places -/

/-- From a character on, each placeholder is the first that begins behind the one before it, and
none begins behind the last one. -/
inductive Leftmost (cs : List Char) : Nat → List Place → Prop
  | done {start : Nat} : (∀ p, Stands cs p → p.start < start) → Leftmost cs start []
  | next {start : Nat} {p : Place} {more : List Place} :
      Stands cs p → start ≤ p.start → (∀ q, Stands cs q → start ≤ q.start → p.start ≤ q.start) →
      Leftmost cs p.stop more → Leftmost cs start (p :: more)

namespace Leftmost

variable {cs : List Char} {start : Nat} {places places' : List Place} {p q : Place}

/-- **The leftmost places are settled by the text.** -/
theorem unique (h : Leftmost cs start places) (h' : Leftmost cs start places') :
    places = places' := by
  induction h generalizing places' with
  | done hnone =>
    cases h' with
    | done => rfl
    | next hp hstart => exact absurd (hnone _ hp) (by omega)
  | @next start p more hp hstart hfirst _ ih =>
    cases h' with
    | done hnone => exact absurd (hnone _ hp) (by omega)
    | @next _ q more' hq hstart' hfirst' hmore =>
      have hsame : p.start = q.start :=
        Nat.le_antisymm (hfirst q hq hstart') (hfirst' p hp hstart)
      obtain rfl := hp.eq_of_start_eq hq hsame
      rw [ih hmore]

theorem stands (h : Leftmost cs start places) : ∀ p ∈ places, Stands cs p := by
  induction h with
  | done => simp
  | next hp _ _ _ ih => exact List.forall_mem_cons.2 ⟨hp, ih⟩

theorem le_start (h : Leftmost cs start places) : ∀ p ∈ places, start ≤ p.start := by
  induction h with
  | done => simp
  | @next start p more _ hstart _ _ ih =>
    refine List.forall_mem_cons.2 ⟨hstart, ?_⟩
    intro q hq
    have hpq := ih q hq
    have hp := p.start_lt_stop
    omega

/-- **In order and apart**: each place begins behind the end of those before it. -/
theorem pairwise (h : Leftmost cs start places) :
    places.Pairwise fun p q => p.stop ≤ q.start := by
  induction h with
  | done => exact .nil
  | next _ _ _ hmore ih => exact List.pairwise_cons.2 ⟨hmore.le_start, ih⟩

/-- **Nothing is left out**: a placeholder that begins from the start on meets one that is taken. -/
theorem exists_overlap (h : Leftmost cs start places) (hq : Stands cs q) (hstart : start ≤ q.start) :
    ∃ p ∈ places, p.Overlaps q := by
  induction h with
  | done hnone => exact absurd (hnone q hq) (by omega)
  | @next start p more _ _ hfirst _ ih =>
    by_cases hbehind : p.stop ≤ q.start
    · obtain ⟨p', hp', hoverlap⟩ := ih hbehind
      exact ⟨p', List.mem_cons_of_mem _ hp', hoverlap⟩
    · have hpq := hfirst q hq hstart
      have hq' := q.start_lt_stop
      exact ⟨p, List.mem_cons_self, by omega, by omega⟩

/-- A character at which none begins may be skipped. -/
theorem skip (h : Leftmost cs (start + 1) places) (hnone : start? (cs.drop start) = none) :
    Leftmost cs start places := by
  have hbehind : ∀ q, Stands cs q → start ≤ q.start → start + 1 ≤ q.start := by
    intro q hq hle
    refine Nat.lt_of_le_of_ne hle ?_
    rintro rfl
    rw [Place.stands_iff, hnone] at hq
    cases hq
  cases h with
  | done hdone =>
    refine .done fun q hq => Nat.lt_of_not_le fun hle => ?_
    have hlt := hdone q hq
    have hge := hbehind q hq hle
    omega
  | next hp hstart hfirst hmore =>
    exact .next hp (by omega) (fun q hq hle => hfirst q hq (hbehind q hq hle)) hmore

end Leftmost

/-! ## The scan -/

/-- **The scan takes the leftmost places.** What it has in hand is the text from a character on, and
it still passes over as many characters as it is told to skip. -/
theorem exists_leftmost_scan {cs : List Char} (rest : List Char) {start : Nat} (skip : Nat)
    (hrest : cs.drop start = rest) :
    ∃ places, Leftmost cs (start + skip) places ∧ scan skip rest = places.map Place.name := by
  induction rest generalizing start skip with
  | nil =>
    refine ⟨[], .done fun p hp => ?_, rfl⟩
    have hend : cs.length ≤ start := List.drop_eq_nil_iff.1 hrest
    have hstop := hp.stop_le
    have hlt := p.start_lt_stop
    omega
  | cons c rest ih =>
    have htail : cs.drop (start + 1) = rest := by
      rw [← List.drop_drop, hrest, List.drop_one, List.tail_cons]
    cases skip with
    | succ skip =>
      obtain ⟨places, hplaces, hscan⟩ := ih skip htail
      exact ⟨places, by rwa [Nat.add_right_comm] at hplaces, hscan⟩
    | zero =>
      cases hfound : start? (c :: rest) with
      | some name =>
        -- The scan passes over the name and the braces behind it, up to the end of the placeholder.
        have hstands : Stands cs ⟨start, name⟩ := by
          rw [Place.stands_iff, hrest, hfound]
        have hstop : start + 1 + (name.length + 3) = (⟨start, name⟩ : Place).stop := by
          rw [Place.stop_eq, Nat.add_assoc, Nat.add_assoc, Nat.add_comm 1]
        obtain ⟨places, hplaces, hscan⟩ := ih (name.length + 3) htail
        rw [hstop] at hplaces
        refine ⟨⟨start, name⟩ :: places, ?_, ?_⟩
        · exact .next hstands (Nat.le_refl _) (fun q _ hle => hle) hplaces
        · simp only [scan, hfound, hscan, List.map_cons]
      | none =>
        obtain ⟨places, hplaces, hscan⟩ := ih 0 htail
        refine ⟨places, hplaces.skip (by rw [hrest, hfound]), ?_⟩
        simp only [scan, hfound, hscan]

/-- **The scan finds exactly the leftmost placeholders.** One row of places is leftmost from the
first character on, and the scan gives the texts of its placeholders. So they stand in the text in
order and apart, every placeholder of the text shares a character with one of them, and nothing is
found exactly where no placeholder occurs. -/
theorem find_leftmost (text : String) :
    ∃ places, (∀ places', Leftmost text.toList 0 places' ↔ places' = places) ∧
      find text = places.map Place.token ∧
      (∀ p ∈ places, Stands text.toList p) ∧
      places.Pairwise (fun p q => p.stop ≤ q.start) ∧
      (∀ q, Stands text.toList q → ∃ p ∈ places, p.Overlaps q) ∧
      (find text = [] ↔ ¬ Occurs text.toList) := by
  obtain ⟨places, hplaces, hscan⟩ :=
    exists_leftmost_scan text.toList 0 List.drop_zero
  have hfind : find text = places.map Place.token := by
    simp [find, tokens, hscan, Place.token, Function.comp_def]
  refine ⟨places, fun places' => ⟨fun h => h.unique hplaces, ?_⟩, hfind, hplaces.stands,
    hplaces.pairwise, fun q hq => hplaces.exists_overlap hq (Nat.zero_le _), find_eq_nil_iff text⟩
  rintro rfl
  exact hplaces

/-- Of braces in a row the first two open the placeholder, and the name begins with the others. What
begins inside a placeholder that was taken is not found, nor is one without a name. -/
example : scan 0 "{{}} {{{a}}} {{b}}".toList = [['{', 'a'], ['b']] ∧
    Stands "{{}} {{{a}}} {{b}}".toList ⟨6, ['a']⟩ := by decide

end Phrasebook.Placeholder
