import Phrasebook.Suggestion
import Phrasebook.Proofs.LeastEdits

/-!
# Names that come near a name

**The rule** (`FirstThree`). Of the names at hand those count that are not the name itself and not
farther from it than a radius. They are ranked by their distance, and equally far ones by their
text; the first three are the answer. There is one ranking only (`FirstThree.unique`), so it does
not matter in which order the names are at hand.

**Two radii.** A name of more than three characters has radius 2, others have radius 1. But
`suggestionRadius` counts bytes, and three characters may be more than three bytes. The two radii
give the same answer unless a name is at hand that only the larger one takes in and the smaller one
leaves room for it (`firstThree_iff`).

Main results: `suggestions_exact`, and `suggestions_beyond_radius` for the two radii.
-/

namespace Phrasebook

/-! ## The rule -/

/-- The distance of two names, in edits of characters. -/
def distance (name candidate : String) : Nat :=
  Text.editDistance name.toList candidate.toList

/-- The radius of a name by its number of characters. -/
def characterRadius (name : String) : Nat :=
  if name.length ≤ 3 then 1 else 2

/-- A name is not another one, and within a radius around it. -/
def isNear (name : String) (radius : Nat) (candidate : String) : Bool :=
  decide (0 < distance name candidate ∧ distance name candidate ≤ radius)

/-- The order in which two names are suggested: by distance, then by text. -/
def Before (name a b : String) : Prop :=
  distance name a < distance name b ∨ (distance name a = distance name b ∧ a ≤ b)

/-- The first three of the names that are near, when all of these are ranked. -/
def FirstThree (name : String) (radius : Nat) (available result : List String) : Prop :=
  ∃ ranked : List String, ranked.Perm (available.filter (isNear name radius)) ∧
    ranked.Pairwise (Before name) ∧ result = ranked.take 3

variable {name a b c : String} {radius r s : Nat} {available order result : List String}

theorem isNear_iff : isNear name radius c ↔ 0 < distance name c ∧ distance name c ≤ radius :=
  decide_eq_true_iff

theorem Before.antisymm (h : Before name a b) (h' : Before name b a) : a = b := by
  rcases h with h | ⟨he, h⟩ <;> rcases h' with h' | ⟨he', h'⟩
  · omega
  · omega
  · omega
  · exact String.le_antisymm h h'

/-- **There is one ranking.** -/
theorem ranked_unique {ranked ranked' : List String} (hperm : ranked.Perm ranked')
    (h : ranked.Pairwise (Before name)) (h' : ranked'.Pairwise (Before name)) :
    ranked = ranked' :=
  List.Perm.eq_of_pairwise (fun _ _ _ _ => Before.antisymm) h h' hperm

theorem FirstThree.unique {result' : List String} (h : FirstThree name radius available result)
    (h' : FirstThree name radius available result') : result = result' := by
  obtain ⟨ranked, hperm, hsorted, rfl⟩ := h
  obtain ⟨ranked', hperm', hsorted', rfl⟩ := h'
  rw [ranked_unique (hperm.trans hperm'.symm) hsorted hsorted']

theorem FirstThree.of_perm (h : FirstThree name radius order result) (hperm : order.Perm available) :
    FirstThree name radius available result := by
  obtain ⟨ranked, hranked, hsorted, rfl⟩ := h
  exact ⟨ranked, hranked.trans (hperm.filter _), hsorted, rfl⟩

theorem FirstThree.length_eq (h : FirstThree name radius available result) :
    result.length = min 3 (available.filter (isNear name radius)).length := by
  obtain ⟨ranked, hperm, -, rfl⟩ := h
  rw [List.length_take, hperm.length_eq]

/-! ## The suggestions follow the rule -/

theorem suggestionLE_iff {p q : Nat × String} :
    suggestionLE p q ↔ p.1 < q.1 ∨ (p.1 = q.1 ∧ p.2 ≤ q.2) := by
  rw [suggestionLE, Bool.or_eq_true, Bool.and_eq_true, beq_iff_eq, decide_eq_true_iff,
    decide_eq_true_iff]

theorem suggestionLE_trans (p q t : Nat × String) (h : suggestionLE p q)
    (h' : suggestionLE q t) : suggestionLE p t := by
  rw [suggestionLE_iff] at h h' ⊢
  rcases h with h | ⟨he, hle⟩ <;> rcases h' with h' | ⟨he', hle'⟩
  · exact .inl (by omega)
  · exact .inl (by omega)
  · exact .inl (by omega)
  · exact .inr ⟨he.trans he', String.le_trans hle hle'⟩

theorem suggestionLE_total (p q : Nat × String) : suggestionLE p q || suggestionLE q p := by
  rw [Bool.or_eq_true, suggestionLE_iff, suggestionLE_iff]
  rcases Nat.lt_trichotomy p.1 q.1 with h | h | h
  · exact .inl (.inl h)
  · rcases String.le_total p.2 q.2 with hle | hle
    · exact .inl (.inr ⟨h, hle⟩)
    · exact .inr (.inr ⟨h.symm, hle⟩)
  · exact .inr (.inl h)

/-- The names within the radius by bytes, sorted together with their distances. -/
def sortedNear (name : String) (available : List String) : List (Nat × String) :=
  ((available.filter (isNear name (suggestionRadius name))).map
    fun c => (distance name c, c)).mergeSort suggestionLE

theorem suggestions_eq (name : String) (available : List String) :
    suggestions name available = ((sortedNear name available).take 3).map (·.2) := by
  have hnear : (available.filter (isNear name (suggestionRadius name))).map
        (fun c => (distance name c, c)) =
      available.filterMap fun c =>
        if 0 < distance name c ∧ distance name c ≤ suggestionRadius name then
          some (distance name c, c) else none := by
    rw [← List.filterMap_eq_map, List.filterMap_filter]
    simp only [isNear_iff, Function.comp_apply]
  rw [sortedNear, hnear]
  rfl

theorem sortedNear_perm (name : String) (available : List String) :
    (sortedNear name available).Perm ((available.filter (isNear name (suggestionRadius name))).map
      fun c => (distance name c, c)) :=
  List.mergeSort_perm _ _

theorem fst_of_mem_sortedNear {p : Nat × String} (h : p ∈ sortedNear name available) :
    p.1 = distance name p.2 := by
  obtain ⟨c, -, rfl⟩ := List.mem_map.1 ((sortedNear_perm name available).mem_iff.1 h)
  rfl

theorem map_sortedNear_perm (name : String) (available : List String) :
    ((sortedNear name available).map (·.2)).Perm
      (available.filter (isNear name (suggestionRadius name))) := by
  refine ((sortedNear_perm name available).map (·.2)).trans (.of_eq ?_)
  rw [List.map_map]
  exact List.map_id _

theorem pairwise_sortedNear (name : String) (available : List String) :
    (sortedNear name available).Pairwise fun p q => Before name p.2 q.2 := by
  refine (List.pairwise_mergeSort suggestionLE_trans suggestionLE_total _).imp_of_mem ?_
  intro p q hp hq h
  rw [Before, ← fst_of_mem_sortedNear hp, ← fst_of_mem_sortedNear hq]
  exact suggestionLE_iff.1 h

/-- **The suggestions follow the rule**, with the radius by bytes. -/
theorem firstThree_suggestions (name : String) (available : List String) :
    FirstThree name (suggestionRadius name) available (suggestions name available) :=
  ⟨(sortedNear name available).map (·.2), map_sortedNear_perm name available,
    List.pairwise_map.2 (pairwise_sortedNear name available),
    (suggestions_eq name available).trans List.map_take⟩

/-! ## Two radii -/

theorem length_le_utf8ByteSize (name : String) : name.length ≤ name.utf8ByteSize := by
  induction name using String.push_induction with
  | empty => exact Nat.le_refl 0
  | push name c ih =>
    have := c.utf8Size_pos
    rw [String.length_push, String.utf8ByteSize_push]
    omega

/-- The radius by bytes is at least the one by characters. -/
theorem characterRadius_le (name : String) : characterRadius name ≤ suggestionRadius name := by
  have := length_le_utf8ByteSize name
  rw [characterRadius, suggestionRadius]
  split <;> split <;> omega

/-- The radii differ for the names of at most three characters that have more bytes. -/
theorem suggestionRadius_eq_iff :
    suggestionRadius name = characterRadius name ↔
      (name.length ≤ 3 → name.utf8ByteSize ≤ 3) := by
  have := length_le_utf8ByteSize name
  rw [characterRadius, suggestionRadius]
  split <;> split <;> omega

theorem filter_isNear_of_le (h : r ≤ s) :
    available.filter (isNear name r) =
      (available.filter (isNear name s)).filter (isNear name r) := by
  rw [List.filter_filter]
  refine List.filter_congr fun c _ => ?_
  rw [Bool.eq_iff_iff, Bool.and_eq_true, isNear_iff, isNear_iff]
  omega

/-- In a ranking, the names within a smaller radius come first. -/
theorem ranked_eq_append {ranked : List String} (hsorted : ranked.Pairwise (Before name))
    (hnear : ∀ c ∈ ranked, 0 < distance name c) :
    ranked = ranked.filter (isNear name r) ++ ranked.filter fun c => !isNear name r c := by
  refine ranked_unique (List.filter_append_perm _ _).symm hsorted ?_
  refine List.pairwise_append.2 ⟨hsorted.filter _, hsorted.filter _, fun a ha b hb => .inl ?_⟩
  obtain ⟨-, ha⟩ := List.mem_filter.1 ha
  obtain ⟨hmem, hb⟩ := List.mem_filter.1 hb
  have hpos := hnear b hmem
  rw [isNear_iff] at ha
  rw [Bool.not_eq_true', ← Bool.not_eq_true, isNear_iff] at hb
  omega

/-- **When two radii give the same answer**: the larger one takes in no name more, or there are three
names within the smaller one. -/
theorem firstThree_iff (h : r ≤ s) (hresult : FirstThree name s available result) :
    FirstThree name r available result ↔
      (∀ c ∈ available, distance name c ≤ s → distance name c ≤ r) ∨
      3 ≤ (available.filter (isNear name r)).length := by
  have hfilter : available.filter (isNear name r) =
      (available.filter (isNear name s)).filter (isNear name r) := filter_isNear_of_le h
  have hsub : (available.filter (isNear name r)).Sublist (available.filter (isNear name s)) :=
    hfilter ▸ List.filter_sublist
  constructor
  · intro hsmall
    -- Both answers are as long as the names allow, and the names within the smaller radius are
    -- among the others.
    have hlength := hsmall.length_eq.symm.trans hresult.length_eq
    have hle := hsub.length_le
    by_cases hthree : 3 ≤ (available.filter (isNear name r)).length
    · exact .inr hthree
    · have heq := hsub.eq_of_length (by omega)
      refine .inl fun c hc hs => ?_
      rcases Nat.eq_zero_or_pos (distance name c) with hzero | hpos
      · omega
      · have hmem : c ∈ available.filter (isNear name s) :=
          List.mem_filter.2 ⟨hc, isNear_iff.2 ⟨hpos, hs⟩⟩
        exact (isNear_iff.1 (List.mem_filter.1 (heq ▸ hmem)).2).2
  · obtain ⟨ranked, hperm, hsorted, rfl⟩ := hresult
    have hperm' : (ranked.filter (isNear name r)).Perm (available.filter (isNear name r)) :=
      hfilter ▸ hperm.filter _
    rintro (hall | hthree)
    · refine ⟨ranked, hperm.trans (.of_eq (List.filter_congr fun c hc => ?_)), hsorted, rfl⟩
      rw [Bool.eq_iff_iff, isNear_iff, isNear_iff]
      exact ⟨fun hs => ⟨hs.1, hall c hc hs.2⟩, fun hr => ⟨hr.1, Nat.le_trans hr.2 h⟩⟩
    -- In the ranking these three stand in front of those that only the larger radius takes in.
    · refine ⟨_, hperm', hsorted.filter _, ?_⟩
      have hnear : ∀ c ∈ ranked, 0 < distance name c := fun c hc =>
        (isNear_iff.1 (List.mem_filter.1 (hperm.mem_iff.1 hc)).2).1
      rw [← hperm'.length_eq] at hthree
      calc ranked.take 3
        _ = (ranked.filter (isNear name r) ++ ranked.filter fun c => !isNear name r c).take 3 :=
          congrArg (List.take 3) (ranked_eq_append hsorted hnear)
        _ = (ranked.filter (isNear name r)).take 3 := List.take_append_of_le_length hthree

/-! ## The result -/

/-- **The suggestions, exactly.** A distance is a least number of edits. The suggestions are the
first three of the names within the radius of `suggestionRadius`, in whichever order the names are
at hand. This radius is the one by characters unless the name has at most three characters and more
than three bytes. For all names, the suggestions are the first three within the radius by characters
exactly if the radius by bytes takes in no name more, or three names are within the other one. -/
theorem suggestions_exact (name : String) (available : List String) :
    (∀ c, Text.Edited (distance name c) name.toList c.toList ∧
      ∀ n, Text.Edited n name.toList c.toList → distance name c ≤ n) ∧
    (∀ result, FirstThree name (suggestionRadius name) available result ↔
      result = suggestions name available) ∧
    (∀ order : List String, order.Perm available →
      suggestions name order = suggestions name available) ∧
    (suggestionRadius name = characterRadius name ↔
      (name.length ≤ 3 → name.utf8ByteSize ≤ 3)) ∧
    (FirstThree name (characterRadius name) available (suggestions name available) ↔
      (∀ c ∈ available, distance name c ≤ suggestionRadius name →
        distance name c ≤ characterRadius name) ∨
      3 ≤ (available.filter (isNear name (characterRadius name))).length) := by
  have hrule := firstThree_suggestions name available
  refine ⟨fun c => Text.editDistance_least _ _, fun result => ?_, fun order hperm => ?_,
    suggestionRadius_eq_iff, firstThree_iff (characterRadius_le name) hrule⟩
  · exact ⟨fun h => h.unique hrule, fun h => h ▸ hrule⟩
  · exact ((firstThree_suggestions name order).of_perm hperm).unique hrule

/-- A name of three characters and six bytes gets a suggestion two edits away. -/
theorem suggestions_beyond_radius :
    suggestions "åäö" ["åxy"] = ["åxy"] ∧ distance "åäö" "åxy" = 2 ∧ "åäö".length = 3 ∧
    ¬ FirstThree "åäö" (characterRadius "åäö") ["åxy"] (suggestions "åäö" ["åxy"]) := by
  have hgiven : suggestions "åäö" ["åxy"] = ["åxy"] := by decide +kernel
  refine ⟨hgiven, by decide +kernel, by decide +kernel, fun h => ?_⟩
  have hnone : ["åxy"].filter (isNear "åäö" (characterRadius "åäö")) = [] := by decide +kernel
  have hlength := h.length_eq
  rw [hgiven, hnone] at hlength
  simp at hlength

end Phrasebook
