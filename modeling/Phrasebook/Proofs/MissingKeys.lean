import Phrasebook.Proofs.ListedKeys
import Phrasebook.Proofs.SortedSearch
import Phrasebook.Translator

/-!
# Missing keys

The keys that a target lacks are those of the source that a search by halving does not find among
the target's leaf keys. Leaf keys are put in order when they are listed, so the search finds exactly
those that are there (`Namespace.mem_lacking_iff`).

**Ways** (`Namespace.ways`). The leaf keys are collected along the ways to texts and plural forms,
one key for each way (`Namespace.leafKeys_perm`). Two ways may spell one key: `a.b` may be a name,
or a name `b` in a group `a`. Such a key is listed twice, and twice again among the missing keys.

Main result: `Translator.missingKeys_exact`.
-/

namespace Phrasebook

/-! ## Ways to leaves -/

mutual

/-- The ways to the texts and plural forms in an entry, in tree order. -/
def Entry.ways : Entry → List (List String)
  | .text _ => [[]]
  | .plural _ => [[]]
  | .group members => Namespace.ways members

/-- The ways to the texts and plural forms of a level, in tree order. -/
def Namespace.ways : List (String × Entry) → List (List String)
  | [] => []
  | (name, entry) :: rest => entry.ways.map (name :: ·) ++ Namespace.ways rest

end

/-- The keys that the ways spell, in tree order. -/
def Namespace.wayKeys (ns : Namespace) : List String :=
  (Namespace.ways ns).map Text.keyOf

/-- A key is that of a way to a text or to plural forms. -/
def Namespace.Spells (ns : Namespace) (key : String) : Prop :=
  ∃ names leaf, ns.Leads names leaf ∧ leaf.IsLeaf ∧ key = Text.keyOf names

mutual

theorem Entry.leaves_eq_map (path : String) :
    (entry : Entry) → entry.leaves path = entry.ways.map (·.foldl Text.below path)
  | .text _ => by rw [Entry.leaves, Entry.ways]; rfl
  | .plural _ => by rw [Entry.leaves, Entry.ways]; rfl
  | .group members => by rw [Entry.leaves, Entry.ways, Namespace.leaves_eq_map path members]

/-- **Each way gives one key.** -/
theorem Namespace.leaves_eq_map (path : String) :
    (ns : List (String × Entry)) →
      Namespace.leaves path ns = (Namespace.ways ns).map (·.foldl Text.below path)
  | [] => rfl
  | (name, entry) :: rest => by
    rw [Namespace.leaves, Namespace.ways, entry.leaves_eq_map, Namespace.leaves_eq_map path rest,
      List.map_append, List.map_map]
    rfl

end

namespace Namespace

variable {ns source target : Namespace} {key : String}

/-- The leaf keys are the keys of all ways, put in order. -/
theorem leafKeys_perm (ns : Namespace) : ns.leafKeys.Perm ns.wayKeys := by
  rw [leafKeys, wayKeys]
  refine (List.mergeSort_perm _ _).trans ?_
  rw [Namespace.leaves_eq_map]
  exact .refl _

@[simp] theorem leafKeys_nil : leafKeys [] = [] :=
  List.mergeSort_nil

/-! ## What is lacking -/

/-- **The search among the leaf keys finds exactly those that are there.** -/
theorem binSearchContains_leafKeys :
    ns.leafKeys.toArray.binSearchContains key textLT = true ↔ key ∈ ns.leafKeys := by
  have hordered : ns.leafKeys.toArray.toList.Pairwise (· ≤ ·) := leafKeys_pairwise_le ns
  rw [SortedSearch.binSearchContains_iff hordered, List.mem_toArray]

theorem lacking_eq_filter (source target : Namespace) :
    source.lacking target = source.leafKeys.filter fun key => key ∉ target.leafKeys := by
  refine List.filter_congr fun key _ => ?_
  rw [Bool.eq_iff_iff, Bool.not_eq_true', ← Bool.not_eq_true, binSearchContains_leafKeys,
    decide_eq_true_iff]

theorem mem_lacking_iff :
    key ∈ source.lacking target ↔ key ∈ source.leafKeys ∧ key ∉ target.leafKeys := by
  rw [lacking_eq_filter, List.mem_filter, decide_eq_true_iff]

theorem lacking_pairwise_le (source target : Namespace) :
    (source.lacking target).Pairwise (· ≤ ·) := by
  rw [lacking_eq_filter]
  exact (leafKeys_pairwise_le source).filter _

/-- What is lacking are the keys of the ways in the source, without those of the target. -/
theorem lacking_perm (source target : Namespace) :
    (source.lacking target).Perm (source.wayKeys.filter fun key => key ∉ target.wayKeys) := by
  have hsame (key : String) : decide (key ∉ target.leafKeys) = decide (key ∉ target.wayKeys) :=
    decide_eq_decide.2 (not_congr (leafKeys_perm target).mem_iff)
  rw [lacking_eq_filter, List.filter_congr fun key _ => hsame key]
  exact (leafKeys_perm source).filter _

end Namespace

/-! ## Missing keys of locales -/

namespace Translator

variable {t : Translator} {source target : Locale} {S T : Namespace}

theorem missingKeys_of_loaded (hS : t.namespace? source = some S)
    (hT : t.namespace? target = some T) : t.missingKeys source target = S.lacking T := by
  rw [missingKeys, Catalogue.lacking, show t.catalogue.get? source = some S from hS,
    show t.catalogue.get? target = some T from hT, Option.getD_some, Option.getD_some]

theorem missingKeys_of_target_absent (hS : t.namespace? source = some S)
    (hT : t.namespace? target = none) : t.missingKeys source target = S.leafKeys := by
  rw [missingKeys, Catalogue.lacking, show t.catalogue.get? source = some S from hS,
    show t.catalogue.get? target = none from hT, Option.getD_some, Option.getD_none,
    Namespace.lacking_eq_filter]
  simp

theorem missingKeys_of_source_absent (hS : t.namespace? source = none) :
    t.missingKeys source target = [] := by
  rw [missingKeys, Catalogue.lacking, show t.catalogue.get? source = none from hS, Option.getD_none,
    Namespace.lacking_eq_filter]
  simp

/-- **The missing keys are the exact difference.** They are in order. Between two loaded locales
they are the keys that ways in the source spell, each as often as there are such ways, without those
that a way in the target spells; so a key is missing if the source spells it and the target does
not, and what is missing between them is missing on the way to or from any third loaded locale. A
target that is not loaded lacks all leaf keys, and nothing is missing of a source that is not
loaded. -/
theorem missingKeys_exact (t : Translator) (source target : Locale) :
    (t.missingKeys source target).Pairwise (· ≤ ·) ∧
    (t.namespace? source = none → t.missingKeys source target = []) ∧
    ∀ S, t.namespace? source = some S →
      S.leafKeys.Perm S.wayKeys ∧
      (t.namespace? target = none → t.missingKeys source target = S.leafKeys) ∧
      ∀ T, t.namespace? target = some T →
        (t.missingKeys source target).Perm (S.wayKeys.filter fun key => key ∉ T.wayKeys) ∧
        (∀ key, key ∈ t.missingKeys source target ↔ S.Spells key ∧ ¬ T.Spells key) ∧
        ∀ middle M, t.namespace? middle = some M → ∀ key ∈ t.missingKeys source target,
          key ∈ t.missingKeys source middle ∨ key ∈ t.missingKeys middle target := by
  refine ⟨Namespace.lacking_pairwise_le _ _, missingKeys_of_source_absent, fun S hS =>
    ⟨S.leafKeys_perm, missingKeys_of_target_absent hS, fun T hT => ⟨?_, fun key => ?_,
      fun middle M hM key hkey => ?_⟩⟩⟩
  · rw [missingKeys_of_loaded hS hT]
    exact Namespace.lacking_perm S T
  · rw [missingKeys_of_loaded hS hT, Namespace.mem_lacking_iff, Namespace.mem_leafKeys_iff,
      Namespace.mem_leafKeys_iff]
    rfl
  · rw [missingKeys_of_loaded hS hT, Namespace.mem_lacking_iff] at hkey
    rw [missingKeys_of_loaded hS hM, missingKeys_of_loaded hM hT, Namespace.mem_lacking_iff,
      Namespace.mem_lacking_iff]
    -- A key that the target lacks is lacking on the way to the middle or behind it.
    by_cases hmiddle : key ∈ M.leafKeys
    · exact .inr ⟨hmiddle, hkey.2⟩
    · exact .inl ⟨hkey.1, hmiddle⟩

/-- A key that two ways spell is missing twice, and a name with a hyphen comes before it. -/
theorem missingKeys_exact_twice :
    let en : Locale := { language := "en" }
    let da : Locale := { language := "da" }
    let sv : Locale := { language := "sv" }
    let S : Namespace := [("a", .group [("b", .text "Hi")]), ("a-b", .text "Ho"), ("a.b", .text "")]
    let t : Translator :=
      { catalogue := [(en, S), (da, [("a", .text "Hej")]), (sv, [("a-b", .text "")])] }
    t.missingKeys en sv = ["a.b", "a.b"] ∧
      t.missingKeys en { language := "fi" } = ["a-b", "a.b", "a.b"] ∧
      ("a.b" ∈ t.missingKeys en da ∨ "a.b" ∈ t.missingKeys da sv) := by
  intro en da sv S t
  have hda : t.namespace? da = some [("a", .text "Hej")] := rfl
  have hsv : t.namespace? sv = some [("a-b", .text "")] := rfl
  have hfi : t.namespace? { language := "fi" } = none := rfl
  have hall : S.leafKeys = ["a-b", "a.b", "a.b"] := by
    have hleaves : Namespace.leaves "" S = ["a.b", "a-b", "a.b"] := rfl
    have hhyphen : textLE "a.b" "a-b" = false := by decide
    have hdot : textLE "a-b" "a.b" = true := by decide
    have hsame : textLE "a.b" "a.b" = true := by decide
    simp [Namespace.leafKeys, hleaves, List.mergeSort, hhyphen, hdot, hsame]
  have hmissing : t.missingKeys en sv = ["a.b", "a.b"] := by
    have hown : Namespace.leafKeys [("a-b", .text "")] = ["a-b"] := by
      simp [Namespace.leafKeys, Namespace.leaves, Entry.leaves, Text.below]
    rw [missingKeys_of_loaded rfl hsv, Namespace.lacking_eq_filter, hall, hown]
    rfl
  obtain ⟨-, -, hloaded⟩ := missingKeys_exact t en sv
  obtain ⟨-, -, hthird⟩ := (hloaded S rfl).2.2 _ hsv
  obtain ⟨-, -, hloaded⟩ := missingKeys_exact t en { language := "fi" }
  obtain ⟨-, habsent, -⟩ := hloaded S rfl
  exact ⟨hmissing, (habsent hfi).trans hall, hthird da _ hda "a.b" (by simp [hmissing])⟩

end Translator

end Phrasebook
