import Phrasebook.Proofs.MissingKeys
import Phrasebook.Proofs.Resolution
import Phrasebook.Proofs.StoredText

/-!
# Nothing missing

**Missed keys** (`Translator.Misses`). A key is missed where its resolution ends in the policy for
missing texts: with an error that names the locale or the key, or with something that stands in. A
placeholder that is left over is another matter.

Two passes over a tree have to agree before "no leaf key is missing" means "no key is missed": the
collection of leaf keys, and the search for one key. They agree where keys are addresses
(`Namespace.Addressable`), up to empty texts, which are leaves and count as missing all the same.

Main result: `found_of_none_missing`. If a target locale lacks no leaf key of a source locale, each
key that the source does not miss has a leaf in the target, and is missed there only for an empty
text.
-/

namespace Phrasebook

/-- A resolution ended in the policy for missing texts. -/
def Missed : Except LookupError Resolution → Prop
  | .ok x => x.origin ≠ .catalogue
  | .error (.missingVariable ..) => False
  | .error _ => True

instance (outcome : Except LookupError Resolution) : Decidable (Missed outcome) :=
  match outcome with
  | .ok x => inferInstanceAs (Decidable (x.origin ≠ .catalogue))
  | .error (.missingVariable ..) => inferInstanceAs (Decidable False)
  | .error (.invalidLocale _) | .error (.missingText ..) | .error (.unknownVocabulary ..)
  | .error (.ruleGaveUp ..) => inferInstanceAs (Decidable True)

namespace Settings

variable {s : Settings} {c : Catalogue} {key : String} {r : Request}

theorem missed_onLack (s : Settings) (key : String) (r : Request) (lack : Lack) :
    Missed (s.onLack key r lack) := by
  rcases eq_strictly_or_leniently s with hs | hs <;> rw [hs] <;> cases lack <;> simp [Missed]

/-- **A key is missed** exactly where the look-up lacks something. -/
theorem missed_resolve_iff : Missed (s.resolve c key r) ↔ ∃ lack, s.lookup c key r = .error lack := by
  cases hl : s.lookup c key r with
  | error lack =>
    rw [resolve_of_lack hl]
    exact ⟨fun _ => ⟨lack, rfl⟩, fun _ => missed_onLack s key r lack⟩
  | ok found =>
    obtain ⟨l, category, text⟩ := found
    rw [resolve_of_found hl]
    cases hc : Interpolation.complete (some key) text r.values r.quantity with
    | ok filled => simp [Missed, Except.map]
    | error e =>
      obtain ⟨rfl, -⟩ := Interpolation.complete_eq_error_iff.1 hc
      simp [Missed, Except.map]

theorem selectText_eq_none_iff {l : Locale} {q : Option Quantity} {entry : Entry} :
    s.selectText l q entry = none ↔ ¬ entry.IsLeaf := by
  cases entry with
  | text text => simp [selectText, Entry.IsLeaf, Entry.kind]
  | plural forms => cases q <;> simp [selectText, Entry.IsLeaf, Entry.kind]
  | group members => simp [selectText, Entry.IsLeaf, Entry.kind]

/-- **In a locale that is there**, a key is missed unless a text or plural forms are found. -/
theorem missed_iff_of_get? {l : Locale} {ns : Namespace} (hr : r.locale = some l)
    (hl : l.language ≠ "") (hns : c.get? l = some ns) :
    Missed (s.resolve c key r) ↔ ∀ leaf, ns.find key = .ok leaf → ¬ leaf.IsLeaf := by
  rw [missed_resolve_iff, lookup, s.requestedLocale_of_language hr hl,
    Catalogue.serving?_of_get? hns]
  dsimp only
  cases ns.find key with
  | error near => simp
  | ok entry =>
    dsimp only
    cases hs : s.selectText l r.quantity entry with
    | none => simp [selectText_eq_none_iff.1 hs]
    | some selected =>
      have hleaf : entry.IsLeaf := by
        by_contra hgroup
        rw [selectText_eq_none_iff.2 hgroup] at hs
        cases hs
      simp [hleaf]

end Settings

namespace Translator

variable {t : Translator} {source target : Locale} {S T : Namespace} {key : String}
  {r r' : Request}

/-- Resolving a key ends in the policy for missing texts. -/
def Misses (t : Translator) (key : String) (r : Request) : Prop :=
  Missed (t.resolve key r)

instance : Decidable (t.Misses key r) :=
  inferInstanceAs (Decidable (Missed (t.resolve key r)))

/-- **Nothing missing means that everything is found**, up to empty texts. The key may not begin with
an empty name: its leaf would be listed without that name. -/
theorem found_of_none_missing (hS : t.catalogue.get? source = some S)
    (hT : t.catalogue.get? target = some T) (hsource : source.language ≠ "")
    (htarget : target.language ≠ "") (hfirst : (Text.names key).head? ≠ some "")
    (hTroot : "" ∉ T.keys) (haddr : T.Addressable) (hnone : t.missingKeys source target = [])
    (hr : r.locale = some source) (hr' : r'.locale = some target) (hfound : ¬ t.Misses key r) :
    ∃ leaf, T.Leads (Text.names key) leaf ∧ leaf.IsLeaf ∧
      (t.Misses key r' ↔ leaf = .text "") := by
  obtain ⟨leaf, hfind, hleaf⟩ : ∃ leaf, S.find key = .ok leaf ∧ leaf.IsLeaf := by
    rw [Misses, resolve, Settings.missed_iff_of_get? hr hsource hS] at hfound
    push Not at hfound
    exact hfound
  obtain ⟨hleads, -⟩ := Namespace.leads_of_find hfind
  obtain ⟨name, more, hnames, -⟩ := hleads.exists_cons
  -- The key is listed under its own name, for it does not begin with an empty one.
  have hname : name ≠ "" := by
    rintro rfl
    exact hfirst (by rw [hnames, List.head?_cons])
  have hkey : Text.keyOf (Text.names key) = key := by
    rw [hnames, Text.keyOf_eq_dotted hname, ← hnames, Text.dotted_names]
  have hlisted : key ∈ T.leafKeys := by
    by_contra hlacking
    have hmissing : key ∈ S.lacking T :=
      Namespace.mem_lacking_iff.2
        ⟨Namespace.mem_leafKeys_iff.2 ⟨_, leaf, hleads, hleaf, hkey.symm⟩, hlacking⟩
    rw [missingKeys, Catalogue.lacking, hS, hT] at hnone
    exact List.not_mem_nil (hnone ▸ hmissing)
  -- In the target a key has one way only, so the way that is listed is the one that the key spells.
  obtain ⟨names, leaf', hleads', hleaf', hkey'⟩ := Namespace.mem_leafKeys_iff.1 hlisted
  have hway : T.Leads (Text.names key) leaf' := by
    rwa [hkey', hleads'.names_keyOf haddr hTroot]
  have hne : key ≠ "" := by
    rintro rfl
    rw [Namespace.find] at hfind
    cases hfind
  refine ⟨leaf', hway, hleaf', ?_⟩
  rw [Misses, resolve, Settings.missed_iff_of_get? hr' htarget hT]
  constructor
  · intro hmissed
    by_contra hfilled
    exact hmissed leaf' ((Namespace.find_eq_ok_iff_of_leads hway haddr hne).2 hfilled) hleaf'
  · rintro rfl found hfind'
    obtain ⟨hfound', hnonempty⟩ := Namespace.leads_of_find hfind'
    exact absurd (hfound'.unique hway haddr) hnonempty

/-- Of two keys in a group, one has an empty text in the target. -/
theorem found_of_none_missing_menu :
    let en : Locale := { language := "en" }
    let sv : Locale := { language := "sv" }
    let S : Namespace := [("menu", .group [("file", .text "File"), ("help", .text "Help")])]
    let T : Namespace := [("menu", .group [("file", .text "Arkiv"), ("help", .text "")])]
    let t : Translator := { catalogue := [(en, S), (sv, T)] }
    t.missingKeys en sv = [] ∧ T.Leads ["menu", "help"] (.text "") ∧
      t.Misses "menu.help" { locale := some sv } ∧
      ¬ t.Misses "menu.file" { locale := some sv } := by
  intro en sv S T t
  have hS : t.catalogue.get? en = some S := rfl
  have hT : t.catalogue.get? sv = some T := rfl
  have hnone : t.missingKeys en sv = [] := by
    have hsame : S.leafKeys = T.leafKeys := rfl
    rw [missingKeys_of_loaded hS hT, Namespace.lacking_eq_filter, hsame]
    simp
  have haddr : T.Addressable := by
    refine .intro (by decide) (by decide) fun name members hmem => ?_
    cases List.mem_singleton.1 hmem
    refine .intro (by decide) (by decide) fun name members hmem => ?_
    simp at hmem
  have hfound (key : String) (hfirst : (Text.names key).head? ≠ some "") :
      ¬ t.Misses key { locale := some en } → ∃ leaf, T.Leads (Text.names key) leaf ∧
        leaf.IsLeaf ∧ (t.Misses key { locale := some sv } ↔ leaf = .text "") :=
    found_of_none_missing hS hT (by decide) (by decide) hfirst (by decide) haddr hnone rfl rfl
  have hhelp : T.Leads ["menu", "help"] (.text "") :=
    .further List.mem_cons_self (.last (by simp))
  have hfile : T.Leads ["menu", "file"] (.text "Arkiv") :=
    .further List.mem_cons_self (.last (by simp))
  have hhelpNames : Text.names "menu.help" = ["menu", "help"] := rfl
  have hfileNames : Text.names "menu.file" = ["menu", "file"] := rfl
  obtain ⟨help, hway, -, hmissed⟩ := hfound "menu.help" (by simp [hhelpNames]) (by decide)
  obtain ⟨file, hway', -, hmissed'⟩ := hfound "menu.file" (by simp [hfileNames]) (by decide)
  rw [hhelpNames] at hway
  rw [hfileNames] at hway'
  refine ⟨hnone, hhelp, hmissed.2 (hway.unique hhelp haddr), fun h => ?_⟩
  exact absurd (Entry.text.inj ((hfile.unique hway' haddr).trans (hmissed'.1 h))) (by decide)

/-- **Where keys are no addresses**, nothing is missing and a key is missed all the same: an empty
text, a name with a dot, an empty name at the root of the source or of the target, and a locale
without a language as the source or as the target. -/
theorem missed_though_none_missing :
    let en : Locale := { language := "en" }
    let sv : Locale := { language := "sv" }
    let nameless : Locale := { language := "" }
    let english : Settings := { defaultLocale := en }
    let danish : Settings := { defaultLocale := { language := "da" } }
    let hi : Namespace := [("a", .text "Hi")]
    let missed (s : Settings) (c : Catalogue) (source target : Locale) (key : String) : Prop :=
      let t : Translator := { settings := s, catalogue := c }
      c.has source ∧ c.has target ∧ t.missingKeys source target = [] ∧
        ¬ t.Misses key { locale := some source } ∧ t.Misses key { locale := some target }
    missed english [(en, hi), (sv, [("a", .text "")])] en sv "a" ∧
      missed english [(en, [("a", .group [("b", .text "Hi")])]), (sv, [("a.b", .text "Hej")])]
        en sv "a.b" ∧
      missed english [(en, [("", .group hi)]), (sv, hi)] en sv ".a" ∧
      missed english [(en, hi), (sv, [("", .group hi)])] en sv "a" ∧
      missed english [(nameless, []), (en, hi), (sv, [])] nameless sv "a" ∧
      missed danish [(nameless, hi), (en, hi)] en nameless "a" := by
  intro en sv nameless english danish hi missed
  refine ⟨?_, ?_, ?_, ?_, ?_, ?_⟩ <;> exact ⟨rfl, rfl, by decide +kernel, by decide, by decide⟩

end Translator

end Phrasebook
