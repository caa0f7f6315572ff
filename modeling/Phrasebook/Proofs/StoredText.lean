import Phrasebook.Proofs.Command
import Phrasebook.Proofs.Data
import Phrasebook.Proofs.Resolution

/-!
# What is stored is what is translated

**A plain text in its own locale** (`translate_text`). Where a locale has a namespace of its own, a
text found there is given out as it stands: its locale serves the request, no form is chosen, and
without a placeholder there is nothing to fill in or to refuse.

Main result: `translate_stored`. From the data of a locale to the text of a key, across all that
happens to other locales in between.
-/

namespace Phrasebook

variable {t : Translator} {l : Locale} {ns : Namespace} {key s : String}

theorem Catalogue.serving?_of_get? {c : Catalogue} (h : c.get? l = some ns) :
    c.serving? l = some (l, ns) := by
  rw [serving?, h]

theorem Settings.requestedLocale_of_language (settings : Settings) {r : Request}
    (hr : r.locale = some l) (hl : l.language ≠ "") : settings.requestedLocale r = l := by
  rw [requestedLocale, hr]
  exact if_neg (by simpa [Locale.isEmpty] using hl)

namespace Translator

/-- **A plain text is given out as it stands.** -/
theorem translate_text {r : Request} (hr : r.locale = some l) (hl : l.language ≠ "")
    (hvalues : Interpolation.ProperNames r.values) (hns : t.catalogue.get? l = some ns)
    (hfind : ns.find key = .ok (.text s)) (hclean : ¬ Placeholder.Occurs s.toList) :
    t.translate key r = .ok s := by
  have hlookup : t.settings.lookup t.catalogue key r = .ok (l, none, s) := by
    rw [Settings.lookup, t.settings.requestedLocale_of_language hr hl,
      Catalogue.serving?_of_get? hns]
    dsimp only
    rw [hfind]
    rfl
  have hfilled : Interpolation.complete (some key) s r.values r.quantity = .ok s :=
    Interpolation.complete_eq_ok_iff.2
      ⟨(Interpolation.substitute_eq_self hclean hvalues r.quantity).symm, hclean⟩
  rw [translate, resolve, Settings.resolve_of_found hlookup, hfilled]
  rfl

theorem get?_set_self {data : Json} (h : (t.set l data).1 = .ok ()) :
    ∃ ns, Namespace.ofJson data = .ok ns ∧ (t.set l data).2.catalogue.get? l = some ns := by
  cases hr : Catalogue.readNamespace (some l) data with
  | error e =>
    rw [set_of_fault hr] at h
    cases h
  | ok ns =>
    rw [set_of_read hr]
    exact ⟨ns, Catalogue.ofJson_of_readNamespace hr, Dict.get?_insert_self t.catalogue l ns⟩

/-- **What is stored is what is translated**: a text without placeholders that stands in the data of
a locale is the translation of its dotted key, whatever is done to other locales and to the settings
afterwards. -/
theorem translate_stored {data : Json} {keys : List String} {later : List Command}
    (hl : l.language ≠ "") (hset : (t.set l data).1 = .ok ())
    (hdots : ∀ k ∈ keys, '.' ∉ k.toList) (hkey : Text.dotted keys ≠ "")
    (hat : data.at? keys = some (.string s)) (hs : s ≠ "")
    (hclean : ¬ Placeholder.Occurs s.toList) (hplain : data.PlainPath keys)
    (hlater : ∀ c ∈ later, ¬ c.Touches l) (q : Option Quantity) :
    ((t.set l data).2.run later).translate (Text.dotted keys) { locale := some l, quantity := q } =
      .ok s := by
  obtain ⟨ns, hread, hns⟩ := get?_set_self hset
  have hkept : ((t.set l data).2.run later).catalogue.get? l = some ns := by
    rw [get?_run hlater, hns]
  have hfind : ns.find (Text.dotted keys) = .ok (.text s) :=
    Namespace.find_of_at? hread hdots hkey hat hs hplain
  exact translate_text rfl hl (fun v hv => absurd hv List.not_mem_nil) hkept hfind hclean

/-- An entry named like a category, and a text that looks like a placeholder but is not closed. -/
theorem translate_stored_menu :
    let british : Locale := { language := "en", region := some "GB" }
    let english : Locale := { language := "en" }
    let data : Json := .object [("menu", .object [("file", .string "File"),
      ("other", .string "Rest: \x7b\x7bn\x7d")])]
    let t : Translator := { settings := { strict := true } }
    let later : List Command := [.set english data, .add english (.array []), .remove english]
    (t.set british data).1 = .ok () ∧
      ((t.set british data).2.run later).translate "menu.other"
        { locale := some british, quantity := some (.integer 2) } = .ok "Rest: \x7b\x7bn\x7d" := by
  intro british english data t later
  have hset : (t.set british data).1 = .ok () := rfl
  have hclean : ¬ Placeholder.Occurs "Rest: \x7b\x7bn\x7d".toList := by
    rw [← Placeholder.find_eq_nil_iff]
    rfl
  have hplain : data.PlainPath ["menu", "other"] := by
    refine Json.plainPath_cons_iff.2 fun value hvalue => ⟨?_, Json.plainPath_single _ _⟩
    obtain rfl := Option.some.inj hvalue
    rintro inner hinner ⟨hforms, -⟩
    cases hinner
    obtain ⟨c, s, hc⟩ := hforms ("file", .string "File") List.mem_cons_self
    cases c <;> simp [Category.tag] at hc
  have hlater : ∀ c ∈ later, ¬ c.Touches british := by
    simp [later, Command.Touches, english, british]
  exact ⟨hset, translate_stored (by decide) hset (by decide) (by decide) rfl (by decide) hclean
    hplain hlater (some (.integer 2))⟩

end Translator

end Phrasebook
