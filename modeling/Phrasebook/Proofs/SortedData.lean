import Phrasebook.Proofs.CompiledMapping
import Phrasebook.Proofs.ExactData
import Phrasebook.Proofs.Replacement

/-!
# Namespaces in order

**Texts** (`Json.ordered_of_ofText`). Data that are read from a text list the members of every
object in the order of their names.

**Namespaces** (`Namespace.Sorted`). On every level of a namespace the names stand in order, each
name once. So it is in a namespace that is read from data in order (`Namespace.sorted_ofJson`).

**Histories** (`Translator.Sorted.run`). A command whose data are in order keeps the namespaces of a
translator in order; its files are texts, whatever is in them.
-/

namespace Phrasebook

/-! ## Texts of data -/

namespace Json

/-- Members that are put in order, each of them with ordered data. -/
theorem ordered_object_ofList {entries : List (String × Json)} (h : ∀ m ∈ entries, m.2.Ordered) :
    (object (Dict.ofList entries)).Ordered := by
  refine ordered_object_iff.2 ⟨Dict.ordered_ofList entries, fun m hm => ?_⟩
  have hget := Dict.get?_of_mem (Dict.ordered_ofList entries).nodup_keys hm
  rw [Dict.get?_ofList] at hget
  exact h _ (List.mem_reverse.1 (Dict.mem_of_get? hget))

namespace Read

open Speech (bind_eq_ok)

theorem ordered_of_word {v d : Json} {expected cs rest : List Char}
    (h : word v expected cs = .ok (d, rest)) (hv : v.Ordered) : d.Ordered := by
  induction expected generalizing cs with
  | nil =>
    cases h
    exact hv
  | cons c expected ih =>
    cases cs with
    | nil => cases h
    | cons c' cs =>
      rw [word] at h
      split at h
      · exact ih h
      · cases h

/-- One more step reads a value in order, if fewer steps read members in order. -/
theorem ordered_of_value_succ {fuel depth : Nat} {cs rest : List Char} {d : Json}
    (ih : ∀ {depth first cs entries rest}, members .keep fuel depth first cs = .ok (entries, rest) →
      ∀ m ∈ entries, m.2.Ordered)
    (h : value .keep (fuel + 1) depth cs = .ok (d, rest)) : d.Ordered := by
  rw [value] at h
  split at h
  · cases h
  · exact ordered_of_word h (ordered_of_no_object nofun)
  · exact ordered_of_word h (ordered_of_no_object nofun)
  · exact ordered_of_word h (ordered_of_no_object nofun)
  · obtain ⟨⟨s, rest'⟩, -, h⟩ := bind_eq_ok h
    cases h
    exact ordered_of_no_object nofun
  · split at h
    · cases h
    · obtain ⟨⟨items, rest'⟩, -, h⟩ := bind_eq_ok h
      cases h
      exact ordered_of_no_object nofun
  · split at h
    · cases h
    · obtain ⟨⟨entries, rest'⟩, hentries, h⟩ := bind_eq_ok h
      cases h
      -- Only here are there members, and putting them into a dictionary orders them.
      exact ordered_object_ofList (ih hentries)
  · obtain ⟨⟨n, rest'⟩, -, h⟩ := bind_eq_ok h
    cases h
    exact ordered_of_no_object nofun
  · split at h
    · obtain ⟨⟨n, rest'⟩, -, h⟩ := bind_eq_ok h
      cases h
      exact ordered_of_no_object nofun
    · cases h

/-- **What is read has its members in order**, and so have the members of what is read. -/
theorem ordered_of_members {fuel depth : Nat} {first : Bool} {cs rest : List Char}
    {entries : List (String × Json)} (h : members .keep fuel depth first cs = .ok (entries, rest)) :
    ∀ m ∈ entries, m.2.Ordered := by
  induction fuel using Nat.strong_induction_on generalizing depth first cs entries rest with
  | _ fuel ih =>
    cases fuel with
    | zero => rw [members] at h; cases h
    | succ fuel =>
      rw [members] at h
      obtain ⟨⟨next, rest₁⟩, -, h⟩ := bind_eq_ok h
      cases next with
      | done =>
        cases h
        nofun
      | entry =>
        obtain ⟨⟨name, rest₂⟩, -, h⟩ := bind_eq_ok h
        obtain ⟨⟨⟨⟩, rest₃⟩, -, h⟩ := bind_eq_ok h
        obtain ⟨⟨v, rest₄⟩, hv, h⟩ := bind_eq_ok h
        obtain ⟨⟨more, rest₅⟩, hmore, h⟩ := bind_eq_ok h
        cases h
        refine List.forall_mem_cons.2 ⟨?_, ih fuel (by omega) hmore⟩
        -- The members of a value are read with two steps less, so the induction is a strong one.
        cases fuel with
        | zero => rw [value] at hv; cases hv
        | succ fuel => exact ordered_of_value_succ (fun h => ih fuel (by omega) h) hv

end Read

/-- **Data of a text are in order.** -/
theorem ordered_of_ofText {text : String} {d : Json} (h : ofText text = .ok d) : d.Ordered := by
  rw [ofText, readAll] at h
  split at h
  · cases h
  · next a rest hvalue =>
    split at h
    · cases h
    · cases h
      exact Read.ordered_of_value_succ Read.ordered_of_members hvalue

end Json

/-! ## Namespaces in order -/

namespace Dict

theorem ordered_iff_keys {κ α : Type} [Ord κ] {d : Dict κ α} :
    d.Ordered ↔ d.keys.Pairwise fun k k' => compare k k' = .lt := by
  rw [Ordered, keys, List.pairwise_map]

theorem ordered_of_keys_eq {κ α β : Type} [Ord κ] {d : Dict κ α} {e : Dict κ β}
    (h : d.keys = e.keys) (he : e.Ordered) : d.Ordered := by
  rw [ordered_iff_keys, h]
  exact ordered_iff_keys.1 he

end Dict

namespace Namespace

variable {ns members : Namespace} {name : String} {entry : Entry}

/-- Each level has its names in increasing order. -/
def Sorted (ns : Namespace) : Prop :=
  ∀ level, ns.Level level → Dict.Ordered level

theorem Sorted.intro (hdict : Dict.Ordered ns)
    (hgroups : ∀ name members, (name, .group members) ∈ ns → Namespace.Sorted members) :
    ns.Sorted := by
  intro level hlevel
  rcases hlevel.eq_or_exists_mem with rfl | ⟨name, members, hmem, hlevel⟩
  · exact hdict
  · exact hgroups name members hmem level hlevel

theorem Sorted.dict (h : ns.Sorted) : Dict.Ordered ns :=
  h ns .root

theorem Sorted.of_mem (h : ns.Sorted) (hmem : (name, .group members) ∈ ns) : members.Sorted :=
  fun level hlevel => h level (hlevel.of_mem hmem)

theorem Sorted.tail {e : String × Entry} (h : Namespace.Sorted (e :: ns)) : ns.Sorted :=
  .intro (List.pairwise_cons.1 h.dict).2 fun _ _ hmem => h.of_mem (List.mem_cons_of_mem _ hmem)

theorem Sorted.get?_eq_iff (h : ns.Sorted) : ns.get? name = some entry ↔ (name, entry) ∈ ns :=
  (Dict.mem_iff_get? h.dict.nodup_keys).symm

theorem Sorted.insert (h : ns.Sorted)
    (hentry : ∀ members, entry = .group members → Namespace.Sorted members) :
    Namespace.Sorted (Dict.insert ns name entry) := by
  refine .intro (Dict.ordered_insert h.dict name entry) fun name' members hmem => ?_
  rcases Dict.mem_insert hmem with he | hmem
  · cases he
    exact hentry members rfl
  · exact h.of_mem hmem

theorem Sorted.insertAll (h : ns.Sorted) (hmembers : members.Sorted) :
    Namespace.Sorted (Dict.insertAll ns members) := by
  induction members generalizing ns with
  | nil => exact h
  | cons e members ih =>
    obtain ⟨name, entry⟩ := e
    refine ih (h.insert fun level he => ?_) hmembers.tail
    subst he
    exact hmembers.of_mem List.mem_cons_self

theorem sorted_ofMembers {path : String} {data : List (String × Json)}
    (hdata : Dict.Ordered data)
    (ih : ∀ m ∈ data, ∀ path level, Entry.ofJson path m.2 = .ok (.group level) →
      Namespace.Sorted level)
    (h : ofMembers path data = .ok ns) : ns.Sorted := by
  refine .intro (Dict.ordered_of_keys_eq (keys_ofMembers h) hdata) fun name members hmem => ?_
  obtain ⟨value, hvalue, hread⟩ := mem_of_mem_ofMembers h hmem
  exact ih _ hvalue _ _ hread

end Namespace

theorem Entry.sorted_of_ofJson {path : String} {value : Json} {level : Namespace}
    (hvalue : value.Ordered) (h : Entry.ofJson path value = .ok (.group level)) :
    level.Sorted := by
  induction value using Json.memberInduction generalizing path level with
  | object members ih =>
    obtain ⟨_, hobject, hread⟩ := Entry.exists_object_of_group h
    cases hobject
    obtain ⟨hmembers, hvalues⟩ := Json.ordered_object_iff.1 hvalue
    exact Namespace.sorted_ofMembers hmembers (fun m hm _ _ hgroup => ih m hm (hvalues m hm) hgroup)
      hread
  | string s => cases h
  | foreign j hj => exact absurd h (Entry.ofJson_ne_ok hj)

/-- **A namespace of data in order is in order.** -/
theorem Namespace.sorted_ofJson {d : Json} {ns : Namespace} (hd : d.Ordered)
    (h : Namespace.ofJson d = .ok ns) : ns.Sorted := by
  obtain ⟨members, rfl, hread⟩ := Namespace.ofJson_eq_ok_iff.1 h
  obtain ⟨hmembers, hvalues⟩ := Json.ordered_object_iff.1 hd
  exact sorted_ofMembers hmembers (fun m hm _ _ => Entry.sorted_of_ofJson (hvalues m hm)) hread

/-! ## Histories -/

/-- Every namespace of a catalogue is in order. -/
def Catalogue.Sorted (c : Catalogue) : Prop :=
  ∀ l ns, c.get? l = some ns → ns.Sorted

namespace Catalogue

variable {c : Catalogue} {l : Locale} {locale : Option Locale} {ns : Namespace} {data : Json}

theorem sorted_nil : Sorted [] :=
  fun _ _ h => by cases h

theorem Sorted.insert (h : c.Sorted) (hns : ns.Sorted) : Catalogue.Sorted (Dict.insert c l ns) := by
  intro l' ns' hget
  rw [Dict.get?_insert] at hget
  split at hget
  · cases hget
    exact hns
  · exact h l' ns' hget

theorem Sorted.erase (h : c.Sorted) (l : Locale) : Catalogue.Sorted (Dict.erase c l) := by
  intro l' ns hget
  rw [Dict.get?_erase] at hget
  split at hget
  · cases hget
  · exact h l' ns hget

theorem Sorted.getD (h : c.Sorted) (l : Locale) :
    Namespace.Sorted ((c.get? l).getD []) := by
  cases hget : c.get? l with
  | none => exact .intro .nil fun _ _ hmem => by cases hmem
  | some ns => exact h l ns hget

theorem sorted_readNamespace (hdata : data.Ordered) (h : readNamespace locale data = .ok ns) :
    ns.Sorted :=
  Namespace.sorted_ofJson hdata (ofJson_of_readNamespace h)

theorem Sorted.setEach {c' : Catalogue} {members : List (String × Json)} (h : c.Sorted)
    (hmembers : ∀ m ∈ members, m.2.Ordered) (hset : c.setEach members = .ok c') : c'.Sorted := by
  induction members generalizing c with
  | nil =>
    cases hset
    exact h
  | cons m members ih =>
    obtain ⟨tag, data⟩ := m
    obtain ⟨hdata, hrest⟩ := List.forall_mem_cons.1 hmembers
    cases hread : readNamespace (some (Locale.ofTag tag)) data with
    | ok ns =>
      rw [setEach_cons_of_ok (setJson_of_read hread)] at hset
      exact ih (h.insert (sorted_readNamespace hdata hread)) hrest hset
    | error e =>
      rw [setEach_cons_of_error (setJson_of_fault hread)] at hset
      cases hset

theorem sorted_ofJson (hdata : data.Ordered) (h : ofJson data = .ok c) : c.Sorted := by
  cases data with
  | object members =>
    rw [ofJson_object] at h
    exact sorted_nil.setEach (Json.ordered_object_iff.1 hdata).2 h
  | _ => cases h

end Catalogue

/-- The data that a command brings along are in order. -/
def Command.Ordered : Command → Prop
  | set _ data | add _ data | replaceAll data => data.Ordered
  | configure _ | replaceSettings _ | setLocale _ | clearLocale | setPluralRule _ _ | remove _
  | removeAll | load _ _ _ | reload _ _ => True

namespace Translator

variable {t : Translator} {l : Locale} {path : String} {files : Files} {ns : Namespace}

/-- Every namespace of a translator has its levels in order. -/
def Sorted (t : Translator) : Prop :=
  t.catalogue.Sorted

/-- What is read from a file is in order. -/
theorem sorted_readFile (h : readFile files l path = .ok ns) : ns.Sorted := by
  obtain ⟨data, hdata, hread⟩ := Speech.bind_eq_ok h
  rw [readJson] at hdata
  split at hdata
  · cases hdata
  · split at hdata
    · cases hdata
    · next htext =>
      cases hdata
      exact Catalogue.sorted_readNamespace (Json.ordered_of_ofText htext) hread

theorem Sorted.load (h : t.Sorted) (files : Files) (l : Locale) (path : String) :
    (t.load files l path).2.Sorted := by
  cases hread : readFile files l path with
  | ok ns =>
    rw [load_of_read hread]
    exact Catalogue.Sorted.insert h (sorted_readFile hread)
  | error e =>
    rw [load_of_fault hread]
    exact h

/-- **A command keeps the namespaces in order.** -/
theorem Sorted.step {c : Command} (h : t.Sorted) (hc : c.Ordered) : (c.step t).2.Sorted := by
  cases c with
  | set l data =>
    show (t.set l data).2.Sorted
    cases hread : Catalogue.readNamespace (some l) data with
    | ok ns =>
      rw [set_of_read hread]
      exact Catalogue.Sorted.insert h (Catalogue.sorted_readNamespace hc hread)
    | error e =>
      rw [set_of_fault hread]
      exact h
  | add l data =>
    show (t.add l data).2.Sorted
    cases hread : Catalogue.readNamespace (some l) data with
    | ok ns =>
      rw [add_of_read hread]
      -- What is added is in order, and it is put into what is in order member by member.
      have hns := Catalogue.sorted_readNamespace hc hread
      exact Catalogue.Sorted.insert h ((Catalogue.Sorted.getD h l).insertAll hns)
    | error e =>
      rw [add_of_fault hread]
      exact h
  | replaceAll data =>
    show (t.replaceAll data).2.Sorted
    cases hread : Catalogue.ofJson data with
    | ok c =>
      rw [replaceAll_of_read hread]
      exact Catalogue.sorted_ofJson hc hread
    | error e =>
      rw [replaceAll_of_fault hread]
      exact h
  | remove l => exact Catalogue.Sorted.erase h l
  | removeAll => exact Catalogue.sorted_nil
  | load files l path => exact h.load files l path
  | reload files l =>
    show (t.reload files l).2.Sorted
    cases hpath : t.paths.get? l with
    | some path =>
      rw [reload_of_remembered hpath]
      exact h.load files l path
    | none =>
      rw [reload_of_forgotten hpath]
      exact h
  | configure u => exact h
  | replaceSettings s => exact h
  | setLocale l => exact h
  | clearLocale => exact h
  | setPluralRule l rule => exact h

/-- **However a translator came about, its namespaces are in order.** -/
theorem Sorted.run {cs : List Command} (h : t.Sorted) (hcs : ∀ c ∈ cs, c.Ordered) :
    (t.run cs).Sorted := by
  induction cs generalizing t with
  | nil => exact h
  | cons c cs ih =>
    obtain ⟨hc, hcs⟩ := List.forall_mem_cons.1 hcs
    exact ih (h.step hc) hcs

end Translator

end Phrasebook
