import Phrasebook.Entry.Basic

/-!
# Leaf keys and finding

The leaf keys are collected from the root down and joined with dots; an entry is found by taking a
key apart at its dots and going down. The two meet in the rows of names that lead to an entry.

**Ways** (`Namespace.Leads`). A row of names leads through groups to an entry. The leaf keys are the
keys of the ways to texts and plural forms (`mem_leafKeys_iff`), and what is found under a key
stands at the end of the way that the key spells (`leads_of_find`).

**Addresses** (`Namespace.Addressable`). Where no level has a name twice or a name with a dot, and
the root has no empty name, a key spells one way at most, and that way is taken
(`find_eq_ok_iff_of_leads`).
-/

namespace Phrasebook

/-! ## Keys of ways -/

namespace Text

/-- The key of a row of names. -/
def keyOf (names : List String) : String :=
  names.foldl below ""

theorem foldl_below {path : String} (h : path ≠ "") (names : List String) :
    names.foldl below path = dotted (path :: names) := by
  induction names generalizing path with
  | nil => exact (String.intercalate_singleton).symm
  | cons name names ih =>
    have hbelow : below path name = path ++ "." ++ name := if_neg (by simpa using h)
    rw [List.foldl_cons, hbelow, ih (by simp), dotted, dotted, String.intercalate_cons_append,
      String.intercalate_cons_cons]

/-- Dots are put between the names of a row, unless it begins with an empty name. -/
theorem keyOf_eq_dotted {name : String} (h : name ≠ "") (names : List String) :
    keyOf (name :: names) = dotted (name :: names) :=
  foldl_below h names

/-- A key is put together again from its names. -/
@[simp] theorem dotted_names (key : String) : dotted (names key) = key := by
  apply String.toList_injective
  rw [dotted, String.toList_intercalate, names, splitAt, List.map_map]
  simp [Function.comp_def]

end Text

/-! ## Ways -/

/-- A row of names leads from a namespace through groups to an entry. -/
inductive Namespace.Leads : Namespace → List String → Entry → Prop
  | last {ns : Namespace} {name : String} {entry : Entry} :
      (name, entry) ∈ ns → Leads ns [name] entry
  | further {ns members : Namespace} {name : String} {more : List String} {entry : Entry} :
      (name, .group members) ∈ ns → Leads members more entry → Leads ns (name :: more) entry

/-- A text or plural forms. -/
def Entry.IsLeaf (entry : Entry) : Prop :=
  entry.kind ≠ .group

mutual

theorem Entry.exists_of_mem_leaves {path key : String} :
    (entry : Entry) → key ∈ entry.leaves path →
      entry.IsLeaf ∧ key = path ∨ ∃ members, entry = .group members ∧
        ∃ names leaf, Namespace.Leads members names leaf ∧ leaf.IsLeaf ∧
          key = names.foldl Text.below path
  | .text _, h => .inl ⟨nofun, List.mem_singleton.1 h⟩
  | .plural _, h => .inl ⟨nofun, List.mem_singleton.1 h⟩
  | .group members, h => .inr ⟨members, rfl, Namespace.exists_of_mem_leaves members h⟩

theorem Namespace.exists_of_mem_leaves {path key : String} :
    (ns : List (String × Entry)) → key ∈ Namespace.leaves path ns →
      ∃ names leaf, Namespace.Leads ns names leaf ∧ leaf.IsLeaf ∧
        key = names.foldl Text.below path
  | [], h => absurd h List.not_mem_nil
  | (name, entry) :: rest, h => by
    rw [Namespace.leaves] at h
    rcases List.mem_append.1 h with h | h
    · rcases entry.exists_of_mem_leaves h with ⟨hleaf, rfl⟩ | ⟨members, rfl, names, leaf, hleads,
        hleaf, rfl⟩
      · exact ⟨[name], entry, .last List.mem_cons_self, hleaf, rfl⟩
      · exact ⟨name :: names, leaf, .further List.mem_cons_self hleads, hleaf, rfl⟩
    · obtain ⟨names, leaf, hleads, hleaf, hkey⟩ := Namespace.exists_of_mem_leaves rest h
      refine ⟨names, leaf, ?_, hleaf, hkey⟩
      cases hleads with
      | last hmem => exact .last (List.mem_cons_of_mem _ hmem)
      | further hmem hmore => exact .further (List.mem_cons_of_mem _ hmem) hmore

end

namespace Entry

theorem leaves_of_isLeaf {entry : Entry} (h : entry.IsLeaf) (path : String) :
    entry.leaves path = [path] := by
  cases entry with
  | text s => rw [leaves]
  | plural forms => rw [leaves]
  | group members => exact absurd rfl h

end Entry

namespace Namespace

variable {ns members level : Namespace} {names more : List String} {name key : String}
  {entry leaf : Entry}

theorem mem_leaves_of_mem {path : String} (h : (name, entry) ∈ ns)
    (hkey : key ∈ entry.leaves (Text.below path name)) : key ∈ leaves path ns := by
  induction ns with
  | nil => cases h
  | cons e rest ih =>
    rw [leaves, List.mem_append]
    rcases List.mem_cons.1 h with rfl | h
    · exact .inl hkey
    · exact .inr (ih h)

theorem mem_leaves_of_leads (h : ns.Leads names leaf) (hleaf : leaf.IsLeaf) (path : String) :
    names.foldl Text.below path ∈ leaves path ns := by
  induction h generalizing path with
  | last hmem =>
    refine mem_leaves_of_mem hmem ?_
    rw [Entry.leaves_of_isLeaf hleaf]
    exact List.mem_singleton_self _
  | further hmem _ ih =>
    refine mem_leaves_of_mem hmem ?_
    rw [Entry.leaves]
    exact ih hleaf _

/-- **The leaf keys** are the keys of the ways to texts and plural forms. -/
theorem mem_leafKeys_iff :
    key ∈ ns.leafKeys ↔ ∃ names leaf, ns.Leads names leaf ∧ leaf.IsLeaf ∧ key = Text.keyOf names := by
  rw [leafKeys, List.mem_mergeSort]
  constructor
  · exact exists_of_mem_leaves ns
  · rintro ⟨names, leaf, hleads, hleaf, rfl⟩
    exact mem_leaves_of_leads hleads hleaf ""

/-! ## Finding -/

theorem descend_last_eq_ok_iff {parents : List String} :
    descend parents [name] ns = .ok entry ↔ ns.get? name = some entry ∧ entry ≠ .text "" := by
  rw [descend.eq_def]
  cases hget : ns.get? name with
  | none => simp [hget]
  | some found =>
    cases found with
    | text s =>
      simp only [hget, Option.some.injEq]
      split
      · next hs =>
        -- The empty text counts as missing, and it is what the right side leaves out.
        obtain rfl : s = "" := by simpa using hs
        constructor
        · intro h
          cases h
        · rintro ⟨rfl, hne⟩
          exact absurd rfl hne
      · next hs =>
        have hs : s ≠ "" := by simpa using hs
        constructor
        · intro h
          cases h
          exact ⟨rfl, fun h => hs (Entry.text.inj h)⟩
        · rintro ⟨rfl, -⟩
          rfl
    | plural forms =>
      simp only [hget, Option.some.injEq, Except.ok.injEq, iff_self_and]
      rintro rfl
      nofun
    | group members =>
      simp only [hget, Option.some.injEq, Except.ok.injEq, iff_self_and]
      rintro rfl
      nofun

theorem descend_further_eq_ok_iff {parents : List String} {next : String} :
    descend parents (name :: next :: more) ns = .ok entry ↔ ∃ members,
      ns.get? name = some (.group members) ∧
        descend (parents ++ [name]) (next :: more) members = .ok entry := by
  rw [descend.eq_def]
  cases hget : ns.get? name with
  | none => simp [hget]
  | some found => cases found <;> simp [hget]

theorem leads_of_descend {parents : List String} (h : descend parents names ns = .ok entry) :
    ns.Leads names entry ∧ entry ≠ .text "" := by
  induction names generalizing ns parents with
  | nil => cases h
  | cons name more ih =>
    cases more with
    | nil =>
      obtain ⟨hget, hne⟩ := descend_last_eq_ok_iff.1 h
      exact ⟨.last (Dict.mem_of_get? hget), hne⟩
    | cons next more =>
      obtain ⟨members, hget, hmore⟩ := descend_further_eq_ok_iff.1 h
      obtain ⟨hleads, hne⟩ := ih hmore
      exact ⟨.further (Dict.mem_of_get? hget) hleads, hne⟩

/-- **What is found stands at the end of the way** that the key spells, and is no empty text. -/
theorem leads_of_find (h : ns.find key = .ok entry) :
    ns.Leads (Text.names key) entry ∧ entry ≠ .text "" := by
  rw [find] at h
  split at h
  · cases h
  · exact leads_of_descend h

/-! ## Addresses -/

/-- A level of a namespace: the namespace itself, or a group in it. -/
inductive Level (ns : Namespace) : Namespace → Prop
  | root : Level ns ns
  | group {level members : Namespace} {name : String} :
      Level ns level → (name, .group members) ∈ level → Level ns members

/-- No level has a name twice or a name with a dot. -/
structure Addressable (ns : Namespace) : Prop where
  nodup : ∀ level, ns.Level level → level.keys.Nodup
  dotless : ∀ level, ns.Level level → ∀ name ∈ level.keys, '.' ∉ name.toList

theorem Level.of_mem (h : members.Level level) (hmem : (name, .group members) ∈ ns) :
    ns.Level level := by
  induction h with
  | root => exact .group .root hmem
  | group _ hgroup ih => exact .group ih hgroup

/-- A level is the namespace itself, or a level of a group in it. -/
theorem Level.eq_or_exists_mem (h : ns.Level level) :
    level = ns ∨ ∃ name members, (name, .group members) ∈ ns ∧ Namespace.Level members level := by
  induction h with
  | root => exact .inl rfl
  | group _ hmem ih =>
    rcases ih with rfl | ⟨name, members, hmem', hlevel⟩
    · exact .inr ⟨_, _, hmem, .root⟩
    · exact .inr ⟨name, members, hmem', .group hlevel hmem⟩

theorem Addressable.intro (hnodup : ns.keys.Nodup) (hdotless : ∀ name ∈ ns.keys, '.' ∉ name.toList)
    (hgroups : ∀ name members, (name, .group members) ∈ ns → Namespace.Addressable members) :
    ns.Addressable where
  nodup level hlevel := by
    rcases hlevel.eq_or_exists_mem with rfl | ⟨name, members, hmem, hlevel⟩
    · exact hnodup
    · exact (hgroups name members hmem).nodup level hlevel
  dotless level hlevel := by
    rcases hlevel.eq_or_exists_mem with rfl | ⟨name, members, hmem, hlevel⟩
    · exact hdotless
    · exact (hgroups name members hmem).dotless level hlevel

theorem Addressable.of_mem (h : ns.Addressable) (hmem : (name, .group members) ∈ ns) :
    members.Addressable where
  nodup level hlevel := h.nodup level (hlevel.of_mem hmem)
  dotless level hlevel := h.dotless level (hlevel.of_mem hmem)

theorem Leads.exists_cons (h : ns.Leads names entry) :
    ∃ name more, names = name :: more ∧ name ∈ ns.keys := by
  cases h with
  | last hmem => exact ⟨_, _, rfl, List.mem_map.2 ⟨_, hmem, rfl⟩⟩
  | further hmem _ => exact ⟨_, _, rfl, List.mem_map.2 ⟨_, hmem, rfl⟩⟩

theorem leads_single_iff : ns.Leads [name] entry ↔ (name, entry) ∈ ns := by
  constructor
  · intro h
    cases h with
    | last hmem => exact hmem
    | further _ hmore => obtain ⟨_, _, hnil, -⟩ := hmore.exists_cons; cases hnil
  · exact .last

theorem leads_cons_cons_iff {next : String} : ns.Leads (name :: next :: more) entry ↔
    ∃ level, (name, .group level) ∈ ns ∧ Namespace.Leads level (next :: more) entry := by
  constructor
  · intro h
    cases h with
    | further hmem hmore => exact ⟨_, hmem, hmore⟩
  · rintro ⟨level, hmem, hmore⟩
    exact .further hmem hmore

/-- A way whose last name is known goes through its first name, unless it has no other. -/
theorem leads_cons_append_iff {parent : String} {parents : List String} :
    ns.Leads (parent :: (parents ++ [name])) entry ↔
      ∃ level, (parent, .group level) ∈ ns ∧ Namespace.Leads level (parents ++ [name]) entry := by
  cases parents <;> exact leads_cons_cons_iff

theorem Leads.dotless (h : ns.Leads names entry) (haddr : ns.Addressable) :
    ∀ name ∈ names, '.' ∉ name.toList := by
  induction h with
  | last hmem =>
    intro name hname
    rw [List.mem_singleton.1 hname]
    exact haddr.dotless _ .root _ (List.mem_map.2 ⟨_, hmem, rfl⟩)
  | further hmem _ ih =>
    intro name hname
    rcases List.mem_cons.1 hname with rfl | hname
    · exact haddr.dotless _ .root _ (List.mem_map.2 ⟨_, hmem, rfl⟩)
    · exact ih (haddr.of_mem hmem) name hname

/-- The names of a way are read back from its key. -/
theorem Leads.names_keyOf (h : ns.Leads names entry) (haddr : ns.Addressable)
    (hroot : "" ∉ ns.keys) : Text.names (Text.keyOf names) = names := by
  obtain ⟨name, more, rfl, hname⟩ := h.exists_cons
  rw [Text.keyOf_eq_dotted (fun hempty => hroot (hempty ▸ hname)),
    Text.names_dotted (h.dotless haddr) (List.cons_ne_nil _ _)]

/-- **A way is followed** to its end, unless an empty text stands there. -/
theorem descend_of_leads (h : ns.Leads names entry) (haddr : ns.Addressable)
    (hne : entry ≠ .text "") (parents : List String) : descend parents names ns = .ok entry := by
  induction h generalizing parents with
  | last hmem =>
    exact descend_last_eq_ok_iff.2 ⟨Dict.get?_of_mem (haddr.nodup _ .root) hmem, hne⟩
  | further hmem hmore ih =>
    obtain ⟨next, more, rfl, -⟩ := hmore.exists_cons
    exact descend_further_eq_ok_iff.2 ⟨_, Dict.get?_of_mem (haddr.nodup _ .root) hmem,
      ih (haddr.of_mem hmem) hne _⟩

/-- Where no level has a name twice, no two entries stand at the end of one way. -/
theorem Leads.unique_of_nodup {other : Entry} (h : ns.Leads names entry) (h' : ns.Leads names other)
    (hnodup : ∀ level, ns.Level level → level.keys.Nodup) : entry = other := by
  induction h with
  | last hmem =>
    have hget := Dict.get?_of_mem (hnodup _ .root) hmem
    have hget' := Dict.get?_of_mem (hnodup _ .root) (leads_single_iff.1 h')
    exact Option.some.inj (hget.symm.trans hget')
  | further hmem hmore ih =>
    -- Both ways go through the same group, for its name stands there once.
    obtain ⟨next, more, rfl, -⟩ := hmore.exists_cons
    obtain ⟨level, hmem', hmore'⟩ := leads_cons_cons_iff.1 h'
    have hget := Dict.get?_of_mem (hnodup _ .root) hmem
    have hget' := Dict.get?_of_mem (hnodup _ .root) hmem'
    cases hget.symm.trans hget'
    exact ih hmore' fun level hlevel => hnodup level (hlevel.of_mem hmem)

theorem Leads.unique {other : Entry} (h : ns.Leads names entry) (h' : ns.Leads names other)
    (haddr : ns.Addressable) : entry = other :=
  h.unique_of_nodup h' haddr.nodup

/-- **What stands at the end of the way** that a key spells is found, unless it is an empty text. -/
theorem find_eq_ok_iff_of_leads (h : ns.Leads (Text.names key) entry) (haddr : ns.Addressable)
    (hkey : key ≠ "") : ns.find key = .ok entry ↔ entry ≠ .text "" := by
  constructor
  · exact fun hfind => (leads_of_find hfind).2
  · intro hne
    rw [find, if_neg (by simpa using hkey)]
    exact descend_of_leads h haddr hne []

end Namespace

end Phrasebook
