import Phrasebook.Proofs.LeafKeys

/-!
# Listed keys

The leaf keys are collected in the order of the tree, and that is not the order of texts: a hyphen
comes before the dot, so `menu-bar` stands before `menu.file` though the group `menu` is visited
first. They are put in order afterwards.

**Each key once** (`nodup_leaves`). Where different ways have different keys (`KeysApart`) and no
level has a name twice, the collection meets no key a second time. Ways of an addressable namespace
are read back from their keys, so they have different ones.

Main result: `leafKeys_exact`. Where keys are addresses, the leaf keys strictly increase, and they
are the keys under which a text or plural forms are found, with those of empty texts.
-/

namespace Phrasebook.Namespace

variable {ns members : Namespace} {names : List String} {name path key : String} {entry : Entry}

/-! ## Each key once -/

/-- Different ways have different keys below the key `path`. -/
def KeysApart (path : String) (ns : Namespace) : Prop :=
  ∀ names names' entry entry', ns.Leads names entry → ns.Leads names' entry' →
    names.foldl Text.below path = names'.foldl Text.below path → names = names'

theorem KeysApart.of_mem (h : KeysApart path ns) (hmem : (name, .group members) ∈ ns) :
    KeysApart (Text.below path name) members := by
  intro names names' entry entry' hleads hleads' hkey
  have hcons : name :: names = name :: names' :=
    h _ _ _ _ (.further hmem hleads) (.further hmem hleads') hkey
  exact (List.cons.inj hcons).2

theorem Leads.cons (h : ns.Leads names entry) (e : String × Entry) :
    Leads (e :: ns) names entry := by
  cases h with
  | last hmem => exact .last (List.mem_cons_of_mem _ hmem)
  | further hmem hmore => exact .further (List.mem_cons_of_mem _ hmem) hmore

theorem KeysApart.tail {e : String × Entry} (h : KeysApart path (e :: ns)) : KeysApart path ns :=
  fun _ _ _ _ hleads hleads' => h _ _ _ _ (hleads.cons e) (hleads'.cons e)

theorem Addressable.tail {e : String × Entry} (h : Addressable (e :: ns)) : ns.Addressable :=
  .intro (List.nodup_cons.1 (h.nodup _ .root)).2
    (fun _ hname => h.dotless _ .root _ (List.mem_cons_of_mem _ hname))
    fun _ _ hmem => h.of_mem (List.mem_cons_of_mem _ hmem)

/-- The keys of an entry are keys of ways that begin with its name. -/
theorem exists_leads_of_mem_leaves (hmem : (name, entry) ∈ ns)
    (hkey : key ∈ entry.leaves (Text.below path name)) :
    ∃ more leaf, ns.Leads (name :: more) leaf ∧ key = (name :: more).foldl Text.below path := by
  rcases entry.exists_of_mem_leaves hkey with ⟨-, rfl⟩ | ⟨members, rfl, more, leaf, hleads, -, rfl⟩
  · exact ⟨[], entry, .last hmem, rfl⟩
  · exact ⟨more, leaf, .further hmem hleads, rfl⟩

/-- The keys of one entry are no keys of those behind it. -/
theorem leaves_disjoint (haddr : Addressable ((name, entry) :: ns))
    (hapart : KeysApart path ((name, entry) :: ns))
    (hkey : key ∈ entry.leaves (Text.below path name)) : key ∉ leaves path ns := by
  intro hkey'
  have hmem : (name, entry) ∈ (name, entry) :: ns := List.mem_cons_self
  obtain ⟨more, leaf, hleads, hsame⟩ := exists_leads_of_mem_leaves hmem hkey
  obtain ⟨names, leaf', hleads', -, hsame'⟩ := exists_of_mem_leaves ns hkey'
  -- A common key would belong to one way, and its first name would stand on this level twice.
  have hnames : name :: more = names :=
    hapart _ _ _ _ hleads (hleads'.cons _) (hsame.symm.trans hsame')
  obtain ⟨name', more', rfl, hname'⟩ := hleads'.exists_cons
  obtain ⟨rfl, -⟩ := List.cons.inj hnames
  exact (List.nodup_cons.1 (haddr.nodup _ .root)).1 hname'

end Namespace

mutual

theorem Entry.nodup_leaves {path : String} :
    (entry : Entry) → (∀ members, entry = .group members →
      Namespace.Addressable members ∧ Namespace.KeysApart path members) →
      (entry.leaves path).Nodup
  | .text _, _ => by simp [Entry.leaves]
  | .plural _, _ => by simp [Entry.leaves]
  | .group members, h => Namespace.nodup_leaves members (h members rfl).1 (h members rfl).2

/-- **The collection meets each key once.** -/
theorem Namespace.nodup_leaves {path : String} :
    (ns : List (String × Entry)) → Namespace.Addressable ns → Namespace.KeysApart path ns →
      (Namespace.leaves path ns).Nodup
  | [], _, _ => .nil
  | (name, entry) :: rest, haddr, hapart => by
    rw [Namespace.leaves]
    refine List.nodup_append.2 ⟨entry.nodup_leaves ?_, ?_, ?_⟩
    · rintro members rfl
      exact ⟨haddr.of_mem List.mem_cons_self, hapart.of_mem List.mem_cons_self⟩
    · exact Namespace.nodup_leaves rest haddr.tail hapart.tail
    · rintro key hkey _ hkey' rfl
      exact Namespace.leaves_disjoint haddr hapart hkey hkey'

end

namespace Namespace

variable {ns : Namespace} {names : List String} {key : String} {entry leaf : Entry}

theorem Addressable.keysApart (haddr : ns.Addressable) (hroot : "" ∉ ns.keys) :
    KeysApart "" ns := by
  intro names names' entry entry' hleads hleads' hkey
  rw [← hleads.names_keyOf haddr hroot, Text.keyOf, hkey]
  exact hleads'.names_keyOf haddr hroot

/-! ## In order -/

theorem leafKeys_pairwise_le (ns : Namespace) : ns.leafKeys.Pairwise (· ≤ ·) := by
  refine (List.pairwise_mergeSort ?_ ?_ _).imp of_decide_eq_true
  · intro a b c hab hbc
    exact decide_eq_true (String.le_trans (of_decide_eq_true hab) (of_decide_eq_true hbc))
  · intro a b
    simpa [textLE] using String.le_total a b

theorem nodup_leafKeys (haddr : ns.Addressable) (hroot : "" ∉ ns.keys) : ns.leafKeys.Nodup :=
  (List.mergeSort_perm _ _).nodup_iff.2 (nodup_leaves ns haddr (haddr.keysApart hroot))

theorem leafKeys_pairwise_lt (haddr : ns.Addressable) (hroot : "" ∉ ns.keys) :
    ns.leafKeys.Pairwise (· < ·) :=
  (List.Pairwise.and (leafKeys_pairwise_le ns) (nodup_leafKeys haddr hroot)).imp
    fun ⟨hle, hne⟩ => String.not_le.1 fun hge => hne (String.le_antisymm hle hge)

/-! ## Empty texts -/

/-- A way to an empty text ends without suggestions. -/
theorem descend_of_leads_empty (h : ns.Leads names (.text "")) (haddr : ns.Addressable)
    (parents : List String) : descend parents names ns = .error [] := by
  generalize hempty : Entry.text "" = entry at h
  induction h generalizing parents with
  | last hmem =>
    subst hempty
    rw [descend.eq_def]
    dsimp only
    rw [Dict.get?_of_mem (haddr.nodup _ .root) hmem]
    rfl
  | further hmem hmore ih =>
    obtain ⟨next, more, rfl, -⟩ := hmore.exists_cons
    rw [descend.eq_def]
    dsimp only
    rw [Dict.get?_of_mem (haddr.nodup _ .root) hmem]
    exact ih (haddr.of_mem hmem) _ hempty

theorem find_of_leads_empty (h : ns.Leads (Text.names key) (.text "")) (haddr : ns.Addressable) :
    ns.find key = .error [] := by
  rw [find]
  split
  · rfl
  · exact descend_of_leads_empty h haddr []

/-! ## Listed and found -/

/-- A key is put together again from the way that it spells. -/
theorem Leads.keyOf_names (h : ns.Leads (Text.names key) entry) (hroot : "" ∉ ns.keys) :
    Text.keyOf (Text.names key) = key := by
  obtain ⟨name, more, hnames, hname⟩ := h.exists_cons
  rw [hnames, Text.keyOf_eq_dotted (fun hempty => hroot (hempty ▸ hname)), ← hnames,
    Text.dotted_names]

theorem Leads.ne_empty (h : ns.Leads (Text.names key) entry) (hroot : "" ∉ ns.keys) : key ≠ "" := by
  rintro rfl
  obtain ⟨name, more, hnames, hname⟩ := h.exists_cons
  obtain ⟨rfl, -⟩ := List.cons.inj hnames
  exact hroot hname

/-- The leaf keys spell the ways to texts and plural forms. -/
theorem mem_leafKeys_iff_leads (haddr : ns.Addressable) (hroot : "" ∉ ns.keys) :
    key ∈ ns.leafKeys ↔ ∃ leaf, ns.Leads (Text.names key) leaf ∧ leaf.IsLeaf := by
  rw [mem_leafKeys_iff]
  constructor
  · rintro ⟨names, leaf, hleads, hleaf, rfl⟩
    rw [hleads.names_keyOf haddr hroot]
    exact ⟨leaf, hleads, hleaf⟩
  · rintro ⟨leaf, hleads, hleaf⟩
    exact ⟨_, leaf, hleads, hleaf, (hleads.keyOf_names hroot).symm⟩

/-- **The listed keys are the keys that are found.** Where keys are addresses, the leaf keys
strictly increase; a key is listed exactly if a text or plural forms are found under it, or if it
leads to an empty text, which is not found. -/
theorem leafKeys_exact (haddr : ns.Addressable) (hroot : "" ∉ ns.keys) :
    ns.leafKeys.Pairwise (· < ·) ∧
    (∀ key, key ∈ ns.leafKeys ↔ (∃ leaf, ns.find key = .ok leaf ∧ leaf.IsLeaf) ∨
      ns.Leads (Text.names key) (.text "")) ∧
    ∀ key, ns.Leads (Text.names key) (.text "") → ns.find key = .error [] := by
  refine ⟨leafKeys_pairwise_lt haddr hroot, fun key => ?_,
    fun key hempty => find_of_leads_empty hempty haddr⟩
  rw [mem_leafKeys_iff_leads haddr hroot]
  constructor
  · rintro ⟨leaf, hleads, hleaf⟩
    by_cases hempty : leaf = .text ""
    · exact .inr (hempty ▸ hleads)
    · have hkey := hleads.ne_empty hroot
      exact .inl ⟨leaf, (find_eq_ok_iff_of_leads hleads haddr hkey).2 hempty, hleaf⟩
  · rintro (⟨leaf, hfind, hleaf⟩ | hempty)
    · exact ⟨leaf, (leads_of_find hfind).1, hleaf⟩
    · exact ⟨_, hempty, nofun⟩

/-- A group is visited before a name with a hyphen, and one of its texts is empty. -/
theorem leafKeys_exact_menu :
    let ns : Namespace := [("menu", .group [("file", .text "File"), ("help", .text "")]),
      ("menu-bar", .plural { other := "Bars" })]
    ns.Addressable ∧ "" ∉ ns.keys ∧ ns.leafKeys = ["menu-bar", "menu.file", "menu.help"] ∧
      ns.leafKeys.Pairwise (· < ·) ∧ (∃ leaf, ns.find "menu.file" = .ok leaf ∧ leaf.IsLeaf) ∧
      ns.find "menu.help" = .error [] := by
  intro ns
  have hroot : "" ∉ ns.keys := by decide
  have haddr : ns.Addressable := by
    refine .intro (by decide) (by decide) fun name members hmem => ?_
    rcases List.mem_cons.1 hmem with hmenu | hbar
    · cases hmenu
      exact .intro (by decide) (by decide) (by simp)
    · cases List.mem_singleton.1 hbar
  have hlisted : ns.leafKeys = ["menu-bar", "menu.file", "menu.help"] := by
    have hleaves : leaves "" ns = ["menu.file", "menu.help", "menu-bar"] := rfl
    have hhelp : textLE "menu.file" "menu.help" = true := by decide
    have hbar : textLE "menu.file" "menu-bar" = false := by decide
    simp [leafKeys, hleaves, List.mergeSort, hhelp, hbar]
  have hfile : ns.Leads (Text.names "menu.file") (.text "File") := by
    rw [show Text.names "menu.file" = ["menu", "file"] from rfl]
    exact .further List.mem_cons_self (.last (by simp))
  have hhelp : ns.Leads (Text.names "menu.help") (.text "") := by
    rw [show Text.names "menu.help" = ["menu", "help"] from rfl]
    exact .further List.mem_cons_self (.last (by simp))
  obtain ⟨hincreasing, hfound, hempty⟩ := leafKeys_exact haddr hroot
  refine ⟨haddr, hroot, hlisted, hincreasing, ?_, hempty _ hhelp⟩
  refine ((hfound "menu.file").1 (by rw [hlisted]; simp)).resolve_right fun h => ?_
  exact absurd (Entry.text.inj (h.unique hfile haddr)) (by decide)

end Phrasebook.Namespace
