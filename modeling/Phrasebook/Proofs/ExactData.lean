import Phrasebook.Proofs.GivenForms
import Phrasebook.Proofs.LeafKeys
import Phrasebook.Proofs.OrderedData

/-!
# Data are read exactly

**What is accepted** (`Entry.exists_ofJson_iff`). Texts and objects are read, and
nothing else: a value becomes an entry exactly when no null, boolean, number or array is reached
from it through objects.

**Nothing is lost** (`Entry.arranged_toJson`). An entry is written as the data that it was read
from, but for the order of the members; and it is written with no name twice
(`Entry.single_toJson`).

**What stands where** (`Namespace.leads_iff`). The entry at the end of a row of names is the one
that is read from the value at the end of the same row in the data.

Main result: `Namespace.ofJson_exact`.
-/

namespace Phrasebook

/-! ## What is accepted -/

namespace Entry

variable {path : String} {value : Json} {members : List (String × Json)} {entry : Entry}
  {level : Namespace} {forms : PluralForms}

/-- What is foreign is not read. -/
theorem ofJson_ne_ok (h : value.IsForeign) : Entry.ofJson path value ≠ .ok entry := by
  intro hread
  cases value with
  | object members => exact h
  | string s => exact h
  | _ => cases hread

theorem ofJson_of_pluralShaped (h : PluralShaped members) : ∃ forms,
    PluralForms.ofMembers? members = some forms ∧
      Entry.ofJson path (.object members) = .ok (.plural forms) := by
  obtain ⟨forms, hforms⟩ := Option.isSome_iff_exists.1 (PluralForms.ofMembers?_isSome_iff.2 h)
  exact ⟨forms, hforms, by rw [ofJson, hforms]⟩

theorem ofJson_of_not_pluralShaped (h : ¬ PluralShaped members)
    (hlevel : Namespace.ofMembers path members = .ok level) :
    Entry.ofJson path (.object members) = .ok (.group level) := by
  rw [ofJson, PluralForms.ofMembers?_eq_none h, hlevel]
  rfl

/-- What an object becomes, if it is read. -/
theorem ofJson_object_cases (h : Entry.ofJson path (.object members) = .ok entry) :
    (PluralShaped members ∧ ∃ forms, PluralForms.ofMembers? members = some forms ∧
      entry = .plural forms) ∨
    (¬ PluralShaped members ∧ ∃ level, Namespace.ofMembers path members = .ok level ∧
      entry = .group level) := by
  by_cases hshape : PluralShaped members
  · obtain ⟨forms, hforms, hread⟩ := ofJson_of_pluralShaped hshape
    exact .inl ⟨hshape, forms, hforms, Except.ok.inj (h.symm.trans hread)⟩
  · exact .inr ⟨hshape, Entry.ofJson_group hshape h⟩

theorem exists_object_of_group (h : Entry.ofJson path value = .ok (.group level)) :
    ∃ members, value = .object members ∧ Namespace.ofMembers path members = .ok level := by
  cases value with
  | object members =>
    rcases ofJson_object_cases h with ⟨-, _, -, hplural⟩ | ⟨-, level', hlevel, hgroup⟩
    · cases hplural
    · cases hgroup
      exact ⟨members, rfl, hlevel⟩
  | _ => cases h

/-- **The shape of an object decides** what it becomes. -/
theorem kind_of_object (h : Entry.ofJson path (.object members) = .ok entry) :
    (entry.kind = .plural ↔ PluralShaped members) ∧
      (entry.kind = .group ↔ ¬ PluralShaped members) := by
  rcases ofJson_object_cases h with ⟨hshape, _, -, rfl⟩ | ⟨hshape, _, -, rfl⟩
  · simp [kind, hshape]
  · simp [kind, hshape]

end Entry

namespace Namespace

variable {path : String} {members : List (String × Json)} {ns : Namespace}

theorem exists_ofMembers_iff : (∃ ns, ofMembers path members = .ok ns) ↔
    ∀ m ∈ members, ∃ entry, Entry.ofJson (Text.below path m.1) m.2 = .ok entry := by
  induction members with
  | nil => exact ⟨fun _ _ hm => absurd hm List.not_mem_nil, fun _ => ⟨[], rfl⟩⟩
  | cons m members ih =>
    obtain ⟨name, value⟩ := m
    rw [List.forall_mem_cons, ← ih]
    constructor
    · rintro ⟨ns, hns⟩
      obtain ⟨entry, more, hentry, hmore, -⟩ := ofMembers_cons hns
      exact ⟨⟨entry, hentry⟩, more, hmore⟩
    · rintro ⟨⟨entry, hentry⟩, more, hmore⟩
      refine ⟨(name, entry) :: more, ?_⟩
      rw [ofMembers, hentry, hmore]
      rfl

theorem mem_of_mem_ofMembers {name : String} {entry : Entry} (h : ofMembers path members = .ok ns)
    (hm : (name, entry) ∈ ns) : ∃ value, (name, value) ∈ members ∧
      Entry.ofJson (Text.below path name) value = .ok entry := by
  induction members generalizing ns with
  | nil =>
    cases h
    cases hm
  | cons m members ih =>
    obtain ⟨name', value⟩ := m
    obtain ⟨found, more, hfound, hmore, rfl⟩ := ofMembers_cons h
    rcases List.mem_cons.1 hm with hm | hm
    · cases hm
      exact ⟨value, List.mem_cons_self, hfound⟩
    · obtain ⟨v, hv, hentry⟩ := ih hmore hm
      exact ⟨v, List.mem_cons_of_mem _ hv, hentry⟩

theorem keys_ofMembers (h : ofMembers path members = .ok ns) : ns.keys = Dict.keys members := by
  induction members generalizing ns with
  | nil =>
    cases h
    rfl
  | cons m members ih =>
    obtain ⟨entry, more, -, hmore, rfl⟩ := ofMembers_cons h
    exact congrArg (m.1 :: ·) (ih hmore)

end Namespace

/-- **Whatever holds nothing foreign is read**, and nothing else is. -/
theorem Entry.exists_ofJson_iff {value : Json} (h : value.Ordered) (path : String) :
    (∃ entry, Entry.ofJson path value = .ok entry) ↔ value.Throughout fun v => ¬ v.IsForeign := by
  induction value using Json.memberInduction generalizing path with
  | object members ih =>
    obtain ⟨hmembers, hvalues⟩ := Json.ordered_object_iff.1 h
    rw [Json.throughout_object_iff hmembers.nodup_keys]
    by_cases hshape : PluralShaped members
    · -- The members are texts, so that neither side asks anything of them
      obtain ⟨forms, -, hread⟩ := ofJson_of_pluralShaped hshape
      refine iff_of_true ⟨.plural forms, hread⟩ ⟨id, ?_⟩
      intro m hm
      obtain ⟨c, s, rfl⟩ := hshape.forms m hm
      exact (Json.throughout_iff_of_no_object (by simp)).2 id
    · have hgroup : (∃ entry, Entry.ofJson path (.object members) = .ok entry) ↔
          ∃ ns, Namespace.ofMembers path members = .ok ns := by
        constructor
        · rintro ⟨entry, hentry⟩
          obtain ⟨ns, hns, -⟩ := Entry.ofJson_group hshape hentry
          exact ⟨ns, hns⟩
        · rintro ⟨ns, hns⟩
          exact ⟨.group ns, ofJson_of_not_pluralShaped hshape hns⟩
      rw [hgroup, Namespace.exists_ofMembers_iff]
      constructor
      · intro hall
        exact ⟨id, fun m hm => (ih m hm (hvalues m hm) _).1 (hall m hm)⟩
      · intro hall m hm
        exact (ih m hm (hvalues m hm) _).2 (hall.2 m hm)
  | string s => exact iff_of_true ⟨_, rfl⟩ ((Json.throughout_iff_of_no_object (by simp)).2 id)
  | foreign value hvalue =>
    rw [Json.throughout_iff_of_no_object hvalue.ne_object]
    refine iff_of_false ?_ fun h => h hvalue
    rintro ⟨entry, hentry⟩
    exact ofJson_ne_ok hvalue hentry

/-! ## What is written -/

namespace PluralForms

/-- **Forms are written** as the members that they were read from, but for the order. -/
theorem ofList_map_toMember {forms : PluralForms} {fs : List (Category × String)}
    (h : ofDict? (Dict.ofList fs) = some forms) :
    Dict.ofList (forms.toList.map toMember) = Dict.ofList (fs.map toMember) := by
  rw [toList_of_ofDict? (Dict.ordered_ofList fs) h]
  refine (Dict.ordered_ofList _).ext (Dict.ordered_ofList _) fun name => ?_
  rw [Dict.get?_ofList, Dict.get?_ofList, ← List.map_reverse, ← List.map_reverse]
  -- A name finds the same on both sides: what its category finds, or nothing if it names none.
  have hget (l : List (Category × String)) (c : Category) :
      Dict.get? (l.map toMember) c.tag = (Dict.get? l c).map Json.string :=
    Dict.get?_map Category.tag_injective Json.string l c
  by_cases hname : ∃ c : Category, name = c.tag
  · obtain ⟨c, rfl⟩ := hname
    rw [hget, hget, Dict.get?_reverse (Dict.ordered_ofList fs).nodup_keys, Dict.get?_ofList]
  · have hnone (l : List (Category × String)) : Dict.get? (l.map toMember) name = none := by
      rw [Dict.get?_eq_none_iff]
      intro hmem
      simp only [Dict.keys, List.map_map, List.mem_map] at hmem
      obtain ⟨f, -, hf⟩ := hmem
      exact hname ⟨f.1, hf.symm⟩
    rw [hnone, hnone]

end PluralForms

namespace Json

theorem arrangedMembers_toMember (fs : List (Category × String)) :
    arrangedMembers (fs.map PluralForms.toMember) = fs.map PluralForms.toMember := by
  simp [arrangedMembers_eq_map, PluralForms.toMember, arranged, Function.comp_def]

end Json

namespace Namespace

variable {path : String} {members : List (String × Json)} {ns : Namespace}

theorem toMembers_eq_map (ns : List (String × Entry)) :
    toMembers ns = ns.map fun m => (m.1, m.2.toJson) := by
  induction ns with
  | nil => rfl
  | cons m ns ih => simp [toMembers, ih]

theorem keys_toMembers (ns : Namespace) : Dict.keys (toMembers ns) = ns.keys := by
  simp [toMembers_eq_map, Dict.keys]

theorem arrangedMembers_toMembers (h : ofMembers path members = .ok ns)
    (hentries : ∀ m ∈ members, ∀ path entry, Entry.ofJson path m.2 = .ok entry →
      entry.toJson.arranged = m.2.arranged) :
    Json.arrangedMembers (toMembers ns) = Json.arrangedMembers members := by
  induction members generalizing ns with
  | nil =>
    cases h
    rfl
  | cons m members ih =>
    obtain ⟨hm, hmembers⟩ := List.forall_mem_cons.1 hentries
    obtain ⟨entry, more, hentry, hmore, rfl⟩ := ofMembers_cons h
    simp only [toMembers, Json.arrangedMembers, hm _ _ hentry, ih hmore hmembers]

end Namespace

/-- **An entry is written as the data that it was read from**, but for the order of members. -/
theorem Entry.arranged_toJson {path : String} {value : Json} {entry : Entry}
    (h : Entry.ofJson path value = .ok entry) : entry.toJson.arranged = value.arranged := by
  induction value using Json.memberInduction generalizing path entry with
  | object members ih =>
    rcases ofJson_object_cases h with ⟨-, forms, hread, rfl⟩ | ⟨-, level, hlevel, rfl⟩
    · rw [PluralForms.ofMembers?_eq] at hread
      obtain ⟨fs, hfs, hforms⟩ := Option.bind_eq_some_iff.1 hread
      obtain rfl := PluralForms.mapM_ofMember?_eq_some_iff.1 hfs
      show Json.object (Dict.ofList
        (Json.arrangedMembers (forms.toList.map PluralForms.toMember))) = _
      rw [Json.arranged, Json.arrangedMembers_toMember, Json.arrangedMembers_toMember,
        PluralForms.ofList_map_toMember hforms]
    · rw [toJson, Json.arranged, Json.arranged, Namespace.arrangedMembers_toMembers hlevel]
      intro m hm path entry hentry
      exact ih m hm hentry
  | string s =>
    cases h
    rfl
  | foreign value hvalue => exact absurd h (ofJson_ne_ok hvalue)

theorem PluralForms.proper_of_ofMembers? {members : List (String × Json)} {forms : PluralForms}
    (h : ofMembers? members = some forms) : forms.Proper := by
  rw [ofMembers?_eq] at h
  obtain ⟨fs, -, hforms⟩ := Option.bind_eq_some_iff.1 h
  exact proper_of_ofDict? (Dict.ordered_ofList fs) hforms

theorem PluralForms.Proper.nodup_toMember {forms : PluralForms} (h : forms.Proper) :
    (Dict.keys (forms.toList.map toMember)).Nodup := by
  have hkeys : Dict.keys (forms.toList.map toMember) =
      (Dict.keys forms.toList).map Category.tag := by
    simp [Dict.keys, toMember, Function.comp_def]
  rw [hkeys]
  refine List.pairwise_map.2 (h.ordered_toList.nodup_keys.imp fun hne heq => ?_)
  exact hne (Category.tag_injective heq)

theorem Namespace.single_toMembers {path : String} {members : List (String × Json)}
    {ns : Namespace} (hnodup : (Dict.keys members).Nodup)
    (h : Namespace.ofMembers path members = .ok ns)
    (hentries : ∀ m ∈ members, ∀ path entry, Entry.ofJson path m.2 = .ok entry →
      entry.toJson.Single) : (Json.object (Namespace.toMembers ns)).Single := by
  apply Json.single_object
  · rwa [keys_toMembers, keys_ofMembers h]
  · rw [toMembers_eq_map]
    intro m hm
    obtain ⟨⟨name, entry⟩, hentry, rfl⟩ := List.mem_map.1 hm
    obtain ⟨value, hvalue, hread⟩ := mem_of_mem_ofMembers h hentry
    exact hentries _ hvalue _ _ hread

/-- **What is written has no name twice.** -/
theorem Entry.single_toJson {path : String} {value : Json} {entry : Entry} (hd : value.Ordered)
    (h : Entry.ofJson path value = .ok entry) : entry.toJson.Single := by
  induction value using Json.memberInduction generalizing path entry with
  | object members ih =>
    obtain ⟨hmembers, hvalues⟩ := Json.ordered_object_iff.1 hd
    rcases ofJson_object_cases h with ⟨-, forms, hread, rfl⟩ | ⟨-, level, hlevel, rfl⟩
    · have hforms := PluralForms.proper_of_ofMembers? hread
      refine Json.single_object hforms.nodup_toMember fun m hm => ?_
      obtain ⟨f, -, rfl⟩ := List.mem_map.1 hm
      exact Json.single_of_no_object (by simp)
    · rw [toJson]
      refine Namespace.single_toMembers hmembers.nodup_keys hlevel fun m hm path entry hentry => ?_
      exact ih m hm (hvalues m hm) hentry
  | string s =>
    cases h
    exact Json.single_of_no_object (by simp [toJson])
  | foreign value hvalue => exact absurd h (ofJson_ne_ok hvalue)

/-! ## What stands where -/

namespace Json

variable {members : List (String × Json)} {keys : List String}

/-- An object at the end of a row of names is reached through groups. -/
theorem plainPath_of_at?_object {d : Json} (h : d.at? keys = some (.object members)) :
    d.PlainPath keys := by
  rintro front back inner rfl - hback hinner hshape
  rw [at?_append, hinner] at h
  cases back with
  | nil => exact hback rfl
  | cons name more =>
    obtain ⟨_, value, hobject, hvalue, hat⟩ := at?_cons_eq_some_iff.1 h
    cases hobject
    obtain ⟨c, s, hm⟩ := hshape.forms _ (Dict.mem_of_get? hvalue)
    cases hm
    cases more <;> cases hat

end Json

namespace Namespace

variable {path name next : String} {more : List String} {members : List (String × Json)}
  {ns : Namespace} {entry : Entry}

theorem mem_ofMembers_iff (hmembers : (Dict.keys members).Nodup)
    (h : ofMembers path members = .ok ns) : (name, entry) ∈ ns ↔
      ∃ value, Dict.get? members name = some value ∧
        Entry.ofJson (Text.below path name) value = .ok entry := by
  constructor
  · intro hm
    obtain ⟨value, hvalue, hentry⟩ := mem_of_mem_ofMembers h hm
    exact ⟨value, Dict.get?_of_mem hmembers hvalue, hentry⟩
  · rintro ⟨value, hvalue, hentry⟩
    obtain ⟨found, hfound, hget⟩ := get?_of_ofMembers h hvalue
    obtain rfl := Except.ok.inj (hentry.symm.trans hfound)
    exact Dict.mem_of_get? hget

/-- **Names lead to what is read** from the value that they lead to in the data. -/
theorem leads_iff {keys : List String} (hd : (Json.object members).Ordered)
    (h : ofMembers path members = .ok ns) (hne : keys ≠ [])
    (hplain : (Json.object members).PlainPath keys) : ns.Leads keys entry ↔
      ∃ value, (Json.object members).at? keys = some value ∧
        Entry.ofJson (keys.foldl Text.below path) value = .ok entry := by
  induction keys generalizing path members ns with
  | nil => exact absurd rfl hne
  | cons name more ih =>
    obtain ⟨hmembers, hvalues⟩ := Json.ordered_object_iff.1 hd
    cases more with
    | nil =>
      rw [leads_single_iff, mem_ofMembers_iff hmembers.nodup_keys h]
      simp [Json.at?]
    | cons next more =>
      rw [leads_cons_cons_iff]
      constructor
      · rintro ⟨level, hmem, hmore⟩
        obtain ⟨value, hvalue, hgroup⟩ := (mem_ofMembers_iff hmembers.nodup_keys h).1 hmem
        -- Only an object is read as a group, and its members are read as the group's.
        obtain ⟨inner, rfl, hlevel⟩ := Entry.exists_object_of_group hgroup
        have hinner := (Json.plainPath_cons_iff.1 hplain _ hvalue).2
        have hordered := hvalues _ (Dict.mem_of_get? hvalue)
        obtain ⟨v, hat, hentry⟩ := (ih hordered hlevel (List.cons_ne_nil _ _) hinner).1 hmore
        exact ⟨v, Json.at?_cons_eq_some_iff.2 ⟨members, _, rfl, hvalue, hat⟩, hentry⟩
      · rintro ⟨v, hat, hentry⟩
        obtain ⟨_, value, hobject, hvalue, hat⟩ := Json.at?_cons_eq_some_iff.1 hat
        cases hobject
        obtain ⟨inner, _, rfl, -⟩ := Json.at?_cons_eq_some_iff.1 hat
        obtain ⟨hshape, hinner⟩ := Json.plainPath_cons_iff.1 hplain _ hvalue
        obtain ⟨found, hfound, hget⟩ := get?_of_ofMembers h hvalue
        obtain ⟨level, hlevel, rfl⟩ := Entry.ofJson_group (hshape inner rfl) hfound
        have hordered := hvalues _ (Dict.mem_of_get? hvalue)
        exact ⟨level, Dict.mem_of_get? hget,
          (ih hordered hlevel (List.cons_ne_nil _ _) hinner).2 ⟨v, hat, hentry⟩⟩

/-! ## Reading a namespace -/

theorem ofJson_eq_ok_iff {d : Json} :
    ofJson d = .ok ns ↔ ∃ members, d = .object members ∧ ofMembers "" members = .ok ns := by
  cases d <;> simp [ofJson]

/-- **A namespace is written as the data that it was read from.** -/
theorem arranged_toJson {d : Json} (hd : d.Ordered) (h : ofJson d = .ok ns) :
    (toJson ns).arranged = d := by
  obtain ⟨members, rfl, hns⟩ := ofJson_eq_ok_iff.1 h
  have hmembers : Json.arrangedMembers (toMembers ns) = Json.arrangedMembers members :=
    arrangedMembers_toMembers hns fun _ _ _ _ hentry => Entry.arranged_toJson hentry
  rw [← hd.arranged_eq_self, toJson, Json.arranged, Json.arranged, hmembers]

/-- A namespace is written with no name twice. -/
theorem single_toJson {d : Json} (hd : d.Ordered) (h : ofJson d = .ok ns) :
    (toJson ns).Single := by
  obtain ⟨members, rfl, hns⟩ := ofJson_eq_ok_iff.1 h
  obtain ⟨hmembers, hvalues⟩ := Json.ordered_object_iff.1 hd
  refine single_toMembers hmembers.nodup_keys hns fun m hm path entry hentry => ?_
  exact Entry.single_toJson (hvalues m hm) hentry

theorem exists_ofJson_iff {d : Json} (hd : d.Ordered) : (∃ ns, ofJson d = .ok ns) ↔
    (∃ members, d = .object members) ∧ d.Throughout fun v => ¬ v.IsForeign := by
  constructor
  · rintro ⟨ns, h⟩
    obtain ⟨members, rfl, hns⟩ := ofJson_eq_ok_iff.1 h
    obtain ⟨hmembers, hvalues⟩ := Json.ordered_object_iff.1 hd
    refine ⟨⟨members, rfl⟩, (Json.throughout_object_iff hmembers.nodup_keys).2 ⟨id, ?_⟩⟩
    intro m hm
    exact (Entry.exists_ofJson_iff (hvalues m hm) _).1 (exists_ofMembers_iff.1 ⟨ns, hns⟩ m hm)
  · rintro ⟨⟨members, rfl⟩, hall⟩
    obtain ⟨hmembers, hvalues⟩ := Json.ordered_object_iff.1 hd
    have hread : ∃ ns, ofMembers "" members = .ok ns := by
      rw [exists_ofMembers_iff]
      intro m hm
      have hm' := ((Json.throughout_object_iff hmembers.nodup_keys).1 hall).2 m hm
      exact (Entry.exists_ofJson_iff (hvalues m hm) _).2 hm'
    obtain ⟨ns, hns⟩ := hread
    exact ⟨ns, ofJson_eq_ok_iff.2 ⟨members, rfl, hns⟩⟩

/-- **Data are read exactly and without loss.** Data are accepted exactly when they are an object
from which nothing foreign is reached. Written again, the namespace gives the data, with no name
twice; so no other data give the same namespace. The root becomes a namespace with the names of the
object, and every object below it becomes one entry, plural forms exactly if it has their shape. -/
theorem ofJson_exact {d : Json} (hd : d.Ordered) :
    -- What is accepted.
    ((∃ ns, ofJson d = .ok ns) ↔
      (∃ members, d = .object members) ∧ d.Throughout fun v => ¬ v.IsForeign) ∧
    ∀ ns, ofJson d = .ok ns →
      -- Nothing is lost.
      ((toJson ns).Single ∧ (toJson ns).arranged = d) ∧
      (∀ d', d'.Ordered → ofJson d' = .ok ns → d' = d) ∧
      -- What the root becomes, and what becomes of an object below it.
      (∃ members, d = .object members ∧ ns.keys = Dict.keys members) ∧
      ∀ keys members, keys ≠ [] → d.at? keys = some (.object members) →
        ∃ entry, (∀ found, ns.Leads keys found ↔ found = entry) ∧
          (entry.kind = .plural ↔ PluralShaped members) ∧
          (entry.kind = .group ↔ ¬ PluralShaped members) := by
  refine ⟨exists_ofJson_iff hd, fun ns h => ?_⟩
  refine ⟨⟨single_toJson hd h, arranged_toJson hd h⟩, ?_, ?_, ?_⟩
  · intro d' hd' h'
    rw [← arranged_toJson hd h, arranged_toJson hd' h']
  · obtain ⟨members, rfl, hns⟩ := ofJson_eq_ok_iff.1 h
    exact ⟨members, rfl, keys_ofMembers hns⟩
  · intro keys inner hne hat
    have hplain := Json.plainPath_of_at?_object hat
    have hforeign := ((exists_ofJson_iff hd).1 ⟨ns, h⟩).2
    have hinner : (Json.object inner).Ordered := Json.Throughout.of_at? hd hat
    -- What is reached from the inner object is reached from the data, so the object is read
    obtain ⟨entry, hentry⟩ := (Entry.exists_ofJson_iff hinner (keys.foldl Text.below "")).2
      (hforeign.of_at? hat)
    obtain ⟨members, rfl, hns⟩ := ofJson_eq_ok_iff.1 h
    refine ⟨entry, fun found => ?_, Entry.kind_of_object hentry⟩
    rw [leads_iff hd hns hne hplain]
    constructor
    · rintro ⟨value, hvalue, hfound⟩
      obtain rfl := Option.some.inj (hat.symm.trans hvalue)
      exact Except.ok.inj (hfound.symm.trans hentry)
    · rintro rfl
      exact ⟨_, hat, hentry⟩

/-- Forms are listed by category, so they are written in another order than they stand in the data;
a group may have the name of a category. -/
theorem ofJson_exact_menu :
    let apple : List (String × Json) :=
      [("few", .string "jabłka"), ("one", .string "jabłko"), ("other", .string "jabłek")]
    let menu : List (String × Json) := [("one", .string "Menu"), ("other", .object apple)]
    let d : Json := .object [("menu", .object menu)]
    let forms : PluralForms := { other := "jabłek", forms := [(.one, "jabłko"), (.few, "jabłka")] }
    let ns : Namespace := [("menu", .group [("one", .text "Menu"), ("other", .plural forms)])]
    d.Ordered ∧ ofJson d = .ok ns ∧ toJson ns ≠ d ∧ (toJson ns).arranged = d ∧
      ∀ found, ns.Leads ["menu", "other"] found ↔ found = .plural forms := by
  intro apple menu d forms ns
  have hd : d.Ordered := by
    have hstring (s : String) : (Json.string s).Ordered :=
      (Json.throughout_iff_of_no_object (by simp)).2 nofun
    have happle : (Json.object apple).Ordered :=
      Json.ordered_object_iff.2 ⟨by decide, by simp [apple, hstring]⟩
    have hmenu : (Json.object menu).Ordered :=
      Json.ordered_object_iff.2 ⟨by decide, by simp [menu, hstring, happle]⟩
    exact Json.ordered_object_iff.2 ⟨by decide, by simp [hmenu]⟩
  have hread : ofJson d = .ok ns := rfl
  obtain ⟨-, hexact⟩ := ofJson_exact hd
  obtain ⟨⟨-, hwritten⟩, -, -, hplaces⟩ := hexact ns hread
  obtain ⟨entry, hentry, -⟩ := hplaces ["menu", "other"] apple (by simp) rfl
  have hforms : Leads ns ["menu", "other"] (.plural forms) :=
    .further List.mem_cons_self (.last (by simp))
  rw [← (hentry _).1 hforms] at hentry
  have hother : toJson ns ≠ d := by
    simp [ns, forms, d, menu, apple, toJson, toMembers, Entry.toJson, PluralForms.toList]
  exact ⟨hd, hread, hother, hwritten, hentry⟩

end Namespace

end Phrasebook
