import Phrasebook.Catalogue
import Phrasebook.Proofs.ExactData

/-!
# The first fault is reported

**The first foreign value** (`Json.FirstForeign`). A row of names leads from the data through objects
to a value that is no part of a tree of entries, and every other such row comes later in depth-first
order. This is the order of the rows, compared name by name, since the members of an object are
visited in the order of their names.

**Where reading stops** (`Namespace.ofMembers_error`). The members of an object are read one after
another; the fault is that of the first member that is not read, and all members before it are.

**Keys of faults** (`Text.keyOf_eq`). The key of a row of names has dots between them, without the
empty names at its beginning.

Main result: `Catalogue.readNamespace_first`.
-/

namespace Phrasebook

/-! ## Keys -/

/-- **A key has dots between its names**, but for empty names at its beginning. -/
theorem Text.keyOf_eq (names : List String) :
    keyOf names = dotted (names.dropWhile (·.isEmpty)) := by
  induction names with
  | nil => rfl
  | cons name names ih =>
    by_cases hname : name = ""
    · subst hname
      have hempty : keyOf ("" :: names) = keyOf names := rfl
      rw [hempty, ih, List.dropWhile_cons_of_pos (by simp)]
    · rw [keyOf_eq_dotted hname, List.dropWhile_cons_of_neg (by simpa using hname)]

/-! ## The first foreign value -/

namespace Json

/-- A row of names leads to a foreign value, and any other row to one comes later. -/
structure FirstForeign (d : Json) (keys : List String) (v : Json) : Prop where
  leads : d.at? keys = some v
  foreign : v.IsForeign
  first : ∀ keys' v', d.at? keys' = some v' → v'.IsForeign → keys' = keys ∨ keys < keys'

variable {d v v' : Json} {keys keys' : List String} {name : String} {value : Json}
  {after : List (String × Json)}

/-- **One foreign value at most is the first.** -/
theorem FirstForeign.unique (h : d.FirstForeign keys v) (h' : d.FirstForeign keys' v') :
    keys = keys' ∧ v = v' := by
  have hkeys : keys = keys' := by
    rcases h.first _ _ h'.leads h'.foreign with heq | hlt
    · exact heq.symm
    · rcases h'.first _ _ h.leads h.foreign with heq | hgt
      · exact heq
      · exact absurd hgt (List.lt_asymm hlt)
  subst hkeys
  exact ⟨rfl, Option.some.inj (h.leads.symm.trans h'.leads)⟩

theorem IsForeign.firstForeign (h : d.IsForeign) : d.FirstForeign [] d := by
  refine ⟨rfl, h, fun keys' v' hat _ => ?_⟩
  cases keys' with
  | nil => exact .inl rfl
  | cons name more =>
    obtain ⟨members, _, hobject, -⟩ := at?_cons_eq_some_iff.1 hat
    exact absurd hobject (h.ne_object members)

/-- **The first foreign value of an object** is that of a member, if no member before it has one. -/
theorem FirstForeign.object (before : List (String × Json))
    (hmembers : Dict.Ordered (before ++ (name, value) :: after))
    (hbefore : ∀ m ∈ before, m.2.Throughout fun v => ¬ v.IsForeign)
    (h : value.FirstForeign keys v) :
    (object (before ++ (name, value) :: after)).FirstForeign (name :: keys) v := by
  have hget : Dict.get? (before ++ (name, value) :: after) name = some value :=
    Dict.get?_of_mem hmembers.nodup_keys (by simp)
  refine ⟨at?_cons_eq_some_iff.2 ⟨_, value, rfl, hget, h.leads⟩, h.foreign, ?_⟩
  intro keys' v' hat hforeign
  cases keys' with
  | nil =>
    obtain rfl := Option.some.inj hat
    exact absurd rfl (hforeign.ne_object _)
  | cons name' more =>
    obtain ⟨_, value', hobject, hvalue', hat⟩ := at?_cons_eq_some_iff.1 hat
    cases hobject
    rcases List.mem_append.1 (Dict.mem_of_get? hvalue') with hmem | hmem
    · exact absurd hforeign (hbefore _ hmem more v' hat)
    · rcases List.mem_cons.1 hmem with hmem | hmem
      · cases hmem
        rcases h.first more v' hat hforeign with rfl | hlt
        · exact .inl rfl
        · exact .inr (List.cons_lt_cons_self.2 hlt)
      · -- A member behind this one has a greater name.
        have hrest := (List.pairwise_append.1 hmembers).2.1
        have hname : compare name name' = .lt := (List.pairwise_cons.1 hrest).1 _ hmem
        exact .inr (List.Lex.rel (compareOfLessAndEq_eq_lt.1 hname))

end Json

/-! ## Where reading stops -/

theorem Entry.ofJson_object_error {path : String} {members : List (String × Json)}
    {fault : DataFault} (h : Entry.ofJson path (.object members) = .error fault) :
    Namespace.ofMembers path members = .error fault := by
  rw [Entry.ofJson] at h
  cases hforms : PluralForms.ofMembers? members with
  | some forms =>
    rw [hforms] at h
    cases h
  | none =>
    rw [hforms] at h
    cases hread : Namespace.ofMembers path members with
    | ok ns =>
      rw [hread] at h
      cases h
    | error fault' =>
      rw [hread] at h
      cases h
      rfl

/-- **The fault of the first member that is not read** is the fault of the object. -/
theorem Namespace.ofMembers_error {path : String} {members : List (String × Json)}
    {fault : DataFault} (h : ofMembers path members = .error fault) :
    ∃ before name value after, members = before ++ (name, value) :: after ∧
      (∀ m ∈ before, ∃ entry, Entry.ofJson (Text.below path m.1) m.2 = .ok entry) ∧
      Entry.ofJson (Text.below path name) value = .error fault := by
  induction members with
  | nil => cases h
  | cons m members ih =>
    obtain ⟨name, value⟩ := m
    rw [ofMembers] at h
    cases hentry : Entry.ofJson (Text.below path name) value with
    | error fault' =>
      rw [hentry] at h
      cases h
      exact ⟨[], name, value, members, rfl, fun _ hm => absurd hm List.not_mem_nil, hentry⟩
    | ok entry =>
      rw [hentry] at h
      cases hmore : ofMembers path members with
      | ok more =>
        rw [hmore] at h
        cases h
      | error fault' =>
        rw [hmore] at h
        cases h
        -- The member itself is read, so the fault is one of those behind it.
        obtain ⟨before, name', value', after, rfl, hbefore, hfault⟩ := ih hmore
        refine ⟨(name, value) :: before, name', value', after, rfl, ?_, hfault⟩
        exact List.forall_mem_cons.2 ⟨⟨entry, hentry⟩, hbefore⟩

/-- What an object reports, if its members report their first foreign values. -/
theorem Namespace.exists_firstForeign_of_ofMembers {path : String}
    {members : List (String × Json)} {fault : DataFault} (hd : (Json.object members).Ordered)
    (ih : ∀ m ∈ members, ∀ path, Entry.ofJson path m.2 = .error fault →
      ∃ keys v, m.2.FirstForeign keys v ∧ fault = ⟨keys.foldl Text.below path, .notEntry v.kind⟩)
    (h : ofMembers path members = .error fault) :
    ∃ keys v, (Json.object members).FirstForeign keys v ∧
      fault = ⟨keys.foldl Text.below path, .notEntry v.kind⟩ := by
  obtain ⟨before, name, value, after, rfl, hbefore, hfault⟩ := ofMembers_error h
  obtain ⟨hmembers, hvalues⟩ := Json.ordered_object_iff.1 hd
  obtain ⟨keys, v, hfirst, rfl⟩ := ih (name, value) (by simp) _ hfault
  refine ⟨name :: keys, v, hfirst.object before hmembers fun m hm => ?_, rfl⟩
  exact (Entry.exists_ofJson_iff (hvalues m (List.mem_append_left _ hm)) _).1 (hbefore m hm)

/-- **A value that is not read reports its first foreign value.** -/
theorem Entry.exists_firstForeign {path : String} {value : Json} {fault : DataFault}
    (hd : value.Ordered) (h : Entry.ofJson path value = .error fault) :
    ∃ keys v, value.FirstForeign keys v ∧
      fault = ⟨keys.foldl Text.below path, .notEntry v.kind⟩ := by
  induction value using Json.memberInduction generalizing path with
  | object members ih =>
    have hvalues := (Json.ordered_object_iff.1 hd).2
    exact Namespace.exists_firstForeign_of_ofMembers hd
      (fun m hm _ hread => ih m hm (hvalues m hm) hread) (ofJson_object_error h)
  | string s => cases h
  | foreign j hj =>
    refine ⟨[], j, hj.firstForeign, ?_⟩
    cases j with
    | string s => cases hj
    | object members => cases hj
    | _ => exact (Except.error.inj h).symm

/-! ## Namespaces -/

namespace Catalogue

variable {members : List (String × Json)} {locale : Option Locale}

theorem readNamespace_of_fault {fault : DataFault}
    (h : Namespace.ofJson (.object members) = .error fault) :
    readNamespace locale (.object members) = .error (.invalidData locale fault) := by
  rw [readNamespace, h]

/-- **Data that are rejected name their first offender.** An object from which something foreign is
reached has a first such value in depth-first order, and reading the object fails with the locale
that was given, with the names that lead to this value as the path, but for empty names at its
beginning, and with a reason that says what the value is. An object on the way with the names of
plural categories makes no difference: it has no plural forms, and its own path is not reported. -/
theorem readNamespace_first (hd : (Json.object members).Ordered)
    (hforeign : ∃ keys v, (Json.object members).at? keys = some v ∧ v.IsForeign) :
    (∃ keys v, (Json.object members).FirstForeign keys v) ∧
    ∀ keys v, (Json.object members).FirstForeign keys v →
      ∃ fault, readNamespace locale (.object members) = .error (.invalidData locale fault) ∧
        fault.path = Text.dotted (keys.dropWhile (·.isEmpty)) ∧
        fault.problem.message =
          "expected text, plural forms, or a nested mapping, found " ++ v.kind := by
  cases hread : Namespace.ofJson (.object members) with
  | ok ns =>
    obtain ⟨keys, v, hat, hv⟩ := hforeign
    -- What was read has no foreign value anywhere.
    have hall := ((Namespace.exists_ofJson_iff hd).1 ⟨ns, hread⟩).2
    exact absurd hv (hall keys v hat)
  | error fault =>
    have hvalues := (Json.ordered_object_iff.1 hd).2
    obtain ⟨keys, v, hfirst, hfault⟩ := Namespace.exists_firstForeign_of_ofMembers hd
      (fun m hm _ => Entry.exists_firstForeign (hvalues m hm)) hread
    refine ⟨⟨keys, v, hfirst⟩, fun keys' v' hfirst' => ⟨fault, readNamespace_of_fault hread, ?_⟩⟩
    obtain ⟨rfl, rfl⟩ := hfirst.unique hfirst'
    subst hfault
    exact ⟨Text.keyOf_eq keys, rfl⟩

/-- All names below `apples` are categories, but one of them has an object. -/
theorem readNamespace_first_apples :
    let apples : List (String × Json) :=
      [("few", .string "jabłka"), ("one", .object [("x", .null)]), ("other", .string "jabłek")]
    let members : List (String × Json) :=
      [("", .object [("apples", .object apples)]), ("menu", .boolean true)]
    let polish : Locale := .ofTag "pl"
    (Json.object members).Ordered ∧
      (Json.object members).FirstForeign ["", "apples", "one", "x"] .null ∧
      ∃ fault, readNamespace (some polish) (.object members) =
          .error (.invalidData (some polish) fault) ∧
        fault.path = "apples.one.x" ∧
        fault.problem.message =
          "expected text, plural forms, or a nested mapping, found null" := by
  intro apples members polish
  have hmembers : (Json.object members).Ordered := by
    have hstring (s : String) : (Json.string s).Ordered := Json.ordered_of_no_object nofun
    have hnull : Json.null.Ordered := Json.ordered_of_no_object nofun
    have hboolean : (Json.boolean true).Ordered := Json.ordered_of_no_object nofun
    have hone : (Json.object [("x", .null)]).Ordered :=
      Json.ordered_object_iff.2 ⟨by decide, by simp [hnull]⟩
    have happles : (Json.object apples).Ordered :=
      Json.ordered_object_iff.2 ⟨by decide, by simp [apples, hstring, hone]⟩
    have hinner : (Json.object [("apples", .object apples)]).Ordered :=
      Json.ordered_object_iff.2 ⟨by decide, by simp [happles]⟩
    exact Json.ordered_object_iff.2 ⟨by decide, by simp [members, hinner, hboolean]⟩
  have hfirst : (Json.object members).FirstForeign ["", "apples", "one", "x"] .null := by
    have hx : (Json.object [("x", .null)]).FirstForeign ["x"] .null :=
      .object [] (by decide) nofun (Json.IsForeign.firstForeign trivial)
    have hfew : ∀ m ∈ [("few", Json.string "jabłka")], m.2.Throughout fun v => ¬ v.IsForeign :=
      List.forall_mem_singleton.2 ((Json.throughout_iff_of_no_object (by simp)).2 id)
    have happles : (Json.object apples).FirstForeign ["one", "x"] .null :=
      .object [("few", .string "jabłka")] (by decide) hfew hx
    exact .object [] (by decide) nofun (.object [] (by decide) nofun happles)
  obtain ⟨fault, hread, hpath, hmessage⟩ :=
    (readNamespace_first hmembers ⟨_, _, hfirst.leads, hfirst.foreign⟩).2 _ _ hfirst
  exact ⟨hmembers, hfirst, fault, hread, hpath, hmessage⟩

end Catalogue

end Phrasebook
