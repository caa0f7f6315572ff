import Mathlib.Data.Set.List
import Phrasebook.Entry.OfJson

/-!
# From data to entries

**What becomes plural forms** (`ofMembers?_isSome_iff`). An object is read as plural forms exactly
when its shape says so: nothing but texts, all of them under the names of categories, and one of
them under `other` (`PluralShaped`). Every other object becomes a group.

**What becomes of a member** (`get?_of_ofMembers`). A group has an entry for each member of its
object, under the same name, read from the value of the member.

**Places** (`Json.at?`). A row of names leads to a value of the data, and to an entry of what is
read from them. The two agree as long as no object on the way is read as plural forms
(`PlainPath`).

Main result: `find_of_at?`. A text that stands in the data under a row of names is found under their
dotted key.
-/

namespace Phrasebook

/-! ## Categories by their names -/

theorem Category.ofTag?_eq_some_iff {name : String} {c : Category} :
    ofTag? name = some c ↔ name = c.tag := by
  constructor
  · intro h
    have := List.find?_some h
    exact (of_decide_eq_true this).symm
  · rintro rfl
    cases c <;> rfl

theorem Category.tag_injective : Function.Injective Category.tag := by
  intro c c' h
  have hc : ofTag? c.tag = some c := ofTag?_eq_some_iff.2 rfl
  rw [h, ofTag?_eq_some_iff.2 rfl] at hc
  exact (Option.some.inj hc).symm

/-! ## Plural forms -/

/-- The members of an object that is read as plural forms: each is a text under the name of a
category, and there is one under `other`. -/
structure PluralShaped (members : List (String × Json)) : Prop where
  forms : ∀ m ∈ members, ∃ (c : Category) (s : String), m = (c.tag, .string s)
  other : ∃ m ∈ members, m.1 = Category.other.tag

namespace PluralForms

/-- The form that a member of an object is, if it is one. -/
def ofMember? (m : String × Json) : Option (Category × String) :=
  (Category.ofTag? m.1).bind fun c => m.2.string?.map fun s => (c, s)

theorem ofMembers?_eq (members : List (String × Json)) :
    ofMembers? members =
      (members.mapM ofMember?).bind fun forms => ofDict? (Dict.ofList forms) := by
  unfold ofMembers?
  refine congrArg (fun form : String × Json → Option (Category × String) =>
    (members.mapM form).bind fun forms => ofDict? (Dict.ofList forms)) (funext fun m => ?_)
  obtain ⟨name, value⟩ := m
  cases h : Category.ofTag? name <;> cases h' : value.string? <;>
    simp [ofMember?, h, h']

/-- A form as the member of an object. -/
def toMember (f : Category × String) : String × Json :=
  (f.1.tag, .string f.2)

theorem ofMember?_eq_some_iff {m : String × Json} {f : Category × String} :
    ofMember? m = some f ↔ m = toMember f := by
  obtain ⟨name, value⟩ := m
  obtain ⟨c, s⟩ := f
  rw [ofMember?, toMember, Option.bind_eq_some_iff, Prod.mk.injEq]
  constructor
  · rintro ⟨c', hname, hform⟩
    obtain ⟨s', hvalue, hpair⟩ := Option.map_eq_some_iff.1 hform
    cases hpair
    cases value with
    | string s' => exact ⟨Category.ofTag?_eq_some_iff.1 hname, by rw [Option.some.inj hvalue]⟩
    | _ => cases hvalue
  · rintro ⟨hname, rfl⟩
    exact ⟨c, Category.ofTag?_eq_some_iff.2 hname, rfl⟩

/-- All members are forms exactly when they are the members of a list of forms. -/
theorem mapM_ofMember?_eq_some_iff {members : List (String × Json)}
    {forms : List (Category × String)} :
    members.mapM ofMember? = some forms ↔ members = forms.map toMember := by
  induction members generalizing forms with
  | nil =>
    rw [List.mapM_nil]
    cases forms <;> simp
  | cons m members ih =>
    have hcons : (m :: members).mapM ofMember? =
        (ofMember? m).bind fun f => (members.mapM ofMember?).map (f :: ·) := by
      rw [List.mapM_cons]
      cases ofMember? m <;> cases members.mapM ofMember? <;> rfl
    rw [hcons, Option.bind_eq_some_iff]
    constructor
    · rintro ⟨f, hf, hforms⟩
      obtain ⟨rest, hrest, rfl⟩ := Option.map_eq_some_iff.1 hforms
      rw [List.map_cons, ofMember?_eq_some_iff.1 hf, ih.1 hrest]
    · intro h
      obtain ⟨f, rest, rfl, hf, hrest⟩ := List.map_eq_cons_iff.1 h.symm
      exact ⟨f, ofMember?_eq_some_iff.2 hf.symm,
        Option.map_eq_some_iff.2 ⟨rest, ih.2 hrest.symm, rfl⟩⟩

theorem isSome_ofDict?_ofList_iff {forms : List (Category × String)} :
    (ofDict? (Dict.ofList forms)).isSome ↔ ∃ f ∈ forms, f.1 = .other := by
  rw [ofDict?, Option.isSome_map, Dict.ofList, Dict.isSome_get?_insertAll]
  simp [Dict.get?]

/-- **The shape decides** what is read as plural forms. -/
theorem ofMembers?_isSome_iff {members : List (String × Json)} :
    (ofMembers? members).isSome ↔ PluralShaped members := by
  rw [ofMembers?_eq]
  constructor
  · intro h
    obtain ⟨f, hf⟩ := Option.isSome_iff_exists.1 h
    obtain ⟨forms, hforms, hother⟩ := Option.bind_eq_some_iff.1 hf
    -- All members are forms, and one of them is the form for `other`.
    obtain rfl := mapM_ofMember?_eq_some_iff.1 hforms
    obtain ⟨o, ho, hc⟩ := isSome_ofDict?_ofList_iff.1 (Option.isSome_of_eq_some hother)
    refine ⟨fun m hm => ?_, _, List.mem_map_of_mem ho, congrArg Category.tag hc⟩
    obtain ⟨f, -, rfl⟩ := List.mem_map.1 hm
    exact ⟨f.1, f.2, rfl⟩
  · rintro ⟨hforms, o, ho, hname⟩
    have hmembers : members ∈ Set.range (List.map toMember) := by
      rw [Set.range_list_map]
      intro m hm
      obtain ⟨c, s, rfl⟩ := hforms m hm
      exact ⟨(c, s), rfl⟩
    obtain ⟨forms, rfl⟩ := hmembers
    rw [mapM_ofMember?_eq_some_iff.2 rfl]
    show (ofDict? (Dict.ofList forms)).isSome
    rw [isSome_ofDict?_ofList_iff]
    obtain ⟨f, hf, rfl⟩ := List.mem_map.1 ho
    exact ⟨f, hf, Category.tag_injective hname⟩

theorem ofMembers?_eq_none {members : List (String × Json)} (h : ¬ PluralShaped members) :
    ofMembers? members = none := by
  rwa [← ofMembers?_isSome_iff, Option.not_isSome_iff_eq_none] at h

end PluralForms

/-! ## Groups -/

theorem Entry.ofJson_group {path : String} {members : List (String × Json)} {entry : Entry}
    (hshape : ¬ PluralShaped members) (h : Entry.ofJson path (.object members) = .ok entry) :
    ∃ ns, Namespace.ofMembers path members = .ok ns ∧ entry = .group ns := by
  rw [Entry.ofJson, PluralForms.ofMembers?_eq_none hshape] at h
  cases hns : Namespace.ofMembers path members with
  | error fault =>
    rw [hns] at h
    cases h
  | ok ns =>
    rw [hns] at h
    exact ⟨ns, rfl, (Except.ok.inj h).symm⟩

namespace Namespace

theorem ofMembers_cons {path name : String} {value : Json} {rest : List (String × Json)}
    {ns : Namespace} (h : ofMembers path ((name, value) :: rest) = .ok ns) :
    ∃ entry more, Entry.ofJson (Text.below path name) value = .ok entry ∧
      ofMembers path rest = .ok more ∧ ns = (name, entry) :: more := by
  rw [ofMembers] at h
  cases hentry : Entry.ofJson (Text.below path name) value with
  | error fault =>
    rw [hentry] at h
    cases h
  | ok entry =>
    cases hmore : ofMembers path rest with
    | error fault =>
      rw [hentry, hmore] at h
      cases h
    | ok more =>
      rw [hentry, hmore] at h
      exact ⟨entry, more, rfl, rfl, (Except.ok.inj h).symm⟩

/-- **A group has an entry for each member** of its object. -/
theorem get?_of_ofMembers {path name : String} {members : List (String × Json)} {ns : Namespace}
    {value : Json} (h : ofMembers path members = .ok ns)
    (hvalue : Dict.get? members name = some value) :
    ∃ entry, Entry.ofJson (Text.below path name) value = .ok entry ∧ ns.get? name = some entry := by
  induction members generalizing ns with
  | nil => cases hvalue
  | cons m members ih =>
    obtain ⟨name', value'⟩ := m
    obtain ⟨entry, more, hentry, hmore, rfl⟩ := ofMembers_cons h
    rw [Dict.get?] at hvalue
    split at hvalue
    · next hname =>
      subst hname
      obtain rfl := Option.some.inj hvalue
      exact ⟨entry, hentry, by rw [Dict.get?, if_pos rfl]⟩
    · next hname =>
      obtain ⟨found, hfound, hget⟩ := ih hmore hvalue
      exact ⟨found, hfound, by rw [Dict.get?, if_neg hname, hget]⟩

end Namespace

/-! ## Places in the data -/

namespace Json

/-- The value that a row of names leads to. -/
def at? : Json → List String → Option Json
  | j, [] => some j
  | .object members, name :: more => (Dict.get? members name).bind fun value => value.at? more
  | _, _ :: _ => none

/-- No object strictly between the root and the end of a row of names is read as plural forms. -/
def PlainPath (data : Json) (keys : List String) : Prop :=
  ∀ front back members, keys = front ++ back → front ≠ [] → back ≠ [] →
    data.at? front = some (.object members) → ¬ PluralShaped members

/-- A row of names with a further name leads through an object. -/
theorem at?_cons_eq_some_iff {data value : Json} {name : String} {more : List String} :
    data.at? (name :: more) = some value ↔
      ∃ members next, data = .object members ∧ Dict.get? members name = some next ∧
        next.at? more = some value := by
  cases data with
  | object members => simp [at?, Option.bind_eq_some_iff]
  | _ => simp [at?]

theorem plainPath_single (data : Json) (name : String) : PlainPath data [name] := by
  intro front back members hsplit hfront hback
  obtain ⟨rfl, -⟩ | ⟨-, rfl⟩ := List.append_eq_singleton_iff.1 hsplit.symm
  · exact absurd rfl hfront
  · exact absurd rfl hback

theorem plainPath_cons_iff {members : List (String × Json)} {name next : String}
    {more : List String} :
    PlainPath (.object members) (name :: next :: more) ↔
      ∀ value, Dict.get? members name = some value →
        (∀ inner, value = .object inner → ¬ PluralShaped inner) ∧
          PlainPath value (next :: more) := by
  constructor
  · intro h value hvalue
    refine ⟨fun inner hinner => ?_, fun front back inner hsplit _ hback hinner => ?_⟩
    · refine h [name] (next :: more) inner rfl (List.cons_ne_nil _ _) (List.cons_ne_nil _ _) ?_
      exact at?_cons_eq_some_iff.2 ⟨members, value, rfl, hvalue, congrArg some hinner⟩
    · refine h (name :: front) back inner (congrArg (name :: ·) hsplit) (List.cons_ne_nil _ _)
        hback ?_
      exact at?_cons_eq_some_iff.2 ⟨members, value, rfl, hvalue, hinner⟩
  · intro h front back inner hsplit hfront hback hinner
    cases front with
    | nil => exact absurd rfl hfront
    | cons name' front =>
      obtain ⟨rfl, htail⟩ := List.cons.inj hsplit
      obtain ⟨_, value, hobject, hvalue, hinner⟩ := at?_cons_eq_some_iff.1 hinner
      cases hobject
      cases front with
      | nil => exact (h value hvalue).1 inner (Option.some.inj hinner)
      | cons _ _ => exact (h value hvalue).2 _ back inner htail (List.cons_ne_nil _ _) hback hinner

end Json

namespace Namespace

theorem descend_text {ns : Namespace} {name s : String} (h : ns.get? name = some (.text s))
    (hs : s ≠ "") (parents : List String) : descend parents [name] ns = .ok (.text s) := by
  unfold descend
  rw [h]
  exact if_neg (by simpa using hs)

theorem descend_group {ns level : Namespace} {name next : String} {more parents : List String}
    (h : ns.get? name = some (.group level)) :
    descend parents (name :: next :: more) ns =
      descend (parents ++ [name]) (next :: more) level := by
  rw [descend.eq_def]
  simp only [h]

/-- **Names lead to the same place** in the data and in what is read from them. -/
theorem descend_of_at? {keys : List String} {path s : String} {members : List (String × Json)}
    {ns : Namespace} (hread : ofMembers path members = .ok ns) (hne : keys ≠ [])
    (hat : (Json.object members).at? keys = some (.string s)) (hs : s ≠ "")
    (hplain : Json.PlainPath (.object members) keys) (parents : List String) :
    descend parents keys ns = .ok (.text s) := by
  induction keys generalizing path members ns parents with
  | nil => exact absurd rfl hne
  | cons name more ih =>
    obtain ⟨_, next, hobject, hnext, hat⟩ := Json.at?_cons_eq_some_iff.1 hat
    cases hobject
    obtain ⟨entry, hentry, hget⟩ := get?_of_ofMembers hread hnext
    cases more with
    | nil =>
      obtain rfl := Option.some.inj hat
      obtain rfl := Except.ok.inj hentry
      exact descend_text hget hs parents
    | cons name' more =>
      obtain ⟨inner, _, rfl, -⟩ := Json.at?_cons_eq_some_iff.1 hat
      -- An object on a plain way is no set of forms, so it is read as a group.
      obtain ⟨hshape, hplain⟩ := Json.plainPath_cons_iff.1 hplain _ hnext
      obtain ⟨level, hlevel, rfl⟩ := Entry.ofJson_group (hshape inner rfl) hentry
      rw [descend_group hget]
      exact ih hlevel (List.cons_ne_nil _ _) hat hplain (parents ++ [name])

/-- **A text is found under the dotted key** of the names that lead to it in the data. -/
theorem find_of_at? {data : Json} {ns : Namespace} {keys : List String} {s : String}
    (hread : ofJson data = .ok ns) (hdots : ∀ k ∈ keys, '.' ∉ k.toList)
    (hkey : Text.dotted keys ≠ "") (hat : data.at? keys = some (.string s)) (hs : s ≠ "")
    (hplain : data.PlainPath keys) : ns.find (Text.dotted keys) = .ok (.text s) := by
  have hne : keys ≠ [] := by
    rintro rfl
    exact hkey rfl
  cases data with
  | object members =>
    rw [find, if_neg (by simpa using hkey), Text.names_dotted hdots hne]
    exact descend_of_at? hread hne hat hs hplain []
  | _ => cases hread

end Namespace

end Phrasebook
