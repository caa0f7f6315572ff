import Phrasebook.Proofs.Data

/-!
# Data in order

An object is a finite map, and its members are listed in the order of their names. What is said here
is about the objects that are reached from a value through objects alone; what stands in arrays is
left alone.

**Throughout** (`Json.Throughout`). Something holds of a value and of everything below it. Over an
object it splits into the object itself and its members (`throughout_object_iff`).

**In order** (`Json.Ordered`). Every object lists its members in the order of their names, each name
once. Such a value is settled by what stands under each name.

**Arranging** (`Json.arranged`). The same data with every object in order. Data in order are left as
they are (`Ordered.arranged_eq_self`).
-/

namespace Phrasebook

namespace Json

/-! ## Through the members of objects -/

/-- A value that is no part of a tree of entries. -/
def IsForeign : Json → Prop
  | .null | .boolean _ | .number _ | .array _ => True
  | .string _ | .object _ => False

theorem IsForeign.ne_object {j : Json} (h : j.IsForeign) (members : List (String × Json)) :
    j ≠ .object members := by
  rintro rfl
  exact h

/-- Induction over the members of objects. -/
@[elab_as_elim]
theorem memberInduction {P : Json → Prop}
    (object : ∀ members : List (String × Json), (∀ m ∈ members, P m.2) → P (.object members))
    (string : ∀ s, P (.string s)) (foreign : ∀ j, j.IsForeign → P j) (j : Json) : P j :=
  go j
where
  go : (j : Json) → P j
    | .object members => object members (goMembers members)
    | .string s => string s
    | .null => foreign _ trivial
    | .boolean _ => foreign _ trivial
    | .number _ => foreign _ trivial
    | .array _ => foreign _ trivial
  goMembers : (members : List (String × Json)) → ∀ m ∈ members, P m.2
    | [], _, hm => absurd hm List.not_mem_nil
    | (_, value) :: rest, _, hm => by
      rcases List.mem_cons.1 hm with rfl | hm
      · exact go value
      · exact goMembers rest _ hm

/-- Something holds of a value and of every value that is reached from it through objects. -/
def Throughout (P : Json → Prop) (d : Json) : Prop :=
  ∀ keys v, d.at? keys = some v → P v

variable {P : Json → Prop} {d v : Json} {members : List (String × Json)} {keys : List String}

theorem at?_append (d : Json) (front back : List String) :
    d.at? (front ++ back) = (d.at? front).bind fun v => v.at? back := by
  induction front generalizing d with
  | nil => rfl
  | cons name front ih =>
    cases d with
    | object members => simp only [List.cons_append, at?, Option.bind_assoc, ih]
    | _ => rfl

theorem Throughout.of_at? (h : d.Throughout P) (hat : d.at? keys = some v) : v.Throughout P := by
  intro more w hw
  apply h (keys ++ more)
  simpa [at?_append, hat] using hw

theorem throughout_object_iff (hnodup : (Dict.keys members).Nodup) :
    (object members).Throughout P ↔ P (object members) ∧ ∀ m ∈ members, m.2.Throughout P := by
  constructor
  · intro h
    refine ⟨h [] _ rfl, ?_⟩
    rintro ⟨name, value⟩ hm
    have hat : (object members).at? [name] = some value :=
      at?_cons_eq_some_iff.2 ⟨members, value, rfl, Dict.get?_of_mem hnodup hm, rfl⟩
    exact h.of_at? hat
  · rintro ⟨hroot, hvalues⟩ keys v hat
    cases keys with
    | nil =>
      obtain rfl := Option.some.inj hat
      exact hroot
    | cons name more =>
      obtain ⟨_, value, hobject, hvalue, hat⟩ := at?_cons_eq_some_iff.1 hat
      cases hobject
      exact hvalues (name, value) (Dict.mem_of_get? hvalue) more v hat

theorem throughout_iff_of_no_object (h : ∀ members, d ≠ .object members) :
    d.Throughout P ↔ P d := by
  constructor
  · intro hall
    exact hall [] d rfl
  · intro hd keys v hat
    cases keys with
    | nil =>
      obtain rfl := Option.some.inj hat
      exact hd
    | cons name more =>
      obtain ⟨members, _, hobject, -⟩ := at?_cons_eq_some_iff.1 hat
      exact absurd hobject (h members)

/-! ## In order -/

/-- No object has a name twice. -/
def Single (d : Json) : Prop :=
  d.Throughout fun v => ∀ members, v = .object members → (Dict.keys members).Nodup

/-- Every object has its members in the order of their names, each name once. -/
def Ordered (d : Json) : Prop :=
  d.Throughout fun v => ∀ members, v = .object members → Dict.Ordered members

theorem Ordered.dict (h : (object members).Ordered) : Dict.Ordered members :=
  h [] _ rfl members rfl

theorem ordered_object_iff :
    (object members).Ordered ↔ Dict.Ordered members ∧ ∀ m ∈ members, m.2.Ordered := by
  constructor
  · intro h
    exact ⟨h.dict, ((throughout_object_iff h.dict.nodup_keys).1 h).2⟩
  · rintro ⟨hmembers, hvalues⟩
    refine (throughout_object_iff hmembers.nodup_keys).2 ⟨?_, hvalues⟩
    rintro _ ⟨⟩
    exact hmembers

theorem ordered_of_no_object (h : ∀ members, d ≠ .object members) : d.Ordered :=
  (throughout_iff_of_no_object h).2 fun members hd => absurd hd (h members)

theorem single_object (hnodup : (Dict.keys members).Nodup) (h : ∀ m ∈ members, m.2.Single) :
    (object members).Single := by
  refine (throughout_object_iff hnodup).2 ⟨?_, h⟩
  rintro _ ⟨⟩
  exact hnodup

theorem single_of_no_object (h : ∀ members, d ≠ .object members) : d.Single :=
  (throughout_iff_of_no_object h).2 fun members hd => absurd hd (h members)

/-! ## Arranging -/

mutual

/-- The members of every object in the order of their names; of equal names the last one stays. -/
def arranged : Json → Json
  | .object members => .object (Dict.ofList (arrangedMembers members))
  | j => j

/-- The members of an object, each with its value arranged. -/
def arrangedMembers : List (String × Json) → List (String × Json)
  | [] => []
  | (name, value) :: rest => (name, value.arranged) :: arrangedMembers rest

end

theorem arrangedMembers_eq_map (members : List (String × Json)) :
    arrangedMembers members = members.map fun m => (m.1, m.2.arranged) := by
  induction members with
  | nil => rfl
  | cons m members ih => simp [arrangedMembers, ih]

/-- **Data in order stay as they are.** -/
theorem Ordered.arranged_eq_self (h : d.Ordered) : d.arranged = d := by
  induction d using memberInduction with
  | object members ih =>
    obtain ⟨hmembers, hvalues⟩ := ordered_object_iff.1 h
    have hsame : arrangedMembers members = members := by
      rw [arrangedMembers_eq_map]
      refine (List.map_congr_left fun m hm => ?_).trans (List.map_id members)
      simp [ih m hm (hvalues m hm)]
    rw [arranged, hsame, hmembers.ofList_eq_self]
  | string s => rfl
  | foreign d hd => cases d <;> first | rfl | cases hd

end Json

end Phrasebook
