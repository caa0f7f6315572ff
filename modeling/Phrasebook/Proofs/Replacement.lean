import Phrasebook.Proofs.Command

/-!
# Replacing everything

**One by one** (`Catalogue.setEach`). The namespaces of several tags are set one after another; the
first one that has a fault ends it.

Replacing all namespaces goes another way: everything is read before anything is stored, and the
catalogue is built from what was read (`ofJson_object`). Both visit the members in their order, so
they meet the same first fault, and of tags that name one locale the last one stays in both.

Main result: `replaceAll_exact`. Replacing all is setting one by one from an empty catalogue, but a
fault leaves everything as it was.
-/

namespace Phrasebook

namespace Catalogue

variable {c : Catalogue} {tag : String} {data : Json} {members : List (String × Json)}
  {e : LoadError}

/-- Set the namespaces of tags one after another, up to the first that has a fault. -/
def setEach (c : Catalogue) : List (String × Json) → Except LoadError Catalogue
  | [] => .ok c
  | (tag, data) :: rest => do
    let c' ← c.setJson (Locale.ofTag tag) data
    c'.setEach rest

/-- Of tags that name the same locale the last one stays. -/
example : setEach [] [("en", .object [("a", .string "A")]), ("en-", .object [])] =
    .ok [({ language := "en" }, [])] := by
  cbv

theorem setJson_of_read {l : Locale} {ns : Namespace}
    (h : readNamespace (some l) data = .ok ns) : c.setJson l data = .ok (c.set l ns) := by
  rw [setJson, h]
  rfl

theorem setJson_of_fault {l : Locale} (h : readNamespace (some l) data = .error e) :
    c.setJson l data = .error e := by
  rw [setJson, h]
  rfl

theorem setEach_cons_of_ok {c' : Catalogue} (h : c.setJson (Locale.ofTag tag) data = .ok c')
    (rest : List (String × Json)) : c.setEach ((tag, data) :: rest) = c'.setEach rest := by
  rw [setEach, h]
  rfl

theorem setEach_cons_of_error (h : c.setJson (Locale.ofTag tag) data = .error e)
    (rest : List (String × Json)) : c.setEach ((tag, data) :: rest) = .error e := by
  rw [setEach, h]
  rfl

theorem setEach_append_of_ok {c' : Catalogue} (h : c.setEach members = .ok c')
    (more : List (String × Json)) : c.setEach (members ++ more) = c'.setEach more := by
  induction members generalizing c with
  | nil =>
    obtain rfl := Except.ok.inj h
    rfl
  | cons m rest ih =>
    obtain ⟨tag, data⟩ := m
    cases hset : c.setJson (Locale.ofTag tag) data with
    | error e =>
      rw [setEach_cons_of_error hset] at h
      cases h
    | ok c₁ =>
      rw [setEach_cons_of_ok hset] at h
      rw [List.cons_append, setEach_cons_of_ok hset, ih h]

/-- Setting one by one stores what reading all members gives. -/
theorem setEach_eq (c : Catalogue) (members : List (String × Json)) :
    c.setEach members = (readMembers members).map fun entries => c.insertAll entries := by
  induction members generalizing c with
  | nil => rfl
  | cons m rest ih =>
    obtain ⟨tag, data⟩ := m
    rw [setEach, readMembers, setJson]
    cases readNamespace (some (Locale.ofTag tag)) data with
    | error e => rfl
    | ok ns =>
      show (c.set (Locale.ofTag tag) ns).setEach rest = _
      rw [ih]
      cases readMembers rest <;> rfl

/-- **Reading a whole catalogue** is setting its namespaces one by one. -/
theorem ofJson_object (members : List (String × Json)) :
    ofJson (.object members) = setEach [] members := by
  rw [setEach_eq, ofJson]
  cases readMembers members <;> rfl

/-- A fault is that of the first member that cannot be set. -/
theorem setEach_eq_error_iff : c.setEach members = .error e ↔
    ∃ before tag data after c', members = before ++ (tag, data) :: after ∧
      c.setEach before = .ok c' ∧ c'.setJson (Locale.ofTag tag) data = .error e := by
  constructor
  · intro h
    induction members generalizing c with
    | nil => cases h
    | cons m rest ih =>
      obtain ⟨tag, data⟩ := m
      cases hset : c.setJson (Locale.ofTag tag) data with
      | error e' =>
        rw [setEach_cons_of_error hset] at h
        obtain rfl := Except.error.inj h
        exact ⟨[], tag, data, rest, c, rfl, rfl, hset⟩
      | ok c₁ =>
        rw [setEach_cons_of_ok hset] at h
        obtain ⟨before, tag', data', after, c', rfl, hbefore, hfault⟩ := ih h
        refine ⟨(tag, data) :: before, tag', data', after, c', rfl, ?_, hfault⟩
        rw [setEach_cons_of_ok hset, hbefore]
  · rintro ⟨before, tag, data, after, c', rfl, hbefore, hfault⟩
    rw [setEach_append_of_ok hbefore, setEach_cons_of_error hfault]

/-- Setting one by one succeeds where every single namespace can be set, whatever is there before. -/
theorem exists_setEach_iff : (∃ c', c.setEach members = .ok c') ↔
    ∀ m ∈ members, ∀ c₀ : Catalogue, ∃ c', c₀.setJson (Locale.ofTag m.1) m.2 = .ok c' := by
  induction members generalizing c with
  | nil => simp [setEach]
  | cons m rest ih =>
    obtain ⟨tag, data⟩ := m
    rw [List.forall_mem_cons]
    cases hread : readNamespace (some (Locale.ofTag tag)) data with
    | error e =>
      simp [setEach_cons_of_error (setJson_of_fault hread), setJson_of_fault hread]
    | ok ns =>
      rw [setEach_cons_of_ok (setJson_of_read hread), ih]
      exact (and_iff_right fun c₀ => ⟨_, setJson_of_read hread⟩).symm

end Catalogue

namespace Translator

/-- **Replacing all namespaces** is setting them one by one in an empty catalogue: it succeeds if
that does, with the same catalogue, and otherwise gives the fault of the first namespace that cannot
be set and changes nothing. What is no object is refused. -/
theorem replaceAll_exact (t : Translator) :
    (∀ members, t.replaceAll (.object members) =
      match Catalogue.setEach [] members with
      | .ok c => (.ok (), { t with catalogue := c, paths := [] })
      | .error e => (.error e, t)) ∧
    (∀ members, (∃ c, Catalogue.setEach [] members = .ok c) ↔
      ∀ m ∈ members, ∀ c : Catalogue, ∃ c', c.setJson (Locale.ofTag m.1) m.2 = .ok c') ∧
    (∀ members e, Catalogue.setEach [] members = .error e ↔
      ∃ before tag data after c, members = before ++ (tag, data) :: after ∧
        Catalogue.setEach [] before = .ok c ∧ c.setJson (Locale.ofTag tag) data = .error e) ∧
    ∀ data, (∀ members, data ≠ .object members) →
      t.replaceAll data = (.error (.invalidData none ⟨"", .notLocales data.kind⟩), t) := by
  refine ⟨fun members => ?_, fun _ => Catalogue.exists_setEach_iff,
    fun _ _ => Catalogue.setEach_eq_error_iff, fun data hdata => ?_⟩
  · have hread := Catalogue.ofJson_object members
    cases heach : Catalogue.setEach [] members with
    | ok c => exact replaceAll_of_read (hread.trans heach)
    | error e => exact replaceAll_of_fault (hread.trans heach)
  · cases data with
    | object members => exact absurd rfl (hdata members)
    | _ => rfl

end Translator

end Phrasebook
