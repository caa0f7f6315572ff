/-!
# Dictionaries in key order

A finite map is kept as the list of its entries. Every operation keeps the keys in strictly
increasing order, so a listing needs no sort and equal maps are equal lists.

Main results: `get?_insert` and `get?_erase` say what each change does to every key;
`ordered_insert` and `ordered_erase` say that the order is kept; by `Ordered.ext` dictionaries that
find the same are the same list.
-/

namespace Phrasebook

/-- A finite map: its entries in increasing order of their keys, each key once. -/
abbrev Dict (κ α : Type) := List (κ × α)

namespace Dict

variable {κ α β : Type}

/-- The keys strictly increase from entry to entry. -/
def Ordered [Ord κ] (d : Dict κ α) : Prop :=
  d.Pairwise fun a b => compare a.1 b.1 = .lt

instance [Ord κ] (d : Dict κ α) : Decidable d.Ordered :=
  inferInstanceAs (Decidable (d.Pairwise fun a b => compare a.1 b.1 = .lt))

/-- What is stored under a key. -/
def get? [DecidableEq κ] : Dict κ α → κ → Option α
  | [], _ => none
  | (a, v) :: rest, k => if a = k then some v else get? rest k

/-- Whether a key is stored. -/
def has [DecidableEq κ] (d : Dict κ α) (k : κ) : Bool :=
  (d.get? k).isSome

/-- The keys, in increasing order. -/
def keys (d : Dict κ α) : List κ :=
  d.map (·.1)

/-- Store `v` under `k`, in place of what was there. -/
def insert [Ord κ] : Dict κ α → κ → α → Dict κ α
  | [], k, v => [(k, v)]
  | (a, w) :: rest, k, v =>
    match compare k a with
    | .lt => (k, v) :: (a, w) :: rest
    | .eq => (k, v) :: rest
    | .gt => (a, w) :: insert rest k v

/-- Forget a key. -/
def erase [DecidableEq κ] (d : Dict κ α) (k : κ) : Dict κ α :=
  d.filter (·.1 ≠ k)

/-- Store every entry of a list, from left to right: of equal keys the last one stays. -/
def insertAll [Ord κ] (d : Dict κ α) (entries : List (κ × α)) : Dict κ α :=
  entries.foldl (fun d e => d.insert e.1 e.2) d

/-- The dictionary of a list of entries. -/
def ofList [Ord κ] (entries : List (κ × α)) : Dict κ α :=
  insertAll [] entries

/-! ## What the operations do to a key -/

theorem get?_insert [Ord κ] [Std.LawfulEqOrd κ] [DecidableEq κ] (d : Dict κ α) (k k' : κ) (v : α) :
    (d.insert k v).get? k' = if k = k' then some v else d.get? k' := by
  induction d with
  | nil => simp [insert, get?]
  | cons e rest ih =>
    obtain ⟨a, w⟩ := e
    simp only [insert]
    split
    · simp [get?]
    · next h =>
      have : k = a := Std.LawfulEqOrd.eq_of_compare h
      subst this
      by_cases hk : k = k' <;> simp [get?, hk]
    · next h =>
      have hne : k ≠ a := fun he => by subst he; simp at h
      by_cases ha : a = k'
      · subst ha; simp [get?, hne]
      · simp [get?, ha, ih]

@[simp] theorem get?_insert_self [Ord κ] [Std.LawfulEqOrd κ] [DecidableEq κ] (d : Dict κ α) (k : κ)
    (v : α) : (d.insert k v).get? k = some v := by
  rw [get?_insert, if_pos rfl]

@[simp]
theorem get?_insert_of_ne [Ord κ] [Std.LawfulEqOrd κ] [DecidableEq κ] {k k' : κ} (h : k ≠ k')
    (d : Dict κ α) (v : α) : (d.insert k v).get? k' = d.get? k' := by
  rw [get?_insert, if_neg h]

theorem isSome_get?_insertAll [Ord κ] [Std.LawfulEqOrd κ] [DecidableEq κ] (d : Dict κ α)
    (entries : List (κ × α)) (k : κ) :
    ((d.insertAll entries).get? k).isSome ↔ (d.get? k).isSome ∨ ∃ e ∈ entries, e.1 = k := by
  induction entries generalizing d with
  | nil => simp [insertAll]
  | cons e rest ih =>
    show ((insertAll (d.insert e.1 e.2) rest).get? k).isSome ↔ _
    rw [ih, get?_insert]
    by_cases he : e.1 = k <;> simp [he]

theorem get?_erase [DecidableEq κ] (d : Dict κ α) (k k' : κ) :
    (d.erase k).get? k' = if k = k' then none else d.get? k' := by
  induction d with
  | nil => simp [erase, get?]
  | cons e rest ih =>
    obtain ⟨a, w⟩ := e
    by_cases ha : a = k
    · subst ha
      by_cases hk : a = k' <;> simp_all [erase, get?]
    · by_cases hk : k = k' <;> simp_all [erase, get?]

@[simp]
theorem get?_erase_self [DecidableEq κ] (d : Dict κ α) (k : κ) : (d.erase k).get? k = none := by
  rw [get?_erase, if_pos rfl]

@[simp] theorem get?_erase_of_ne [DecidableEq κ] {k k' : κ} (h : k ≠ k') (d : Dict κ α) :
    (d.erase k).get? k' = d.get? k' := by
  rw [get?_erase, if_neg h]

theorem get?_eq_none_iff [DecidableEq κ] (d : Dict κ α) (k : κ) :
    d.get? k = none ↔ k ∉ d.keys := by
  induction d with
  | nil => simp [get?, keys]
  | cons e rest ih =>
    obtain ⟨a, w⟩ := e
    by_cases ha : a = k
    · simp [get?, keys, ha]
    · simp only [get?, ha, if_false, ih, keys, List.map_cons, List.mem_cons]
      simp [Ne.symm ha]

theorem erase_eq_self [DecidableEq κ] {d : Dict κ α} {k : κ} (h : d.get? k = none) :
    d.erase k = d := by
  rw [get?_eq_none_iff] at h
  refine List.filter_eq_self.2 fun e he => decide_eq_true ?_
  rintro rfl
  exact h (List.mem_map_of_mem he)

theorem insertAll_append [Ord κ] (d : Dict κ α) (entries more : List (κ × α)) :
    d.insertAll (entries ++ more) = (d.insertAll entries).insertAll more :=
  List.foldl_append

/-- What is true of a key at first and of every entry stored under it is true of it at the end. -/
theorem get?_insertAll_induction [Ord κ] [Std.LawfulEqOrd κ] [DecidableEq κ] {d : Dict κ α} {k : κ}
    {P : Option α → Prop} {entries : List (κ × α)} (hd : P (d.get? k))
    (hentries : ∀ e ∈ entries, e.1 = k → P (some e.2)) : P ((d.insertAll entries).get? k) := by
  induction entries generalizing d with
  | nil => exact hd
  | cons e rest ih =>
    refine ih (d := d.insert e.1 e.2) ?_ fun f hf => hentries f (List.mem_cons_of_mem _ hf)
    rw [get?_insert]
    split
    · next he => exact hentries e List.mem_cons_self he
    · exact hd

@[simp] theorem get?_append [DecidableEq κ] (d e : Dict κ α) (k : κ) :
    get? (d ++ e) k = (get? d k).or (get? e k) := by
  induction d with
  | nil => rfl
  | cons x rest ih =>
    obtain ⟨a, v⟩ := x
    by_cases ha : a = k <;> simp [get?, ha, ih]

/-- Of the entries stored under a key the last one is found. -/
theorem get?_insertAll [Ord κ] [Std.LawfulEqOrd κ] [DecidableEq κ] (d : Dict κ α)
    (entries : List (κ × α)) (k : κ) :
    (d.insertAll entries).get? k = (get? entries.reverse k).or (d.get? k) := by
  induction entries generalizing d with
  | nil => rfl
  | cons e rest ih =>
    show (insertAll (d.insert e.1 e.2) rest).get? k = _
    rw [ih, get?_insert, List.reverse_cons, get?_append, Option.or_assoc]
    by_cases he : e.1 = k <;> simp [get?, he]

@[simp]
theorem get?_ofList [Ord κ] [Std.LawfulEqOrd κ] [DecidableEq κ] (entries : List (κ × α)) (k : κ) :
    (ofList entries).get? k = get? entries.reverse k := by
  rw [ofList, get?_insertAll]
  simp [get?]

/-- What is found under other names for the keys. -/
theorem get?_map [DecidableEq κ] {κ' : Type} [DecidableEq κ'] {f : κ → κ'}
    (hf : Function.Injective f) (g : α → β) (d : Dict κ α) (k : κ) :
    get? (d.map fun e => (f e.1, g e.2)) (f k) = (d.get? k).map g := by
  induction d with
  | nil => rfl
  | cons e rest ih =>
    obtain ⟨a, v⟩ := e
    by_cases ha : a = k
    · simp [get?, ha]
    · simp [get?, ha, hf.eq_iff, ih]

/-! ## Members -/

theorem mem_of_get? [DecidableEq κ] {d : Dict κ α} {k : κ} {v : α} (h : d.get? k = some v) :
    (k, v) ∈ d := by
  induction d with
  | nil => cases h
  | cons e rest ih =>
    obtain ⟨a, w⟩ := e
    rw [get?] at h
    split at h
    · next ha =>
      subst ha
      obtain rfl := Option.some.inj h
      exact List.mem_cons_self
    · exact List.mem_cons_of_mem _ (ih h)

/-- Where no key is stored twice, every entry is found under its key. -/
theorem get?_of_mem [DecidableEq κ] {d : Dict κ α} {k : κ} {v : α} (hd : d.keys.Nodup)
    (h : (k, v) ∈ d) : d.get? k = some v := by
  induction d with
  | nil => cases h
  | cons e rest ih =>
    obtain ⟨a, w⟩ := e
    obtain ⟨hfresh, hrest⟩ := List.nodup_cons.1 hd
    rw [get?]
    rcases List.mem_cons.1 h with h | h
    · cases h
      exact if_pos rfl
    · have hne : a ≠ k := by
        rintro rfl
        exact hfresh (List.mem_map.2 ⟨_, h, rfl⟩)
      rw [if_neg hne, ih hrest h]

theorem mem_iff_get? [DecidableEq κ] {d : Dict κ α} {k : κ} {v : α} (hd : d.keys.Nodup) :
    (k, v) ∈ d ↔ d.get? k = some v :=
  ⟨get?_of_mem hd, mem_of_get?⟩

/-- Where no key is stored twice, the order of the entries does not matter. -/
theorem get?_of_perm [DecidableEq κ] {d e : Dict κ α} (h : e.Perm d) (hd : d.keys.Nodup) (k : κ) :
    e.get? k = d.get? k := by
  have he : e.keys.Nodup := (h.map Prod.fst).nodup_iff.2 hd
  apply Option.ext
  intro v
  rw [← mem_iff_get? he, ← mem_iff_get? hd, h.mem_iff]

theorem get?_reverse [DecidableEq κ] {d : Dict κ α} (hd : d.keys.Nodup) (k : κ) :
    get? d.reverse k = d.get? k :=
  get?_of_perm (List.reverse_perm d) hd k

/-! ## The order is kept -/

theorem mem_insert [Ord κ] {d : Dict κ α} {k : κ} {v : α} {e : κ × α}
    (h : e ∈ d.insert k v) : e = (k, v) ∨ e ∈ d := by
  induction d with
  | nil => simpa [insert] using h
  | cons f rest ih =>
    simp only [insert] at h
    split at h <;> simp only [List.mem_cons] at h ⊢
    · exact h
    · exact h.imp_right .inr
    · rcases h with h | h
      · exact .inr (.inl h)
      · exact (ih h).imp_right .inr

theorem ordered_insert [Ord κ] [Std.TransOrd κ] [Std.LawfulEqOrd κ] {d : Dict κ α} (hd : d.Ordered)
    (k : κ) (v : α) : (d.insert k v).Ordered := by
  induction d with
  | nil => simp [insert, Ordered]
  | cons f rest ih =>
    obtain ⟨hf, hrest⟩ := List.pairwise_cons.1 hd
    simp only [insert]
    split
    · next h =>
      refine List.pairwise_cons.2 ⟨fun e he => ?_, hd⟩
      rcases List.mem_cons.1 he with rfl | he
      · exact h
      · exact Std.TransCmp.lt_trans h (hf e he)
    · next h =>
      have hk : k = f.1 := Std.LawfulEqOrd.eq_of_compare h
      exact List.pairwise_cons.2 ⟨fun e he => by rw [hk]; exact hf e he, hrest⟩
    · next h =>
      refine List.pairwise_cons.2 ⟨fun e he => ?_, ih hrest⟩
      rcases mem_insert he with rfl | he
      · exact Std.OrientedCmp.lt_of_gt h
      · exact hf e he

theorem ordered_erase [Ord κ] [DecidableEq κ] {d : Dict κ α} (hd : d.Ordered) (k : κ) :
    (d.erase k).Ordered :=
  hd.filter _

theorem ordered_insertAll [Ord κ] [Std.TransOrd κ] [Std.LawfulEqOrd κ] {d : Dict κ α}
    (hd : d.Ordered) (entries : List (κ × α)) : (d.insertAll entries).Ordered := by
  induction entries generalizing d with
  | nil => exact hd
  | cons e rest ih => exact ih (ordered_insert hd e.1 e.2)

theorem ordered_ofList [Ord κ] [Std.TransOrd κ] [Std.LawfulEqOrd κ] (entries : List (κ × α)) :
    (ofList entries).Ordered :=
  ordered_insertAll .nil entries

/-! ## Equal maps are equal lists -/

theorem Ordered.nodup_keys [Ord κ] [Std.LawfulEqOrd κ] {d : Dict κ α} (h : d.Ordered) :
    d.keys.Nodup := by
  refine List.pairwise_map.2 (h.imp fun {a b} hab he => ?_)
  rw [he, Std.ReflOrd.compare_self] at hab
  cases hab

/-- **Dictionaries that find the same are the same list.** -/
theorem Ordered.ext [Ord κ] [Std.TransOrd κ] [Std.LawfulEqOrd κ] [DecidableEq κ] {d e : Dict κ α}
    (hd : d.Ordered) (he : e.Ordered) (h : ∀ k, d.get? k = e.get? k) : d = e := by
  have hnodup {c : Dict κ α} (hc : c.Ordered) : c.Nodup := by
    refine hc.imp fun {a b} hab hne => ?_
    rw [hne, Std.ReflOrd.compare_self] at hab
    cases hab
  have hperm : d.Perm e := by
    refine (List.perm_ext_iff_of_nodup (hnodup hd) (hnodup he)).2 fun (k, v) => ?_
    rw [mem_iff_get? hd.nodup_keys, mem_iff_get? he.nodup_keys, h]
  refine hperm.eq_of_pairwise (fun a b _ _ hab hba => ?_) hd he
  rw [Std.OrientedCmp.gt_of_lt hab] at hba
  cases hba

theorem Ordered.ofList_eq_self [Ord κ] [Std.TransOrd κ] [Std.LawfulEqOrd κ] [DecidableEq κ]
    {d : Dict κ α} (hd : d.Ordered) : ofList d = d := by
  refine (ordered_ofList d).ext hd fun k => ?_
  rw [get?_ofList, get?_reverse hd.nodup_keys]

end Dict

end Phrasebook
