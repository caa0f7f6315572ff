import Mathlib.Data.String.Basic
import Phrasebook.Proofs.SortedData

/-!
# Where a target departs from its source

**Departures** (`Namespace.Departs`). A row of names leads to an entry of the target, through groups
on both sides. There the target departs from the source if the source has no such entry, or one of
another kind. Behind such an entry the row does not lead through groups on both sides any more, so a
departure is a highest one (`Departs.eq_nil_of_append`).

**Listing** (`Lists`). The comparison lists the departures, each of them once and in depth-first
order of the target: this is the order of their rows of names, compared name by name.

**Embedding** (`Namespace.Embeds`). Without a departure every entry of the target has one of the
same kind in the source, however deep it stands.

Main result: `validate_exact`.
-/

namespace Phrasebook

namespace Namespace

variable {source target members sources level : Namespace} {name path : String}
  {names more : List String} {entry counterpart : Entry} {d : Divergence}

/-! ## Departures -/

/-- A row of names leads through groups to a level. -/
inductive Opens : Namespace → List String → Namespace → Prop
  | root {ns : Namespace} : Opens ns [] ns
  | group {ns members level : Namespace} {name : String} {names : List String} :
      (name, .group members) ∈ ns → Opens members names level → Opens ns (name :: names) level

/-- A target departs from its source at the end of a row of names that begins at the key `path`. -/
inductive Departs (path : String) (source target : Namespace) : List String → Divergence → Prop
  | unknown {parents : List String} {name : String} {level : Namespace} {entry : Entry} :
      target.Leads (parents ++ [name]) entry → source.Opens parents level → name ∉ level.keys →
      Departs path source target (parents ++ [name])
        (.unknownKey ((parents ++ [name]).foldl Text.below path))
  | mismatch {names : List String} {entry counterpart : Entry} :
      target.Leads names entry → source.Leads names counterpart → counterpart.kind ≠ entry.kind →
      Departs path source target names
        (.shapeMismatch (names.foldl Text.below path) counterpart.kind entry.kind)

/-- Every entry of a target has one of the same kind in the source. -/
def Embeds (target source : Namespace) : Prop :=
  ∀ names entry, target.Leads names entry →
    ∃ counterpart, source.Leads names counterpart ∧ counterpart.kind = entry.kind

end Namespace

/-- An entry departs from its counterpart at the end of a row of names that begins at its key. -/
inductive Entry.Departs (path : String) (counterpart entry : Entry) :
    List String → Divergence → Prop
  | here : counterpart.kind ≠ entry.kind →
      Departs path counterpart entry [] (.shapeMismatch path counterpart.kind entry.kind)
  | below {sources members : Namespace} {names : List String} {d : Divergence} :
      counterpart = .group sources → entry = .group members →
      Namespace.Departs path sources members names d → Departs path counterpart entry names d

/-- A member departs from its source at the end of a row of names that begins behind its own. -/
inductive Namespace.MemberDeparts (path : String) (source : Namespace) (name : String)
    (entry : Entry) : List String → Divergence → Prop
  | unknown : source.get? name = none →
      MemberDeparts path source name entry [] (.unknownKey (Text.below path name))
  | entry {counterpart : Entry} {names : List String} {d : Divergence} :
      source.get? name = some counterpart →
      Entry.Departs (Text.below path name) counterpart entry names d →
      MemberDeparts path source name entry names d

namespace Namespace

variable {source target members sources level : Namespace} {name path : String}
  {names more : List String} {entry counterpart : Entry} {d : Divergence}

theorem Departs.of_member (hmem : (name, entry) ∈ target)
    (h : MemberDeparts path source name entry more d) :
    Departs path source target (name :: more) d := by
  cases h with
  | unknown hnone =>
    have hname := (Dict.get?_eq_none_iff _ _).1 hnone
    have hleads : target.Leads ([] ++ [name]) entry := .last hmem
    exact .unknown hleads .root hname
  | entry hget h =>
    cases h with
    | here hkind => exact .mismatch (.last hmem) (.last (Dict.mem_of_get? hget)) hkind
    | below hsources hmembers h =>
      subst hsources hmembers
      have hsource := Dict.mem_of_get? hget
      cases h with
      | @unknown parents last _ entry htarget hopens hname =>
        have hleads : target.Leads (name :: parents ++ [last]) entry := .further hmem htarget
        exact .unknown hleads (.group hsource hopens) hname
      | mismatch htarget hleads hkind =>
        exact .mismatch (.further hmem htarget) (.further hsource hleads) hkind

/-- **A departure is a member's**: the row of names begins with the member's name. -/
theorem Departs.exists_member (hsource : source.Sorted) (h : Departs path source target names d) :
    ∃ name entry more, names = name :: more ∧ (name, entry) ∈ target ∧
      MemberDeparts path source name entry more d := by
  cases h with
  | @unknown parents name level entry htarget hopens hname =>
    -- The unknown name stands here, or in a group of this level.
    cases parents with
    | nil =>
      have hmem := leads_single_iff.1 htarget
      cases hopens
      exact ⟨name, entry, [], rfl, hmem, .unknown ((Dict.get?_eq_none_iff _ _).2 hname)⟩
    | cons parent parents =>
      obtain ⟨members, hmem, hmembers⟩ := leads_cons_append_iff.1 htarget
      cases hopens with
      | group hgroup hopens =>
        exact ⟨parent, _, _, rfl, hmem, .entry (hsource.get?_eq_iff.2 hgroup)
          (.below rfl rfl (.unknown hmembers hopens hname))⟩
  | mismatch htarget hleads hkind =>
    cases htarget with
    | last hmem =>
      have hcounterpart := hsource.get?_eq_iff.2 (leads_single_iff.1 hleads)
      exact ⟨_, _, [], rfl, hmem, .entry hcounterpart (.here hkind)⟩
    | further hmem hmore =>
      obtain ⟨next, more, rfl, -⟩ := hmore.exists_cons
      obtain ⟨sources, hgroup, hsources⟩ := leads_cons_cons_iff.1 hleads
      exact ⟨_, _, _, rfl, hmem, .entry (hsource.get?_eq_iff.2 hgroup)
        (.below rfl rfl (.mismatch hmore hsources hkind))⟩

theorem departs_iff (hsource : source.Sorted) : Departs path source target names d ↔
    ∃ name entry more, names = name :: more ∧ (name, entry) ∈ target ∧
      MemberDeparts path source name entry more d := by
  constructor
  · exact fun h => h.exists_member hsource
  · rintro ⟨name, entry, more, rfl, hmem, h⟩
    exact .of_member hmem h

/-- **Nothing departs behind a departure.** -/
theorem Departs.eq_nil_of_append {d' : Divergence} (hsource : source.Sorted)
    (htarget : target.Sorted) (h : Departs path source target names d)
    (h' : Departs path source target (names ++ more) d') : more = [] := by
  induction names generalizing path source target with
  | nil =>
    obtain ⟨_, _, _, hnil, -⟩ := h.exists_member hsource
    cases hnil
  | cons name names ih =>
    obtain ⟨_, entry, _, hnames, hmem, hmember⟩ := h.exists_member hsource
    obtain ⟨_, entry', all, hnames', hmem', hmember'⟩ := h'.exists_member hsource
    obtain ⟨rfl, rfl⟩ := List.cons.inj hnames
    obtain ⟨rfl, hall⟩ := List.cons.inj hnames'
    -- Both rows begin with one member, and where that one departs itself nothing below it does.
    obtain rfl : entry = entry' :=
      Option.some.inj ((htarget.get?_eq_iff.2 hmem).symm.trans (htarget.get?_eq_iff.2 hmem'))
    cases hmember with
    | unknown hnone =>
      cases hmember' with
      | unknown => exact hall
      | entry hget => cases hnone.symm.trans hget
    | entry hget hentry =>
      cases hmember' with
      | unknown hnone => cases hnone.symm.trans hget
      | entry hget' hentry' =>
        cases hget.symm.trans hget'
        cases hentry with
        | here hkind =>
          cases hentry' with
          | here => exact hall
          | below hsources hmembers =>
            subst hsources hmembers
            exact absurd rfl hkind
        | below hsources hmembers hbelow =>
          subst hsources hmembers
          cases hentry' with
          | here hkind => exact absurd rfl hkind
          | below hsources' hmembers' hbelow' =>
            cases hsources'
            cases hmembers'
            rw [← hall] at hbelow'
            exact ih (hsource.of_mem (Dict.mem_of_get? hget)) (htarget.of_mem hmem) hbelow hbelow'

end Namespace

/-! ## Listing -/

/-- A list has the divergences of a relation, each of them once, in the order of their rows of
names. -/
def Lists (P : List String → Divergence → Prop) (ds : List Divergence) : Prop :=
  ∃ reports : List (List String × Divergence), ds = reports.map (·.2) ∧
    reports.Pairwise (fun a b => a.1 < b.1) ∧ ∀ names d, (names, d) ∈ reports ↔ P names d

namespace Lists

variable {P Q : List String → Divergence → Prop} {ds ds' : List Divergence} {d : Divergence}

theorem congr (h : ∀ names d, P names d ↔ Q names d) (hP : Lists P ds) : Lists Q ds := by
  obtain ⟨reports, hds, hsorted, hmem⟩ := hP
  exact ⟨reports, hds, hsorted, fun names d => (hmem names d).trans (h names d)⟩

theorem nil (h : ∀ names d, ¬ P names d) : Lists P [] :=
  ⟨[], rfl, .nil, fun names d => by simp [h names d]⟩

theorem single (h : ∀ names d', P names d' ↔ names = [] ∧ d' = d) : Lists P [d] :=
  ⟨[([], d)], rfl, List.pairwise_singleton _ _, fun names d' => by simp [h names d']⟩

/-- All rows begin with one more name. -/
theorem below (name : String) (h : Lists P ds) :
    Lists (fun names d => ∃ more, names = name :: more ∧ P more d) ds := by
  obtain ⟨reports, rfl, hsorted, hmem⟩ := h
  refine ⟨reports.map fun r => (name :: r.1, r.2), ?_, ?_, fun names d => ?_⟩
  · simp [Function.comp_def]
  · refine List.pairwise_map.2 (hsorted.imp fun {a b} hab => ?_)
    exact List.cons_lt_cons_self.2 hab
  · simp only [List.mem_map, Prod.mk.injEq, Prod.exists]
    constructor
    · rintro ⟨more, d, hmore, rfl, rfl⟩
      exact ⟨more, rfl, (hmem more d).1 hmore⟩
    · rintro ⟨more, rfl, hmore⟩
      exact ⟨more, d, (hmem more d).2 hmore, rfl, rfl⟩

theorem append (h : Lists P ds) (h' : Lists Q ds')
    (hlt : ∀ a d b d', P a d → Q b d' → a < b) :
    Lists (fun names d => P names d ∨ Q names d) (ds ++ ds') := by
  obtain ⟨reports, rfl, hsorted, hmem⟩ := h
  obtain ⟨reports', rfl, hsorted', hmem'⟩ := h'
  refine ⟨reports ++ reports', by simp, ?_, fun names d => by simp [hmem, hmem']⟩
  refine List.pairwise_append.2 ⟨hsorted, hsorted', ?_⟩
  rintro ⟨a, d⟩ ha ⟨b, d'⟩ hb
  exact hlt a d b d' ((hmem a d).1 ha) ((hmem' b d').1 hb)

/-- The list is empty where nothing is related. -/
theorem eq_nil_iff (h : Lists P ds) : ds = [] ↔ ∀ names d, ¬ P names d := by
  obtain ⟨reports, rfl, -, hmem⟩ := h
  rw [List.map_eq_nil_iff, List.eq_nil_iff_forall_not_mem]
  simp [← hmem]

end Lists

/-! ## The comparison -/

/-- Two entries that are not both groups are compared by their kinds. -/
theorem Entry.lists_of_not_groups {path : String} {counterpart : Entry} (entry : Entry)
    (h : ∀ sources members, counterpart = .group sources → entry ≠ .group members) :
    Lists (Entry.Departs path counterpart entry)
      (if counterpart.kind = entry.kind then []
        else [.shapeMismatch path counterpart.kind entry.kind]) := by
  split
  · next hkind =>
    apply Lists.nil
    intro names d hd
    cases hd with
    | here hne => exact hne hkind
    | below hsources hmembers => exact h _ _ hsources hmembers
  · next hkind =>
    apply Lists.single
    intro names d
    constructor
    · intro hd
      cases hd with
      | here => exact ⟨rfl, rfl⟩
      | below hsources hmembers => exact absurd hmembers (h _ _ hsources)
    · rintro ⟨rfl, rfl⟩
      exact .here hkind

theorem Entry.departs_group_iff {path : String} {sources members : Namespace}
    {names : List String} {d : Divergence} :
    Entry.Departs path (.group sources) (.group members) names d ↔
      Namespace.Departs path sources members names d := by
  constructor
  · intro hd
    cases hd with
    | here hkind => exact absurd rfl hkind
    | below hsources hmembers hd =>
      cases hsources
      cases hmembers
      exact hd
  · exact .below rfl rfl

theorem Namespace.memberDeparts_iff_of_none {path name : String} {source : Namespace}
    {entry : Entry} {names : List String} {d : Divergence} (h : source.get? name = none) :
    MemberDeparts path source name entry names d ↔
      names = [] ∧ d = .unknownKey (Text.below path name) := by
  constructor
  · intro hd
    cases hd with
    | unknown => exact ⟨rfl, rfl⟩
    | entry hget => cases h.symm.trans hget
  · rintro ⟨rfl, rfl⟩
    exact .unknown h

theorem Namespace.memberDeparts_iff_of_some {path name : String} {source : Namespace}
    {entry counterpart : Entry} {names : List String} {d : Divergence}
    (h : source.get? name = some counterpart) : MemberDeparts path source name entry names d ↔
      Entry.Departs (Text.below path name) counterpart entry names d := by
  constructor
  · intro hd
    cases hd with
    | unknown hnone => cases h.symm.trans hnone
    | entry hget hd =>
      cases h.symm.trans hget
      exact hd
  · exact .entry h

/-- The departures of one more member, before those of the members behind it. -/
theorem Namespace.departs_cons_iff {path name : String} {source rest : Namespace} {entry : Entry}
    {names : List String} {d : Divergence} (hsource : source.Sorted) :
    (∃ more, names = name :: more ∧ MemberDeparts path source name entry more d) ∨
      Departs path source rest names d ↔ Departs path source ((name, entry) :: rest) names d := by
  rw [departs_iff hsource, departs_iff hsource]
  constructor
  · rintro (⟨more, rfl, h⟩ | ⟨name', entry', more, rfl, hmem, h⟩)
    · exact ⟨name, entry, more, rfl, List.mem_cons_self, h⟩
    · exact ⟨name', entry', more, rfl, List.mem_cons_of_mem _ hmem, h⟩
  · rintro ⟨name', entry', more, rfl, hmem, h⟩
    rcases List.mem_cons.1 hmem with he | hmem
    · cases he
      exact .inl ⟨more, rfl, h⟩
    · exact .inr ⟨name', entry', more, rfl, hmem, h⟩

mutual

theorem Entry.lists_divergences {path : String} {counterpart : Entry}
    (hcounterpart : ∀ sources, counterpart = .group sources → Namespace.Sorted sources) :
    (entry : Entry) → (∀ members, entry = .group members → Namespace.Sorted members) →
      Lists (Entry.Departs path counterpart entry) (Entry.divergences path counterpart entry)
  | .text s, _ => by
    rw [Entry.divergences]
    exact Entry.lists_of_not_groups _ nofun
  | .plural forms, _ => by
    rw [Entry.divergences]
    exact Entry.lists_of_not_groups _ nofun
  | .group members, h => by
    cases counterpart with
    | group sources =>
      rw [Entry.divergences]
      have hmembers : Lists (Namespace.Departs path sources members)
          (Namespace.divergences path sources members) :=
        Namespace.lists_divergences (hcounterpart sources rfl) members (h members rfl)
      exact hmembers.congr fun _ _ => Entry.departs_group_iff.symm
    | text s =>
      rw [Entry.divergences]
      · exact Entry.lists_of_not_groups (.group members) nofun
      · nofun
    | plural forms =>
      rw [Entry.divergences]
      · exact Entry.lists_of_not_groups (.group members) nofun
      · nofun

/-- **The comparison lists the departures.** -/
theorem Namespace.lists_divergences {path : String} {source : Namespace}
    (hsource : source.Sorted) : (target : List (String × Entry)) → Namespace.Sorted target →
      Lists (Namespace.Departs path source target) (Namespace.divergences path source target)
  | [], _ => by
    rw [Namespace.divergences]
    apply Lists.nil
    intro names d hd
    obtain ⟨_, _, _, -, hmem, -⟩ := hd.exists_member hsource
    cases hmem
  | (name, entry) :: rest, htarget => by
    rw [Namespace.divergences]
    have hrest : Lists (Namespace.Departs path source rest)
        (Namespace.divergences path source rest) :=
      Namespace.lists_divergences hsource rest htarget.tail
    have hmember : Lists (Namespace.MemberDeparts path source name entry)
        (match source.get? name with
          | none => [.unknownKey (Text.below path name)]
          | some counterpart => Entry.divergences (Text.below path name) counterpart entry) := by
      cases hget : source.get? name with
      | none => exact .single fun _ _ => Namespace.memberDeparts_iff_of_none hget
      | some counterpart =>
        refine (Entry.lists_divergences ?_ entry ?_).congr fun _ _ =>
          (Namespace.memberDeparts_iff_of_some hget).symm
        · rintro sources rfl
          exact hsource.of_mem (Dict.mem_of_get? hget)
        · rintro members rfl
          exact htarget.of_mem List.mem_cons_self
    refine ((hmember.below name).append hrest ?_).congr fun _ _ =>
      Namespace.departs_cons_iff hsource
    -- The members behind it have greater names, so all their rows come later.
    rintro _ _ _ _ ⟨more, rfl, -⟩ hd
    obtain ⟨name', entry', more', rfl, hmem, -⟩ := hd.exists_member hsource
    have hlt : compare name name' = .lt := (List.pairwise_cons.1 htarget.dict).1 _ hmem
    exact List.Lex.rel (compare_lt_iff_lt.1 hlt)

end

/-! ## Embedding -/

namespace Namespace

variable {source target third : Namespace} {path : String}

theorem Embeds.refl (ns : Namespace) : ns.Embeds ns :=
  fun _ entry h => ⟨entry, h, rfl⟩

theorem Embeds.trans (h : target.Embeds source) (h' : third.Embeds target) :
    third.Embeds source := by
  intro names entry hleads
  obtain ⟨_, hleads, hkind⟩ := h' names entry hleads
  obtain ⟨counterpart, hleads, hkind'⟩ := h names _ hleads
  exact ⟨counterpart, hleads, hkind'.trans hkind⟩

/-- **Without a departure a target embeds**: the first step of a way that the source does not follow
would be one. -/
theorem embeds_of_not_departs (hsource : source.Sorted)
    (h : ∀ names d, ¬ Departs path source target names d) : target.Embeds source := by
  intro names entry hleads
  induction hleads generalizing source path with
  | @last target name entry hmem =>
    cases hget : source.get? name with
    | none => exact absurd (.of_member hmem (.unknown hget)) (h _ _)
    | some counterpart =>
      refine ⟨counterpart, .last (Dict.mem_of_get? hget), ?_⟩
      by_contra hkind
      exact h _ _ (.of_member hmem (.entry hget (.here hkind)))
  | @further target members name more entry hmem hmore ih =>
    cases hget : source.get? name with
    | none => exact absurd (.of_member hmem (.unknown hget)) (h _ _)
    | some counterpart =>
      -- A departure at the group would be one of the whole, and so would one below it.
      have hsame : counterpart.kind = .group := by
        by_contra hkind
        exact h _ _ (.of_member hmem (.entry hget (.here hkind)))
      cases counterpart with
      | text s => cases hsame
      | plural forms => cases hsame
      | group sources =>
        have hgroup : (name, .group sources) ∈ source := Dict.mem_of_get? hget
        have hnone : ∀ names d, ¬ Departs (Text.below path name) sources members names d :=
          fun _ _ hd => h _ _ (.of_member hmem (.entry hget (.below rfl rfl hd)))
        obtain ⟨counterpart, hcounterpart, hkind⟩ := ih (hsource.of_mem hgroup) hnone
        exact ⟨counterpart, .further hgroup hcounterpart, hkind⟩

/-- A way through a level goes by one of its names. -/
theorem Opens.mem_keys {ns level : Namespace} {parents : List String} {name : String}
    {entry : Entry} (h : ns.Opens parents level) (hns : ns.Sorted)
    (hleads : ns.Leads (parents ++ [name]) entry) : name ∈ level.keys := by
  induction h with
  | root => exact List.mem_map_of_mem (leads_single_iff.1 hleads)
  | @group ns members level parent names hmem _ ih =>
    obtain ⟨members', hmem', hleads⟩ := leads_cons_append_iff.1 hleads
    cases (hns.get?_eq_iff.2 hmem).symm.trans (hns.get?_eq_iff.2 hmem')
    exact ih (hns.of_mem hmem) hleads

theorem Embeds.not_departs (h : target.Embeds source) (hsource : source.Sorted)
    {names : List String} {d : Divergence} : ¬ Departs path source target names d := by
  intro hd
  cases hd with
  | unknown htarget hopens hname =>
    obtain ⟨counterpart, hleads, -⟩ := h _ _ htarget
    exact hname (hopens.mem_keys hsource hleads)
  | mismatch htarget hleads hkind =>
    obtain ⟨counterpart, hleads', hsame⟩ := h _ _ htarget
    -- The way leads to one entry of the source only, and that one is of the same kind.
    obtain rfl := hleads.unique_of_nodup hleads' fun level hlevel =>
      (hsource level hlevel).nodup_keys
    exact hkind hsame

/-- **The comparison finds nothing exactly where the target embeds.** -/
theorem divergences_eq_nil_iff (hsource : source.Sorted) (htarget : target.Sorted) :
    divergences path source target = [] ↔ target.Embeds source := by
  rw [(lists_divergences hsource target htarget).eq_nil_iff]
  exact ⟨embeds_of_not_departs hsource, fun h _ _ => h.not_departs hsource⟩

end Namespace

namespace Translator

variable {t : Translator} {source target : Locale} {S T : Namespace}

theorem validate_of_loaded (hS : t.catalogue.get? source = some S)
    (hT : t.catalogue.get? target = some T) :
    t.validate source target = Namespace.divergences "" S T := by
  rw [validate, Catalogue.divergences, hS, hT]

theorem validate_of_not_loaded
    (h : t.catalogue.get? source = none ∨ t.catalogue.get? target = none) :
    t.validate source target = [] := by
  unfold validate Catalogue.divergences
  split
  · next hS hT => simp [hS, hT] at h
  · rfl

/-- **Nothing is found exactly where the target embeds.** -/
theorem validate_eq_nil_iff (h : t.Sorted) (hS : t.catalogue.get? source = some S)
    (hT : t.catalogue.get? target = some T) : t.validate source target = [] ↔ T.Embeds S := by
  rw [validate_of_loaded hS hT]
  exact Namespace.divergences_eq_nil_iff (h _ _ hS) (h _ _ hT)

/-- Each divergence is reported once, of the target. -/
theorem map_divergence_warnings (t : Translator) (source target : Locale) :
    (t.warnings source target).map Warning.divergence = t.validate source target := by
  rw [warnings, List.map_map]
  exact List.map_id _

theorem locale_of_mem_warnings {w : Warning} (h : w ∈ t.warnings source target) :
    w.locale = target.tag := by
  obtain ⟨d, -, rfl⟩ := List.mem_map.1 h
  rfl

/-- **The comparison reports exactly the divergences.** Of two locales that are loaded it lists the
highest points where the target departs from the source, each of them once, in depth-first order of
the target. Nothing is reported exactly where the target embeds in the source, so this is reflexive,
and transitive over loaded locales. The warnings are these divergences, each with the target's tag.
The namespaces are in order however the translator came about (`Sorted.run`). -/
theorem validate_exact (h : t.Sorted) :
    (∀ source target S T, t.catalogue.get? source = some S → t.catalogue.get? target = some T →
      Lists (Namespace.Departs "" S T) (t.validate source target) ∧
      (∀ names more d d', Namespace.Departs "" S T names d →
        Namespace.Departs "" S T (names ++ more) d' → more = []) ∧
      (t.validate source target = [] ↔ T.Embeds S)) ∧
    (∀ l, t.validate l l = []) ∧
    (∀ a b c, (t.catalogue.get? b).isSome → t.validate a b = [] → t.validate b c = [] →
      t.validate a c = []) ∧
    ∀ source target, (t.warnings source target).map Warning.divergence = t.validate source target ∧
      ∀ w ∈ t.warnings source target, w.locale = target.tag := by
  refine ⟨fun source target S T hS hT => ⟨?_, fun _ _ _ _ hd hd' => ?_, ?_⟩, fun l => ?_,
    fun a b c hb hab hbc => ?_, fun source target =>
      ⟨map_divergence_warnings t source target, fun _ => locale_of_mem_warnings⟩⟩
  · rw [validate_of_loaded hS hT]
    exact Namespace.lists_divergences (h _ _ hS) T (h _ _ hT)
  · exact hd.eq_nil_of_append (h _ _ hS) (h _ _ hT) hd'
  · exact validate_eq_nil_iff h hS hT
  · cases hl : t.catalogue.get? l with
    | none => exact validate_of_not_loaded (.inl hl)
    | some ns => exact (validate_eq_nil_iff h hl hl).2 (.refl ns)
  · obtain ⟨B, hB⟩ := Option.isSome_iff_exists.1 hb
    cases hA : t.catalogue.get? a with
    | none => exact validate_of_not_loaded (.inl hA)
    | some A =>
      cases hC : t.catalogue.get? c with
      | none => exact validate_of_not_loaded (.inr hC)
      | some C =>
        have hBA := (validate_eq_nil_iff h hA hB).1 hab
        have hCB := (validate_eq_nil_iff h hB hC).1 hbc
        exact (validate_eq_nil_iff h hA hC).2 (hBA.trans hCB)

/-- The kinds differ in one place, one group is unknown as a whole, and one text of a group that
both have is unknown. -/
theorem validate_exact_swedish :
    let forms : Json := .object [("one", .string "an apple"), ("other", .string "apples")]
    let english : Json := .object [("apples", forms), ("menu", .object [("home", .string "Home")])]
    let menu : Json := .object [("contact", .string "Kontakt"), ("home", .string "Hem")]
    let swedish : Json := .object [("apples", .object [("one", .string "ett äpple")]),
      ("extra", .object [("tips", .string "Tips")]), ("menu", menu)]
    let t := run {} [.replaceAll (.object [("en", english), ("sv", swedish)])]
    let found : List Divergence :=
      [.shapeMismatch "apples" .plural .group, .unknownKey "extra", .unknownKey "menu.contact"]
    t.Sorted ∧ t.validate (.ofTag "en") (.ofTag "sv") = found ∧
      ∃ S T, t.catalogue.get? (.ofTag "en") = some S ∧ t.catalogue.get? (.ofTag "sv") = some T ∧
        Lists (Namespace.Departs "" S T) found ∧ ¬ T.Embeds S := by
  intro forms english menu swedish t found
  have hordered : (Json.object [("en", english), ("sv", swedish)]).Ordered := by
    have hstring (s : String) : (Json.string s).Ordered := Json.ordered_of_no_object nofun
    have hobject {members : List (String × Json)} (hkeys : Dict.Ordered members)
        (h : ∀ m ∈ members, m.2.Ordered) : (Json.object members).Ordered :=
      Json.ordered_object_iff.2 ⟨hkeys, h⟩
    refine hobject (by decide) (List.forall_mem_cons.2 ⟨?_, List.forall_mem_singleton.2 ?_⟩)
    · have hforms : forms.Ordered := hobject (by decide) (by simp [hstring])
      have hmenu : (Json.object [("home", .string "Home")]).Ordered :=
        hobject (by decide) (by simp [hstring])
      exact hobject (by decide) (by simp [hforms, hmenu])
    · have hmenu : menu.Ordered := hobject (by decide) (by simp [hstring])
      have happles : (Json.object [("one", .string "ett äpple")]).Ordered :=
        hobject (by decide) (by simp [hstring])
      have hextra : (Json.object [("tips", .string "Tips")]).Ordered :=
        hobject (by decide) (by simp [hstring])
      exact hobject (by decide) (by simp [happles, hextra, hmenu])
  have hsorted : t.Sorted :=
    Sorted.run Catalogue.sorted_nil (List.forall_mem_singleton.2 hordered)
  have hfound : t.validate (.ofTag "en") (.ofTag "sv") = found := rfl
  have hS : (t.catalogue.get? (.ofTag "en")).isSome := rfl
  have hT : (t.catalogue.get? (.ofTag "sv")).isSome := rfl
  obtain ⟨S, hS⟩ := Option.isSome_iff_exists.1 hS
  obtain ⟨T, hT⟩ := Option.isSome_iff_exists.1 hT
  obtain ⟨hlists, -, hembeds⟩ := (validate_exact hsorted).1 _ _ S T hS hT
  rw [hfound] at hlists hembeds
  exact ⟨hsorted, hfound, S, T, hS, hT, hlists, fun h => List.cons_ne_nil _ _ (hembeds.2 h)⟩

end Translator

end Phrasebook
