import Phrasebook.Proofs.Interpolation

/-!
# Substitution in templates

**Templates** (`Piece`). A template is a row of texts and of holes with names. In its written form a
hole is a placeholder. A template is *proper* if its texts bring no two opening braces beside each
other, not even with what is written behind them, and the names of its holes have no braces.

**One value** (`put_written`). In a proper template two opening braces stand beside each other at
the start of a hole and nowhere else, so replacing a placeholder in the written form fills the holes
of its name and touches nothing else. The filled template is proper again if the value has no
opening brace; it may have closing ones, and it may be empty.

**All values** (`foldl_put_written`). Filling holes by one name and then by another fills them by
both names at once (`fill_fill`), the first name before the second. So the order of the variables
matters only where a name is given twice.

**What is left** (`find_written`). The scan of a proper template finds its holes, in their order.

Main result: `substitute_simultaneous`.
-/

namespace Phrasebook.Interpolation

open Placeholder

/-! ## Templates -/

/-- A piece of a template: a text, or a hole for the value of a name. -/
inductive Piece where
  | literal (cs : List Char)
  | hole (name : List Char)
  deriving DecidableEq, Repr

namespace Piece

/-- A piece as it is written. -/
def written : Piece → List Char
  | literal cs => cs
  | hole name => ofName name

/-- The name of a hole. -/
def name? : Piece → Option (List Char)
  | literal _ => none
  | hole name => some name

/-- A text without two opening braces beside each other and without one at its end, or a hole whose
name has no braces. -/
def Proper : Piece → Prop
  | literal cs => ¬ ['{', '{'] <:+: cs ∧ ¬ ['{'] <:+ cs
  | hole name => name ≠ [] ∧ '{' ∉ name ∧ '}' ∉ name

instance : DecidablePred Proper
  | literal cs => inferInstanceAs (Decidable (¬ ['{', '{'] <:+: cs ∧ ¬ ['{'] <:+ cs))
  | hole name => inferInstanceAs (Decidable (name ≠ [] ∧ '{' ∉ name ∧ '}' ∉ name))

/-- Fill a hole with what its name stands for, if it stands for something. -/
def fill (f : List Char → Option (List Char)) : Piece → Piece
  | literal cs => literal cs
  | hole name =>
    match f name with
    | some value => literal value
    | none => hole name

end Piece

/-- A template as it is written. -/
def written (t : List Piece) : List Char :=
  t.flatMap Piece.written

/-- The text of a template. -/
def text (t : List Piece) : String :=
  String.ofList (written t)

/-- The names of the holes of a template, in their order. -/
def holes (t : List Piece) : List (List Char) :=
  t.filterMap Piece.name?

/-- Fill all holes of a template at once. -/
def fillAll (f : List Char → Option (List Char)) (t : List Piece) : List Piece :=
  t.map (Piece.fill f)

/-- What a name stands for among variables. -/
def bound? (vars : Variables) (name : List Char) : Option (List Char) :=
  (vars.get? (String.ofList name)).map (·.text.toList)

/-- What a name stands for: the text of the variable of that name, else, for the name of the
quantity, the text of the quantity. -/
def value? (vars : Variables) (q : Option Quantity) (name : List Char) : Option (List Char) :=
  (bound? vars name).or (if name = quantityName then q.map (·.text.toList) else none)

/-- The holes of a template that nothing is put in for. -/
def unbound (vars : Variables) (q : Option Quantity) (t : List Piece) : List (List Char) :=
  (holes t).filter fun name => (value? vars q name).isNone

/-! ## Where two opening braces stand -/

variable {cs rest name n value replacement : List Char} {c : Char} {t : List Piece}
  {f : List Char → Option (List Char)}

theorem proper_of_notMem (h : '{' ∉ cs) : (Piece.literal cs).Proper := by
  refine ⟨fun hi => h (hi.subset ?_), fun hs => h (hs.subset ?_)⟩
  · exact List.mem_cons_self
  · exact List.mem_cons_self

theorem Piece.Proper.tail (h : (literal (c :: cs)).Proper) : (literal cs).Proper :=
  ⟨fun hi => h.1 (hi.trans (List.suffix_cons c cs).isInfix),
    fun hs => h.2 (hs.trans (List.suffix_cons c cs))⟩

/-- **A text has no pair of opening braces**, whatever is written behind it. -/
theorem Piece.Proper.not_pair (h : (literal (c :: cs)).Proper) (rest : List Char) :
    ¬ ['{', '{'] <+: c :: (cs ++ rest) := by
  intro hp
  obtain ⟨rfl, -⟩ := List.cons_prefix_cons.1 hp
  cases cs with
  | nil => exact h.2 (List.suffix_refl _)
  | cons d cs =>
    obtain ⟨hd, -⟩ := List.cons_prefix_cons.1 (List.cons_prefix_cons.1 hp).2
    subst hd
    exact h.1 (List.prefix_append ['{', '{'] cs).isInfix

/-- The first brace of a hole and what is written behind it. -/
theorem ofName_append (name rest : List Char) :
    ofName name ++ rest = '{' :: ('{' :: (name ++ ['}', '}']) ++ rest) :=
  rfl

theorem pair_prefix_ofName (name : List Char) : ['{', '{'] <+: ofName name :=
  List.prefix_append ['{', '{'] (name ++ ['}', '}'])

/-- Behind its first brace, a hole is written like a text. -/
theorem proper_ofName_tail (h : (Piece.hole name).Proper) :
    (Piece.literal ('{' :: (name ++ ['}', '}']))).Proper := by
  obtain ⟨hne, hopen, -⟩ := h
  have hmem : '{' ∉ name ++ ['}', '}'] := by simpa using hopen
  constructor
  · intro hi
    -- The name comes next, and it is not empty and begins with no brace.
    rcases List.infix_cons_iff.1 hi with hp | hi
    · obtain ⟨d, name, rfl⟩ := List.exists_cons_of_ne_nil hne
      obtain ⟨-, hp⟩ := List.cons_prefix_cons.1 hp
      obtain ⟨rfl, -⟩ := List.cons_prefix_cons.1 hp
      exact hopen List.mem_cons_self
    · exact (proper_of_notMem hmem).1 hi
  · intro hs
    rcases List.suffix_cons_iff.1 hs with he | hs
    · simp at he
    · exact (proper_of_notMem hmem).2 hs

/-- A name ends at the first closing brace. -/
theorem name_unique (hname : '}' ∉ name) (hn : '}' ∉ n)
    (h : ofName name <+: ofName n ++ rest) : name = n := by
  obtain ⟨post, h⟩ := h
  have h' : name ++ '}' :: '}' :: post = n ++ '}' :: '}' :: rest := by
    simpa [ofName] using h
  have := congrArg (List.takeWhile (· ≠ '}')) h'
  rwa [Text.takeWhile_ne_append hname, Text.takeWhile_ne_append hn] at this

/-! ## Putting one value in -/

theorem replaceFrom_length (needle : List Char) (cs rest : List Char) :
    Text.replaceFrom needle replacement cs.length (cs ++ rest) =
      Text.replaceFrom needle replacement 0 rest := by
  induction cs with
  | nil => rfl
  | cons c cs ih => exact ih

/-- Nothing is replaced in a text. -/
theorem replaceFrom_literal (hcs : (Piece.literal cs).Proper) (name rest : List Char) :
    Text.replaceFrom (ofName name) value 0 (cs ++ rest) =
      cs ++ Text.replaceFrom (ofName name) value 0 rest := by
  induction cs with
  | nil => rfl
  | cons c cs ih =>
    have hnot : ¬ (ofName name).isPrefixOf (c :: (cs ++ rest)) := by
      rw [List.isPrefixOf_iff_prefix]
      exact fun hp => hcs.not_pair rest ((pair_prefix_ofName name).trans hp)
    rw [List.cons_append, Text.replaceFrom, if_neg hnot, ih hcs.tail, List.cons_append]

/-- The holes of a name are replaced and no others. -/
theorem replaceFrom_hole (hn : (Piece.hole n).Proper) (hname : '}' ∉ name) (rest : List Char) :
    Text.replaceFrom (ofName name) value 0 (ofName n ++ rest) =
      (if n = name then value else ofName n) ++ Text.replaceFrom (ofName name) value 0 rest := by
  by_cases he : n = name
  · subst he
    have hpre : (ofName n).isPrefixOf (ofName n ++ rest) :=
      List.isPrefixOf_iff_prefix.2 (List.prefix_append _ _)
    -- What the hole was written with is passed over, so its value is not looked at again.
    have hskip : Text.replaceFrom (ofName n) value ((ofName n).length - 1)
        ('{' :: (n ++ ['}', '}']) ++ rest) = Text.replaceFrom (ofName n) value 0 rest :=
      replaceFrom_length _ _ _
    rw [if_pos rfl, ofName_append, Text.replaceFrom, ← ofName_append, if_pos hpre]
    exact congrArg (value ++ ·) hskip
  -- At its first brace the hole has another name, and behind that brace it is like a text.
  · have hnot : ¬ (ofName name).isPrefixOf (ofName n ++ rest) := by
      rw [List.isPrefixOf_iff_prefix]
      exact fun hp => he (name_unique hname hn.2.2 hp).symm
    rw [if_neg he, ofName_append, Text.replaceFrom, ← ofName_append, if_neg hnot,
      replaceFrom_literal (proper_ofName_tail hn)]
    rfl

/-- The value of a single name. -/
def only (name value : List Char) (n : List Char) : Option (List Char) :=
  if n = name then some value else none

/-- **Putting one value in** fills the holes of its name. -/
theorem put_written (ht : ∀ p ∈ t, p.Proper) (hname : '}' ∉ name) (value : List Char) :
    put (written t) name value = written (fillAll (only name value) t) := by
  induction t with
  | nil => rfl
  | cons p t ih =>
    obtain ⟨hp, ht⟩ := List.forall_mem_cons.1 ht
    have ih := ih ht
    show Text.replaceFrom (ofName name) value 0 (p.written ++ written t) =
      (p.fill (only name value)).written ++ written (fillAll (only name value) t)
    cases p with
    | literal cs =>
      rw [Piece.written, replaceFrom_literal hp, ← ih]
      rfl
    | hole n =>
      rw [Piece.written, replaceFrom_hole hp hname, ← ih, Piece.fill, only]
      by_cases he : n = name
      · rw [if_pos he, if_pos he]
        rfl
      · rw [if_neg he, if_neg he]
        rfl

/-! ## Putting all values in -/

theorem proper_fillAll (ht : ∀ p ∈ t, p.Proper) (hf : ∀ n v, f n = some v → '{' ∉ v) :
    ∀ p ∈ fillAll f t, p.Proper := by
  intro p hp
  obtain ⟨p, hmem, rfl⟩ := List.mem_map.1 hp
  cases p with
  | literal cs => exact ht _ hmem
  | hole n =>
    rw [Piece.fill]
    cases hv : f n with
    | none => exact ht _ hmem
    | some v => exact proper_of_notMem (hf n v hv)

theorem fillAll_none (t : List Piece) : fillAll (fun _ => none) t = t := by
  refine (List.map_congr_left fun p _ => ?_).trans (List.map_id t)
  cases p <;> rfl

/-- Filling twice is filling once, by what a name stands for first, else second. -/
theorem fill_fill (f g : List Char → Option (List Char)) (t : List Piece) :
    fillAll g (fillAll f t) = fillAll (fun n => (f n).or (g n)) t := by
  rw [fillAll, fillAll, List.map_map]
  refine List.map_congr_left fun p _ => ?_
  cases p with
  | literal cs => rfl
  | hole n =>
    show (Piece.fill f (.hole n)).fill g = _
    rw [Piece.fill, Piece.fill]
    cases f n <;> rfl

/-- Names that a closing brace does not end, and texts that open no placeholder. -/
structure Harmless (vars : Variables) : Prop where
  /-- No name has a closing brace. -/
  name : ∀ v ∈ vars, '}' ∉ v.1.toList
  /-- No value has an opening brace. -/
  value : ∀ v ∈ vars, '{' ∉ v.2.text.toList

theorem Harmless.tail {v : String × Value} {vars : Variables} (h : Harmless (v :: vars)) :
    Harmless vars where
  name w hw := h.name w (List.mem_cons_of_mem v hw)
  value w hw := h.value w (List.mem_cons_of_mem v hw)

theorem Harmless.bound? {vars : Variables} (h : Harmless vars) (n v : List Char)
    (hv : bound? vars n = some v) : '{' ∉ v := by
  obtain ⟨x, hx, rfl⟩ := Option.map_eq_some_iff.1 hv
  exact h.value _ (Dict.mem_of_get? hx)

theorem bound?_cons (v : String × Value) (vars : Variables) (n : List Char) :
    bound? (v :: vars) n =
      (only v.1.toList v.2.text.toList n).or (bound? vars n) := by
  have hiff : v.1 = String.ofList n ↔ n = v.1.toList :=
    ⟨fun h => by rw [h, String.toList_ofList], fun h => by rw [h, String.ofList_toList]⟩
  rw [bound?, Dict.get?, only]
  by_cases h : n = v.1.toList
  · rw [if_pos (hiff.2 h), if_pos h]
    rfl
  · rw [if_neg (mt hiff.1 h), if_neg h]
    rfl

/-- **Putting variables in one after another** fills the holes of all their names. -/
theorem foldl_put_written {vars : Variables} (hvars : Harmless vars) (ht : ∀ p ∈ t, p.Proper) :
    vars.foldl (fun cs v => put cs v.1.toList v.2.text.toList) (written t) =
      written (fillAll (bound? vars) t) := by
  induction vars generalizing t with
  | nil => exact congrArg written (fillAll_none t).symm
  | cons v vars ih =>
    -- What the first variable leaves is a proper template again, so the others meet one.
    have hproper : ∀ p ∈ fillAll (only v.1.toList v.2.text.toList) t, p.Proper := by
      refine proper_fillAll ht fun n value hv => ?_
      obtain ⟨-, hv⟩ := Option.ite_none_right_eq_some.1 hv
      obtain rfl := Option.some.inj hv
      exact hvars.value v List.mem_cons_self
    rw [List.foldl_cons, put_written ht (hvars.name v List.mem_cons_self), ih hvars.tail hproper,
      fill_fill, funext (bound?_cons v vars)]

/-! ## Putting the quantity in -/

theorem brace_notMem_digitsText (n : Nat) : '{' ∉ Number.digitsText n := by
  intro h
  have := Nat.isDigit_of_mem_toDigits (by decide) (by decide) h
  simp at this

theorem brace_notMem_plain (d : Number.Decimal) : '{' ∉ d.plain := by
  have hdigits := brace_notMem_digitsText d.digits
  unfold Number.Decimal.plain
  dsimp only
  split
  · simp [hdigits]
  · split
    · simp [mt List.mem_of_mem_take hdigits, mt List.mem_of_mem_drop hdigits]
    · simp [hdigits]

theorem brace_notMem_intText (n : Int) : '{' ∉ (toString n).toList := by
  have hdigits (m : Nat) : '{' ∉ m.repr.toList := by
    rw [Nat.toList_repr]
    exact brace_notMem_digitsText m
  cases n with
  | ofNat m => exact hdigits m
  | negSucc m =>
    show '{' ∉ ("-" ++ (m + 1).repr).toList
    rw [String.toList_append, List.mem_append]
    exact not_or.2 ⟨by decide, hdigits (m + 1)⟩

theorem brace_notMem_magnitudeText (bits : UInt64) :
    '{' ∉ (Number.magnitudeText bits).toList := by
  unfold Number.magnitudeText
  dsimp only
  split
  · split <;> decide
  · split
    · decide
    · rw [String.toList_ofList]
      exact brace_notMem_plain _

theorem brace_notMem_plainText (x : Float) : '{' ∉ (Number.plainText x).toList := by
  rw [Number.plainText, String.toList_append, List.mem_append]
  refine not_or.2 ⟨?_, brace_notMem_magnitudeText x.toBits⟩
  split <;> decide

/-- **A quantity opens no placeholder.** -/
theorem brace_notMem_quantity (q : Quantity) : '{' ∉ q.text.toList := by
  cases q with
  | integer n => exact brace_notMem_intText n.toInt
  | fraction x =>
    unfold Quantity.text
    dsimp only
    split
    · split <;> decide
    · split
      · decide
      · exact brace_notMem_plainText x

variable {vars : Variables}

@[simp] theorem value?_some (vars : Variables) (q : Quantity) :
    value? vars (some q) =
      fun n => (bound? vars n).or (only quantityName q.text.toList n) :=
  rfl

@[simp] theorem value?_none (vars : Variables) : value? vars none = bound? vars := by
  funext n
  rw [value?, Option.map_none, ite_self, Option.or_none]

theorem Harmless.value? (h : Harmless vars) (q : Option Quantity) (n v : List Char)
    (hv : value? vars q n = some v) : '{' ∉ v := by
  rcases Option.or_eq_some_iff.1 hv with hv | ⟨-, hv⟩
  · exact h.bound? n v hv
  · obtain ⟨-, hv⟩ := Option.ite_none_right_eq_some.1 hv
    obtain ⟨q, -, rfl⟩ := Option.map_eq_some_iff.1 hv
    exact brace_notMem_quantity q

/-- **Sequential replacement is simultaneous substitution.** -/
theorem fill_written (hvars : Harmless vars) (q : Option Quantity) (ht : ∀ p ∈ t, p.Proper) :
    fill vars q (written t) = written (fillAll (value? vars q) t) := by
  unfold fill
  rw [foldl_put_written hvars ht]
  cases q with
  | none => rw [value?_none]
  | some q =>
    rw [value?_some, ← fill_fill]
    exact put_written (proper_fillAll ht hvars.bound?) isName_quantityName.2 _

/-! ## What is left -/

theorem holes_fillAll (f : List Char → Option (List Char)) (t : List Piece) :
    holes (fillAll f t) = (holes t).filter fun n => (f n).isNone := by
  induction t with
  | nil => rfl
  | cons p t ih =>
    show holes (p.fill f :: fillAll f t) = _
    cases p with
    | literal cs => exact ih
    | hole n =>
      show holes (Piece.fill f (.hole n) :: fillAll f t) = List.filter _ (n :: holes t)
      rw [Piece.fill, List.filter_cons, ← ih]
      cases f n <;> rfl

theorem scan_length (cs rest : List Char) : scan cs.length (cs ++ rest) = scan 0 rest := by
  induction cs with
  | nil => rfl
  | cons c cs ih => exact ih

/-- The scan finds nothing in a text. -/
theorem scan_literal (hcs : (Piece.literal cs).Proper) (rest : List Char) :
    scan 0 (cs ++ rest) = scan 0 rest := by
  induction cs with
  | nil => rfl
  | cons c cs ih =>
    have hnone : start? (c :: (cs ++ rest)) = none := by
      refine Option.eq_none_iff_forall_ne_some.2 fun name hs => ?_
      exact hcs.not_pair rest ((pair_prefix_ofName name).trans (start?_eq_some_iff.1 hs).2)
    rw [List.cons_append, scan, hnone]
    exact ih hcs.tail

/-- The scan finds a hole and goes on behind it. -/
theorem scan_hole (hn : (Piece.hole n).Proper) (rest : List Char) :
    scan 0 (ofName n ++ rest) = n :: scan 0 rest := by
  have hstart : start? (ofName n ++ rest) = some n :=
    start?_eq_some_iff.2 ⟨⟨hn.1, hn.2.2⟩, List.prefix_append _ _⟩
  have hskip := scan_length ('{' :: (n ++ ['}', '}'])) rest
  have hlength : ('{' :: (n ++ ['}', '}'])).length = n.length + 3 := by simp
  rw [ofName_append, scan, ← ofName_append, hstart]
  rw [hlength] at hskip
  exact congrArg (n :: ·) hskip

theorem scan_written (ht : ∀ p ∈ t, p.Proper) : scan 0 (written t) = holes t := by
  induction t with
  | nil => rfl
  | cons p t ih =>
    obtain ⟨hp, ht⟩ := List.forall_mem_cons.1 ht
    have ih := ih ht
    show scan 0 (p.written ++ written t) = _
    cases p with
    | literal cs => exact (scan_literal hp _).trans ih
    | hole n => exact (scan_hole hp _).trans (congrArg (n :: ·) ih)

/-- **The scan finds the holes of a template**, in their order. -/
theorem find_text (ht : ∀ p ∈ t, p.Proper) :
    find (text t) = (holes t).map fun n => String.ofList (ofName n) := by
  rw [find, text, String.toList_ofList, tokens, scan_written ht, List.map_map]
  rfl

/-! ## The result -/

theorem substitute_text (hvars : Harmless vars) (q : Option Quantity) (ht : ∀ p ∈ t, p.Proper) :
    substitute (text t) vars q = text (fillAll (value? vars q) t) := by
  rw [substitute, text, String.toList_ofList, fill_written hvars q ht, text]

theorem interpolate_text (hvars : Harmless vars) (q : Option Quantity) (ht : ∀ p ∈ t, p.Proper) :
    interpolate (text t) vars q =
      if unbound vars q t = [] then .ok (text (fillAll (value? vars q) t))
      else .error (.missingVariable none
        ((unbound vars q t).map fun n => String.ofList (ofName n))) := by
  have hfind : find (substitute (text t) vars q) =
      (unbound vars q t).map fun n => String.ofList (ofName n) := by
    rw [substitute_text hvars q ht, find_text (proper_fillAll ht (hvars.value? q)), holes_fillAll,
      unbound]
  rw [interpolate, complete, hfind, ← substitute_text hvars q ht]
  simp only [List.isEmpty_iff, List.map_eq_nil_iff]

theorem bound?_of_perm {order : Variables} (h : order.Perm vars) (hkeys : vars.keys.Nodup) :
    bound? order = bound? vars := by
  funext n
  rw [bound?, bound?, Dict.get?_of_perm h hkeys]

theorem Harmless.of_perm {order : Variables} (hvars : Harmless vars) (h : order.Perm vars) :
    Harmless order where
  name v hv := hvars.name v (h.mem_iff.1 hv)
  value v hv := hvars.value v (h.mem_iff.1 hv)

/-- **Replacing one placeholder after another is substituting all of them at once.** In a proper
template, with names that have no closing brace and values that have no opening one, every hole
gets the text of its variable, else, if it is the quantity's, the text of the quantity, else it
stays as it is. The result is given out if no hole is left; otherwise the error lists the holes that
are left, each as often as it is there and in the order of the template. The order in which the
variables are put in does not matter. -/
theorem substitute_simultaneous {t : List Piece} {vars : Variables} (q : Option Quantity)
    (ht : ∀ p ∈ t, p.Proper) (hvars : Harmless vars) :
    substitute (text t) vars q = text (fillAll (value? vars q) t) ∧
    (interpolate (text t) vars q =
      if unbound vars q t = [] then .ok (text (fillAll (value? vars q) t))
      else .error (.missingVariable none
        ((unbound vars q t).map fun n => String.ofList (ofName n)))) ∧
    ∀ order : Variables, order.Perm vars → vars.keys.Nodup →
      substitute (text t) order q = substitute (text t) vars q ∧
      interpolate (text t) order q = interpolate (text t) vars q := by
  refine ⟨substitute_text hvars q ht, interpolate_text hvars q ht, fun order hperm hkeys => ?_⟩
  have hsame : substitute (text t) order q = substitute (text t) vars q := by
    rw [substitute_text (hvars.of_perm hperm) q ht, substitute_text hvars q ht]
    unfold value?
    rw [bound?_of_perm hperm hkeys]
  refine ⟨hsame, ?_⟩
  rw [interpolate, interpolate, complete, complete, hsame]

/-- A single brace before a hole, a value that is a closing brace, and a hole that is left. -/
theorem substitute_simultaneous_braces :
    (∀ p ∈ [Piece.literal ['{', ' '], .hole ['a'], .hole quantityName, .hole ['b']], p.Proper) ∧
    Harmless [("a", .string "\x7d"), ("c", .string "")] ∧
    substitute "\x7b {{a}}{{quantity}}{{b}}" [("a", .string "\x7d"), ("c", .string "")]
      (some (.integer 3)) = "\x7b \x7d3{{b}}" ∧
    interpolate "\x7b {{a}}{{quantity}}{{b}}" [("c", .string ""), ("a", .string "\x7d")]
      (some (.integer 3)) = .error (.missingVariable none ["{{b}}"]) := by
  have ht : ∀ p ∈ [Piece.literal ['{', ' '], .hole ['a'], .hole quantityName, .hole ['b']],
      p.Proper := by decide
  have hvars : Harmless [("a", .string "\x7d"), ("c", .string "")] := ⟨by decide, by decide⟩
  have htext : text [.literal ['{', ' '], .hole ['a'], .hole quantityName, .hole ['b']] =
      "\x7b {{a}}{{quantity}}{{b}}" := by decide +kernel
  have hleft : unbound [("a", .string "\x7d"), ("c", .string "")] (some (.integer 3))
      [.literal ['{', ' '], .hole ['a'], .hole quantityName, .hole ['b']] = [['b']] := by
    decide +kernel
  obtain ⟨hsubstitute, hinterpolate, horder⟩ :=
    substitute_simultaneous (some (.integer 3)) ht hvars
  have hreversed := (horder _ (List.Perm.swap _ _ _) (by decide)).2.trans hinterpolate
  rw [htext] at hsubstitute hreversed
  rw [hleft, if_neg (by decide)] at hreversed
  exact ⟨ht, hvars, hsubstitute.trans (by decide +kernel), hreversed.trans (by cbv)⟩

end Phrasebook.Interpolation
