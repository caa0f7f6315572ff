/-!
# Language tags

**Well-formed tags.** The subtags stand between dashes: a language of two, three or five to eight
letters, then optionally a script of four letters, a region of two letters or three digits, distinct
variants, and extensions, each opened by a single character. An extension `u` may name a numbering
system by its key `nu`; an extension `x` is private and takes all that is left. Letter case does not
matter.

**Fallback.** Data are looked up under the most particular tag first: `candidates`.
-/

namespace Phrasebook

/-- What a well-formed tag says, in the customary letter case. -/
structure LanguageTag where
  language : String
  script : Option String := none
  region : Option String := none
  numbering : Option String := none
  deriving DecidableEq, Repr

namespace LanguageTag

/-- The subtags of a tag. -/
abbrev Subtag := List Char

/-- A subtag of `lo` to `hi` characters that all pass a test. -/
def Subtag.isOf (test : Char → Bool) (lo hi : Nat) (s : Subtag) : Bool :=
  lo ≤ s.length && s.length ≤ hi && s.all test

/-- A language: two, three or five to eight letters. -/
def isLanguage (s : Subtag) : Bool :=
  Subtag.isOf Char.isAlpha 2 3 s || Subtag.isOf Char.isAlpha 5 8 s

/-- A script: four letters. -/
def isScript (s : Subtag) : Bool :=
  Subtag.isOf Char.isAlpha 4 4 s

/-- A region: two letters or three digits. -/
def isRegion (s : Subtag) : Bool :=
  Subtag.isOf Char.isAlpha 2 2 s || Subtag.isOf Char.isDigit 3 3 s

/-- A variant: five to eight characters, or four that begin with a digit. -/
def isVariant (s : Subtag) : Bool :=
  Subtag.isOf Char.isAlphanum 5 8 s ||
    (Subtag.isOf Char.isAlphanum 4 4 s && (s.head?.map Char.isDigit).getD false)

/-- Take the first subtag if it passes a test. -/
def takeIf (test : Subtag → Bool) : List Subtag → Option Subtag × List Subtag
  | s :: rest => if test s then (some s, rest) else (none, s :: rest)
  | [] => (none, [])

/-- Cut a list of subtags before each single character; what stands before the first one is left
over. -/
def groups (subtags : List Subtag) : List Subtag × List (Subtag × List Subtag) :=
  subtags.foldr
    (fun s (body, done) => if s.length = 1 then ([], (s, body) :: done) else (s :: body, done))
    ([], [])

/-- A key of the extension `u`: two characters, the second a letter. -/
def isKey (s : Subtag) : Bool :=
  Subtag.isOf Char.isAlphanum 2 2 s && (s.getLast?.map Char.isAlpha).getD false

/-- Whether an extension other than the private one is well formed. -/
def isExtension (opener : Subtag) (body : List Subtag) : Bool :=
  Subtag.isOf Char.isAlphanum 1 1 opener && !body.isEmpty &&
    body.all fun s =>
      Subtag.isOf Char.isAlphanum 3 8 s ||
        (if opener = ['u'] then isKey s else Subtag.isOf Char.isAlphanum 2 2 s)

/-- The numbering system that an extension `u` names. -/
def numberingOf (body : List Subtag) : Option String :=
  let after := (body.dropWhile (· ≠ ['n', 'u'])).drop 1
  let value := after.takeWhile (·.length ≥ 3)
  if value.isEmpty then none else some ("-".intercalate (value.map String.ofList))

/-- A subtag with its first letter in upper case. -/
def titleCase : Subtag → String
  | c :: rest => String.ofList (c.toUpper :: rest)
  | [] => ""

/-- Read a tag, if it is well formed. -/
def ofText? (text : String) : Option LanguageTag :=
  match (text.toList.map Char.toLower).splitOn '-' with
  | [] => none
  | language :: rest =>
    let (script, rest) := takeIf isScript rest
    let (region, rest) := takeIf isRegion rest
    let variants := rest.takeWhile isVariant
    let rest := rest.dropWhile isVariant
    let shared := rest.takeWhile (· ≠ ['x'])
    let personal := rest.dropWhile (· ≠ ['x'])
    let (stray, extensions) := groups shared
    let wellFormed :=
      isLanguage language && variants.eraseDups.length == variants.length && stray.isEmpty &&
        extensions.all (fun (opener, body) => isExtension opener body) &&
        (extensions.map (·.1)).eraseDups.length == extensions.length &&
        personal.length != 1 && personal.all (Subtag.isOf Char.isAlphanum 1 8)
    if wellFormed then
      some
        { language := String.ofList language
          script := script.map titleCase
          region := region.map fun s => String.ofList (s.map Char.toUpper)
          numbering := (extensions.lookup ['u']).bind numberingOf }
    else none

/-- The tags under which data are looked up, the most particular first. -/
def candidates (t : LanguageTag) : List String :=
  let scripted := t.script.toList.map fun script => t.language ++ "-" ++ script
  let regional (base : String) := t.region.toList.map fun region => base ++ "-" ++ region
  scripted.flatMap regional ++ scripted ++ regional t.language ++ [t.language]

end LanguageTag

end Phrasebook
