import Phrasebook.Plural.Rule

/-!
# The plural rules of the languages

Which condition each category has, by language, as the common locale data state them. A language
that is not listed gives every number the category `other`: either its rules say so, or the tables
do not have it.

**Limits.** The tables are a copy made by hand. Where release 49 of the data was at hand the rows
follow it: Vietnamese has a form for one there, and Spanish and Bulgarian have ordinals of their
own. The other rows are of earlier releases. Regions whose Portuguese is that of Portugal stand in
its row. What is shown about choices does not rest on the tables: it holds for any source of rules.
-/

namespace Phrasebook.Plural

open Term

/-- Languages in which the number of things selects a form. -/
def cardinalRules : List (List String × Rules) := [
  (["am", "as", "bn", "doi", "fa", "gu", "hi", "kn", "pcm", "vi", "zu"], [
    (.one, [[i.within [0]], [n.within [1]]])]),
  (["ff", "hy", "kab"], [
    (.one, [[i.within [0, 1]]])]),
  (["ast", "de", "en", "et", "fi", "fy", "gl", "ia", "ie", "io", "ji", "lij", "nl", "sc", "sv",
    "sw", "ur", "yi"], [
    (.one, [[i.within [1], v.within [0]]])]),
  (["si"], [
    (.one, [[n.within [0, 1]], [i.within [0], f.within [1]]])]),
  (["ak", "bho", "csw", "guw", "ln", "mg", "nso", "pa", "ti", "wa"], [
    (.one, [[n.within [⟨0, 1⟩]]])]),
  (["tzm"], [
    (.one, [[n.within [⟨0, 1⟩]], [n.within [⟨11, 99⟩]]])]),
  (["af", "an", "asa", "az", "bal", "bem", "bez", "bg", "brx", "ce", "cgg", "chr", "ckb", "dv",
    "ee", "el", "eo", "eu", "fo", "fur", "gsw", "ha", "haw", "hu", "jgo", "jmc", "ka", "kaj",
    "kcg", "kk", "kkj", "kl", "ks", "ksb", "ku", "ky", "lb", "lg", "mas", "mgo", "ml", "mn", "mr",
    "nah", "nb", "nd", "ne", "nn", "nnh", "no", "nr", "ny", "nyn", "om", "or", "os", "pap", "ps",
    "rm", "rof", "rwk", "saq", "sd", "sdh", "seh", "sn", "so", "sq", "ss", "ssy", "st", "syr",
    "ta", "te", "teo", "tig", "tk", "tn", "tr", "ts", "ug", "uz", "ve", "vo", "vun", "wae", "xh",
    "xog"], [
    (.one, [[n.within [1]]])]),
  (["da"], [
    (.one, [[n.within [1]], [t.outside [0], i.within [0, 1]]])]),
  (["is"], [
    (.one,
      [[t.within [0], (i % 10).within [1], (i % 100).outside [11]],
       [(t % 10).within [1], (t % 100).outside [11]]])]),
  (["mk"], [
    (.one,
      [[v.within [0], (i % 10).within [1], (i % 100).outside [11]],
       [(f % 10).within [1], (f % 100).outside [11]]])]),
  (["ceb", "fil", "tl"], [
    (.one,
      [[v.within [0], i.within [1, 2, 3]],
       [v.within [0], (i % 10).outside [4, 6, 9]],
       [v.outside [0], (f % 10).outside [4, 6, 9]]])]),
  (["lv", "prg"], [
    (.zero,
      [[(n % 10).within [0]],
       [(n % 100).within [⟨11, 19⟩]],
       [v.within [2], (f % 100).within [⟨11, 19⟩]]]),
    (.one,
      [[(n % 10).within [1], (n % 100).outside [11]],
       [v.within [2], (f % 10).within [1], (f % 100).outside [11]],
       [v.outside [2], (f % 10).within [1]]])]),
  (["lag"], [
    (.zero, [[n.within [0]]]),
    (.one, [[i.within [0, 1], n.outside [0]]])]),
  (["blo", "ksh"], [
    (.zero, [[n.within [0]]]),
    (.one, [[n.within [1]]])]),
  (["he", "iw"], [
    (.one, [[i.within [1], v.within [0]], [i.within [0], v.outside [0]]]),
    (.two, [[i.within [2], v.within [0]]])]),
  (["iu", "naq", "sat", "se", "sma", "smi", "smj", "smn", "sms"], [
    (.one, [[n.within [1]]]),
    (.two, [[n.within [2]]])]),
  (["shi"], [
    (.one, [[i.within [0]], [n.within [1]]]),
    (.few, [[n.within [⟨2, 10⟩]]])]),
  (["mo", "ro"], [
    (.one, [[i.within [1], v.within [0]]]),
    (.few, [[v.outside [0]], [n.within [0]], [n.outside [1], (n % 100).within [⟨1, 19⟩]]])]),
  (["bs", "hr", "sh", "sr"], [
    (.one,
      [[v.within [0], (i % 10).within [1], (i % 100).outside [11]],
       [(f % 10).within [1], (f % 100).outside [11]]]),
    (.few,
      [[v.within [0], (i % 10).within [⟨2, 4⟩], (i % 100).outside [⟨12, 14⟩]],
       [(f % 10).within [⟨2, 4⟩], (f % 100).outside [⟨12, 14⟩]]])]),
  (["fr", "pt"], [
    (.one, [[i.within [⟨0, 1⟩]]]),
    (.many,
      [[e.within [0], i.outside [0], (i % 1000000).within [0], v.within [0]],
       [e.outside [⟨0, 5⟩]]])]),
  (["ca", "it", "lld", "pt-PT", "scn", "vec", "pt-AO", "pt-CH", "pt-CV", "pt-FR", "pt-GQ", "pt-GW",
    "pt-LU", "pt-MO", "pt-MZ", "pt-ST", "pt-TL"], [
    (.one, [[i.within [1], v.within [0]]]),
    (.many,
      [[e.within [0], i.outside [0], (i % 1000000).within [0], v.within [0]],
       [e.outside [⟨0, 5⟩]]])]),
  (["es"], [
    (.one, [[n.within [1]]]),
    (.many,
      [[e.within [0], i.outside [0], (i % 1000000).within [0], v.within [0]],
       [e.outside [⟨0, 5⟩]]])]),
  (["gd"], [
    (.one, [[n.within [1, 11]]]),
    (.two, [[n.within [2, 12]]]),
    (.few, [[n.within [⟨3, 10⟩, ⟨13, 19⟩]]])]),
  (["sl"], [
    (.one, [[v.within [0], (i % 100).within [1]]]),
    (.two, [[v.within [0], (i % 100).within [2]]]),
    (.few, [[v.within [0], (i % 100).within [⟨3, 4⟩]], [v.outside [0]]])]),
  (["dsb", "hsb"], [
    (.one, [[v.within [0], (i % 100).within [1]], [(f % 100).within [1]]]),
    (.two, [[v.within [0], (i % 100).within [2]], [(f % 100).within [2]]]),
    (.few, [[v.within [0], (i % 100).within [⟨3, 4⟩]], [(f % 100).within [⟨3, 4⟩]]])]),
  (["cs", "sk"], [
    (.one, [[i.within [1], v.within [0]]]),
    (.few, [[i.within [⟨2, 4⟩], v.within [0]]]),
    (.many, [[v.outside [0]]])]),
  (["pl"], [
    (.one, [[i.within [1], v.within [0]]]),
    (.few, [[v.within [0], (i % 10).within [⟨2, 4⟩], (i % 100).outside [⟨12, 14⟩]]]),
    (.many,
      [[v.within [0], i.outside [1], (i % 10).within [⟨0, 1⟩]],
       [v.within [0], (i % 10).within [⟨5, 9⟩]],
       [v.within [0], (i % 100).within [⟨12, 14⟩]]])]),
  (["be"], [
    (.one, [[(n % 10).within [1], (n % 100).outside [11]]]),
    (.few, [[(n % 10).within [⟨2, 4⟩], (n % 100).outside [⟨12, 14⟩]]]),
    (.many, [[(n % 10).within [0]], [(n % 10).within [⟨5, 9⟩]], [(n % 100).within [⟨11, 14⟩]]])]),
  (["lt"], [
    (.one, [[(n % 10).within [1], (n % 100).outside [⟨11, 19⟩]]]),
    (.few, [[(n % 10).within [⟨2, 9⟩], (n % 100).outside [⟨11, 19⟩]]]),
    (.many, [[f.outside [0]]])]),
  (["ru", "uk"], [
    (.one, [[v.within [0], (i % 10).within [1], (i % 100).outside [11]]]),
    (.few, [[v.within [0], (i % 10).within [⟨2, 4⟩], (i % 100).outside [⟨12, 14⟩]]]),
    (.many,
      [[v.within [0], (i % 10).within [0]],
       [v.within [0], (i % 10).within [⟨5, 9⟩]],
       [v.within [0], (i % 100).within [⟨11, 14⟩]]])]),
  (["sgs"], [
    (.one, [[(n % 10).within [1], (n % 100).outside [11]]]),
    (.two, [[n.within [2]]]),
    (.few, [[n.outside [2], (n % 10).within [⟨2, 9⟩], (n % 100).outside [⟨11, 19⟩]]]),
    (.many, [[f.outside [0]]])]),
  (["br"], [
    (.one, [[(n % 10).within [1], (n % 100).outside [11, 71, 91]]]),
    (.two, [[(n % 10).within [2], (n % 100).outside [12, 72, 92]]]),
    (.few, [[(n % 10).within [⟨3, 4⟩, 9], (n % 100).outside [⟨10, 19⟩, ⟨70, 79⟩, ⟨90, 99⟩]]]),
    (.many, [[n.outside [0], (n % 1000000).within [0]]])]),
  (["mt"], [
    (.one, [[n.within [1]]]),
    (.two, [[n.within [2]]]),
    (.few, [[n.within [0]], [(n % 100).within [⟨3, 10⟩]]]),
    (.many, [[(n % 100).within [⟨11, 19⟩]]])]),
  (["ga"], [
    (.one, [[n.within [1]]]),
    (.two, [[n.within [2]]]),
    (.few, [[n.within [⟨3, 6⟩]]]),
    (.many, [[n.within [⟨7, 10⟩]]])]),
  (["gv"], [
    (.one, [[v.within [0], (i % 10).within [1]]]),
    (.two, [[v.within [0], (i % 10).within [2]]]),
    (.few, [[v.within [0], (i % 100).within [0, 20, 40, 60, 80]]]),
    (.many, [[v.outside [0]]])]),
  (["kw"], [
    (.zero, [[n.within [0]]]),
    (.one, [[n.within [1]]]),
    (.two,
      [[(n % 100).within [2, 22, 42, 62, 82]],
       [(n % 1000).within [0], (n % 100000).within [⟨1000, 20000⟩, 40000, 60000, 80000]],
       [n.outside [0], (n % 1000000).within [100000]]]),
    (.few, [[(n % 100).within [3, 23, 43, 63, 83]]]),
    (.many, [[n.outside [1], (n % 100).within [1, 21, 41, 61, 81]]])]),
  (["ar", "ars"], [
    (.zero, [[n.within [0]]]),
    (.one, [[n.within [1]]]),
    (.two, [[n.within [2]]]),
    (.few, [[(n % 100).within [⟨3, 10⟩]]]),
    (.many, [[(n % 100).within [⟨11, 99⟩]]])]),
  (["cy"], [
    (.zero, [[n.within [0]]]),
    (.one, [[n.within [1]]]),
    (.two, [[n.within [2]]]),
    (.few, [[n.within [3]]]),
    (.many, [[n.within [6]]])])]

/-- Languages in which the place in a row selects a form. -/
def ordinalRules : List (List String × Rules) := [
  (["sv"], [
    (.one, [[(n % 10).within [1, 2], (n % 100).outside [11, 12]]])]),
  (["bal", "fil", "fr", "ga", "hy", "lo", "mo", "ms", "ro", "tl", "vi"], [
    (.one, [[n.within [1]]])]),
  (["hu"], [
    (.one, [[n.within [1, 5]]])]),
  (["ne"], [
    (.one, [[n.within [⟨1, 4⟩]]])]),
  (["es"], [
    (.one, [[(n % 10).within [1, 3], (n % 100).outside [11]]])]),
  (["be"], [
    (.few, [[(n % 10).within [2, 3], (n % 100).outside [12, 13]]])]),
  (["uk"], [
    (.few, [[(n % 10).within [3], (n % 100).outside [13]]])]),
  (["tk"], [
    (.few, [[(n % 10).within [6, 9]], [n.within [10]]])]),
  (["kk"], [
    (.many, [[(n % 10).within [6]], [(n % 10).within [9]], [(n % 10).within [0], n.outside [0]]])]),
  (["it", "lld", "sc", "scn", "vec"], [
    (.many, [[n.within [11, 8, 80, 800]]])]),
  (["lij"], [
    (.many, [[n.within [11, 8, ⟨80, 89⟩, ⟨800, 899⟩]]])]),
  (["blo"], [
    (.zero, [[i.within [0]]]),
    (.one, [[i.within [1]]]),
    (.few, [[i.within [2, 3, 4, 5, 6]]])]),
  (["ka"], [
    (.one, [[i.within [1]]]),
    (.many, [[i.within [0]], [(i % 100).within [⟨2, 20⟩, 40, 60, 80]]])]),
  (["sq"], [
    (.one, [[n.within [1]]]),
    (.many, [[(n % 10).within [4], (n % 100).outside [14]]])]),
  (["kw"], [
    (.one,
      [[n.within [⟨1, 4⟩]],
       [(n % 100).within [⟨1, 4⟩, ⟨21, 24⟩, ⟨41, 44⟩, ⟨61, 64⟩, ⟨81, 84⟩]]]),
    (.many, [[n.within [5]], [(n % 100).within [5]]])]),
  (["bg"], [
    (.one, [[(i % 10).within [1], (i % 100).outside [11]]]),
    (.two, [[(i % 10).within [2], (i % 100).outside [12]]]),
    (.few, [[(i % 10).within [3, 4], (i % 100).outside [13, 14]]])]),
  (["en"], [
    (.one, [[(n % 10).within [1], (n % 100).outside [11]]]),
    (.two, [[(n % 10).within [2], (n % 100).outside [12]]]),
    (.few, [[(n % 10).within [3], (n % 100).outside [13]]])]),
  (["mr"], [
    (.one, [[n.within [1]]]),
    (.two, [[n.within [2, 3]]]),
    (.few, [[n.within [4]]])]),
  (["gd"], [
    (.one, [[n.within [1, 11]]]),
    (.two, [[n.within [2, 12]]]),
    (.few, [[n.within [3, 13]]])]),
  (["ca"], [
    (.one, [[n.within [1, 3]]]),
    (.two, [[n.within [2]]]),
    (.few, [[n.within [4]]])]),
  (["mk"], [
    (.one, [[(i % 10).within [1], (i % 100).outside [11]]]),
    (.two, [[(i % 10).within [2], (i % 100).outside [12]]]),
    (.many, [[(i % 10).within [7, 8], (i % 100).outside [17, 18]]])]),
  (["az"], [
    (.one, [[(i % 10).within [1, 2, 5, 7, 8]], [(i % 100).within [20, 50, 70, 80]]]),
    (.few,
      [[(i % 10).within [3, 4]],
       [(i % 1000).within [100, 200, 300, 400, 500, 600, 700, 800, 900]]]),
    (.many, [[i.within [0]], [(i % 10).within [6]], [(i % 100).within [40, 60, 90]]])]),
  (["gu", "hi"], [
    (.one, [[n.within [1]]]),
    (.two, [[n.within [2, 3]]]),
    (.few, [[n.within [4]]]),
    (.many, [[n.within [6]]])]),
  (["as", "bn"], [
    (.one, [[n.within [1, 5, 7, 8, 9, 10]]]),
    (.two, [[n.within [2, 3]]]),
    (.few, [[n.within [4]]]),
    (.many, [[n.within [6]]])]),
  (["or"], [
    (.one, [[n.within [1, 5, ⟨7, 9⟩]]]),
    (.two, [[n.within [2, 3]]]),
    (.few, [[n.within [4]]]),
    (.many, [[n.within [6]]])]),
  (["cy"], [
    (.zero, [[n.within [0, 7, 8, 9]]]),
    (.one, [[n.within [1]]]),
    (.two, [[n.within [2]]]),
    (.few, [[n.within [3, 4]]]),
    (.many, [[n.within [5, 6]]])])]

/-- The rules of a kind by language. -/
def rulesOf : PluralKind → List (List String × Rules)
  | .cardinal => cardinalRules
  | .ordinal => ordinalRules

end Phrasebook.Plural
