import Phrasebook.Speech.Words

/-!
# English numbers

The American mapping joins tens and units by a hyphen. The British one also puts `and` after a
hundred and a scale, or a comma where a scale is followed by more.
-/

namespace Phrasebook.Speech.English

/-- `twenty one` becomes `twenty-one`. -/
def hyphenateTens : RuleData :=
  .replace
    ("(twenty|thirty|forty|fifty|sixty|seventy|eighty|ninety) " ++
      "(one|two|three|four|five|six|seven|eight|nine)")
    "$1-$2"

/-- `hundred one` becomes `hundred and one`. -/
def andAfterHundred : RuleData :=
  .replace "(hundred) ([a-zA-Z]+)" "$1 and $2"

/-- `thousand two hundred` becomes `thousand, two hundred`. -/
def commaBeforeHundreds : RuleData :=
  .replace "(thousand|million) ([a-zA-Z]+) (?! (hundred|thousand|million))" "$1, $2 "

/-- `thousand two` becomes `thousand and two`. -/
def andAfterScale : RuleData :=
  .replace "(thousand|million) ([a-zA-Z]+)" "$1 and $2"

/-- English words with some rules. -/
def mapping (rules : List RuleData) : MappingData where
  negative := "minus"
  zero := "zero"
  units := ["one", "two", "three", "four", "five", "six", "seven", "eight", "nine"]
  teens := ["ten", "eleven", "twelve", "thirteen", "fourteen", "fifteen", "sixteen", "seventeen",
    "eighteen", "nineteen"]
  tens := ["twenty", "thirty", "forty", "fifty", "sixty", "seventy", "eighty", "ninety"]
  hundred := "hundred"
  thousand := "thousand"
  million := "million"
  rules

/-- American English. -/
def american : MappingData :=
  mapping [hyphenateTens]

/-- British English. -/
def british : MappingData :=
  mapping [hyphenateTens, andAfterHundred, commaBeforeHundreds, andAfterScale]

/-- The key of American English. -/
def americanKey : String := "american"

/-- The key of British English. -/
def britishKey : String := "british"

end Phrasebook.Speech.English
