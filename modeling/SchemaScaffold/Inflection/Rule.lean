import SchemaScaffold.Pattern

/-!
# Inflection rules

A rule recognises a family of words by a pattern, mostly an ending, and gives what the found
stretch turns into. In the replacement `$0` stands for the found stretch and `$1` for the first
remembered part of it. Rules are listed from the general to the particular, and the last one that
fits wins.
-/

namespace SchemaScaffold.Inflection

open Pattern

/-- A pattern and what its match turns into. -/
structure Rule where
  pattern : Pattern
  replacement : String

/-- The pattern at the end of a word. -/
def atEnd (body : Pattern) : Pattern := body ++ finish

/-- One of the letters of a text. -/
def among (letters : String) : Pattern := oneOf letters.toList

/-- A character that is none of the letters of a text. -/
def butNot (letters : String) : Pattern := noneOf letters.toList

/-- Stems that end in `us` in the singular and in `i` in the plural. -/
def usStems : Pattern :=
  group (oneOfTexts ["alumn", "syllab", "vir", "radi", "nucle", "fung", "cact", "stimul",
    "termin", "bacill", "foc", "uter", "loc", "strat"])

/-- Words that are found in both forms whatever stands before them. -/
def invariantPatterns : List Pattern :=
  [atEnd (lit "pok" ++ among "eé" ++ lit "mon"),
   atEnd (butNot "aeiou" ++ lit "ese"),
   atEnd (lit "deer"),
   atEnd (lit "fish"),
   atEnd (lit "measles"),
   atEnd (lit "o" ++ among "iu" ++ lit "s"),
   atEnd (lit "pox"),
   atEnd (lit "sheep")]

/-- The invariant words as rules that keep what they find. -/
def invariantRules : List Rule := invariantPatterns.map (⟨·, "$0"⟩)

/-- From the singular to the plural. -/
def pluralRules : List Rule :=
  [⟨atEnd (optional (lit "s")), "s"⟩,
   ⟨atEnd beyondAscii, "$0"⟩,
   ⟨atEnd (group (butNot "aeiou" ++ lit "ese")), "$1"⟩,
   ⟨atEnd (group (oneOfTexts ["ax", "test"]) ++ lit "is"), "$1es"⟩,
   ⟨atEnd (group (lit "alias" <|> butNot "aou" ++ lit "us" <|> lit "t" ++ among "lm" ++ lit "as" <|>
      lit "gas" <|> lit "ris")), "$1es"⟩,
   ⟨atEnd (group (lit "e" ++ among "mn" ++ lit "u") ++ optional (lit "s")), "$1s"⟩,
   ⟨atEnd (group (butNot "l" ++ lit "ias" <|> among "aeiou" ++ lit "las" <|>
      among "ejzr" ++ lit "as" <|> among "iu" ++ lit "am")), "$1"⟩,
   ⟨atEnd (usStems ++ oneOfTexts ["us", "i"]), "$1i"⟩,
   ⟨atEnd (group (oneOfTexts ["alumn", "alg", "vertebr"]) ++ oneOfTexts ["a", "ae"]), "$1ae"⟩,
   ⟨atEnd (group (oneOfTexts ["seraph", "cherub"]) ++ optional (lit "im")), "$1im"⟩,
   ⟨atEnd (group (oneOfTexts ["her", "at", "gr"]) ++ lit "o"), "$1oes"⟩,
   ⟨atEnd (group (oneOfTexts ["agend", "addend", "millenni", "dat", "extrem", "bacteri",
      "desiderat", "strat", "candelabr", "errat", "ov", "symposi", "curricul", "automat",
      "quor"]) ++ oneOfTexts ["a", "um"]), "$1a"⟩,
   ⟨atEnd (group (oneOfTexts ["apheli", "hyperbat", "periheli", "asyndet", "noumen", "phenomen",
      "criteri", "organ", "prolegomen", "hedr", "automat"]) ++ oneOfTexts ["a", "on"]), "$1a"⟩,
   ⟨atEnd (lit "sis"), "ses"⟩,
   ⟨atEnd (group (oneOfTexts ["kni", "wi", "li"]) ++ lit "fe" <|>
      group (oneOfTexts ["ar", "l", "ea", "eo", "oa", "hoo"]) ++ lit "f"), "$1$2ves"⟩,
   ⟨atEnd (group (butNot "aeiouy" <|> lit "qu") ++ lit "y"), "$1ies"⟩,
   ⟨atEnd (group (butNot "ch" ++ among "ieo" ++ among "ln") ++ lit "ey"), "$1ies"⟩,
   ⟨atEnd (group (oneOfTexts ["x", "ch", "ss", "sh", "zz"])), "$1es"⟩,
   ⟨atEnd (group (oneOfTexts ["matr", "cod", "mur", "sil", "vert", "ind", "append"]) ++
      oneOfTexts ["ix", "ex"]), "$1ices"⟩,
   ⟨atEnd (boundary ++ group (optional (lit "tit") ++ lit "m" <|> lit "l") ++
      oneOfTexts ["ice", "ouse"]), "$1ice"⟩,
   ⟨atEnd (group (lit "pe") ++ oneOfTexts ["rson", "ople"]), "$1ople"⟩,
   ⟨atEnd (group (lit "child") ++ optional (lit "ren")), "$1ren"⟩,
   ⟨atEnd (lit "eaux"), "$0"⟩,
   ⟨atEnd (lit "m" ++ among "ae" ++ lit "n"), "men"⟩,
   ⟨start ++ lit "thou" ++ finish, "you"⟩] ++ invariantRules

/-- From the plural to the singular. -/
def singularRules : List Rule :=
  [⟨atEnd (lit "s"), ""⟩,
   ⟨atEnd (group (lit "ss")), "$1"⟩,
   ⟨atEnd (group (lit "wi" <|> lit "kni" <|>
      (oneOfTexts ["after", "half", "high", "low", "mid", "non", "night"] <|> separator <|>
        start) ++ lit "li") ++ lit "ves"), "$1fe"⟩,
   ⟨atEnd (group (lit "ar" <|> (lit "wo" <|> among "ae") ++ lit "l" <|>
      among "eo" ++ among "ao") ++ lit "ves"), "$1f"⟩,
   ⟨atEnd (lit "ies"), "y"⟩,
   ⟨atEnd (group (oneOfTexts ["dg", "ss", "ois", "lk", "ok", "wn", "mb", "th", "ch", "ec", "oal",
      "is", "ck", "ix", "sser", "ts", "wb"]) ++ lit "ies"), "$1ie"⟩,
   ⟨atEnd (boundary ++ group (lit "l" <|>
      optional (oneOfTexts ["neck", "cross", "hog", "aun"]) ++ lit "t" <|>
      oneOfTexts ["coll", "faer", "food", "gen", "goon", "group", "hipp", "junk", "vegg"] <|>
      optional (lit "pork") ++ lit "p" <|> oneOfTexts ["charl", "calor", "cut"]) ++
      lit "ies"), "$1ie"⟩,
   ⟨atEnd (boundary ++ group (oneOfTexts ["mon", "smil"]) ++ lit "ies"), "$1ey"⟩,
   ⟨atEnd (boundary ++ group (optional (lit "tit") ++ lit "m" <|> lit "l") ++ lit "ice"),
      "$1ouse"⟩,
   ⟨atEnd (group (oneOfTexts ["seraph", "cherub"]) ++ lit "im"), "$1"⟩,
   ⟨atEnd (group (oneOfTexts ["x", "ch", "ss", "sh", "zz", "tto", "go", "cho", "alias"] <|>
      butNot "aou" ++ lit "us" <|> lit "t" ++ among "lm" ++ lit "as" <|> lit "gas" <|>
      oneOfTexts ["her", "at", "gr"] ++ lit "o" <|> among "aeiou" ++ lit "ris") ++
      optional (lit "es")), "$1"⟩,
   ⟨atEnd (group (oneOfTexts ["analy", "diagno", "parenthe", "progno", "synop", "the", "empha",
      "cri", "ne"]) ++ oneOfTexts ["sis", "ses"]), "$1sis"⟩,
   ⟨atEnd (group (oneOfTexts ["movie", "twelve", "abuse"] <|>
      lit "e" ++ among "mn" ++ lit "u") ++ lit "s"), "$1"⟩,
   ⟨atEnd (group (lit "test") ++ oneOfTexts ["is", "es"]), "$1is"⟩,
   ⟨atEnd (usStems ++ oneOfTexts ["us", "i"]), "$1us"⟩,
   ⟨atEnd (group (oneOfTexts ["agend", "addend", "millenni", "dat", "extrem", "bacteri",
      "desiderat", "strat", "candelabr", "errat", "ov", "symposi", "curricul", "quor"]) ++
      lit "a"), "$1um"⟩,
   ⟨atEnd (group (oneOfTexts ["apheli", "hyperbat", "periheli", "asyndet", "noumen", "phenomen",
      "criteri", "organ", "prolegomen", "hedr", "automat"]) ++ lit "a"), "$1on"⟩,
   ⟨atEnd (group (oneOfTexts ["alumn", "alg", "vertebr"]) ++ lit "ae"), "$1a"⟩,
   ⟨atEnd (group (oneOfTexts ["cod", "mur", "sil", "vert", "ind"]) ++ lit "ices"), "$1ex"⟩,
   ⟨atEnd (group (oneOfTexts ["matr", "append"]) ++ lit "ices"), "$1ix"⟩,
   ⟨atEnd (group (lit "pe") ++ group (oneOfTexts ["rson", "ople"])), "$1rson"⟩,
   ⟨atEnd (group (lit "child") ++ lit "ren"), "$1"⟩,
   ⟨atEnd (group (lit "eau") ++ optional (lit "x")), "$1"⟩,
   ⟨atEnd (lit "men"), "man"⟩] ++ invariantRules

end SchemaScaffold.Inflection
