/-!
# Words that no rule inflects

English nouns whose plural has to be known one by one, and nouns that have no plural of their own.
-/

namespace SchemaScaffold.Inflection

/-- Singular and plural of the irregular words. Where several words share a plural, the last of
them is its singular. -/
def irregular : List (String × String) := [
  ("I", "we"), ("me", "us"), ("he", "they"), ("she", "they"), ("them", "them"),
  ("myself", "ourselves"), ("yourself", "yourselves"), ("itself", "themselves"),
  ("herself", "themselves"), ("himself", "themselves"), ("themself", "themselves"),
  ("is", "are"), ("was", "were"), ("has", "have"), ("this", "these"), ("that", "those"),
  ("my", "our"), ("its", "their"), ("his", "their"), ("her", "their"), ("echo", "echoes"),
  ("dingo", "dingoes"), ("volcano", "volcanoes"), ("tornado", "tornadoes"),
  ("torpedo", "torpedoes"), ("genus", "genera"), ("viscus", "viscera"), ("stigma", "stigmata"),
  ("stoma", "stomata"), ("dogma", "dogmata"), ("lemma", "lemmata"), ("schema", "schemata"),
  ("anathema", "anathemata"), ("ox", "oxen"), ("axe", "axes"), ("die", "dice"), ("yes", "yeses"),
  ("foot", "feet"), ("eave", "eaves"), ("goose", "geese"), ("tooth", "teeth"),
  ("quiz", "quizzes"), ("human", "humans"), ("proof", "proofs"), ("carve", "carves"),
  ("valve", "valves"), ("looey", "looies"), ("thief", "thieves"), ("groove", "grooves"),
  ("pickaxe", "pickaxes"), ("passerby", "passersby"), ("canvas", "canvases")]

/-- Words that are singular and plural alike. -/
def uncountable : List String := [
  "adulthood", "advice", "agenda", "aid", "aircraft", "alcohol", "ammo", "analytics", "anime",
  "athletics", "audio", "bison", "blood", "bream", "buffalo", "butter", "carp", "cash",
  "chassis", "chess", "clothing", "cod", "commerce", "cooperation", "corps", "debris",
  "diabetes", "digestion", "elk", "energy", "equipment", "excretion", "expertise", "firmware",
  "flounder", "fun", "gallows", "garbage", "graffiti", "hardware", "headquarters", "health",
  "herpes", "highjinks", "homework", "housework", "information", "jeans", "justice", "kudos",
  "labour", "literature", "machinery", "mackerel", "mail", "media", "mews", "moose", "music",
  "mud", "manga", "news", "only", "personnel", "pike", "plankton", "pliers", "police",
  "pollution", "premises", "rain", "research", "rice", "salmon", "scissors", "series", "sewage",
  "shambles", "shrimp", "software", "staff", "swine", "tennis", "traffic", "transportation",
  "trout", "tuna", "wealth", "welfare", "whiting", "wildebeest", "wildlife", "you"]

end SchemaScaffold.Inflection
