import SchemaScaffold.Text.Casing
import SchemaScaffold.Text.Separated

/-!
# Words in identifiers, and the casings made of them

An identifier is a row of words, however it is written: `blog_posts`, `BlogPosts` and
`blog posts` hold the same two. Whatever is neither letter nor number separates words; inside a
piece, a capital after a small letter starts a word, and so does the last of several capitals
when a small letter follows it (`HTTPServer` is `HTTP` and `Server`). Characters without case
belong to the word around them.
-/

namespace SchemaScaffold.Text

/-- The case of the last cased character in the word that is being read. -/
inductive WordPhase
  | fresh
  | small
  | capital
  deriving DecidableEq, Repr

/-- The phase after one more character; a character without case changes nothing. -/
def WordPhase.after (phase : WordPhase) (c : Char) : WordPhase :=
  if isLowercase c then .small else if isUppercase c then .capital else phase

/-- Cut a piece into words, given the characters of the current word, latest first. -/
def cutWords (phase : WordPhase) (word : List Char) : List Char → List (List Char)
  | [] => []
  | [c] => [(c :: word).reverse]
  | c :: next :: rest =>
    if phase.after c = .small ∧ isUppercase next then
      (c :: word).reverse :: cutWords .fresh [] (next :: rest)
    else if phase = .capital ∧ isUppercase c ∧ isLowercase next then
      word.reverse :: cutWords .fresh [c] (next :: rest)
    else cutWords (phase.after c) (c :: word) (next :: rest)

/-- The words of an identifier, as they are written. -/
def words (text : String) : List (List Char) :=
  (pieces (fun c => !isAlphanumeric c) text.toList).flatMap (cutWords .fresh [])

/-- A word in lower case; a capital sigma at its end becomes the final sigma. -/
def lowerWord : List Char → List Char
  | [] => []
  | ['Σ'] => ['ς']
  | c :: rest => lowerChar c ++ lowerWord rest

/-- A word with a capital at its start. -/
def capitalWord : List Char → List Char
  | [] => []
  | c :: rest => upperChar c ++ lowerWord rest

/-- Put the words one after another with low lines between them. -/
def joinWords : List (List Char) → List Char
  | [] => []
  | [word] => word
  | word :: rest => word ++ '_' :: joinWords rest

/-- `BlogPost` becomes `blog_post`. -/
def snakeCase (text : String) : String :=
  String.ofList (joinWords ((words text).map lowerWord))

/-- `blog_post` becomes `BlogPost`. -/
def upperCamelCase (text : String) : String :=
  String.ofList ((words text).flatMap capitalWord)

/-- `blog_post` becomes `blogPost`. -/
def lowerCamelCase (text : String) : String :=
  match words text with
  | [] => ""
  | word :: rest => String.ofList (lowerWord word ++ rest.flatMap capitalWord)

example : snakeCase "HTTPServer-Log2Entry" = "http_server_log2_entry" := by decide +kernel
example : upperCamelCase "blog_posts" = "BlogPosts" := by decide +kernel
example : lowerCamelCase "Blog posts" = "blogPosts" := by decide +kernel

end SchemaScaffold.Text
