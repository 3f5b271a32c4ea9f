import SchemaScaffold.Generation
import SchemaScaffold.Proofs.Convention.Characters
import SchemaScaffold.Proofs.Disk.Place
import SchemaScaffold.Proofs.Text.Encoding

/-!
# The names of generated files

The name of a model's file is a class name, and the name of a migration's file is a date, a number
and the name of the migration. All of them are names that something in a directory can have. A
migration's file is known again by its ending; as no date and no number ends in the first letter of
a migration's name, the ending decides between two migrations unless the name of one ends in the
name of the other.
-/

namespace SchemaScaffold.Layout

open Convention (modelName migrationName)
open Disk (IsName joinPath)
open Generation (migrationEnding)
open Text (hasEnding hasEnding_iff isNameChar)

/-- Whether a text is a date as file names start with: the year, the month and the day in digits,
with low lines between them. -/
def isDateStamp (text : String) : Bool :=
  match text.toList with
  | [y₁, y₂, y₃, y₄, first, m₁, m₂, second, d₁, d₂] =>
    [y₁, y₂, y₃, y₄, m₁, m₂, d₁, d₂].all Char.isDigit && first == '_' && second == '_'
  | _ => false

/-- The characters of dates and numbers in file names. -/
def isStampChar (c : Char) : Bool := c.isDigit || c == '_'

/-- A date is written with digits and low lines. -/
theorem isStampChar_of_isDateStamp {text : String} (htext : isDateStamp text = true) {c : Char}
    (hc : c ∈ text.toList) : isStampChar c = true := by
  unfold isDateStamp at htext
  split at htext
  case h_2 => cases htext
  case h_1 heq =>
    simp only [List.all_cons, List.all_nil, Bool.and_eq_true, beq_iff_eq] at htext
    simp only [heq, List.mem_cons, List.not_mem_nil, or_false] at hc
    rcases hc with rfl | rfl | rfl | rfl | rfl | rfl | rfl | rfl | rfl | rfl <;>
      simp [isStampChar, htext]

/-- A number in a file name is written with digits. -/
theorem isDigit_of_mem_sequenceDigits {sequence : Nat} {c : Char}
    (hc : c ∈ (sequenceDigits sequence).toList) : c.isDigit = true := by
  rw [sequenceDigits, String.toList_append, String.toList_ofList] at hc
  rcases List.mem_append.mp hc with hzero | hdigit
  · obtain rfl := List.eq_of_mem_replicate hzero
    rfl
  · rw [Nat.toString_eq_repr, Nat.toList_repr] at hdigit
    exact Nat.isDigit_of_mem_toDigits (by decide) (by decide) hdigit

/-- A text without slashes becomes the name of a file. -/
theorem isName_php {stem : String} (hstem : ∀ c ∈ stem.toList, c ≠ '/' ∧ c ≠ '\x00') :
    IsName (stem ++ ".php") := by
  have hchars : (stem ++ ".php").toList = stem.toList ++ ['.', 'p', 'h', 'p'] := by simp
  have hlength : 4 ≤ (stem ++ ".php").toList.length := by simp
  have hmem {c : Char} (hc : c ∈ (stem ++ ".php").toList) : c ≠ '/' ∧ c ≠ '\x00' := by
    rw [hchars, List.mem_append] at hc
    rcases hc with hc | hc
    · exact hstem c hc
    · simp only [List.mem_cons, List.not_mem_nil, or_false] at hc
      rcases hc with rfl | rfl | rfl | rfl <;> decide
  refine ⟨?_, ?_, ?_, fun h => (hmem h).1 rfl, fun h => (hmem h).2 rfl⟩
  all_goals
    intro h
    rw [h] at hlength
    revert hlength
    decide

/-- The file of a model has a name. -/
theorem isName_modelFile (table : String) : IsName (modelName table ++ ".php") := by
  refine isName_php fun c hc => ?_
  have hchar := Text.isNameChar_upperCamelCase hc
  exact ⟨Text.ne_of_isNameChar hchar (by decide), Text.ne_of_isNameChar hchar (by decide)⟩

variable {layout : Layout}

/-- What comes before the name of the migration in the name of its file. -/
def migrationLead (layout : Layout) (sequence : Nat) : String :=
  layout.stamp ++ "_" ++ sequenceDigits sequence

/-- What comes before the name of the migration is written with digits and low lines. -/
theorem isStampChar_of_mem_migrationLead (hstamp : isDateStamp layout.stamp = true)
    {sequence : Nat} {c : Char} (hc : c ∈ (layout.migrationLead sequence).toList) :
    isStampChar c = true := by
  simp only [migrationLead, String.toList_append, List.mem_append] at hc
  rcases hc with (hc | hc) | hc
  · exact isStampChar_of_isDateStamp hstamp hc
  · obtain rfl : c = '_' := by simpa using hc
    rfl
  · simp [isStampChar, isDigit_of_mem_sequenceDigits hc]

/-- The name of a migration is written with letters, numbers and low lines. -/
theorem isNameChar_migrationName {table : String} {c : Char}
    (hc : c ∈ (migrationName table).toList) : c = '_' ∨ isNameChar c = true := by
  have hfirst : "create_".toList.all (fun c => c == '_' || isNameChar c) = true := by decide
  have hlast : "_table".toList.all (fun c => c == '_' || isNameChar c) = true := by decide
  simp only [migrationName, String.toList_append, List.mem_append] at hc
  rcases hc with (hc | hc) | hc
  · simpa using List.all_eq_true.mp hfirst c hc
  · exact Text.isNameChar_snakeCase hc
  · simpa using List.all_eq_true.mp hlast c hc

/-- The file of a migration has a name if the stamp can be in one. -/
theorem isName_migrationFileName_of_stamp
    (hstamp : ∀ c ∈ layout.stamp.toList, c ≠ '/' ∧ c ≠ '\x00') (sequence : Nat) (table : String) :
    IsName (layout.migrationFileName sequence (migrationName table)) := by
  refine isName_php fun c hc => ?_
  simp only [String.toList_append, List.mem_append] at hc
  have hline : c ∈ "_".toList → c ≠ '/' ∧ c ≠ '\x00' := by
    intro hline
    obtain rfl : c = '_' := by simpa using hline
    decide
  rcases hc with (((hc | hc) | hc) | hc) | hc
  · exact hstamp c hc
  · exact hline hc
  · have hdigit := isDigit_of_mem_sequenceDigits hc
    constructor <;> (rintro rfl; revert hdigit; decide)
  · exact hline hc
  · rcases isNameChar_migrationName hc with rfl | hchar
    · decide
    · exact ⟨Text.ne_of_isNameChar hchar (by decide), Text.ne_of_isNameChar hchar (by decide)⟩

/-- Under a date, the file of a migration has a name. -/
theorem isName_migrationFileName (hstamp : isDateStamp layout.stamp = true) (sequence : Nat)
    (table : String) : IsName (layout.migrationFileName sequence (migrationName table)) := by
  refine isName_migrationFileName_of_stamp (fun c hc => ?_) sequence table
  have hchar := isStampChar_of_isDateStamp hstamp hc
  constructor <;> (rintro rfl; revert hchar; decide)

/-- What is behind the last slash of a stamp. -/
def stampName (stamp : String) : String :=
  String.ofList (stamp.toList.reverse.takeWhile (· ≠ '/')).reverse

/-- There is no slash in it. -/
theorem slash_not_mem_stampName (stamp : String) : '/' ∉ (stampName stamp).toList := by
  rw [stampName, String.toList_ofList, List.mem_reverse]
  intro hslash
  have hother := List.all_eq_true.mp List.all_takeWhile _ hslash
  simp at hother

/-- Before it there is nothing, or something that ends in a slash. -/
theorem stampName_cases (stamp : String) :
    stamp = stampName stamp ∨ ∃ front, stamp = front ++ "/" ++ stampName stamp := by
  have hsplit : stamp.toList.reverse.takeWhile (· ≠ '/') ++
      stamp.toList.reverse.dropWhile (· ≠ '/') = stamp.toList.reverse :=
    List.takeWhile_append_dropWhile
  have hstamp : stamp.toList = (stamp.toList.reverse.dropWhile (· ≠ '/')).reverse ++
      (stampName stamp).toList := by
    rw [stampName, String.toList_ofList, ← List.reverse_append, hsplit, List.reverse_reverse]
  cases hrest : stamp.toList.reverse.dropWhile (· ≠ '/') with
  | nil =>
      left
      rw [hrest, List.reverse_nil, List.nil_append] at hstamp
      exact String.toList_injective hstamp
  | cons c rest =>
      right
      have hslash : c = '/' := by
        have hhead := List.head?_dropWhile_not (· ≠ '/') stamp.toList.reverse
        rw [hrest] at hhead
        simpa using hhead
      refine ⟨String.ofList rest.reverse, String.toList_injective ?_⟩
      rw [hrest] at hstamp
      rw [hstamp]
      simp [hslash]

/-- The layout with the stamp that is in the names of its files. A stamp with slashes leads on from
the directory of migrations, and only what is behind the last one is part of a name. -/
def named (layout : Layout) : Layout := { layout with stamp := stampName layout.stamp }

/-- A stamp without a slash is all in the names. -/
theorem named_eq (hslash : '/' ∉ layout.stamp.toList) : layout.named = layout := by
  have hstamp : stampName layout.stamp = layout.stamp := by
    rcases stampName_cases layout.stamp with hsame | ⟨front, hfront⟩
    · exact hsame.symm
    · rw [hfront] at hslash
      exact absurd (by simp) hslash
  rw [named, hstamp]

/-- The names of all migrations have the same before them, nothing or something that ends in a
slash. -/
theorem exists_migrationFileName_eq (layout : Layout) :
    ∃ lead, (lead = "" ∨ ∃ front, lead = front ++ "/") ∧ ∀ sequence name,
      layout.migrationFileName sequence name =
        lead ++ layout.named.migrationFileName sequence name := by
  rcases stampName_cases layout.stamp with hsame | ⟨front, hfront⟩
  · refine ⟨"", .inl rfl, fun sequence name => ?_⟩
    rw [named, ← hsame, String.empty_append]
  · refine ⟨front ++ "/", .inr ⟨front, rfl⟩, fun sequence name => ?_⟩
    rw [migrationFileName, hfront]
    simp only [migrationFileName, named, String.append_assoc]

/-- The name of a migration's file is not absolute. -/
theorem isAbsolute_named (layout : Layout) (sequence : Nat) (name : String) :
    Disk.isAbsolute (layout.named.migrationFileName sequence name) = false := by
  have hslash := slash_not_mem_stampName layout.stamp
  cases hchars : (stampName layout.stamp).toList with
  | nil => simp [Disk.isAbsolute, migrationFileName, named, hchars]
  | cons c rest =>
      have hc : c ≠ '/' := fun h => hslash (by simp [hchars, h])
      simp [Disk.isAbsolute, migrationFileName, named, hchars, hc]

/-- The files of all migrations are in one directory, under their names. -/
theorem exists_migrationFile_eq (layout : Layout) : ∃ directory, ∀ sequence name,
    layout.migrationFile sequence name =
      joinPath directory (layout.named.migrationFileName sequence name) := by
  obtain ⟨lead, hlead, hnames⟩ := exists_migrationFileName_eq layout
  rcases hlead with rfl | ⟨front, rfl⟩
  · refine ⟨layout.migrationsPath, fun sequence name => ?_⟩
    rw [migrationFile, hnames, String.empty_append]
  · obtain ⟨base, hbase⟩ := Disk.exists_joinPath_eq layout.migrationsPath (front ++ "/")
    refine ⟨joinPath layout.migrationsPath (front ++ "/"), fun sequence name => ?_⟩
    rw [migrationFile, hnames, Disk.joinPath_append (by simp), hbase, ← String.append_assoc,
      Disk.joinPath_slash (isAbsolute_named layout sequence name)]

/-- Where the path of a migration's file holds no NUL, the file has a name. -/
theorem isName_named {sequence : Nat} {table : String}
    (hnul : '\x00' ∉ (layout.migrationFile sequence (migrationName table)).toList) :
    IsName (layout.named.migrationFileName sequence (migrationName table)) := by
  refine isName_migrationFileName_of_stamp (fun c hc => ⟨?_, ?_⟩) sequence table
  · rintro rfl
    exact slash_not_mem_stampName layout.stamp hc
  · rintro rfl
    obtain ⟨directory, hpath⟩ := exists_migrationFile_eq layout
    obtain ⟨front, hfront⟩ := Disk.exists_joinPath_eq directory
      (layout.named.migrationFileName sequence (migrationName table))
    rw [hpath, hfront, migrationFileName] at hnul
    exact hnul (by simp [hc])

/-- A number can be read off its digits. -/
theorem ofDigitChars_sequenceDigits (sequence : Nat) :
    Nat.ofDigitChars 10 (sequenceDigits sequence).toList 0 = sequence := by
  rw [sequenceDigits, String.toList_append, String.toList_ofList, Nat.ofDigitChars_append,
    Nat.ofDigitChars_replicate_zero, Nat.mul_zero, Nat.toString_eq_repr, Nat.toList_repr,
    Nat.ofDigitChars_toDigits (by decide) (by decide)]

/-- The digits of a number end at the low line behind them. -/
theorem takeWhile_sequenceDigits (sequence : Nat) (rest : List Char) :
    ((sequenceDigits sequence).toList ++ '_' :: rest).takeWhile (· ≠ '_') =
      (sequenceDigits sequence).toList := by
  rw [List.takeWhile_append_of_pos, List.takeWhile_cons_of_neg (by simp), List.append_nil]
  intro c hc
  have hdigit := isDigit_of_mem_sequenceDigits hc
  rw [decide_eq_true_eq]
  rintro rfl
  revert hdigit
  decide

/-- Migrations that have the same file name have the same number. -/
theorem sequence_eq_of_migrationFileName_eq {sequence other : Nat} {name otherName : String}
    (heq : layout.migrationFileName sequence name = layout.migrationFileName other otherName) :
    sequence = other := by
  have hchars : (sequenceDigits sequence).toList ++ '_' :: (name ++ ".php").toList =
      (sequenceDigits other).toList ++ '_' :: (otherName ++ ".php").toList := by
    apply (List.append_right_inj (layout.stamp ++ "_").toList).mp
    simpa [migrationFileName] using congrArg String.toList heq
  have hdigits := congrArg (List.takeWhile (· ≠ '_')) hchars
  rw [takeWhile_sequenceDigits, takeWhile_sequenceDigits] at hdigits
  rw [← ofDigitChars_sequenceDigits sequence, hdigits, ofDigitChars_sequenceDigits]

/-- The name of a migration's file ends as files for the migration do. -/
theorem hasEnding_migrationFileName (layout : Layout) (sequence : Nat) (name : String) :
    hasEnding (migrationEnding name) (layout.migrationFileName sequence name) = true :=
  hasEnding_iff.mpr ⟨layout.migrationLead sequence, by
    simp [migrationFileName, migrationLead, migrationEnding, String.append_assoc]⟩

/-- When something written with digits and low lines stands before one name and anything before
another one that begins with another character, the first name ends in the second. -/
theorem eq_or_ends_of_append_eq {lead stem name other : List Char} {first : Char}
    (hlead : ∀ c ∈ lead, isStampChar c = true) (hfirst : isStampChar first = false)
    (heq : lead ++ '_' :: name = stem ++ '_' :: first :: other) :
    name = first :: other ∨ ∃ front, name = front ++ '_' :: first :: other := by
  rcases List.append_eq_append_iff.mp heq with ⟨between, -, hbetween⟩ | ⟨between, hsplit, hbetween⟩
  · cases between with
    | nil => exact .inl (List.cons.inj hbetween).2
    | cons c front => exact .inr ⟨front, (List.cons.inj hbetween).2⟩
  · -- The second name would begin within what stands before the first.
    cases between with
    | nil => exact .inl (List.cons.inj hbetween).2.symm
    | cons c front =>
        have hin : first ∈ front ++ ['_'] := by
          have hhead := (List.cons.inj hbetween).2
          cases front with
          | nil => simp [(List.cons.inj hhead).1]
          | cons d rest => simp [(List.cons.inj hhead).1]
        rcases List.mem_append.mp hin with hfront | hline
        · rw [hlead first (by simp [hsplit, hfront])] at hfirst
          cases hfirst
        · obtain rfl := List.mem_singleton.mp hline
          cases hfirst

/-- The file of a migration is taken for a file of another one exactly if they have the same name
or the name of the first ends in the name of the other. -/
theorem hasEnding_migrationFileName_iff (hstamp : isDateStamp layout.stamp = true) (sequence : Nat)
    (table other : String) :
    hasEnding (migrationEnding (migrationName other))
        (layout.migrationFileName sequence (migrationName table)) = true ↔
      migrationName table = migrationName other ∨
        hasEnding ("_" ++ migrationName other) (migrationName table) = true := by
  constructor
  · intro h
    obtain ⟨stem, hstem⟩ := hasEnding_iff.mp h
    obtain ⟨rest, hother⟩ : ∃ rest, (migrationName other).toList = 'c' :: rest :=
      ⟨_, by rw [migrationName, String.append_assoc, String.toList_append]; rfl⟩
    have hchars : (layout.migrationLead sequence).toList ++ '_' :: (migrationName table).toList =
        stem.toList ++ '_' :: 'c' :: rest := by
      apply (List.append_left_inj ".php".toList).mp
      have hlists := congrArg String.toList hstem
      simpa [migrationFileName, migrationLead, migrationEnding, hother] using hlists
    rcases eq_or_ends_of_append_eq (fun c => isStampChar_of_mem_migrationLead hstamp) (by decide)
      hchars with hsame | ⟨front, hfront⟩
    · exact .inl (String.toList_injective (hsame.trans hother.symm))
    · refine .inr (hasEnding_iff.mpr ⟨String.ofList front, ?_⟩)
      apply String.toList_injective
      simp [hfront, hother]
  · rintro (hsame | hends)
    · rw [hsame]
      exact hasEnding_migrationFileName layout sequence _
    · obtain ⟨front, hfront⟩ := hasEnding_iff.mp hends
      rw [hfront]
      exact hasEnding_iff.mpr ⟨layout.migrationLead sequence ++ "_" ++ front, by
        simp [migrationFileName, migrationLead, migrationEnding, String.append_assoc]⟩

/-- A number below a million is written with six digits. -/
theorem toList_sequenceDigits {sequence : Nat} (hfits : sequence < 10 ^ 6) :
    (sequenceDigits sequence).toList = Text.Utf8.padded 6 sequence := by
  rw [Text.Utf8.padded_eq hfits, sequenceDigits, String.toList_append, String.toList_ofList,
    Nat.toString_eq_repr, Nat.toList_repr, ← String.length_toList, Nat.toList_repr]

/-- Up to a million, the files of migrations come in the order of their numbers. -/
theorem migrationFileName_lt (layout : Layout) {sequence later : Nat} (hlt : sequence < later)
    (hlater : later < 10 ^ 6) (name other : String) :
    Text.Utf8.encode (layout.migrationFileName sequence name) <
      Text.Utf8.encode (layout.migrationFileName later other) := by
  simp only [migrationFileName, Text.Utf8.encode_eq, String.toList_append, String.append_assoc,
    Text.Utf8.encodeChars_append, toList_sequenceDigits hlater,
    toList_sequenceDigits (Nat.lt_trans hlt hlater)]
  apply List.append_left_lt
  apply List.append_left_lt
  exact Text.Utf8.padded_lt hlt hlater _ _

end SchemaScaffold.Layout

namespace SchemaScaffold.Generation

open Convention (modelName migrationName)
open Schema (Table)
open Text (hasEnding hasEnding_iff)

/-- If a name is taken for a file of two migrations, then they have the same name or one of the
names ends in the other. -/
theorem related_of_hasEnding {name other file : String}
    (hname : hasEnding (migrationEnding name) file = true)
    (hother : hasEnding (migrationEnding other) file = true) :
    name = other ∨ hasEnding ("_" ++ other) name = true ∨ hasEnding ("_" ++ name) other = true := by
  obtain ⟨stem, rfl⟩ := hasEnding_iff.mp hname
  obtain ⟨lead, hlead⟩ := hasEnding_iff.mp hother
  have hchars : stem.toList ++ '_' :: name.toList = lead.toList ++ '_' :: other.toList := by
    apply (List.append_left_inj ".php".toList).mp
    simpa [migrationEnding] using congrArg String.toList hlead
  have hends {long short : String} {front : List Char}
      (hlong : long.toList = front ++ '_' :: short.toList) :
      hasEnding ("_" ++ short) long = true := by
    refine hasEnding_iff.mpr ⟨String.ofList front, String.toList_injective ?_⟩
    simp [hlong]
  rcases List.append_eq_append_iff.mp hchars with ⟨between, -, hrest⟩ | ⟨between, -, hrest⟩
  · cases between with
    | nil => exact .inl (String.toList_injective (List.cons.inj hrest).2)
    | cons c front => exact .inr (.inl (hends (List.cons.inj hrest).2))
  · cases between with
    | nil => exact .inl (String.toList_injective (List.cons.inj hrest).2.symm)
    | cons c front => exact .inr (.inr (hends (List.cons.inj hrest).2))

/-- No name is taken for a file of the migrations of both tables: the names of the migrations are
not the same, and none of them ends in the other. -/
def Unrelated (table other : Table) : Prop :=
  migrationName table.name ≠ migrationName other.name ∧
    hasEnding ("_" ++ migrationName other.name) (migrationName table.name) = false ∧
    hasEnding ("_" ++ migrationName table.name) (migrationName other.name) = false

instance (table other : Table) : Decidable (Unrelated table other) :=
  inferInstanceAs (Decidable (_ ∧ _ ∧ _))

/-- A file for the migration of a table is not taken for that of an unrelated one. -/
theorem Unrelated.not_hasEnding {table other : Table} (hunrelated : Unrelated table other)
    {file : String} (hfile : hasEnding (migrationEnding (migrationName table.name)) file = true) :
    hasEnding (migrationEnding (migrationName other.name)) file = false := by
  obtain ⟨hne, hends, hends'⟩ := hunrelated
  refine Bool.eq_false_iff.mpr fun hother => ?_
  rcases related_of_hasEnding hfile hother with hsame | h | h
  · exact hne hsame
  · exact Bool.false_ne_true (hends.symm.trans h)
  · exact Bool.false_ne_true (hends'.symm.trans h)

/-- Being unrelated goes both ways. -/
theorem Unrelated.symm {table other : Table} (hunrelated : Unrelated table other) :
    Unrelated other table :=
  ⟨hunrelated.1.symm, hunrelated.2.2, hunrelated.2.1⟩

/-- Among unrelated tables, a file is for the migration of one at most. -/
theorem eq_of_hasEnding {tables : List Table} (hunrelated : tables.Pairwise Unrelated)
    {table other : Table} (htable : table ∈ tables) (hother : other ∈ tables) {file : String}
    (hfile : hasEnding (migrationEnding (migrationName table.name)) file = true)
    (hending : hasEnding (migrationEnding (migrationName other.name)) file = true) :
    table = other := by
  have hnot : ¬Unrelated table other := fun h =>
    Bool.false_ne_true ((h.not_hasEnding hfile).symm.trans hending)
  induction hunrelated with
  | nil => cases htable
  | @cons first rest hfirst _ ih =>
      rcases List.mem_cons.mp htable with rfl | hin
      · rcases List.mem_cons.mp hother with rfl | hlater
        · rfl
        · exact absurd (hfirst other hlater) hnot
      · rcases List.mem_cons.mp hother with rfl | hlater
        · exact absurd (hfirst table hin).symm hnot
        · exact ih hin hlater

/-- The file of a model is not taken for that of a migration: no class name has a low line. -/
theorem not_hasEnding_modelFile (name table : String) :
    hasEnding (migrationEnding name) (modelName table ++ ".php") = false := by
  refine Bool.eq_false_iff.mpr fun h => ?_
  obtain ⟨stem, hstem⟩ := hasEnding_iff.mp h
  have hsame : modelName table = stem ++ "_" ++ name := by
    apply (String.append_left_inj ".php").mp
    rw [hstem, migrationEnding]
    simp [String.append_assoc]
  have hline : '_' ∈ (modelName table).toList := by
    simp [hsame]
  exact Text.ne_of_isNameChar (Text.isNameChar_upperCamelCase hline) (by decide) rfl

end SchemaScaffold.Generation
