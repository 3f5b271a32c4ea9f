import SchemaScaffold.Proofs.Stub.Cutting

/-!
# When filling one name after another fills all places at once

A value that spells the place of a later name is changed on the way. This cannot be undone: as
values hold quotes and places do not, each change adds quotes or else takes characters away. So
the text comes out as if all places were filled at once exactly when no value spells the place of
a later name.
-/

namespace SchemaScaffold.Stub

open Text (replaceFrom)

/-- More quotes, or as many in fewer characters. -/
def Exceeds (second first : List Char) : Prop :=
  first.count '\'' < second.count '\'' ∨
    first.count '\'' = second.count '\'' ∧ second.length < first.length

/-- No text exceeds itself. -/
theorem Exceeds.irrefl (chars : List Char) : ¬Exceeds chars chars := by
  unfold Exceeds
  omega

/-- Exceeding again is exceeding. -/
theorem Exceeds.trans {first second third : List Char} (hfirst : Exceeds second first)
    (hsecond : Exceeds third second) : Exceeds third first := by
  unfold Exceeds at *
  omega

/-- Texts are compared behind a common start. -/
theorem Exceeds.append_left (start : List Char) {first second : List Char}
    (hexceeds : Exceeds second first) : Exceeds (start ++ second) (start ++ first) := by
  unfold Exceeds at *
  simp only [List.count_append, List.length_append]
  omega

/-- Texts that exceed others, or are the same, do so together. -/
theorem Exceeds.append {first second start stop : List Char} (hstart : Exceeds stop start)
    (hrest : second = first ∨ Exceeds second first) : Exceeds (stop ++ second) (start ++ first) := by
  unfold Exceeds at *
  simp only [List.count_append, List.length_append]
  rcases hrest with rfl | hrest
  · omega
  · omega

/-- A value that changes a text for good: it holds a quote or is empty. -/
def IsQuoted (value : List Char) : Prop := '\'' ∈ value ∨ value = []

/-- Replacing a text without quotes by a value changes what it occurs in, for good. -/
theorem replaceFrom_exceeds {pattern value : List Char} (hpattern : pattern ≠ [])
    (hunquoted : '\'' ∉ pattern) (hvalue : IsQuoted value) (chars : List Char) :
    ¬pattern <:+: chars ∨ Exceeds (replaceFrom pattern value 0 chars) chars := by
  induction chars using Text.occurrence_induction hpattern with
  | nil =>
      refine Or.inl fun hinfix => hpattern ?_
      exact List.infix_nil.mp hinfix
  | occurrence rest ih =>
      right
      rw [Text.replaceFrom_append_pattern hpattern]
      have hrest : replaceFrom pattern value 0 rest = rest ∨
          Exceeds (replaceFrom pattern value 0 rest) rest := by
        rcases ih with hnone | hexceeds
        · exact Or.inl (Text.replaceFrom_of_absent hnone value)
        · exact Or.inr hexceeds
      refine Exceeds.append ?_ hrest
      -- With the occurrence no quote goes; the value brings one, or the text gets shorter.
      have hnone := List.count_eq_zero_of_not_mem hunquoted
      rcases hvalue with hquote | hempty
      · have hsome := List.count_pos_iff.mpr hquote
        exact Or.inl (by omega)
      · rw [hempty]
        exact Or.inr ⟨hnone, List.length_pos_iff.mpr hpattern⟩
  | char c rest hnone ih =>
      rcases ih with habsent | hexceeds
      · refine Or.inl fun hinfix => ?_
        rcases List.infix_cons_iff.mp hinfix with hstart | hrest
        · exact hnone hstart
        · exact habsent hrest
      · right
        rw [Text.replaceFrom_cons hnone]
        exact hexceeds.append_left [c]

/-- Names whose places hold no quote, with values that change texts for good. -/
def Marked (values : List (String × String)) : Prop :=
  ∀ value ∈ values, '\'' ∉ placeChars value.1 ∧ IsQuoted value.2.toList

/-- A text that spells none of the places stays as it is. -/
theorem fillChars_of_absent {values : List (String × String)} {chars : List Char}
    (hnone : ∀ value ∈ values, ¬placeChars value.1 <:+: chars) :
    fillChars chars values = chars := by
  induction values with
  | nil => rfl
  | cons value rest ih =>
      obtain ⟨hvalue, hrest⟩ := List.forall_mem_cons.mp hnone
      show fillChars (replaceFrom (placeChars value.1) value.2.toList 0 chars) rest = chars
      rw [Text.replaceFrom_of_absent hvalue, ih hrest]

/-- A text that spells one of the places is changed for good. -/
theorem fillChars_exceeds {values : List (String × String)} (hmarked : Marked values)
    (chars : List Char) :
    (∀ value ∈ values, ¬placeChars value.1 <:+: chars) ∨
      Exceeds (fillChars chars values) chars := by
  induction values generalizing chars with
  | nil => exact Or.inl fun _ hmem => nomatch hmem
  | cons value rest ih =>
      obtain ⟨⟨hunquoted, hquoted⟩, hrest⟩ := List.forall_mem_cons.mp hmarked
      let next := replaceFrom (placeChars value.1) value.2.toList 0 chars
      show _ ∨ Exceeds (fillChars next rest) chars
      have hnext := ih hrest next
      rcases replaceFrom_exceeds (placeChars_ne_nil value.1) hunquoted hquoted chars with
        hnone | hexceeds
      · have hsame : next = chars := Text.replaceFrom_of_absent hnone _
        rw [hsame] at hnext ⊢
        exact hnext.imp_left fun hothers => List.forall_mem_cons.mpr ⟨hnone, hothers⟩
      · right
        rcases hnext with hothers | hmore
        · rw [fillChars_of_absent hothers]
          exact hexceeds
        · exact hexceeds.trans hmore

/-- A text either stays as it is or is changed for good. -/
theorem fillChars_eq_or_exceeds {values : List (String × String)} (hmarked : Marked values)
    (chars : List Char) :
    fillChars chars values = chars ∨ Exceeds (fillChars chars values) chars :=
  (fillChars_exceeds hmarked chars).imp_left fillChars_of_absent

/-- A text stays as it is exactly when it spells none of the places. -/
theorem fillChars_eq_self_iff {values : List (String × String)} (hmarked : Marked values)
    (chars : List Char) :
    fillChars chars values = chars ↔ ∀ value ∈ values, ¬placeChars value.1 <:+: chars := by
  constructor
  · intro hsame
    rcases fillChars_exceeds hmarked chars with hnone | hexceeds
    · exact hnone
    · rw [hsame] at hexceeds
      exact absurd hexceeds (Exceeds.irrefl chars)
  · exact fillChars_of_absent

/-- When every place is spelt the same or changed for good, the whole text is the same only if
every place is. -/
theorem spell_exceeds {first second : String → List Char} {pieces : List Piece}
    (hplaces : ∀ name, .place name ∈ pieces →
      second name = first name ∨ Exceeds (second name) (first name)) :
    (∀ name, .place name ∈ pieces → second name = first name) ∨
      Exceeds (spell second pieces) (spell first pieces) := by
  induction pieces with
  | nil => exact Or.inl fun _ hmem => nomatch hmem
  | cons piece rest ih =>
      have hrest := ih fun name hname => hplaces name (List.mem_cons_of_mem _ hname)
      cases piece with
      | text chars =>
          refine hrest.imp ?_ ?_
          · intro hsame name hname
            rcases List.mem_cons.mp hname with h | h
            · cases h
            · exact hsame name h
          · intro hexceeds
            rw [spell_text, spell_text]
            exact hexceeds.append_left chars
      | place name =>
          rw [spell_place, spell_place]
          rcases hplaces name List.mem_cons_self with hsame | hexceeds
          · refine hrest.imp ?_ ?_
            · intro hothers other hother
              rcases List.mem_cons.mp hother with h | h
              · cases h
                exact hsame
              · exact hothers other h
            · intro hexceeds
              rw [hsame]
              exact hexceeds.append_left (first name)
          · right
            refine hexceeds.append (hrest.imp_left fun hsame => ?_)
            exact spell_congr hsame

/-- No value spells the place of a later name. -/
def Undisturbed (values : List (String × String)) : Prop :=
  values.Pairwise fun earlier later => ¬placeChars later.1 <:+: earlier.2.toList

instance (values : List (String × String)) : Decidable (Undisturbed values) :=
  inferInstanceAs (Decidable (values.Pairwise _))

/-- Undisturbed values are settled as they are. -/
theorem settled_eq_self {values : List (String × String)} (hundisturbed : Undisturbed values) :
    settled values = values := by
  induction values with
  | nil => rfl
  | cons value rest ih =>
      obtain ⟨hvalue, hrest⟩ := List.pairwise_cons.mp hundisturbed
      have hsame : fill value.2 rest = value.2 := by
        rw [← String.toList_inj, toList_fill, fillChars_of_absent hvalue]
      rw [settled, ih hrest, hsame]

/-- No two opening braces stand next to each other. -/
def Unbraced (chars : List Char) : Prop := ¬['\x7b', '\x7b'] <:+: chars

instance (chars : List Char) : Decidable (Unbraced chars) :=
  inferInstanceAs (Decidable (¬_))

/-- A value in which no place begins is settled as it is. -/
theorem valueOf_settled_of_unbraced {values : List (String × String)} {name : String}
    {chars : List Char} (hvalue : valueOf values name = chars) (hchars : Unbraced chars) :
    valueOf (settled values) name = chars := by
  induction values with
  | nil => exact hvalue
  | cons value rest ih =>
      obtain ⟨first, text⟩ := value
      unfold valueOf at ih hvalue ⊢
      rw [List.lookup_cons] at hvalue
      rw [settled, List.lookup_cons]
      by_cases hsame : name = first
      · subst hsame
        rw [beq_self_eq_true] at hvalue ⊢
        simp only [Option.getD_some, toList_fill] at hvalue ⊢
        rw [hvalue]
        apply fillChars_of_absent
        intro other _ hplace
        have hbraces : ['\x7b', '\x7b'] <+: placeChars other.1 := ⟨_, rfl⟩
        exact hchars (hbraces.isInfix.trans hplace)
      · rw [beq_false_of_ne hsame] at hvalue ⊢
        exact ih hvalue

/-- A settled value is the value or exceeds it, when all later values are marked. -/
theorem valueOf_settled {values : List (String × String)} (hmarked : Marked values.tail)
    (name : String) :
    valueOf (settled values) name = valueOf values name ∨
      Exceeds (valueOf (settled values) name) (valueOf values name) := by
  induction values with
  | nil => exact Or.inl rfl
  | cons value rest ih =>
      obtain ⟨first, text⟩ := value
      unfold valueOf at ih ⊢
      rw [settled, List.lookup_cons, List.lookup_cons]
      by_cases hsame : name = first
      · subst hsame
        rw [beq_self_eq_true]
        simp only [Option.getD_some, toList_fill]
        exact fillChars_eq_or_exceeds hmarked text.toList
      · rw [beq_false_of_ne hsame]
        exact ih fun other hother => hmarked other (List.mem_of_mem_tail hother)

/-- When settling leaves the value of every name alone, the values are undisturbed. -/
theorem undisturbed_of_valueOf_settled {values : List (String × String)}
    (hmarked : Marked values.tail) (hnames : (values.map Prod.fst).Nodup)
    (hsame : ∀ name ∈ values.map Prod.fst, valueOf (settled values) name = valueOf values name) :
    Undisturbed values := by
  induction values with
  | nil => exact List.Pairwise.nil
  | cons value rest ih =>
      obtain ⟨first, text⟩ := value
      obtain ⟨hfirst, hnodup⟩ := List.nodup_cons.mp hnames
      have hmarkedRest : Marked rest.tail := fun other hother =>
        hmarked other (List.mem_of_mem_tail hother)
      refine List.pairwise_cons.mpr ⟨?_, ih hmarkedRest hnodup ?_⟩
      · have htext := hsame first List.mem_cons_self
        unfold valueOf at htext
        rw [settled, List.lookup_cons_self, List.lookup_cons_self, Option.getD_some,
          Option.getD_some, toList_fill] at htext
        exact (fillChars_eq_self_iff hmarked text.toList).mp htext
      · intro name hname
        have hne : name ≠ first := by
          rintro rfl
          exact hfirst hname
        have hvalue := hsame name (List.mem_cons_of_mem _ hname)
        unfold valueOf at hvalue ⊢
        rw [settled, List.lookup_cons, List.lookup_cons, beq_false_of_ne hne] at hvalue
        exact hvalue

/-- A clean stub comes out as if its places were filled at once
exactly when no value spells the place of a later name. -/
theorem fill_eq_fillAtOnce_iff {stub : String} {values : List (String × String)}
    (hclean : Clean (values.map Prod.fst) stub) (hmarked : Marked values.tail) :
    fill stub values = fillAtOnce stub values ↔ Undisturbed values := by
  constructor
  · intro hfill
    have hnodup : (values.map Prod.fst).Nodup := by
      refine hclean.apart.imp ?_
      rintro earlier later hapart rfl
      exact hapart List.infix_rfl
    refine undisturbed_of_valueOf_settled hmarked hnodup fun name hname => ?_
    rw [fill_eq_fillAtOnce hclean, fillAtOnce, fillAtOnce, map_fst_settled,
      String.ofList_inj] at hfill
    rcases spell_exceeds fun name (_ : .place name ∈ cut (values.map Prod.fst) stub) =>
        valueOf_settled hmarked name with hsame | hexceeds
    · exact hsame name (hclean.present name hname)
    · rw [hfill] at hexceeds
      exact absurd hexceeds (Exceeds.irrefl _)
  · intro hundisturbed
    rw [fill_eq_fillAtOnce hclean, settled_eq_self hundisturbed]

end SchemaScaffold.Stub
