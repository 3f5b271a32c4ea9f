import SchemaScaffold.Pattern
import SchemaScaffold.Proofs.Text.CaseImage

/-!
# What patterns take

A search tries the alternatives of a pattern in their order. Which of them it ends with hardly ever
matters, so `Takes` says where a pattern can lead at all, and whatever a search finds is among that.
What holds of all that a pattern can take shows in its form: whether it is ever nothing, whether it
can start with an ASCII digit, and whether the first remembered stretch is its start.
-/

namespace SchemaScaffold.Pattern

/-- The test of a pattern that takes exactly one character. -/
def test? : Pattern → Option (Char → Bool)
  | letter c => some (folded · == folded c)
  | oneOf chars => some fun c => chars.contains (folded c)
  | noneOf chars => some fun c => !chars.contains (folded c)
  | beyondAscii => some fun c => 128 ≤ (folded c).toNat
  | separator => some fun c => !Text.isWordChar c
  | _ => none

/-- Remember what stands between two places. -/
def Place.remember (stop place : Place) : Place :=
  { stop with captures := place.rest.take (place.rest.length - stop.rest.length) :: stop.captures }

/-- The pattern can lead from the one place to the other. -/
inductive Takes : Pattern → Place → Place → Prop
  | char {pattern : Pattern} {test : Char → Bool} {before : Option Char} {c : Char}
      {rest : List Char} {captures : List (List Char)} (htest : pattern.test? = some test)
      (hc : test c = true) :
      Takes pattern ⟨before, c :: rest, captures⟩ ⟨some c, rest, captures⟩
  | empty {place : Place} : Takes .empty place place
  | start {place : Place} (hbefore : place.before = none) : Takes .start place place
  | finish {place : Place} (hrest : place.rest = []) : Takes .finish place place
  | boundary {place : Place} (hboundary : place.atBoundary = true) : Takes .boundary place place
  | seq {first second : Pattern} {place middle stop : Place} (hfirst : Takes first place middle)
      (hsecond : Takes second middle stop) : Takes (.seq first second) place stop
  | first {first second : Pattern} {place stop : Place} (hfirst : Takes first place stop) :
      Takes (.alt first second) place stop
  | second {first second : Pattern} {place stop : Place} (hsecond : Takes second place stop) :
      Takes (.alt first second) place stop
  | present {body : Pattern} {place stop : Place} (hbody : Takes body place stop) :
      Takes (.optional body) place stop
  | absent {body : Pattern} {place : Place} : Takes (.optional body) place place
  | group {body : Pattern} {place stop : Place} (hbody : Takes body place stop) :
      Takes (.group body) place (stop.remember place)

/-- A step over one character and what follows it. -/
theorem exists_takes_of_step {pattern : Pattern} {test : Char → Bool} {place final : Place}
    {next : Place → Option Place} (htest : pattern.test? = some test)
    (hbind : (place.step test).bind next = some final) :
    ∃ stop, Takes pattern place stop ∧ next stop = some final := by
  obtain ⟨stop, hstep, hnext⟩ := Option.bind_eq_some_iff.mp hbind
  refine ⟨stop, ?_, hnext⟩
  obtain ⟨before, rest, captures⟩ := place
  cases rest with
  | nil => cases hstep
  | cons c rest =>
      simp only [Place.step] at hstep
      split at hstep
      case isTrue hc =>
        obtain rfl := Option.some.inj hstep
        exact .char htest hc
      case isFalse => cases hstep

/-- A match passes a place that the pattern can lead to, and goes on from there. -/
theorem exists_takes_of_run {pattern : Pattern} {place final : Place} {next : Place → Option Place}
    (hrun : pattern.run place next = some final) :
    ∃ stop, Takes pattern place stop ∧ next stop = some final := by
  induction pattern generalizing place next with
  | empty => exact ⟨place, .empty, hrun⟩
  | letter | oneOf | noneOf | beyondAscii | separator => exact exists_takes_of_step rfl hrun
  | start =>
      simp only [run, Option.isNone_iff_eq_none] at hrun
      split at hrun
      case isTrue hbefore => exact ⟨place, .start hbefore, hrun⟩
      case isFalse => cases hrun
  | finish =>
      simp only [run, List.isEmpty_iff] at hrun
      split at hrun
      case isTrue hrest => exact ⟨place, .finish hrest, hrun⟩
      case isFalse => cases hrun
  | boundary =>
      simp only [run] at hrun
      split at hrun
      case isTrue hboundary => exact ⟨place, .boundary hboundary, hrun⟩
      case isFalse => cases hrun
  | seq first second ihfirst ihsecond =>
      obtain ⟨middle, hfirst, hrest⟩ := ihfirst hrun
      obtain ⟨stop, hsecond, hnext⟩ := ihsecond hrest
      exact ⟨stop, .seq hfirst hsecond, hnext⟩
  | alt first second ihfirst ihsecond =>
      rcases Option.or_eq_some_iff.mp hrun with hfirst | ⟨-, hsecond⟩
      · obtain ⟨stop, htakes, hnext⟩ := ihfirst hfirst
        exact ⟨stop, .first htakes, hnext⟩
      · obtain ⟨stop, htakes, hnext⟩ := ihsecond hsecond
        exact ⟨stop, .second htakes, hnext⟩
  | optional body ih =>
      rcases Option.or_eq_some_iff.mp hrun with hbody | ⟨-, hnext⟩
      · obtain ⟨stop, htakes, hnext⟩ := ih hbody
        exact ⟨stop, .present htakes, hnext⟩
      · exact ⟨place, .absent, hnext⟩
  | group body ih =>
      obtain ⟨stop, htakes, hnext⟩ := ih hrun
      exact ⟨stop.remember place, .group htakes, hnext⟩

/-- A stretch that the pattern takes somewhere in a text. -/
inductive IsHit (pattern : Pattern) (text : List Char) : Hit → Prop
  | intro {passed rest : List Char} {stop : Place} (htext : text = passed.reverse ++ rest)
      (htakes : Takes pattern ⟨passed.head?, rest, []⟩ stop) :
      IsHit pattern text ⟨passed.reverse, rest.take (rest.length - stop.rest.length), stop.rest,
        stop.captures.reverse⟩

/-- What is found in a text is taken somewhere in it. -/
theorem isHit_of_search {pattern : Pattern} {text : List Char} {hit : Hit}
    (hsearch : pattern.search text = some hit) : IsHit pattern text hit := by
  have hhere {passed rest : List Char} (htext : text = passed.reverse ++ rest)
      (hhit : pattern.hitAt passed rest = some hit) : IsHit pattern text hit := by
    obtain ⟨final, hrun, rfl⟩ := Option.map_eq_some_iff.mp hhit
    obtain ⟨stop, htakes, hstop⟩ := exists_takes_of_run hrun
    obtain rfl := Option.some.inj hstop
    exact .intro htext htakes
  have hfrom (passed rest : List Char) (htext : text = passed.reverse ++ rest)
      (hfound : pattern.searchFrom passed rest = some hit) : IsHit pattern text hit := by
    induction rest generalizing passed with
    | nil => exact hhere htext hfound
    | cons c rest ih =>
        rcases Option.or_eq_some_iff.mp hfound with hhit | ⟨-, hlater⟩
        · exact hhere htext hhit
        · exact ih (c :: passed) (by simpa using htext) hlater
  exact hfrom [] text rfl hsearch

/-- The pattern never takes nothing. -/
def consumes : Pattern → Bool
  | letter _ | oneOf _ | noneOf _ | beyondAscii | separator => true
  | empty | start | finish | boundary | optional _ => false
  | seq first second => first.consumes || second.consumes
  | alt first second => first.consumes && second.consumes
  | group body => body.consumes

/-- What the pattern takes never starts with an ASCII digit. -/
def shunsDigits : Pattern → Bool
  | letter c => !(folded c).isDigit
  | oneOf chars => chars.all fun c => !c.isDigit
  | noneOf _ | beyondAscii | separator => false
  | empty | start | finish | boundary => true
  | seq first second => first.shunsDigits && (first.consumes || second.shunsDigits)
  | alt first second => first.shunsDigits && second.shunsDigits
  | optional body | group body => body.shunsDigits

/-- The pattern looks at a place and takes nothing. -/
def onlyLooks : Pattern → Bool
  | empty | start | finish | boundary => true
  | _ => false

/-- The pattern remembers nothing. -/
def forgets : Pattern → Bool
  | group _ => false
  | seq first second | alt first second => first.forgets && second.forgets
  | optional body => body.forgets
  | _ => true

/-- The first stretch that the pattern remembers is the start of what it takes, and is not empty. -/
def remembersStart : Pattern → Bool
  | group body => body.forgets && body.consumes
  | seq first second => first.remembersStart || (first.onlyLooks && second.remembersStart)
  | alt first second => first.remembersStart && second.remembersStart
  | _ => false

/-- A character that is compared as something other than a digit is no digit. -/
theorem isDigit_eq_false_of_folded {c : Char} (hfolded : (folded c).isDigit = false) :
    c.isDigit = false := by
  by_cases hplain : c.toNat < 128
  · exact Text.of_plain (p := fun c => (folded c).isDigit = false → c.isDigit = false)
      (by decide +kernel) hplain hfolded
  · exact Text.isDigit_of_beyond hplain

/-- The pattern ends at the end of the text. -/
def endsText : Pattern → Bool
  | seq _ finish => true
  | _ => false

namespace Takes

variable {pattern : Pattern} {place stop : Place}

/-- What remains is an end of what there was. -/
theorem rest_suffix (htakes : Takes pattern place stop) : stop.rest <:+ place.rest := by
  induction htakes with
  | char htest hc => exact List.suffix_cons _ _
  | seq _ _ ihfirst ihsecond => exact ihsecond.trans ihfirst
  | first _ ih | second _ ih | present _ ih | group _ ih => exact ih
  | empty | start | finish | boundary | absent => exact List.suffix_refl _

/-- What is remembered comes on top of what was remembered before. -/
theorem captures_suffix (htakes : Takes pattern place stop) : place.captures <:+ stop.captures := by
  induction htakes with
  | seq _ _ ihfirst ihsecond => exact ihfirst.trans ihsecond
  | first _ ih | second _ ih | present _ ih => exact ih
  | group _ ih => exact ih.trans (List.suffix_cons _ _)
  | char | empty | start | finish | boundary | absent => exact List.suffix_refl _

/-- A pattern that never takes nothing takes something. -/
theorem length_lt (htakes : Takes pattern place stop) (hconsumes : pattern.consumes = true) :
    stop.rest.length < place.rest.length := by
  induction htakes with
  | char htest hc => exact Nat.lt_succ_self _
  | seq hfirst hsecond ihfirst ihsecond =>
      have hfirstLe := hfirst.rest_suffix.length_le
      have hsecondLe := hsecond.rest_suffix.length_le
      rcases Bool.or_eq_true_iff.mp hconsumes with hconsumes | hconsumes
      · exact Nat.lt_of_le_of_lt hsecondLe (ihfirst hconsumes)
      · exact Nat.lt_of_lt_of_le (ihsecond hconsumes) hfirstLe
  | first _ ih => exact ih (Bool.and_eq_true_iff.mp hconsumes).1
  | second _ ih => exact ih (Bool.and_eq_true_iff.mp hconsumes).2
  | group _ ih => exact ih hconsumes
  | empty | start | finish | boundary | present | absent => cases hconsumes

/-- A pattern that only looks leads nowhere else. -/
theorem eq_of_onlyLooks (htakes : Takes pattern place stop) (hlooks : pattern.onlyLooks = true) :
    stop = place := by
  cases htakes with
  | char htest =>
      cases pattern with
      | empty | start | finish | boundary => cases htest
      | _ => cases hlooks
  | empty | start | finish | boundary => rfl
  | seq | first | second | present | absent | group => cases hlooks

/-- A pattern that remembers nothing leaves what was remembered before. -/
theorem captures_eq (htakes : Takes pattern place stop) (hforgets : pattern.forgets = true) :
    stop.captures = place.captures := by
  induction htakes with
  | seq _ _ ihfirst ihsecond =>
      obtain ⟨hfirst, hsecond⟩ := Bool.and_eq_true_iff.mp hforgets
      rw [ihsecond hsecond, ihfirst hfirst]
  | first _ ih => exact ih (Bool.and_eq_true_iff.mp hforgets).1
  | second _ ih => exact ih (Bool.and_eq_true_iff.mp hforgets).2
  | present _ ih => exact ih hforgets
  | group => cases hforgets
  | char | empty | start | finish | boundary | absent => rfl

/-- A pattern that shuns digits takes nothing, or something that starts with no ASCII digit. -/
theorem rest_eq_or_of_shunsDigits (htakes : Takes pattern place stop)
    (hshuns : pattern.shunsDigits = true) :
    stop.rest = place.rest ∨ ∃ c rest, place.rest = c :: rest ∧ c.isDigit = false := by
  induction htakes with
  | @char pattern test before c rest captures htest hc =>
      refine .inr ⟨c, rest, rfl, isDigit_eq_false_of_folded ?_⟩
      cases pattern with
      | letter other =>
          obtain rfl := Option.some.inj htest
          rw [beq_iff_eq.mp hc]
          simpa [shunsDigits] using hshuns
      | oneOf chars =>
          obtain rfl := Option.some.inj htest
          have hnone := List.all_eq_true.mp hshuns _ (List.contains_iff_mem.mp hc)
          simpa using hnone
      | noneOf | beyondAscii | separator => cases hshuns
      | empty | start | finish | boundary | seq | alt | optional | group => cases htest
  | seq hfirst _ ihfirst ihsecond =>
      obtain ⟨hshunsFirst, hrest⟩ := Bool.and_eq_true_iff.mp hshuns
      rcases ihfirst hshunsFirst with hnothing | hsome
      · rcases Bool.or_eq_true_iff.mp hrest with hconsumes | hshunsSecond
        · exact absurd (hfirst.length_lt hconsumes) (by rw [hnothing]; exact Nat.lt_irrefl _)
        · rw [← hnothing]
          exact ihsecond hshunsSecond
      · exact .inr hsome
  | first _ ih => exact ih (Bool.and_eq_true_iff.mp hshuns).1
  | second _ ih => exact ih (Bool.and_eq_true_iff.mp hshuns).2
  | present _ ih | group _ ih => exact ih hshuns
  | empty | start | finish | boundary | absent => exact .inl rfl

/-- What a pattern remembers first, when it remembers its start. -/
theorem exists_capture (htakes : Takes pattern place stop)
    (hremembers : pattern.remembersStart = true) :
    ∃ later stretch, stop.captures = later ++ stretch :: place.captures ∧ stretch ≠ [] ∧
      stretch <+: place.rest := by
  induction htakes with
  | @group body place stop hbody =>
      obtain ⟨hforgets, hconsumes⟩ := Bool.and_eq_true_iff.mp hremembers
      have hless := hbody.length_lt hconsumes
      refine ⟨[], place.rest.take (place.rest.length - stop.rest.length), ?_, ?_,
        List.take_prefix _ _⟩
      · rw [Place.remember, hbody.captures_eq hforgets, List.nil_append]
      · rw [ne_eq, ← List.length_eq_zero_iff, List.length_take]
        omega
  | @seq first second place middle stop hfirst hsecond ihfirst ihsecond =>
      rcases Bool.or_eq_true_iff.mp hremembers with hstart | hrest
      · obtain ⟨later, stretch, hcaptures, hstretch⟩ := ihfirst hstart
        obtain ⟨more, hmore⟩ := hsecond.captures_suffix
        refine ⟨more ++ later, stretch, ?_, hstretch⟩
        rw [← hmore, hcaptures, List.append_assoc]
      · obtain ⟨hlooks, hsecondStart⟩ := Bool.and_eq_true_iff.mp hrest
        rw [hfirst.eq_of_onlyLooks hlooks] at ihsecond
        exact ihsecond hsecondStart
  | first _ ih => exact ih (Bool.and_eq_true_iff.mp hremembers).1
  | second _ ih => exact ih (Bool.and_eq_true_iff.mp hremembers).2
  | @char pattern test before c rest captures htest hc =>
      cases pattern with
      | seq | alt | group => cases htest
      | _ => cases hremembers
  | empty | start | finish | boundary | present | absent => cases hremembers

/-- A pattern that ends at the end of the text takes all of it. -/
theorem rest_eq_nil (htakes : Takes pattern place stop) (hends : pattern.endsText = true) :
    stop.rest = [] := by
  unfold endsText at hends
  split at hends
  case h_1 =>
    cases htakes with
    | char htest => cases htest
    | seq _ hfinish =>
        cases hfinish with
        | char htest => cases htest
        | finish hrest => exact hrest
  case h_2 => cases hends

end Takes

/-- A pattern that ends at the end of the text is found as the end of it, and as the whole text only
when it can take this from the start. -/
theorem IsHit.of_endsText {pattern : Pattern} {text : List Char} {hit : Hit}
    (hhit : IsHit pattern text hit) (hends : pattern.endsText = true) :
    hit.after = [] ∧ text = hit.before ++ hit.matched ∧
      (hit.before = [] → ∃ stop, Takes pattern ⟨none, text, []⟩ stop ∧
        hit.captures = stop.captures.reverse) := by
  obtain ⟨htext, htakes⟩ := hhit
  have hrest := htakes.rest_eq_nil hends
  refine ⟨hrest, ?_, fun hbefore => ?_⟩
  · rw [hrest, List.length_nil, Nat.sub_zero, List.take_length]
    exact htext
  · obtain rfl := List.reverse_eq_nil_iff.mp hbefore
    obtain rfl : text = _ := htext
    exact ⟨_, htakes, rfl⟩

end SchemaScaffold.Pattern
