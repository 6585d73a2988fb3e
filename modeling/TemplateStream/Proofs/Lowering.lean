import TemplateStream.Text.Blank
import TemplateStream.Text.Casing
import Mathlib.Data.List.DropRight

/-!
# What lower case leaves

The characters of a lower case have themselves as their lower case, so that taking it again makes
no difference. A set of characters that lower case neither leaves nor enters, such as the blanks,
stands in the lower case of a text where it stood in the text; so the lower case of a text less
the blanks at its ends is its lower case less the blanks at its ends.
-/

namespace TemplateStream.Text

namespace CaseRun

/-- Whether a run holds a code point. -/
def holds (run : CaseRun) (code : Nat) : Bool :=
  run.first ≤ code && code ≤ run.last && (code - run.first) % run.step == 0

/-- The code point at the distance of a run. -/
def shift (run : CaseRun) (code : Nat) : Nat := Int.toNat (code + run.distance)

/-- Whether a run holds no two neighbours. -/
def alternates (run : CaseRun) : Bool := run.step.beq 2 || run.first.beq run.last

/-- The other cases of a run are characters, one or two code points apart. -/
def Proper (run : CaseRun) : Prop :=
  (run.step = 1 ∨ run.step = 2) ∧ 0 ≤ run.first + run.distance ∧
    (run.shift run.last < 0xd800 ∨
      0xdfff < run.shift run.first ∧ run.shift run.last < 0x110000)

instance (run : CaseRun) : Decidable run.Proper := inferInstanceAs (Decidable (_ ∧ _))

/-- Whether the other cases of a run are outside of a range of code points. -/
def avoids (run : CaseRun) (first last : Nat) : Bool :=
  (run.shift run.last).blt first || last.blt (run.shift run.first)

/-- Whether the other cases of a run are not in another run: they are outside of its range, or they
fall between the code points that it holds. -/
def misses (run other : CaseRun) : Bool :=
  run.avoids other.first other.last ||
    (run.alternates && other.alternates && ((run.shift run.first + other.first) % 2).beq 1)

theorem holds_iff {run : CaseRun} {code : Nat} : run.holds code = true ↔
    run.first ≤ code ∧ code ≤ run.last ∧ (code - run.first) % run.step = 0 := by
  simp [holds, and_assoc]

/-- The image of a character is at the distance of the first run that holds it. -/
theorem image?_eq (runs : List CaseRun) (c : Char) :
    image? runs c = (runs.find? (·.holds c.toNat)).map fun run => Char.ofNat (run.shift c.toNat) :=
  rfl

variable {run other : CaseRun} {code : Nat}

/-- The other cases of a run keep their order. -/
theorem shift_bounds (held : run.holds code = true) :
    run.shift run.first ≤ run.shift code ∧ run.shift code ≤ run.shift run.last := by
  have ⟨above, below, _⟩ := holds_iff.mp held
  unfold shift
  omega

/-- The code points of a run without neighbours are all even or all odd. -/
theorem alternates_parity (alternates : run.alternates = true) (held : run.holds code = true) :
    code % 2 = run.first % 2 := by
  have ⟨above, below, place⟩ := holds_iff.mp held
  have either : run.step = 2 ∨ run.first = run.last := by
    simpa [CaseRun.alternates] using alternates
  cases either with
  | inl two =>
    rw [two] at place
    omega
  | inr single => omega

/-- What is outside of the range of the other cases is none of them. -/
theorem shift_avoids {first last : Nat} (avoids : run.avoids first last = true)
    (held : run.holds code = true) : ¬(first ≤ run.shift code ∧ run.shift code ≤ last) := by
  have bounds := shift_bounds held
  have outside : run.shift run.last < first ∨ last < run.shift run.first := by
    simpa [CaseRun.avoids] using avoids
  omega

/-- The other cases of a run are not held by a run that they miss. -/
theorem shift_misses (proper : run.Proper) (misses : run.misses other = true)
    (held : run.holds code = true) : other.holds (run.shift code) = false := by
  rw [← Bool.not_eq_true]
  intro image
  have ⟨above, below, _⟩ := holds_iff.mp image
  have either : run.avoids other.first other.last = true ∨
      (run.alternates = true ∧ other.alternates = true) ∧
        (run.shift run.first + other.first) % 2 = 1 := by
    simpa [CaseRun.misses] using misses
  rcases either with avoids | ⟨⟨alternates, others⟩, odd⟩
  · exact shift_avoids avoids held ⟨above, below⟩
  · have source := alternates_parity alternates held
    have target := alternates_parity others image
    have ⟨start, _, _⟩ := holds_iff.mp held
    have ⟨_, base, _⟩ := proper
    unfold shift at target odd
    omega

/-- The other case of a character is a character of the code point that the run gives it. -/
theorem toNat_shift (proper : run.Proper) (held : run.holds code = true) :
    (Char.ofNat (run.shift code)).toNat = run.shift code := by
  have bounds := shift_bounds held
  have ⟨_, _, valid⟩ := proper
  have isChar : (run.shift code).isValidChar := by
    unfold Nat.isValidChar
    omega
  rw [Char.ofNat, dif_pos isChar]
  rfl

end CaseRun

/-! ## The table of lower cases

The table is compared with itself run against run, since there are some hundred runs but more than
a thousand characters in them. -/

/-- The lower cases of the table are characters. -/
theorem lowerRuns_proper : ∀ run ∈ lowerRuns, run.Proper := by decide +kernel

/-- No lower case of the table has a lower case of its own in it. -/
theorem lowerRuns_miss : (lowerRuns.all fun run => lowerRuns.all run.misses) = true := by
  decide +kernel

/-- No lower case of the table is the capital with a dot above or the capital sigma, which have
their lower cases elsewhere. -/
theorem lowerRuns_avoid : ∀ run ∈ lowerRuns,
    run.avoids 0x130 0x130 = true ∧ run.avoids 0x3a3 0x3a3 = true := by
  decide +kernel

/-- The characters of lower cases that are not in the table have no lower cases in it either. -/
theorem lowerRuns_lack : ([0x69, 0x307, 0x3c2, 0x3c3].all fun code =>
    lowerRuns.all fun run => !run.holds code) = true := by
  decide +kernel

/-- A character that is its own lower case, wherever it stands. -/
def Lowered (c : Char) : Prop := c ≠ 'Σ' ∧ caseImage lowerRuns lowerExpansions c = [c]

/-- The lower case of a character between its neighbours. -/
def lowerBetween (before : List Char) (c : Char) (rest : List Char) : List Char :=
  if c == 'Σ' then
    if meetsCased before && !meetsCased rest then ['ς'] else ['σ']
  else caseImage lowerRuns lowerExpansions c

theorem lowerAfter_cons (before : List Char) (c : Char) (rest : List Char) :
    lowerAfter before (c :: rest) =
      lowerBetween before c rest ++ lowerAfter (c :: before) rest := rfl

/-- What the lower case of a character may be. -/
inductive Lowers : Char → List Char → Prop where
  | self {c : Char} (lowered : Lowered c) : Lowers c [c]
  | sigma {small : Char} (either : small = 'ς' ∨ small = 'σ') : Lowers 'Σ' [small]
  | dotted : Lowers 'İ' ['i', Char.ofNat 0x307]
  | shifted {c : Char} {run : CaseRun} (listed : run ∈ lowerRuns)
      (held : run.holds c.toNat = true) : Lowers c [Char.ofNat (run.shift c.toNat)]

/-- The capital with a dot above is the only character whose lower case is more than one. -/
theorem lookup_lowerExpansions {code : Nat} (dotted : code ≠ 0x130) :
    lowerExpansions.lookup code = none := by
  rw [lowerExpansions, List.lookup_cons, beq_eq_false_iff_ne.mpr dotted]
  rfl

/-- A character outside of all runs that has no expansion is its own lower case. -/
theorem lowered_of_absent {c : Char} (sigma : c.toNat ≠ 0x3a3) (dotted : c.toNat ≠ 0x130)
    (absent : ∀ run ∈ lowerRuns, run.holds c.toNat = false) : Lowered c := by
  have unlisted : CaseRun.image? lowerRuns c = none := by
    rw [CaseRun.image?_eq, List.find?_eq_none.mpr fun run listed => by simp [absent run listed]]
    rfl
  constructor
  · rintro rfl
    exact sigma rfl
  · rw [caseImage, lookup_lowerExpansions dotted, unlisted]
    rfl

theorem lowered_of_lacking {c : Char} (listed : c.toNat ∈ [0x69, 0x307, 0x3c2, 0x3c3]) :
    Lowered c := by
  have lacking := List.all_eq_true.mp lowerRuns_lack c.toNat listed
  have absent : ∀ run ∈ lowerRuns, run.holds c.toNat = false := by simpa using lacking
  have codes : ∀ code ∈ [0x69, 0x307, 0x3c2, 0x3c3], code ≠ 0x3a3 ∧ code ≠ 0x130 := by decide
  have ⟨sigma, dotted⟩ := codes c.toNat listed
  exact lowered_of_absent sigma dotted absent

/-- The lower case of a character has one of the four forms. -/
theorem lowerBetween_lowers (before : List Char) (c : Char) (rest : List Char) :
    Lowers c (lowerBetween before c rest) := by
  unfold lowerBetween
  by_cases sigma : c = 'Σ'
  · subst sigma
    rw [if_pos (beq_self_eq_true _)]
    split
    · exact .sigma (.inl rfl)
    · exact .sigma (.inr rfl)
  rw [if_neg (by simpa using sigma), caseImage]
  by_cases dotted : c.toNat = 0x130
  · have same : c = 'İ' := Char.toNat_inj.mp dotted
    subst same
    exact .dotted
  rw [lookup_lowerExpansions dotted, CaseRun.image?_eq]
  cases found : lowerRuns.find? (·.holds c.toNat) with
  | some run =>
    have held := List.find?_some found
    exact .shifted (List.mem_of_find?_eq_some found) held
  | none =>
    have absent : ∀ run ∈ lowerRuns, run.holds c.toNat = false := by
      simpa using List.find?_eq_none.mp found
    have other : c.toNat ≠ 0x3a3 := fun same => sigma (Char.toNat_inj.mp same)
    exact .self (lowered_of_absent other dotted absent)

/-- The characters of a lower case are their own lower cases. -/
theorem Lowers.lowered {c d : Char} {image : List Char} (lowers : Lowers c image)
    (member : d ∈ image) : Lowered d := by
  cases lowers with
  | self lowered =>
    rw [List.mem_singleton.mp member]
    exact lowered
  | sigma either =>
    rw [List.mem_singleton.mp member]
    rcases either with rfl | rfl
    · exact lowered_of_lacking (by decide)
    · exact lowered_of_lacking (by decide)
  | dotted =>
    rcases List.mem_pair.mp member with rfl | rfl
    · exact lowered_of_lacking (by decide)
    · exact lowered_of_lacking (by decide)
  | @shifted _ run listed held =>
    have proper := lowerRuns_proper run listed
    have code : d.toNat = run.shift c.toNat := by
      rw [List.mem_singleton.mp member, CaseRun.toNat_shift proper held]
    have avoid (special : Nat) (avoids : run.avoids special special = true) :
        d.toNat ≠ special := by
      have outside := CaseRun.shift_avoids avoids held
      omega
    have ⟨noDot, noSigma⟩ := lowerRuns_avoid run listed
    apply lowered_of_absent (avoid _ noSigma) (avoid _ noDot)
    intro other among
    rw [code]
    have all := List.all_eq_true.mp lowerRuns_miss run listed
    exact CaseRun.shift_misses proper (List.all_eq_true.mp all other among) held

/-! ## Lower case taken twice -/

theorem mem_lowerAfter {d : Char} {before chars : List Char}
    (member : d ∈ lowerAfter before chars) : ∃ c ∈ chars, ∃ image, Lowers c image ∧ d ∈ image := by
  induction chars generalizing before with
  | nil => cases member
  | cons c rest ih =>
    rw [lowerAfter_cons, List.mem_append] at member
    cases member with
    | inl here => exact ⟨c, List.mem_cons_self, _, lowerBetween_lowers before c rest, here⟩
    | inr later =>
      have ⟨source, inside, image⟩ := ih later
      exact ⟨source, List.mem_cons_of_mem _ inside, image⟩

/-- Characters that are their own lower cases are left as they are. -/
theorem lowerAfter_lowered {chars : List Char} (lowered : ∀ c ∈ chars, Lowered c)
    (before : List Char) : lowerAfter before chars = chars := by
  induction chars generalizing before with
  | nil => rfl
  | cons c rest ih =>
    have ⟨sigma, same⟩ := lowered c List.mem_cons_self
    have later := ih (fun d member => lowered d (List.mem_cons_of_mem _ member)) (c :: before)
    rw [lowerAfter_cons, lowerBetween, if_neg (by simpa using sigma), same, later]
    rfl

/-- The lower case of a lower case is itself. -/
theorem lower_lower (text : String) : lower (lower text) = lower text := by
  have lowered : ∀ d ∈ lowerAfter [] text.toList, Lowered d := by
    intro d member
    have ⟨c, _, image, lowers, inside⟩ := mem_lowerAfter member
    exact lowers.lowered inside
  rw [lower, lower, String.toList_ofList, lowerAfter_lowered lowered]

/-! ## Characters without case -/

namespace CharSet

/-- The capital with a dot above, the capital sigma, and the characters of their lower cases. -/
def outsideRuns : List Nat := [0x130, 0x69, 0x307, 0x3a3, 0x3c2, 0x3c3]

/-- A range of code points that lower case neither leaves nor enters. -/
def Untouched (range : Nat × Nat) : Prop :=
  (∀ run ∈ lowerRuns,
    (run.last < range.1 ∨ range.2 < run.first) ∧ run.avoids range.1 range.2 = true) ∧
  ∀ code ∈ outsideRuns, code < range.1 ∨ range.2 < code

instance (range : Nat × Nat) : Decidable (Untouched range) :=
  inferInstanceAs (Decidable (_ ∧ _))

/-- A set of characters that lower case neither leaves nor enters. -/
def Caseless (set : CharSet) : Prop := ∀ range ∈ set.runs, Untouched range

instance (set : CharSet) : Decidable set.Caseless :=
  inferInstanceAs (Decidable (∀ range ∈ set.runs, Untouched range))

theorem contains_iff {set : CharSet} {c : Char} : set.contains c = true ↔
    ∃ range ∈ set.runs, range.1 ≤ c.toNat ∧ c.toNat ≤ range.2 := by
  simp [contains]

variable {set : CharSet} {c d : Char}

/-- A character of a set without case is its own lower case. -/
theorem Caseless.lowered (caseless : set.Caseless) (member : set.contains c = true) :
    Lowered c := by
  have ⟨range, listed, above, below⟩ := contains_iff.mp member
  have ⟨apart, special⟩ := caseless range listed
  apply lowered_of_absent
  · have sigma := special 0x3a3 (by decide)
    omega
  · have dotted := special 0x130 (by decide)
    omega
  · intro run inside
    have ⟨outside, _⟩ := apart run inside
    rw [← Bool.not_eq_true, CaseRun.holds_iff]
    omega

/-- A lower case has a character of a set without case only from that character. -/
theorem Caseless.source (caseless : set.Caseless) {image : List Char} (lowers : Lowers c image)
    (inside : d ∈ image) (member : set.contains d = true) : d = c := by
  have ⟨range, listed, above, below⟩ := contains_iff.mp member
  have ⟨apart, special⟩ := caseless range listed
  cases lowers with
  | self lowered => exact List.mem_singleton.mp inside
  | sigma either =>
    have code : d.toNat ∈ outsideRuns := by
      rw [List.mem_singleton.mp inside]
      rcases either with rfl | rfl <;> decide
    have small := special d.toNat code
    omega
  | dotted =>
    have code : d.toNat ∈ outsideRuns := by
      rcases List.mem_pair.mp inside with rfl | rfl <;> decide
    have letter := special d.toNat code
    omega
  | @shifted _ run inRuns held =>
    rw [List.mem_singleton.mp inside, CaseRun.toNat_shift (lowerRuns_proper run inRuns) held]
      at above below
    exact absurd ⟨above, below⟩ (CaseRun.shift_avoids (apart run inRuns).2 held)

end CharSet

-- What follows from the next two is called by its full name: looking up a name behind that of a
-- theorem waits until its proof is evaluated.

/-- The blanks are without case. -/
theorem blanks_caseless : blanks.Caseless := by decide +kernel

/-- A dot is without case. -/
theorem dot_caseless : CharSet.Caseless ⟨[(0x2e, 0x2e)]⟩ := by decide +kernel

/-- Blanks do not make a word. -/
theorem cased_of_isBlank {c : Char} (blank : isBlank c = true) : cased.contains c = false := by
  have apart : ∀ range ∈ blanks.runs, ∀ letters ∈ cased.runs,
      letters.2 < range.1 ∨ range.2 < letters.1 := by decide +kernel
  have ⟨range, listed, above, below⟩ := CharSet.contains_iff.mp blank
  rw [← Bool.not_eq_true, CharSet.contains_iff]
  rintro ⟨letters, among, start, stop⟩
  have outside := apart range listed letters among
  omega

/-- The lower case of a text without dots has no dots. -/
theorem lower_dots {text : String} (absent : '.' ∉ text.toList) : '.' ∉ (lower text).toList := by
  rw [lower, String.toList_ofList]
  intro member
  have ⟨c, source, image, lowers, inside⟩ := mem_lowerAfter member
  have same : '.' = c := CharSet.Caseless.source dot_caseless lowers inside (by decide)
  exact absent (same ▸ source)

/-! ## Blanks at the ends -/

variable {before rest chars gap : List Char} {c : Char}

theorem lowerBetween_blank (blank : isBlank c = true) (before rest : List Char) :
    lowerBetween before c rest = [c] := by
  have ⟨sigma, same⟩ := CharSet.Caseless.lowered blanks_caseless blank
  rw [lowerBetween, if_neg (by simpa using sigma), same]

/-- The lower case of a character that is not blank has no blanks, and is not empty. -/
theorem lowerBetween_filled (filled : isBlank c = false) (before rest : List Char) :
    lowerBetween before c rest ≠ [] ∧
      ∀ d ∈ lowerBetween before c rest, isBlank d = false := by
  have lowers := lowerBetween_lowers before c rest
  constructor
  · intro empty
    rw [empty] at lowers
    cases lowers
  · intro d member
    by_contra blank
    rw [Bool.not_eq_false] at blank
    have same : d = c := CharSet.Caseless.source blanks_caseless lowers member blank
    rw [same, filled] at blank
    cases blank

/-- Blanks behind its neighbours do not change what a search for a cased character finds. -/
theorem meetsCased_append (blank : ∀ c ∈ gap, isBlank c = true) (chars : List Char) :
    meetsCased (chars ++ gap) = meetsCased chars := by
  induction chars with
  | nil =>
    rw [List.nil_append, meetsCased]
    split
    · rfl
    · rename_i c rest left
      have inside : c ∈ gap := by
        apply (List.dropWhile_suffix caseIgnorable.contains).mem
        rw [left]
        exact List.mem_cons_self
      exact cased_of_isBlank (blank c inside)
  | cons c rest ih =>
    unfold meetsCased at ih ⊢
    rw [List.cons_append]
    by_cases ignored : caseIgnorable.contains c = true
    · rw [List.dropWhile_cons_of_pos ignored, List.dropWhile_cons_of_pos ignored]
      exact ih
    · rw [List.dropWhile_cons_of_neg ignored, List.dropWhile_cons_of_neg ignored]

/-- Blanks in front of its neighbours do not change the lower case of a character, nor do blanks
behind them. -/
theorem lowerBetween_append {front back : List Char} (blankFront : ∀ c ∈ front, isBlank c = true)
    (blankBack : ∀ c ∈ back, isBlank c = true) (before : List Char) (c : Char)
    (rest : List Char) :
    lowerBetween (before ++ front) c (rest ++ back) = lowerBetween before c rest := by
  rw [lowerBetween, lowerBetween, meetsCased_append blankFront, meetsCased_append blankBack]

/-- The lower case of characters between blanks is their lower case, with the blanks behind it. -/
theorem lowerAfter_append {front back : List Char} (blankFront : ∀ c ∈ front, isBlank c = true)
    (blankBack : ∀ c ∈ back, isBlank c = true) (before chars : List Char) :
    lowerAfter (before ++ front) (chars ++ back) = lowerAfter before chars ++ back := by
  induction chars generalizing before with
  | nil =>
    show lowerAfter (before ++ front) back = back
    apply lowerAfter_lowered
    intro c member
    exact CharSet.Caseless.lowered blanks_caseless (blankBack c member)
  | cons c rest ih =>
    have later := ih (c :: before)
    rw [List.cons_append] at later
    rw [List.cons_append, lowerAfter_cons, lowerAfter_cons, later,
      lowerBetween_append blankFront blankBack, List.append_assoc]

/-- The lower case less the blanks in front is the lower case of what is left without them. -/
theorem dropWhile_lowerAfter (blank : ∀ c ∈ gap, isBlank c = true) (chars : List Char) :
    (lowerAfter gap chars).dropWhile isBlank = lowerAfter [] (chars.dropWhile isBlank) := by
  induction chars generalizing gap with
  | nil => rfl
  | cons c rest ih =>
    rw [List.dropWhile_cons]
    by_cases here : isBlank c = true
    · rw [if_pos here, lowerAfter_cons, lowerBetween_blank here, List.singleton_append,
        List.dropWhile_cons_of_pos here]
      apply ih
      intro d member
      cases member with
      | head => exact here
      | tail _ older => exact blank d older
    · rw [if_neg here]
      have same := lowerAfter_append blank (List.forall_mem_nil _) [] (c :: rest)
      rw [List.append_nil, List.append_nil, List.nil_append] at same
      rw [same, lowerAfter_cons]
      have ⟨nonempty, filled⟩ := lowerBetween_filled (Bool.not_eq_true _ ▸ here) [] rest
      cases image : lowerBetween [] c rest with
      | nil => exact absurd image nonempty
      | cons d more =>
        have first : isBlank d = false := filled d (image ▸ List.mem_cons_self)
        exact List.dropWhile_cons_of_neg (by rw [first]; decide)

/-- The lower case of characters ends with that of the last one. -/
theorem lowerAfter_concat (before chars : List Char) (c : Char) :
    ∃ front older, lowerAfter before (chars ++ [c]) = front ++ lowerBetween older c [] := by
  induction chars generalizing before with
  | nil => exact ⟨[], before, List.append_nil _⟩
  | cons d rest ih =>
    have ⟨front, older, same⟩ := ih (d :: before)
    exact ⟨lowerBetween before d (rest ++ [c]) ++ front, older, by
      rw [List.cons_append, lowerAfter_cons, same, List.append_assoc]⟩

/-- The lower case less the blanks behind is the lower case of what is left without them. -/
theorem rdropWhile_lowerAfter (before chars : List Char) :
    (lowerAfter before chars).rdropWhile isBlank =
      lowerAfter before (chars.rdropWhile isBlank) := by
  induction chars using List.reverseRecOn with
  | nil => rfl
  | append_singleton front c ih =>
    by_cases here : isBlank c = true
    · have last : ∀ d ∈ [c], isBlank d = true := by simpa using here
      have same := lowerAfter_append (List.forall_mem_nil _) last before front
      rw [List.append_nil] at same
      rw [same, List.rdropWhile_concat_pos _ _ _ here, List.rdropWhile_concat_pos _ _ _ here, ih]
    · rw [List.rdropWhile_concat_neg _ _ _ here]
      have ⟨head, older, same⟩ := lowerAfter_concat before front c
      have ⟨nonempty, filled⟩ := lowerBetween_filled (Bool.not_eq_true _ ▸ here) older []
      rw [same]
      apply List.rdropWhile_eq_self_iff.mpr
      intro _
      rw [List.getLast_append_of_ne_nil _ nonempty, filled _ (List.getLast_mem nonempty)]
      decide

/-- The lower case less the blanks at its ends is that of the text less the blanks at its ends. -/
theorem strip_lower (text : String) : strip (lower text) = lower (strip text) := by
  rw [strip, strip, lower, lower, String.toList_ofList, String.toList_ofList]
  have front := dropWhile_lowerAfter (List.forall_mem_nil _) text.toList
  show String.ofList (((lowerAfter [] text.toList).dropWhile isBlank).rdropWhile isBlank) = _
  rw [front, rdropWhile_lowerAfter]
  rfl

end TemplateStream.Text
