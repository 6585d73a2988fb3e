import TemplateStream.Proofs.Scoping

/-!
# Segments that index

A list or a tuple takes a segment of digits for an index and reads it as a numeral. Not every text
of digits is one: superscripts and circled numbers are digits that no numeral has, and a numeral
has a greatest length. A lookup fails where such a segment is asked of a list or a tuple, and
nowhere else.
-/

namespace TemplateStream

/-! ## Texts of digits -/

namespace Text

variable {c : Char}

/-- The runs of digits: ten for each script, and the ornamental ones. -/
def digitRuns : List (Nat × Nat) :=
  zeroDigits.map (fun first => (first, first + 9)) ++ ornamentalDigits.runs

theorem decimalDigit?_lt {value : Nat} (found : decimalDigit? c = some value) : value < 10 := by
  obtain ⟨first, begun, rfl⟩ := Option.map_eq_some_iff.mp found
  have inside := List.find?_some begun
  simp only [Bool.and_eq_true, decide_eq_true_eq] at inside
  omega

/-- A digit lies in one of the runs. -/
theorem exists_digitRun (digit : isDigit c = true) :
    ∃ run ∈ digitRuns, run.1 ≤ c.toNat ∧ c.toNat ≤ run.2 := by
  rw [isDigit, Bool.or_eq_true] at digit
  rcases digit with decimal | ornamental
  · obtain ⟨value, found⟩ := Option.isSome_iff_exists.mp decimal
    obtain ⟨first, begun, -⟩ := Option.map_eq_some_iff.mp found
    have member := List.mem_of_find?_eq_some begun
    have inside := List.find?_some begun
    simp only [Bool.and_eq_true, decide_eq_true_eq] at inside
    refine ⟨(first, first + 9), List.mem_append_left _ (List.mem_map_of_mem member), inside.1, ?_⟩
    have below := inside.2
    show c.toNat ≤ first + 9
    omega
  · obtain ⟨run, member, inside⟩ := List.any_eq_true.mp ornamental
    simp only [Bool.and_eq_true, decide_eq_true_eq] at inside
    exact ⟨run, List.mem_append_right _ member, inside⟩

/-- No run of digits meets a run of blanks, a sign or an underscore. -/
theorem digitRuns_apart : ∀ run ∈ digitRuns, ∀ other ∈ (0x2b, 0x2b) :: (0x2d, 0x2d) ::
    (0x5f, 0x5f) :: blanks.runs, run.2 < other.1 ∨ other.2 < run.1 := by
  decide +kernel

/-- A digit is in none of the runs of what may stand beside digits. -/
theorem not_digit {other : Nat × Nat} (member : other ∈ (0x2b, 0x2b) :: (0x2d, 0x2d) ::
    (0x5f, 0x5f) :: blanks.runs) (inside : other.1 ≤ c.toNat ∧ c.toNat ≤ other.2) :
    isDigit c = false := by
  refine Bool.eq_false_iff.mpr fun digit => ?_
  obtain ⟨run, memberRun, insideRun⟩ := exists_digitRun digit
  have apart := digitRuns_apart run memberRun other member
  omega

theorem isNumeralBlank_of_digit (digit : isDigit c = true) : isNumeralBlank c = false := by
  refine Bool.eq_false_iff.mpr fun blank => ?_
  rw [isNumeralBlank, Bool.and_eq_true] at blank
  obtain ⟨run, member, inside⟩ := List.any_eq_true.mp blank.1
  simp only [Bool.and_eq_true, decide_eq_true_eq] at inside
  have other := not_digit (List.mem_cons_of_mem _ (List.mem_cons_of_mem _
    (List.mem_cons_of_mem _ member))) inside
  rw [digit] at other
  cases other

/-- Nothing is cut off from digits. -/
theorem trimChars_digits {chars : List Char} (digits : ∀ c ∈ chars, isDigit c = true) :
    trimChars isNumeralBlank chars = chars := by
  have kept {others : List Char} (all : ∀ c ∈ others, isDigit c = true) :
      others.dropWhile isNumeralBlank = others := by
    cases others with
    | nil => rfl
    | cons c rest =>
      rw [List.dropWhile_cons_of_neg]
      rw [isNumeralBlank_of_digit (all c List.mem_cons_self)]
      exact Bool.false_ne_true
  have back : ∀ c ∈ chars.reverse, isDigit c = true := fun c member =>
    digits c (List.mem_reverse.mp member)
  rw [trimChars, kept digits, kept back, List.reverse_reverse]

end Text

namespace Decimal

open Text

/-- In base ten the digits are the decimal ones. -/
theorem inBase_ten (c : Char) : ((digitValue? c).any (· < 10)) = (decimalDigit? c).isSome := by
  rw [digitValue?]
  cases found : decimalDigit? c with
  | some value => simpa using decimalDigit?_lt found
  | none =>
    dsimp only
    split
    · simp
    · split
      · simp
      · rfl

/-- Digits carry no sign. -/
theorem splitSign_digits {chars : List Char} (digits : ∀ c ∈ chars, isDigit c = true) :
    splitSign chars = (false, chars) := by
  unfold splitSign
  split
  · exact absurd (digits '-' List.mem_cons_self) (by decide +kernel)
  · exact absurd (digits '+' List.mem_cons_self) (by decide +kernel)
  · rfl

/-- A numeral in base ten has no mark. -/
theorem dropBaseMark_ten (chars : List Char) : dropBaseMark 10 chars = chars := by
  unfold dropBaseMark
  split <;> rfl

/-- Characters none of which is an underscore are ungrouped as they are, if all are digits. -/
theorem ungrouped_plain (isDigit : Char → Bool) {chars : List Char} (plain : '_' ∉ chars) :
    ungrouped isDigit chars = if chars.all isDigit then some chars else none := by
  fun_induction ungrouped isDigit chars with
  | case1 => rfl
  | case2 c next rest digits ih | case3 c next rest digits =>
    exact absurd (List.mem_cons_of_mem c List.mem_cons_self) plain
  | case4 c rest others digit ih =>
    rw [ih fun member => plain (List.mem_cons_of_mem c member), List.all_cons, digit]
    cases rest.all isDigit <;> rfl
  | case5 c rest others digit =>
    rw [List.all_cons, Bool.eq_false_iff.mpr digit]
    rfl

/-- A text of digits is an integer exactly if all of them are decimal digits and there are not too
many of them. -/
theorem readInteger_digits {text : String} (digits : isDigits text = true) :
    (∃ value, readInteger 10 text = .ok value) ↔
      (∀ c ∈ text.toList, (decimalDigit? c).isSome = true) ∧
        text.toList.length ≤ digitLimit := by
  rw [isDigits, Bool.and_eq_true] at digits
  obtain ⟨filled, every⟩ := digits
  have all : ∀ c ∈ text.toList, isDigit c = true := List.all_eq_true.mp every
  have plain : '_' ∉ text.toList := fun member => absurd (all '_' member) (by decide +kernel)
  have some : text.toList ≠ [] := by
    intro none
    rw [← String.ofList_toList (s := text), none] at filled
    exact absurd filled (by decide)
  have base : (fun c => (digitValue? c).any (· < 10)) = fun c => (decimalDigit? c).isSome :=
    funext inBase_ten
  simp only [readInteger, trimChars_digits all, splitSign_digits all, dropBaseMark_ten, base,
    ungrouped_plain _ plain]
  by_cases decimal : ∀ c ∈ text.toList, (decimalDigit? c).isSome = true
  · rw [if_pos (List.all_eq_true.mpr decimal)]
    obtain ⟨c, rest, chars⟩ := List.exists_cons_of_ne_nil some
    rw [chars] at decimal ⊢
    by_cases many : (c :: rest).length > digitLimit
    · refine iff_of_false ?_ fun both => Nat.not_lt.mpr both.2 many
      rintro ⟨_, read⟩
      dsimp only at read
      rw [if_pos (by simpa using many)] at read
      cases read
    · refine iff_of_true ?_ ⟨decimal, Nat.not_lt.mp many⟩
      dsimp only
      rw [if_neg (by simpa using many)]
      exact ⟨_, rfl⟩
  · rw [if_neg fun whole => decimal (List.all_eq_true.mp whole)]
    refine iff_of_false ?_ fun both => decimal both.1
    rintro ⟨_, read⟩
    cases read

end Decimal

namespace Context

variable {context : Context} {value inner : Value} {segment first name : String}
  {rest : List String} {attributes : Attributes}

/-! ## Where a lookup fails -/

/-- A text of digits that no list can be asked for: one of the digits is in no numeral, or there
are more of them than are read. -/
structure Unreadable (segment : String) : Prop where
  digits : Text.isDigits segment = true
  unread : (∃ c ∈ segment.toList, Text.decimalDigit? c = none) ∨
    Decimal.digitLimit < segment.toList.length

/-- Segments on whose way from a value a list or tuple is asked for an index that cannot be
read. -/
inductive Breaks (attributes : Attributes) : Value → List String → Prop where
  | here {value : Value} {items : List Value} {segment : String} {rest : List String}
      (listed : value.items? = some items) (unreadable : Unreadable segment) :
      Breaks attributes value (segment :: rest)
  | into {value inner : Value} {segment : String} {rest : List String}
      (within : Within attributes value segment inner) (further : Breaks attributes inner rest) :
      Breaks attributes value (segment :: rest)

/-- A text of digits that can be read is the numeral of an index. -/
theorem exists_readIndex (digits : Text.isDigits segment = true)
    (readable : ¬Unreadable segment) : ∃ position, readIndex segment = .ok position := by
  have read : ∃ value, Decimal.readInteger 10 segment = .ok value := by
    rw [Decimal.readInteger_digits digits]
    refine ⟨fun c member => ?_, Nat.not_lt.mp fun long => readable ⟨digits, .inr long⟩⟩
    refine Option.isSome_iff_ne_none.mpr fun none => readable ⟨digits, .inl ⟨c, member, none⟩⟩
  obtain ⟨value, read⟩ := read
  exact ⟨value, by rw [readIndex, read]⟩

/-- One that cannot be read is refused as a numeral. -/
theorem Unreadable.refused (unreadable : Unreadable segment) :
    ∃ cause, readIndex segment = .error (.number (.integer 10 (.text segment) cause)) := by
  cases read : Decimal.readInteger 10 segment with
  | error cause => exact ⟨cause, by rw [readIndex, read]⟩
  | ok value =>
    obtain ⟨decimal, short⟩ := (Decimal.readInteger_digits unreadable.digits).mp ⟨value, read⟩
    rcases unreadable.unread with ⟨c, member, none⟩ | long
    · have some := decimal c member
      rw [none] at some
      cases some
    · exact absurd short (Nat.not_le.mpr long)

/-- Attributes that every value has or lacks, without a fault. -/
def Attributes.Total (attributes : Attributes) : Prop :=
  ∀ value name, ∃ result, attributes value name = .ok result

/-- Fields of records and paths of references are found or not. -/
theorem attributeOf_total : Attributes.Total attributeOf := by
  intro value name
  cases value <;> exact ⟨_, rfl⟩

/-- Looking under one segment fails only where a list is asked for an index that cannot be read. -/
theorem inside_cases (total : attributes.Total) (value : Value) (segment : String) :
    (∃ result, inside value segment attributes = .ok result ∧
        ∀ items, value.items? = some items → ¬Unreadable segment) ∨
      ∃ items cause, value.items? = some items ∧ Unreadable segment ∧
        inside value segment attributes =
          .error (.number (.integer 10 (.text segment) cause)) := by
  cases listed : value.items? with
  | none =>
    refine .inl ?_
    cases keyed : value.entries? with
    | none =>
      obtain ⟨result, found⟩ := total value segment
      exact ⟨result, (inside_attribute keyed (.inl listed)).trans found, nofun⟩
    | some entries =>
      cases value with
      | mapping entries => exact ⟨_, rfl, nofun⟩
      | _ => cases keyed
  | some items =>
    have unkeyed : value.entries? = none := by
      cases value with
      | list | tuple => rfl
      | _ => cases listed
    by_cases digits : Text.isDigits segment = true
    · by_cases unreadable : Unreadable segment
      · obtain ⟨cause, refused⟩ := unreadable.refused
        refine .inr ⟨items, cause, rfl, unreadable, ?_⟩
        rw [inside_item listed digits, refused]
        rfl
      · obtain ⟨position, read⟩ := exists_readIndex digits unreadable
        refine .inl ⟨items[position.toNat]?, ?_, fun _ _ => unreadable⟩
        rw [inside_item listed digits, read]
        rfl
    · have letters := Bool.eq_false_iff.mpr digits
      obtain ⟨result, found⟩ := total value segment
      exact .inl ⟨result, (inside_attribute unkeyed (.inr letters)).trans found,
        fun _ _ unreadable => digits unreadable.digits⟩

/-- Following segments ends with a result or at an index that cannot be read. -/
theorem descend_breaks (total : attributes.Total) (value : Value) (rest : List String) :
    (∃ result, descend (some value) rest attributes = .ok result ∧
        ¬Breaks attributes value rest) ∨
      ∃ segment cause, descend (some value) rest attributes =
        .error (.number (.integer 10 (.text segment) cause)) ∧ Breaks attributes value rest := by
  induction rest generalizing value with
  | nil => exact .inl ⟨_, rfl, nofun⟩
  | cons segment rest ih =>
    by_cases empty : value = .null
    · subst empty
      refine .inl ⟨none, rfl, fun breaks => ?_⟩
      cases breaks with
      | here listed => cases listed
      | into within => exact within.filled rfl
    · rw [descend_cons empty]
      rcases inside_cases total value segment with
        ⟨result, found, readable⟩ | ⟨items, cause, listed, unreadable, refused⟩
      · rw [found]
        change (∃ result', descend result rest attributes = .ok result' ∧ _) ∨ ∃ segment' cause,
          descend result rest attributes = _ ∧ _
        cases result with
        | none =>
          rw [descend_none]
          refine .inl ⟨none, rfl, fun breaks => ?_⟩
          cases breaks with
          | here listed unreadable => exact readable _ listed unreadable
          | into within =>
            rw [(inside_eq_some_iff empty).mpr within] at found
            cases found
        | some inner =>
          have within := (inside_eq_some_iff empty).mp found
          rcases ih inner with ⟨result, ended, sound⟩ | ⟨segment, cause, ended, breaks⟩
          · refine .inl ⟨result, ended, fun breaks => ?_⟩
            cases breaks with
            | here listed unreadable => exact readable _ listed unreadable
            | into also further => exact sound (within.unique also ▸ further)
          · exact .inr ⟨segment, cause, ended, .into within breaks⟩
      · rw [refused]
        exact .inr ⟨segment, cause, rfl, .here listed unreadable⟩

/-- Segments that lead on break where the later ones do. -/
theorem Leads.breaks_iff {front : List String} {last : Value}
    (leads : Leads attributes value front last) :
    Breaks attributes value (front ++ rest) ↔ Breaks attributes last rest := by
  induction leads with
  | here => rfl
  | @into value inner _ segment _ within _ ih =>
    rw [List.cons_append, ← ih]
    constructor
    · intro breaks
      cases breaks with
      | here listed unreadable =>
        obtain ⟨cause, refused⟩ := unreadable.refused
        have found := (inside_eq_some_iff within.filled).mpr within
        rw [inside_item listed unreadable.digits, refused] at found
        cases found
      | into also further => exact within.unique also ▸ further
    · exact .into within

/-- Segments that lead on lose their way where the next one has nothing. -/
theorem Leads.lost {front : List String} {last : Value}
    (leads : Leads attributes value front last)
    (nothing : ∀ inner, ¬Within attributes last segment inner) :
    Lost attributes value (front ++ segment :: rest) := by
  induction leads with
  | here => exact .missing nothing
  | into within _ ih => exact .into within (ih nothing)

/-- A name on whose way through a context a list or tuple is asked for an index that cannot be
read. -/
def Stumbles (context : Context) (attributes : Attributes) (name : String) : Prop :=
  name ≠ "." ∧ ∃ first rest value, Text.split '.' name = first :: rest ∧
    context.Starts first value ∧ Breaks attributes value rest

/-- Whatever attributes values have, so long as asking for one does not fail, the lookup of a name
fails exactly if on its way a list or tuple is asked for an index that is a text of digits and no
numeral, because it has a digit that is in none or too many digits; the fault is then one of the
value. Every other name has a value, be it the default. The default it is where a list or tuple is
asked for a segment that can be read, if it is of digits, and under which nothing lies in it. -/
theorem lookup_fails_iff_stumbles (attributes : Attributes) (total : attributes.Total)
    (context : Context) (name : String) (default : Value) :
    (context.Stumbles attributes name →
        ∃ fault, context.get name default attributes = .error fault ∧ fault.kind = .value) ∧
      (¬context.Stumbles attributes name →
        ∃ result, context.get name default attributes = .ok result) ∧
      ∀ first front segment behind value list items, name ≠ "." →
        Text.split '.' name = first :: (front ++ segment :: behind) →
        context.Starts first value → Leads attributes value front list →
        list.items? = some items → ¬Unreadable segment →
        (∀ inner, ¬Within attributes list segment inner) →
        context.get name default attributes = .ok default := by
  by_cases named : name = "."
  · subst named
    exact ⟨fun stumbles => absurd rfl stumbles.1, fun _ => ⟨context.current, rfl⟩,
      fun _ _ _ _ _ _ _ other => absurd rfl other⟩
  obtain ⟨first, rest, parts, -, -⟩ := Text.split_dot name
  have search : context.get name default attributes =
      (descend (context.start first) rest attributes).map (·.getD default) :=
    get_eq named parts context default
  have stumbles_iff : context.Stumbles attributes name ↔
      ∃ value, context.Starts first value ∧ Breaks attributes value rest := by
    constructor
    · rintro ⟨_, first, rest, value, partsToo, starts, breaks⟩
      rw [parts] at partsToo
      cases partsToo
      exact ⟨value, starts, breaks⟩
    · rintro ⟨value, starts, breaks⟩
      exact ⟨named, first, rest, value, parts, starts, breaks⟩
  refine ⟨fun stumbles => ?_, fun steady => ?_, ?_⟩
  · obtain ⟨value, starts, breaks⟩ := stumbles_iff.mp stumbles
    rcases descend_breaks total value rest with ⟨_, _, sound⟩ | ⟨segment, cause, failed, _⟩
    · exact absurd breaks sound
    · refine ⟨.number (.integer 10 (.text segment) cause), ?_, rfl⟩
      rw [search, start_eq_some_iff.mpr starts, failed]
      rfl
  · cases start : context.start first with
    | none => exact ⟨default, by rw [search, start, descend_none]; rfl⟩
    | some value =>
      rcases descend_breaks total value rest with ⟨result, ended, _⟩ | ⟨_, _, _, breaks⟩
      · exact ⟨result.getD default, by rw [search, start, ended]; rfl⟩
      · exact absurd (stumbles_iff.mpr ⟨value, start_eq_some_iff.mp start, breaks⟩) steady
  · intro first front segment behind value list items _ partsToo starts leads listed readable
      nothing
    rw [parts] at partsToo
    cases partsToo
    have lost : Lost attributes value (front ++ segment :: behind) := leads.lost nothing
    rcases descend_breaks total value (front ++ segment :: behind) with
      ⟨result, ended, _⟩ | ⟨_, _, _, breaks⟩
    · rcases descend_cases ended with ⟨found, _, leadsOn⟩ | ⟨rfl, _⟩
      · exact absurd leadsOn lost.not_leads
      · rw [search, start_eq_some_iff.mpr starts, ended]
        rfl
    · cases leads.breaks_iff.mp breaks with
      | here _ unreadable => exact absurd unreadable readable
      | into within => exact absurd within (nothing _)

/-- A superscript is a digit and no index; a number beyond the items is an index of nothing. -/
theorem lookup_fails_iff_stumbles_superscript :
    let context : Context := .ofValue (.mapping [(.text "items", .list [.int 1])])
    attributeOf.Total ∧ context.Stumbles attributeOf "items.²" ∧
      (∃ fault, context.get "items.²" (.text "none") = .error fault ∧ fault.kind = .value) ∧
      context.get "items.7" (.text "none") = .ok (.text "none") := by
  intro context
  have only : context.frames = [] ++ .mapping [(.text "items", .list [.int 1])] :: [] := rfl
  have starts : context.Starts "items" (.list [.int 1]) := .frame only nofun rfl
  have stumbles : context.Stumbles attributeOf "items.²" := by
    refine ⟨by decide, "items", ["²"], .list [.int 1], by decide, starts, ?_⟩
    exact .here rfl ⟨by decide +kernel, .inl ⟨'²', by decide, by decide +kernel⟩⟩
  obtain ⟨fails, -, -⟩ := lookup_fails_iff_stumbles attributeOf attributeOf_total context "items.²"
    (.text "none")
  obtain ⟨-, -, falls⟩ := lookup_fails_iff_stumbles attributeOf attributeOf_total context "items.7"
    (.text "none")
  refine ⟨attributeOf_total, stumbles, fails stumbles, ?_⟩
  refine falls "items" [] "7" [] (.list [.int 1]) (.list [.int 1]) [.int 1] (by decide) (by decide)
    starts .here rfl ?_ ?_
  · rintro ⟨_, ⟨c, member, none⟩ | long⟩
    · obtain rfl : c = '7' := List.mem_singleton.mp member
      exact absurd none (by decide +kernel)
    · exact absurd long (by decide)
  · intro inner within
    cases within with
    | item listed _ numeral found =>
      cases listed
      have read : (readIndex "7").toOption = some 7 := by decide +kernel
      rw [numeral] at read
      cases read
      cases found
    | field _ _ unindexed =>
      rcases unindexed with unlisted | letters
      · cases unlisted
      · exact absurd letters (by decide +kernel)

end Context

end TemplateStream
