import TemplateStream.Context

/-!
# Scoped names

A name is looked up by its segments. The first of them is sought in the mappings of the stack from
the newest down and then in the globals, and the newest mapping that has it decides alone: its value
hides all others, null as well, and also where the later segments are not found in it. The later
segments are followed one inside the other, and the default stands in only for what is missing,
never for a null that is found.
-/

namespace TemplateStream

/-! ## Segments -/

namespace Text

/-- There is always a part. -/
theorem exists_splitChars (separator : Char) (chars : List Char) :
    ∃ part parts, splitChars separator chars = part :: parts := by
  cases chars with
  | nil => exact ⟨[], [], rfl⟩
  | cons c chars =>
    unfold splitChars
    split
    · exact ⟨[c], [], rfl⟩
    · split
      · exact ⟨_, _, rfl⟩
      · exact ⟨_, _, rfl⟩

/-- The parts have no separators, and with separators between them they are the whole again. -/
theorem splitChars_parts (separator : Char) (chars : List Char) :
    (∀ part ∈ splitChars separator chars, separator ∉ part) ∧
      List.intercalate [separator] (splitChars separator chars) = chars := by
  induction chars with
  | nil => simp [splitChars]
  | cons c chars ih =>
    have ⟨part, parts, split⟩ := exists_splitChars separator chars
    rw [split] at ih
    have ⟨plain, whole⟩ := ih
    have ⟨own, others⟩ := List.forall_mem_cons.mp plain
    rw [splitChars, split]
    dsimp only
    by_cases same : c = separator
    · rw [if_pos same, List.intercalate_cons_cons, whole, same]
      exact ⟨List.forall_mem_cons.mpr ⟨List.not_mem_nil, plain⟩, rfl⟩
    · rw [if_neg same]
      have longer : separator ∉ c :: part := fun member =>
        (List.mem_cons.mp member).elim (fun equal => same equal.symm) own
      refine ⟨List.forall_mem_cons.mpr ⟨longer, others⟩, ?_⟩
      cases parts with
      | nil =>
        rw [List.intercalate_singleton] at whole ⊢
        rw [whole]
      | cons next parts =>
        rw [List.intercalate_cons_cons] at whole ⊢
        rw [List.cons_append, List.cons_append, whole]

/-- The parts of a text between dots have no dots and are the text with dots between them. -/
theorem split_dot (text : String) : ∃ first rest, split '.' text = first :: rest ∧
    (∀ part ∈ first :: rest, '.' ∉ part.toList) ∧ ".".intercalate (first :: rest) = text := by
  have ⟨plain, whole⟩ := splitChars_parts '.' text.toList
  have ⟨part, parts, parted⟩ := exists_splitChars '.' text.toList
  rw [parted] at plain whole
  refine ⟨String.ofList part, parts.map String.ofList, ?_, ?_, ?_⟩
  · rw [split, parted, List.map_cons]
  · rw [← List.map_cons, List.forall_mem_map]
    intro chars member
    rw [String.toList_ofList]
    exact plain chars member
  · rw [← String.toList_inj, String.toList_intercalate, ← List.map_cons, List.map_map]
    have same : String.toList ∘ String.ofList = id := funext fun chars => String.toList_ofList
    rw [same, List.map_id]
    exact whole

end Text

namespace Context

variable {context : Context} {value inner found frame : Value} {segment first name : String}
  {rest : List String} {entries : List (Value × Value)} {result : Option Value}
  {attributes : Attributes}

/-! ## The value of the first segment -/

/-- A value that is no mapping, or a mapping without a key of that text. -/
def Lacks (frame : Value) (segment : String) : Prop :=
  ∀ entries, frame = .mapping entries → Value.lookup (.text segment) entries = none

/-- The value that a segment starts from: that of the newest mapping of the stack that has it, or
that of the globals if no mapping of the stack has it. -/
inductive Starts (context : Context) (segment : String) : Value → Prop where
  | frame {newer older : List Value} {entries : List (Value × Value)} {value : Value}
      (stack : context.frames = newer ++ .mapping entries :: older)
      (passed : ∀ frame ∈ newer, Lacks frame segment)
      (found : Value.lookup (.text segment) entries = some value) : Starts context segment value
  | globals {value : Value} (passed : ∀ frame ∈ context.frames, Lacks frame segment)
      (found : Value.lookup (.text segment) context.globals = some value) :
      Starts context segment value

theorem field?_eq_none_iff : frame.field? segment = none ↔ Lacks frame segment := by
  cases frame with
  | mapping entries =>
    constructor
    · intro absent others same
      cases same
      exact absent
    · exact fun lacks => lacks entries rfl
  | _ => exact iff_of_true rfl nofun

theorem field?_eq_some_iff : frame.field? segment = some value ↔
    ∃ entries, frame = .mapping entries ∧ Value.lookup (.text segment) entries = some value := by
  cases frame with
  | mapping entries =>
    constructor
    · exact fun found => ⟨entries, rfl, found⟩
    · rintro ⟨others, same, found⟩
      cases same
      exact found
  | _ => exact iff_of_false nofun nofun

/-- No mapping of a stack has a segment exactly if every value of it lacks the segment. -/
theorem passed_iff {frames : List Value} :
    (frames.findSome? fun frame => frame.field? segment) = none ↔
      ∀ frame ∈ frames, Lacks frame segment := by
  rw [List.findSome?_eq_none_iff]
  exact forall_congr' fun frame => imp_congr_right fun _ => field?_eq_none_iff

theorem start_eq_none_iff : context.start segment = none ↔
    (∀ frame ∈ context.frames, Lacks frame segment) ∧
      Value.lookup (.text segment) context.globals = none := by
  unfold start
  cases above : context.frames.findSome? fun frame => frame.field? segment with
  | some value =>
    refine iff_of_false nofun fun absent => ?_
    have none := passed_iff.mpr absent.1
    rw [above] at none
    cases none
  | none => exact ⟨fun absent => ⟨passed_iff.mp above, absent⟩, And.right⟩

theorem start_eq_some_iff : context.start segment = some value ↔ context.Starts segment value := by
  constructor
  · intro found
    unfold start at found
    split at found
    · rename_i above
      cases found
      obtain ⟨newer, frame, older, stack, found, passed⟩ := List.findSome?_eq_some_iff.mp above
      obtain ⟨entries, rfl, found⟩ := field?_eq_some_iff.mp found
      exact .frame stack (fun frame member => field?_eq_none_iff.mp (passed frame member)) found
    · rename_i above
      exact .globals (passed_iff.mp above) found
  · intro starts
    unfold start
    cases starts with
    | @frame newer older entries _ stack passed found =>
      have above : (context.frames.findSome? fun frame => frame.field? segment) = some value :=
        List.findSome?_eq_some_iff.mpr ⟨newer, .mapping entries, older, stack, found,
          fun frame member => field?_eq_none_iff.mpr (passed frame member)⟩
      rw [above]
    | globals passed found =>
      rw [passed_iff.mpr passed]
      exact found

/-! ## The later segments -/

/-- What lies under a segment in a value that is not null: the value under that key of a mapping,
the item of a list or tuple at the position that the segment is a numeral of, or else an attribute.
-/
inductive Within (attributes : Attributes) : Value → String → Value → Prop where
  | entry {entries : List (Value × Value)} {segment : String} {inner : Value}
      (found : Value.lookup (.text segment) entries = some inner) :
      Within attributes (.mapping entries) segment inner
  | item {value inner : Value} {items : List Value} {segment : String} {position : Int}
      (listed : value.items? = some items) (digits : Text.isDigits segment = true)
      (numeral : readIndex segment = .ok position) (found : items[position.toNat]? = some inner) :
      Within attributes value segment inner
  | field {value inner : Value} {segment : String} (filled : value ≠ .null)
      (unkeyed : value.entries? = none)
      (unindexed : value.items? = none ∨ Text.isDigits segment = false)
      (found : attributes value segment = .ok (some inner)) : Within attributes value segment inner

/-- What segments lead to from a value, one inside the other. -/
inductive Leads (attributes : Attributes) : Value → List String → Value → Prop where
  | here {value : Value} : Leads attributes value [] value
  | into {value inner found : Value} {segment : String} {rest : List String}
      (within : Within attributes value segment inner)
      (further : Leads attributes inner rest found) :
      Leads attributes value (segment :: rest) found

/-- Segments that are lost on the way from a value: one of them is asked of null or is missing where
it is asked for. -/
inductive Lost (attributes : Attributes) : Value → List String → Prop where
  | null {segment : String} {rest : List String} : Lost attributes .null (segment :: rest)
  | missing {value : Value} {segment : String} {rest : List String}
      (nothing : ∀ inner, ¬Within attributes value segment inner) :
      Lost attributes value (segment :: rest)
  | into {value inner : Value} {segment : String} {rest : List String}
      (within : Within attributes value segment inner) (further : Lost attributes inner rest) :
      Lost attributes value (segment :: rest)

/-- A list is indexed by digits. -/
theorem inside_item {items : List Value} (listed : value.items? = some items)
    (digits : Text.isDigits segment = true) : inside value segment attributes =
      (readIndex segment).map fun index => items[index.toNat]? := by
  cases value with
  | list | tuple =>
    cases listed
    rw [inside, if_pos digits]
  | _ => cases listed

/-- What is neither a key nor an index is an attribute. -/
theorem inside_attribute (unkeyed : value.entries? = none)
    (unindexed : value.items? = none ∨ Text.isDigits segment = false) :
    inside value segment attributes = attributes value segment := by
  cases value with
  | mapping entries => cases unkeyed
  | list | tuple =>
    rcases unindexed with unlisted | letters
    · cases unlisted
    · rw [inside, if_neg (by simp [letters])]
  | _ => rfl

theorem inside_eq_some_iff (filled : value ≠ .null) :
    inside value segment attributes = .ok (some inner) ↔
      Within attributes value segment inner := by
  constructor
  · intro holds
    cases keyed : value.entries? with
    | some entries =>
      cases value with
      | mapping entries => exact .entry (Except.ok.inj holds)
      | _ => cases keyed
    | none =>
      have other (unindexed : value.items? = none ∨ Text.isDigits segment = false) :
          Within attributes value segment inner := by
        rw [inside_attribute keyed unindexed] at holds
        exact .field filled keyed unindexed holds
      cases listed : value.items? with
      | none => exact other (.inl listed)
      | some items =>
        cases digits : Text.isDigits segment with
        | false => exact other (.inr digits)
        | true =>
          rw [inside_item listed digits] at holds
          cases numeral : readIndex segment with
          | error fault =>
            rw [numeral] at holds
            cases holds
          | ok position =>
            rw [numeral] at holds
            exact .item listed digits numeral (Except.ok.inj holds)
  · intro within
    cases within with
    | entry found => exact congrArg Except.ok found
    | item listed digits numeral found =>
      rw [inside_item listed digits, numeral]
      exact congrArg Except.ok found
    | field _ unkeyed unindexed found => exact (inside_attribute unkeyed unindexed).trans found

/-- Nothing lies in null. -/
theorem Within.filled (within : Within attributes value segment inner) : value ≠ .null := by
  rintro rfl
  cases within with
  | item listed => cases listed
  | field filled => exact filled rfl

/-- At most one value lies under a segment. -/
theorem Within.unique {other : Value} (within : Within attributes value segment inner)
    (also : Within attributes value segment other) : inner = other := by
  have first := (inside_eq_some_iff within.filled).mpr within
  have second := (inside_eq_some_iff within.filled).mpr also
  exact Option.some.inj (Except.ok.inj (first.symm.trans second))

/-- Segments that are lost lead nowhere. -/
theorem Lost.not_leads (lost : Lost attributes value rest) :
    ¬Leads attributes value rest found := by
  induction lost with
  | null =>
    intro leads
    cases leads with
    | into within => exact within.filled rfl
  | missing nothing =>
    intro leads
    cases leads with
    | into within => exact nothing _ within
  | into within _ ih =>
    intro leads
    cases leads with
    | into also further => exact ih (within.unique also ▸ further)

theorem descend_none (rest : List String) : descend none rest attributes = .ok none := by
  cases rest <;> rfl

theorem descend_cons (filled : value ≠ .null) (segment : String) (rest : List String) :
    descend (some value) (segment :: rest) attributes =
      (inside value segment attributes).bind fun inner => descend inner rest attributes := by
  cases value with
  | null => exact absurd rfl filled
  | _ => rfl

theorem descend_of_leads (leads : Leads attributes value rest found) :
    descend (some value) rest attributes = .ok (some found) := by
  induction leads with
  | here => rfl
  | into within _ ih =>
    rw [descend_cons within.filled, (inside_eq_some_iff within.filled).mpr within]
    exact ih

/-- A descent that does not fail ends where the segments lead, or without a value as they are
lost. -/
theorem descend_cases (done : descend (some value) rest attributes = .ok result) :
    (∃ found, result = some found ∧ Leads attributes value rest found) ∨
      result = none ∧ Lost attributes value rest := by
  induction rest generalizing value with
  | nil =>
    cases done
    exact .inl ⟨value, rfl, .here⟩
  | cons segment rest ih =>
    by_cases empty : value = .null
    · subst empty
      cases done
      exact .inr ⟨rfl, .null⟩
    · rw [descend_cons empty] at done
      cases looked : inside value segment attributes with
      | error fault =>
        rw [looked] at done
        cases done
      | ok inner =>
        rw [looked] at done
        change descend inner rest attributes = .ok result at done
        cases inner with
        | none =>
          rw [descend_none] at done
          have nothing : ∀ inner, ¬Within attributes value segment inner := by
            intro inner within
            have found := (inside_eq_some_iff empty).mpr within
            rw [looked] at found
            cases found
          exact .inr ⟨(Except.ok.inj done).symm, .missing nothing⟩
        | some inner =>
          have within := (inside_eq_some_iff empty).mp looked
          rcases ih done with ⟨found, same, leads⟩ | ⟨none, lost⟩
          · exact .inl ⟨found, same, .into within leads⟩
          · exact .inr ⟨none, .into within lost⟩

/-! ## Names -/

/-- A name whose value is missing: its first segment is found nowhere, or the others are lost on the
way from its value. -/
inductive Misses (context : Context) (attributes : Attributes) (first : String)
    (rest : List String) : Prop where
  | nowhere (passed : ∀ frame ∈ context.frames, Lacks frame first)
      (absent : Value.lookup (.text first) context.globals = none) :
      Misses context attributes first rest
  | lost {value : Value} (starts : context.Starts first value) (lost : Lost attributes value rest) :
      Misses context attributes first rest

theorem get_eq (named : name ≠ ".") (parts : Text.split '.' name = first :: rest)
    (context : Context) (default : Value) : context.get name default attributes =
      (descend (context.start first) rest attributes).map (·.getD default) := by
  rw [get, if_neg (by simpa using named), parts]

/-- A search that does not fail finds what the name leads to, or nothing as the name is missing. -/
theorem search_cases (done : descend (context.start first) rest attributes = .ok result) :
    (∃ value found, result = some found ∧ context.Starts first value ∧
      Leads attributes value rest found) ∨
      result = none ∧ context.Misses attributes first rest := by
  cases start : context.start first with
  | none =>
    rw [start, descend_none] at done
    have ⟨passed, absent⟩ := start_eq_none_iff.mp start
    exact .inr ⟨(Except.ok.inj done).symm, .nowhere passed absent⟩
  | some value =>
    rw [start] at done
    have starts := start_eq_some_iff.mp start
    rcases descend_cases done with ⟨found, same, leads⟩ | ⟨none, lost⟩
    · exact .inl ⟨value, found, same, starts, leads⟩
    · exact .inr ⟨none, .lost starts lost⟩

/-- A name that is missing has no value. -/
theorem Misses.not_found (misses : context.Misses attributes first rest)
    (starts : context.Starts first value) : ¬Leads attributes value rest found := by
  have start := start_eq_some_iff.mpr starts
  cases misses with
  | nowhere passed absent =>
    rw [start_eq_none_iff.mpr ⟨passed, absent⟩] at start
    cases start
  | lost startsToo lost =>
    have same := start_eq_some_iff.mpr startsToo
    rw [start] at same
    cases same
    exact lost.not_leads

/-- A value that comes whatever the default is is not always the default. -/
theorem not_every_default (same : ∀ default : Value, default = found) : False := by
  have null := same .null
  have truth := same (.bool true)
  exact Value.noConfusion (null.trans truth.symm)

/-- A name other than a single dot is its segments with dots between them. Unless its lookup fails,
and whatever attributes values have, it comes to a value whatever the default is exactly if the
first segment has a value, in the newest mapping of the stack that has the segment or else in the
globals, from which the others lead there; it comes to the default, whatever that is, exactly if the
first segment is found nowhere or a later one is missing or asked of null; and one of the two is so.
A value that is put on the stack and does not have the first segment changes nothing about the name,
and for one that has it nothing below it matters. -/
theorem scoped_lookup (attributes : Attributes) (context : Context) {name : String}
    (named : name ≠ ".") :
    ∃ first rest, Text.split '.' name = first :: rest ∧
      ".".intercalate (first :: rest) = name ∧
      (∀ segment ∈ first :: rest, '.' ∉ segment.toList) ∧
      ((∃ default result, context.get name default attributes = .ok result) →
        (∀ found, (∀ default, context.get name default attributes = .ok found) ↔
          ∃ value, context.Starts first value ∧ Leads attributes value rest found) ∧
        ((∀ default, context.get name default attributes = .ok default) ↔
          context.Misses attributes first rest) ∧
        ((∃ found, ∀ default, context.get name default attributes = .ok found) ∨
          ∀ default, context.get name default attributes = .ok default)) ∧
      (∀ frame, Lacks frame first → ∀ index length default,
        (context.push frame index length).get name default attributes =
          context.get name default attributes) ∧
      ∀ entries value, Value.lookup (.text first) entries = some value →
        ∀ (other : Context) index length default,
          (context.push (.mapping entries) index length).get name default attributes =
            (other.push (.mapping entries)).get name default attributes := by
  obtain ⟨first, rest, parts, plain, whole⟩ := Text.split_dot name
  have search (context : Context) (default : Value) : context.get name default attributes =
      (descend (context.start first) rest attributes).map (·.getD default) :=
    get_eq named parts context default
  refine ⟨first, rest, parts, whole, plain, ?_, ?_, ?_⟩
  · rintro ⟨default, result, done⟩
    cases ended : descend (context.start first) rest attributes with
    | error fault =>
      rw [search, ended] at done
      cases done
    | ok outcome =>
      have comes (default : Value) :
          context.get name default attributes = .ok (outcome.getD default) := by
        rw [search, ended]
        rfl
      rcases search_cases ended with ⟨value, found, rfl, starts, leads⟩ | ⟨rfl, misses⟩
      · refine ⟨fun other => ⟨fun always => ?_, ?_⟩, ⟨fun always => ?_, fun misses => ?_⟩,
          .inl ⟨found, comes⟩⟩
        · have same : found = other := Except.ok.inj ((comes .null).symm.trans (always .null))
          exact ⟨value, starts, same ▸ leads⟩
        · rintro ⟨start, startsToo, leadsToo⟩
          have begins := start_eq_some_iff.mpr startsToo
          rw [begins, descend_of_leads leadsToo] at ended
          cases ended
          exact comes
        · exact (not_every_default fun default =>
            Except.ok.inj ((always default).symm.trans (comes default))).elim
        · exact (misses.not_found starts leads).elim
      · refine ⟨fun other => ⟨fun always => ?_, ?_⟩, ⟨fun _ => misses, fun _ => comes⟩, .inr comes⟩
        · exact (not_every_default fun default =>
            Except.ok.inj ((comes default).symm.trans (always default))).elim
        · rintro ⟨start, starts, leads⟩
          exact (misses.not_found starts leads).elim
  · intro frame lacks index length default
    have above : (context.push frame index length).start first = context.start first := by
      unfold start push
      rw [List.findSome?_cons_of_isNone (by rw [field?_eq_none_iff.mpr lacks]; rfl)]
    rw [search, search, above]
  · intro entries value found other index length default
    have top (context : Context) (index length : Option Int) :
        (context.push (.mapping entries) index length).start first = some value := by
      have here : (Value.mapping entries).field? first = some value := found
      unfold start push
      dsimp only
      rw [List.findSome?_cons, here]
    rw [search, search, top, top]

/-- A null in a newer mapping hides what an older one has under the whole name. -/
theorem scoped_lookup_shadowed :
    let newer : Value := .mapping [(.text "a", .null)]
    let older : Value := .mapping [(.text "a", .mapping [(.text "b", .int 1)])]
    let context : Context := { frames := [.int 7, newer, older] }
    "a.b" ≠ "." ∧ (∀ default, context.get "a.b" default = .ok default) ∧
      ∀ default, (context.push (.text "a.b")).get "a.b" default = context.get "a.b" default := by
  intro newer older context
  have named : "a.b" ≠ "." := by decide
  obtain ⟨first, rest, parts, -, -, decides, lacking, -⟩ :=
    scoped_lookup attributeOf context named
  have split : Text.split '.' "a.b" = ["a", "b"] := by decide
  rw [split] at parts
  cases parts
  have stack : context.frames = [.int 7] ++ newer :: [older] := rfl
  have number : ∀ frame ∈ [Value.int 7], Lacks frame "a" := by
    intro frame member entries same
    rw [List.mem_singleton.mp member] at same
    cases same
  have starts : context.Starts "a" .null := .frame stack number rfl
  have ⟨_, falls, _⟩ := decides ⟨.null, .null, rfl⟩
  exact ⟨named, falls.mpr (.lost starts .null), lacking (.text "a.b") nofun none none⟩

end Context

end TemplateStream
