import TemplateStream.Proofs.Composing
import TemplateStream.Proofs.Places

/-!
# Separators

The separator renders its block unless the current item is the last of its list, and the position of
an item travels in the context in which it is rendered. So a section over a list renders a body at
each item and what separates them between each two, and nothing else: whatever loops, templates or
scripts there are in the bodies or around the section, and whenever their branches come to write,
the document has in the place of the section what each of these renderings put there, in order.
-/

namespace TemplateStream

open RenderTree Relation

/-- A body with what separates it from its like, as the block of a call of the separator. -/
def Body.separated (body separator : Body) : Body :=
  .sequence [body, .call "sep" [("block", separator)] []]

/-- The context of an item of a list, at its position. -/
def Context.atItem (context : Context) (length : Nat) (entry : Value × Nat) : Context :=
  context.push entry.1 (some entry.2) (some length)

/-- The separator is registered under its name, without parameters. -/
def Context.HasSeparator (context : Context) : Prop :=
  ∃ environment helper, context.environment = some environment ∧
    environment.helpers.get "sep" = .ok helper ∧ helper.function = .builtin .sep ∧
    helper.parameters = [] ∧ helper.strict = false

/-- A body is rendered into a chunk, without a recovery, and the chunk is gone on with. -/
structure Snapshot.Renders (depth : Nat) (body : Body) (context : Context) (chunk : Chunk)
    (before after : Snapshot) : Prop where
  rendered : Body.renderTo depth body chunk context before.pass = (.ok chunk, after.pass)
  unrecovered : after.pass.recoveries = before.pass.recoveries
  reached : before.Reaches after

/-- A body is rendered at each of several items of a list of the given length, and what separates
its renderings behind each that is not the last of the list. -/
structure Snapshot.Alternates (depth : Nat) (body separator : Body) (context : Context)
    (chunk : Chunk) (length : Nat) (entries : List (Value × Nat)) (start middle : Nat → Snapshot) :
    Prop where
  body : ∀ entry ∈ entries, Snapshot.Renders (depth + 1) body (context.atItem length entry) chunk
    (start entry.2) (middle entry.2)
  separator : ∀ entry ∈ entries, entry.2 + 1 < length →
    Snapshot.Renders depth separator (context.atItem length entry) chunk (middle entry.2)
      (start (entry.2 + 1))

/-- The chunk can be written to. -/
def Pass.IsOpen (pass : Pass) (chunk : Chunk) : Prop :=
  ∃ handle, pass.handles[chunk.number]? = some handle ∧ handle.complete = false

/-! ## One item -/

section item

variable {body separator : Body} {context : Context} {chunk next : Chunk} {pass after : Pass}
  {depth : Nat}

/-- An item is the last of its list when none follows its position. -/
theorem Context.atLast_atItem (context : Context) (length : Nat) (entry : Value × Nat) :
    (context.atItem length entry).atLast = decide (entry.2 + 1 = length) := by
  simp only [atLast, atItem, push, Option.any_some]
  rw [Bool.eq_iff_iff]
  simp
  omega

/-- What the call of the separator is made of. -/
theorem separator_composition (has : context.HasSeparator) :
    (Body.call "sep" [("block", separator)] []).composition context =
      some (.parts (if context.atLast then [] else [(context, separator)])) := by
  obtain ⟨environment, helper, known, got, builtin, bare, lenient⟩ := has
  have resolved : Parameter.resolve helper (.ofList []) (some context) = .ok {} := by
    simp [Parameter.resolve, bare, lenient]
    rfl
  rw [Body.composition_call known got resolved, builtin]
  rfl

/-- The call of the separator is a plain one. -/
theorem separator_plain (has : context.HasSeparator) :
    (Body.call "sep" [("block", separator)] []).IsPlain context := by
  obtain ⟨environment, helper, known, got, builtin, _⟩ := has
  intro other found knownOther gotOther
  obtain rfl := Option.some.inj (known.symm.trans knownOther)
  obtain rfl := Except.ok.inj (got.symm.trans gotOther)
  rw [builtin]
  rfl

/-- A chunk that a body was rendered into was open. -/
theorem open_of_rendered
    (rendered : Body.renderTo (depth + 1) body chunk context pass = (.ok next, after)) :
    pass.IsOpen chunk ∧
      body.write (Body.renderTo depth) chunk context pass = (.ok next, after) := by
  obtain ⟨_, middle, allowed, wrote⟩ := bind_ok rendered
  obtain ⟨rfl, isOpen⟩ := Chunk.ensureOpen_ok allowed
  exact ⟨isOpen, wrote⟩

/-- A body is only rendered into a chunk that is open. -/
theorem isOpen_of_rendered
    (rendered : Body.renderTo depth body chunk context pass = (.ok next, after)) :
    pass.IsOpen chunk := by
  cases depth with
  | zero => cases rendered
  | succ depth => exact (open_of_rendered rendered).1

/-- A body is written into a chunk that is open. -/
theorem renderTo_of_open (isOpen : pass.IsOpen chunk) (depth : Nat) (body : Body)
    (context : Context) :
    Body.renderTo (depth + 1) body chunk context pass =
      body.write (Body.renderTo depth) chunk context pass := by
  obtain ⟨handle, found, incomplete⟩ := isOpen
  simp only [Body.renderTo, Body.renderWith, bind_step, Chunk.ensureOpen_step found, incomplete,
    Bool.false_eq_true, if_false]

/-- A body that is rendered at an item without a recovery, with what separates it, is rendered and
leaves its chunk open, and then what separates it is rendered unless the item is the last. -/
theorem separated_rendered (has : context.HasSeparator)
    (rendered : Body.renderTo (depth + 2) (body.separated separator) chunk context pass =
      (.ok next, after))
    (unrecovered : after.recoveries = pass.recoveries) :
    ∃ first middle, Body.renderTo (depth + 1) body chunk context pass = (.ok first, middle) ∧
      middle.recoveries = pass.recoveries ∧ middle.IsOpen first ∧
      renderSites (Body.renderTo depth) first
        (if context.atLast then [] else [(context, separator)]) middle = (.ok next, after) ∧
      after.recoveries = middle.recoveries := by
  obtain ⟨_, wrote⟩ := open_of_rendered rendered
  rw [Body.separated, write_sequence] at wrote
  obtain ⟨first, middle, front, early, behind, late⟩ :=
    renderSites_cons (recoveries_endure.renderTo (depth + 1)) wrote unrecovered
  rw [List.map_cons, List.map_nil, renderSites_singleton] at behind
  obtain ⟨⟨handle, found, isOpen⟩, called⟩ := open_of_rendered behind
  obtain ⟨composition, composed, performed⟩ := composition_of_write
    (recoveries_endure.renderTo depth) (separator_plain has) found called late
  cases (separator_composition has).symm.trans composed
  exact ⟨first, middle, front, early, ⟨handle, found, isOpen⟩, performed, late⟩

/-- A body and what separates it are rendered at an item when they are rendered one after the other,
and what separates it not at the last item. -/
theorem separated_renders (has : context.HasSeparator) {first : Chunk} {middle : Pass}
    (front : Body.renderTo (depth + 1) body chunk context pass = (.ok first, middle))
    (isOpen : middle.IsOpen first)
    (behind : renderSites (Body.renderTo depth) first
      (if context.atLast then [] else [(context, separator)]) middle = (.ok next, after)) :
    Body.renderTo (depth + 2) (body.separated separator) chunk context pass =
      (.ok next, after) := by
  obtain ⟨handle, found, incomplete⟩ := isOpen
  have called : Body.renderTo (depth + 1) (.call "sep" [("block", separator)] []) first context
      middle = (.ok next, after) := by
    rw [renderTo_of_open ⟨handle, found, incomplete⟩]
    exact perform_of_composition (separator_plain has) found (separator_composition has) behind
  rw [renderTo_of_open (open_of_rendered front).1, Body.separated, write_sequence, renderSites,
    List.map_cons, List.foldlM_cons, bind_step, front]
  exact (renderSites_singleton (context, _)).trans called

end item

/-! ## All items -/

/-- A body that is rendered into a chunk without a recovery gives that chunk to go on with. -/
def Body.KeepsChunk (depth : Nat) (body : Body) (context : Context) (chunk : Chunk) : Prop :=
  ∀ pass next after, Body.renderTo depth body chunk context pass = (.ok next, after) →
    after.recoveries = pass.recoveries → next = chunk

/-- What a rendering without a recovery makes of a snapshot. -/
theorem Snapshot.exists_renders {depth : Nat} {body : Body} {context : Context} {chunk : Chunk}
    {before : Snapshot} {after : Pass}
    (rendered : Body.renderTo depth body chunk context before.pass = (.ok chunk, after))
    (unrecovered : after.recoveries = before.pass.recoveries) :
    ∃ snapshot : Snapshot, snapshot.pass = after ∧
      before.Renders depth body context chunk snapshot := by
  have reached : before.pass.Reaches after :=
    (reaches_endure.renderTo depth body chunk context).after rendered
  obtain ⟨written, journal⟩ := reached.writes before.written
  exact ⟨⟨after, written⟩, rfl, rendered, unrecovered, journal⟩

section items

variable {body separator : Body} {context : Context} {chunk next : Chunk} {depth length : Nat}
  {items : List Value} {position : Nat}

/-- What a section renders at items: the body with what separates it. -/
def separatedSites (body separator : Body) (context : Context) (length : Nat)
    (entries : List (Value × Nat)) : List Site :=
  entries.map fun entry => (context.atItem length entry, body.separated separator)

/-- Renderings at several items follow those at the item before them. -/
theorem Snapshot.Alternates.cons {item : Value} {entries : List (Value × Nat)}
    {before mid : Snapshot} {start middle : Nat → Snapshot}
    (alternates : Alternates depth body separator context chunk length entries start middle)
    (later : ∀ entry ∈ entries, position < entry.2)
    (renders : before.Renders (depth + 1) body (context.atItem length (item, position)) chunk mid)
    (further : position + 1 < length → mid.Renders depth separator
      (context.atItem length (item, position)) chunk (start (position + 1))) :
    Alternates depth body separator context chunk length ((item, position) :: entries)
      (Function.update start position before) (Function.update middle position mid) where
  body := by
    intro entry member
    rcases List.mem_cons.mp member with rfl | other
    · simpa using renders
    · have apart := Nat.ne_of_gt (later entry other)
      rw [Function.update_of_ne apart, Function.update_of_ne apart]
      exact alternates.body entry other
  separator := by
    intro entry member more
    rcases List.mem_cons.mp member with rfl | other
    · rw [Function.update_self, Function.update_of_ne (Nat.succ_ne_self position)]
      exact further more
    · have apart := later entry other
      rw [Function.update_of_ne (Nat.ne_of_gt apart),
        Function.update_of_ne (Nat.ne_of_gt (Nat.lt_succ_of_lt apart))]
      exact alternates.separator entry other more

/-- A section over items that is rendered without a recovery renders the body at each item, and what
separates it between each two. -/
theorem alternates_of_rendered (has : context.HasSeparator)
    (count : position + items.length = length) (some : items ≠ [])
    (keeps : ∀ entry ∈ items.zipIdx position,
      body.KeepsChunk (depth + 1) (context.atItem length entry) chunk ∧
        separator.KeepsChunk depth (context.atItem length entry) chunk)
    {before : Snapshot} {after : Pass}
    (rendered : renderSites (Body.renderTo (depth + 2)) chunk
      (separatedSites body separator context length (items.zipIdx position)) before.pass =
        (.ok next, after))
    (unrecovered : after.recoveries = before.pass.recoveries) :
    next = chunk ∧ ∃ start middle : Nat → Snapshot, start position = before ∧
      Snapshot.Alternates depth body separator context chunk length (items.zipIdx position) start
        middle ∧
      (middle (length - 1)).pass = after ∧ after.IsOpen chunk := by
  induction items generalizing position before with
  | nil => exact absurd rfl some
  | cons item rest ih =>
    rw [List.length_cons] at count
    rw [List.zipIdx_cons] at rendered keeps ⊢
    obtain ⟨⟨keepsBody, keepsSeparator⟩, keepsRest⟩ := List.forall_mem_cons.mp keeps
    obtain ⟨first, between, front, early, others, late⟩ :=
      renderSites_cons (recoveries_endure.renderTo (depth + 2)) rendered unrecovered
    have known : (context.atItem length (item, position)).HasSeparator := has
    obtain ⟨same, inside, wrote, unanswered, isOpen, separates, separated⟩ :=
      separated_rendered known front early
    obtain rfl := keepsBody _ _ _ wrote unanswered
    obtain ⟨mid, rfl, renders⟩ := Snapshot.exists_renders wrote unanswered
    have last := context.atLast_atItem length (item, position)
    cases rest with
    | nil =>
      have ends : position + 1 = length := count
      rw [last, decide_eq_true ends, if_pos rfl] at separates
      cases separates
      cases others
      refine ⟨rfl, fun _ => before, fun _ => mid, rfl, ?_, rfl, isOpen⟩
      constructor
      · intro entry member
        rw [List.mem_singleton.mp member]
        exact renders
      · intro entry member more
        rw [List.mem_singleton.mp member] at more
        omega
    | cons second rest =>
      have goesOn : ¬ position + 1 = length := by
        rw [List.length_cons] at count
        omega
      rw [last, decide_eq_false goesOn, if_neg Bool.false_ne_true, renderSites_singleton]
        at separates
      obtain rfl := keepsSeparator _ _ _ separates separated
      obtain ⟨next, rfl, further⟩ := Snapshot.exists_renders separates separated
      obtain ⟨rfl, start, middle, begins, alternates, ends, isOpen⟩ :=
        ih (by omega) (by simp) keepsRest others late
      have behind : ∀ entry ∈ (second :: rest).zipIdx (position + 1), position < entry.2 :=
        fun entry member => List.le_snd_of_mem_zipIdx member
      refine ⟨rfl, _, _, Function.update_self .., alternates.cons behind renders fun _ => ?_, ?_,
        isOpen⟩
      · rw [begins]
        exact further
      · rw [Function.update_of_ne (by rw [List.length_cons] at count; omega)]
        exact ends

namespace Snapshot.Alternates

variable {item second : Value} {rest : List Value} {start middle : Nat → Snapshot}

/-- At the last item only the body is rendered. -/
theorem single (count : position + [item].length = length)
    (alternates : Alternates depth body separator context chunk length ([item].zipIdx position)
      start middle) :
    length - 1 = position ∧ (start position).Renders (depth + 1) body
      (context.atItem length (item, position)) chunk (middle position) :=
  ⟨(Nat.eq_sub_of_add_eq count).symm, alternates.body _ List.mem_cons_self⟩

/-- At any other item the body is rendered, then what separates it, and then the rest. -/
theorem uncons (count : position + (item :: second :: rest).length = length)
    (alternates : Alternates depth body separator context chunk length
      ((item :: second :: rest).zipIdx position) start middle) :
    (start position).Renders (depth + 1) body (context.atItem length (item, position)) chunk
        (middle position) ∧
      (middle position).Renders depth separator (context.atItem length (item, position)) chunk
        (start (position + 1)) ∧
      position + 1 + (second :: rest).length = length ∧
      Alternates depth body separator context chunk length
        ((second :: rest).zipIdx (position + 1)) start middle := by
  simp only [List.length_cons] at count ⊢
  have more : position + 1 < length := by omega
  refine ⟨alternates.body _ List.mem_cons_self, alternates.separator _ List.mem_cons_self more,
    by omega, ?_⟩
  exact ⟨fun entry member => alternates.body entry (List.mem_cons_of_mem _ member),
    fun entry member => alternates.separator entry (List.mem_cons_of_mem _ member)⟩

/-- From the first item to the last one snapshot leads to the next, without a recovery. -/
theorem reaches (count : position + items.length = length) (some : items ≠ [])
    (alternates : Alternates depth body separator context chunk length (items.zipIdx position) start
      middle) :
    (start position).Reaches (middle (length - 1)) ∧
      (middle (length - 1)).pass.recoveries = (start position).pass.recoveries := by
  induction items generalizing position with
  | nil => exact absurd rfl some
  | cons item rest ih =>
    cases rest with
    | nil =>
      obtain ⟨last, renders⟩ := alternates.single count
      rw [last]
      exact ⟨renders.reached, renders.unrecovered⟩
    | cons second rest =>
      obtain ⟨renders, further, count, others⟩ := alternates.uncons count
      obtain ⟨reached, unrecovered⟩ := ih count (List.cons_ne_nil second rest) others
      refine ⟨(renders.reached.trans further.reached).trans reached, ?_⟩
      rw [unrecovered, further.unrecovered, renders.unrecovered]

/-- A section over items renders when the body and what separates it are rendered alternately, and
the chunk is open at the end. -/
theorem rendered (has : context.HasSeparator) (count : position + items.length = length)
    (some : items ≠ [])
    (alternates : Alternates depth body separator context chunk length (items.zipIdx position) start
      middle)
    (isOpen : (middle (length - 1)).pass.IsOpen chunk) :
    renderSites (Body.renderTo (depth + 2)) chunk
        (separatedSites body separator context length (items.zipIdx position))
        (start position).pass = (.ok chunk, (middle (length - 1)).pass) := by
  induction items generalizing position with
  | nil => exact absurd rfl some
  | cons item rest ih =>
    have known : (context.atItem length (item, position)).HasSeparator := has
    have final := context.atLast_atItem length (item, position)
    cases rest with
    | nil =>
      obtain ⟨last, renders⟩ := alternates.single count
      rw [last] at isOpen ⊢
      refine (renderSites_singleton _).trans (separated_renders known renders.rendered isOpen ?_)
      rw [final, decide_eq_true (show position + 1 = length from count), if_pos rfl]
      rfl
    | cons second rest =>
      obtain ⟨renders, further, count, others⟩ := alternates.uncons count
      have goesOn : ¬ position + 1 = length := by
        rw [List.length_cons] at count
        omega
      have behind : renderSites (Body.renderTo depth) chunk
          (if (context.atItem length (item, position)).atLast then []
            else [(context.atItem length (item, position), separator)]) (middle position).pass =
          (.ok chunk, (start (position + 1)).pass) := by
        rw [final, decide_eq_false goesOn, if_neg Bool.false_ne_true,
          renderSites_singleton]
        exact further.rendered
      have front := separated_renders known renders.rendered (isOpen_of_rendered further.rendered)
        behind
      rw [separatedSites, List.zipIdx_cons, List.map_cons, renderSites, List.foldlM_cons, bind_step,
        front]
      exact ih count (List.cons_ne_nil second rest) others

/-- What stands in the place of a section is what the body and what separates it put there, one
after the other. -/
theorem between_eq {last : Snapshot} (count : position + items.length = length)
    (some : items ≠ [])
    (alternates : Alternates depth body separator context chunk length (items.zipIdx position) start
      middle)
    (sound : (start position).Sound) (later : (middle (length - 1)).Reaches last) :
    last.between chunk (start position) (middle (length - 1)) =
      (List.range' position (items.length - 1)).flatMap (fun index =>
        last.between chunk (start index) (middle index) ++
          last.between chunk (middle index) (start (index + 1))) ++
        last.between chunk (start (length - 1)) (middle (length - 1)) := by
  induction items generalizing position with
  | nil => exact absurd rfl some
  | cons item rest ih =>
    cases rest with
    | nil =>
      obtain ⟨ends, _⟩ := alternates.single count
      rw [ends]
      rfl
    | cons second rest =>
      obtain ⟨renders, further, count, others⟩ := alternates.uncons count
      have nonempty := List.cons_ne_nil second rest
      obtain ⟨soundMiddle, _⟩ := sound.reaches renders.reached
      obtain ⟨soundNext, _⟩ := soundMiddle.reaches further.reached
      obtain ⟨_, foundStart, _⟩ := isOpen_of_rendered renders.rendered
      obtain ⟨_, foundMiddle, _⟩ := isOpen_of_rendered further.rendered
      obtain ⟨_, foundNext, _⟩ := isOpen_of_rendered (others.body _ List.mem_cons_self).rendered
      obtain ⟨reached, _⟩ := others.reaches count nonempty
      have onward := reached.trans later
      -- the place of the chunk moves on from the body to what separates it, and from there on
      have overBody := sound.ahead_mono renders.reached (further.reached.trans onward) foundStart
      have overSeparator := soundMiddle.ahead_mono further.reached onward foundMiddle
      have overRest := soundNext.ahead_mono reached later foundNext
      rw [Snapshot.between_append overBody (overSeparator.trans overRest),
        Snapshot.between_append overSeparator overRest, ih count nonempty others soundNext]
      simp [List.range'_succ]

end Snapshot.Alternates

end items

/-! ## Ready-made forms -/

/-- A body that is made of others means what these mean, one after the other. -/
theorem Body.means_parts {Entry : Type} {context : Context} {body : Body} {entries : List Entry}
    {site : Entry → Site} {texts : Entry → List String}
    (composed : body.composition context = some (.parts (entries.map site)))
    (means : ∀ entry ∈ entries, (site entry).2.Means (site entry).1 (texts entry)) :
    body.Means context (entries.flatMap texts) := by
  have joins : ∃ steps depth,
      joined (meaningTo steps depth) (entries.map site) = some (entries.flatMap texts) := by
    clear composed
    induction entries with
    | nil => exact ⟨0, 0, rfl⟩
    | cons entry rest ih =>
      obtain ⟨⟨steps, depth, meaning⟩, others⟩ := List.forall_mem_cons.mp means
      obtain ⟨more, deeper, meanings⟩ := ih others
      have here := meaningTo_mono meaning (Nat.le_max_left steps more)
        (Nat.le_max_left depth deeper)
      have there := joined_mono meanings fun site _ _ held =>
        meaningTo_mono held (Nat.le_max_right steps more) (Nat.le_max_right depth deeper)
      refine ⟨max steps more, max depth deeper, ?_⟩
      simp [joined, here, there]
  obtain ⟨steps, depth, joins⟩ := joins
  refine ⟨steps + 1, depth + 1, ?_⟩
  rw [meaningTo_eq composed]
  exact joins

/-- Something for each position of a list, with something else between each two. -/
def alternating {α : Type} (length : Nat) (each between : Nat → List α) : List α :=
  (List.range (length - 1)).flatMap (fun index => each index ++ between index) ++
    each (length - 1)

/-- What stands between is left out at the last position. -/
theorem alternating_eq {α : Type} {items : List Value} (some : items ≠ [])
    (each between : Nat → List α) :
    items.zipIdx.flatMap (fun entry => each entry.2 ++
        if entry.2 + 1 = items.length then [] else between entry.2) =
      alternating items.length each between := by
  let both (index : Nat) : List α :=
    each index ++ if index + 1 = items.length then [] else between index
  have positions : items.zipIdx.flatMap (fun entry => both entry.2) =
      (List.range items.length).flatMap both := by
    rw [List.range_eq_range', ← List.zipIdx_map_snd, List.flatMap_map]
  obtain ⟨count, length⟩ : ∃ count, items.length = count + 1 :=
    Nat.exists_eq_succ_of_ne_zero (List.length_pos_iff.mpr some).ne'
  have early : (List.range count).flatMap both =
      (List.range count).flatMap fun index => each index ++ between index := by
    refine List.flatMap_congr fun index member => ?_
    have less := List.mem_range.mp member
    simp only [both, length]
    rw [if_neg (by omega)]
  have final : both count = each count := by
    simp only [both, length, if_true, List.append_nil]
  rw [positions, length, List.range_succ, List.flatMap_append, early, List.flatMap_singleton, final]
  rfl

section meaning

variable {body separator otherwise : Body} {context : Context} {path : String} {value : Value}
  {items : List Value}

/-- The call of the separator means what its block does, and nothing at the last item. -/
theorem separator_means (has : context.HasSeparator) {texts : List String}
    (means : context.atLast = false → separator.Means context texts) :
    (Body.call "sep" [("block", separator)] []).Means context
      (if context.atLast then [] else texts) := by
  have composed : (Body.call "sep" [("block", separator)] []).composition context =
      some (.parts (if context.atLast then [] else [(context, separator)])) :=
    separator_composition has
  cases last : context.atLast with
  | true =>
    rw [last, if_pos rfl] at composed
    have none : ∀ entry ∈ ([] : List Site), entry.2.Means entry.1 [] := nofun
    exact Body.means_parts composed none
  | false =>
    rw [last, if_neg Bool.false_ne_true] at composed
    have one : ∀ entry ∈ [(context, separator)], entry.2.Means entry.1 texts := by
      intro entry member
      rw [List.mem_singleton.mp member]
      exact means last
    simpa using Body.means_parts composed one

/-- A section over items is made of its block at each item. -/
theorem sectionSites_items (listed : value.items? = some items) (some : items ≠ [])
    (block otherwise : Body) :
    sectionSites context value block otherwise =
      items.zipIdx.map fun entry => (context.atItem items.length entry, block) := by
  cases items with
  | nil => exact absurd rfl some
  | cons item rest => simp only [sectionSites, listed, Context.atItem]

/-- A section over items whose body and separator mean something at each item means what the body
does, with what the separator does between each two. -/
theorem means_separated (has : context.HasSeparator) (got : context.get path = .ok value)
    (listed : value.items? = some items) (some : items ≠ []) {bodies separators : Nat → List String}
    (meansBody : ∀ entry ∈ items.zipIdx,
      body.Means (context.atItem items.length entry) (bodies entry.2))
    (meansSeparator : ∀ entry ∈ items.zipIdx, entry.2 + 1 < items.length →
      separator.Means (context.atItem items.length entry) (separators entry.2)) :
    (Body.each path (body.separated separator) otherwise).Means context
      (alternating items.length bodies separators) := by
  have composed := Body.composition_each got (body.separated separator) otherwise
  rw [sectionSites_items listed some] at composed
  rw [← alternating_eq some]
  refine Body.means_parts composed fun entry member => ?_
  have known : (context.atItem items.length entry).HasSeparator := has
  have last := context.atLast_atItem items.length entry
  have inside := List.snd_lt_of_mem_zipIdx member
  have called : (Body.call "sep" [("block", separator)] []).Means
      (context.atItem items.length entry)
      (if entry.2 + 1 = items.length then [] else separators entry.2) := by
    have means := separator_means known fun early => meansSeparator entry member (by
      rw [last, decide_eq_false_iff_not] at early
      omega)
    simpa only [last, decide_eq_true_eq] using means
  let parts : List (Body × List String) := [(body, bodies entry.2),
    (.call "sep" [("block", separator)] [],
      if entry.2 + 1 = items.length then [] else separators entry.2)]
  have both : (body.separated separator).composition (context.atItem items.length entry) =
      Option.some (.parts (parts.map fun part => (context.atItem items.length entry, part.1))) :=
    rfl
  have means : ∀ part ∈ parts, part.1.Means (context.atItem items.length entry) part.2 := by
    rw [List.forall_mem_cons, List.forall_mem_singleton]
    exact ⟨meansBody entry member, called⟩
  simpa [parts] using Body.means_parts both means

end meaning

/-! ## Sections -/

section sections

variable {body separator otherwise : Body} {context : Context} {chunk next : Chunk}
  {path : String} {value : Value} {items : List Value} {depth : Nat} {before : Snapshot}
  {after : Pass}

/-- A section over items that is rendered without a recovery renders the body at each item, and what
separates it between each two. -/
theorem alternates_of_section (has : context.HasSeparator) (got : context.get path = .ok value)
    (listed : value.items? = some items) (some : items ≠ [])
    (keeps : ∀ entry ∈ items.zipIdx,
      body.KeepsChunk (depth + 1) (context.atItem items.length entry) chunk ∧
        separator.KeepsChunk depth (context.atItem items.length entry) chunk)
    (rendered : Body.renderTo (depth + 3) (.each path (body.separated separator) otherwise) chunk
      context before.pass = (.ok next, after))
    (unrecovered : after.recoveries = before.pass.recoveries) :
    next = chunk ∧ ∃ start middle : Nat → Snapshot, start 0 = before ∧
      Snapshot.Alternates depth body separator context chunk items.length items.zipIdx start
        middle ∧
      (middle (items.length - 1)).pass = after ∧ after.IsOpen chunk := by
  obtain ⟨_, wrote⟩ := open_of_rendered rendered
  rw [write_each got, sectionSites_items listed some] at wrote
  exact alternates_of_rendered has (Nat.zero_add _) some keeps wrote unrecovered

/-- A section over items keeps its chunk when its body and what separates it do. -/
theorem Body.keepsChunk_section (has : context.HasSeparator) (got : context.get path = .ok value)
    (listed : value.items? = some items) (some : items ≠ [])
    (keeps : ∀ entry ∈ items.zipIdx,
      body.KeepsChunk (depth + 1) (context.atItem items.length entry) chunk ∧
        separator.KeepsChunk depth (context.atItem items.length entry) chunk) :
    (Body.each path (body.separated separator) otherwise).KeepsChunk (depth + 3) context chunk := by
  intro pass next after rendered unrecovered
  let before : Snapshot := ⟨pass, fun _ => []⟩
  have renders : Body.renderTo (depth + 3) (.each path (body.separated separator) otherwise) chunk
      context before.pass = (.ok next, after) := rendered
  exact (alternates_of_section has got listed some keeps renders unrecovered).1

/-- A body that does something and goes on with its chunk keeps it. -/
theorem Body.keepsChunk_of_write {step : PassM Unit}
    (writes : body.write (Body.renderTo depth) chunk context = do step; pure chunk) :
    body.KeepsChunk (depth + 1) context chunk := by
  intro pass next after rendered _
  obtain ⟨_, wrote⟩ := open_of_rendered rendered
  rw [writes] at wrote
  obtain ⟨_, _, _, done⟩ := bind_ok wrote
  cases done
  rfl

/-- A section over items of a list renders its body at each of them, and what separates the body
between each two and not behind the last. When all of these renderings succeed without a recovery
and go on with the chunk so does the section, and it succeeds in no other way. Whatever is done
later, the document has in the place of the section what each rendering put there, in order and
without anything else between them; and of ready-made forms that is what they mean. -/
theorem section_separates (sink : Sink) (looping : Bool)
    (accepts : ∀ received fragment, sink received fragment = none)
    (reached : Snapshot.Reaches ⟨Pass.start sink looping, fun _ => []⟩ before)
    (has : context.HasSeparator) (got : context.get path = .ok value)
    (listed : value.items? = some items) (some : items ≠ []) :
    (∀ start middle : Nat → Snapshot, start 0 = before →
      Snapshot.Alternates depth body separator context chunk items.length items.zipIdx start
        middle →
      (middle (items.length - 1)).pass.IsOpen chunk →
      Body.renderTo (depth + 3) (.each path (body.separated separator) otherwise) chunk context
          before.pass = (.ok chunk, (middle (items.length - 1)).pass) ∧
        (middle (items.length - 1)).pass.recoveries = before.pass.recoveries ∧
        ∀ last, (middle (items.length - 1)).Reaches last →
          last.between chunk before (middle (items.length - 1)) =
            alternating items.length (fun index => last.between chunk (start index) (middle index))
              (fun index => last.between chunk (middle index) (start (index + 1))) ∧
          last.ahead (before.place chunk) ++
              last.between chunk before (middle (items.length - 1)) <+: last.content ∧
          (last.pass.tree.finished = true → last.pass.tree.text = String.join last.content)) ∧
    ((∀ entry ∈ items.zipIdx,
        body.KeepsChunk (depth + 1) (context.atItem items.length entry) chunk ∧
          separator.KeepsChunk depth (context.atItem items.length entry) chunk) →
      ∀ next after, Body.renderTo (depth + 3) (.each path (body.separated separator) otherwise)
          chunk context before.pass = (.ok next, after) →
        after.recoveries = before.pass.recoveries →
        next = chunk ∧ ∃ start middle : Nat → Snapshot, start 0 = before ∧
          Snapshot.Alternates depth body separator context chunk items.length items.zipIdx start
            middle ∧
          (middle (items.length - 1)).pass = after ∧ after.IsOpen chunk) ∧
    ∀ bodies separators : Nat → List String,
      (∀ entry ∈ items.zipIdx,
        body.Means (context.atItem items.length entry) (bodies entry.2)) →
      (∀ entry ∈ items.zipIdx, entry.2 + 1 < items.length →
        separator.Means (context.atItem items.length entry) (separators entry.2)) →
      (Body.each path (body.separated separator) otherwise).Means context
        (alternating items.length bodies separators) := by
  obtain rfl : sink = .accepting := funext fun received => funext (accepts received)
  refine ⟨?_, fun keeps _ _ => alternates_of_section has got listed some keeps,
    fun _ _ => means_separated has got listed some⟩
  rintro start middle rfl alternates isOpen
  have count : 0 + items.length = items.length := Nat.zero_add _
  have sound := ((Snapshot.sound_start looping).reaches reached).1
  obtain ⟨item, rest, rfl⟩ := List.exists_cons_of_ne_nil some
  have first := isOpen_of_rendered (alternates.body (item, 0) List.mem_cons_self).rendered
  obtain ⟨onward, unrecovered⟩ := alternates.reaches count some
  refine ⟨?_, unrecovered, fun last later => ⟨?_, ?_, fun finished => ?_⟩⟩
  · rw [renderTo_of_open first, write_each got, sectionSites_items listed some]
    exact alternates.rendered has count some isOpen
  · rw [alternating, List.range_eq_range']
    exact alternates.between_eq count some sound later
  · obtain ⟨_, found, _⟩ := first
    obtain ⟨_, foundLast, _⟩ := isOpen
    rw [Snapshot.ahead_between (sound.ahead_mono onward later found)]
    exact (sound.reaches onward).1.ahead_content later foundLast
  · have final := (sound.reaches (onward.trans later)).1
    exact final.whole.text_eq (final.whole.finished_iff.mp finished)

end sections

/-- Rows of numbers, the numbers written by branches of their own. -/
def rowSection : Body :=
  .each "." (Body.separated (.deferred .function "cell" [.get "." .null]) (.text ",")) .absent

/-- Rows with separators of their own are separated. -/
def rowsSection : Body := .each "rows" (rowSection.separated (.text "; ")) .absent

/-- A row of two equal numbers. -/
def evenRow : Value := .list [.int 1, .int 1]

/-- A list of two equal rows. -/
def rowsContext : Context :=
  .ofValue (.mapping [(.text "rows", .list [evenRow, evenRow])]) [] (some { helpers := .builtin })

/-- At each row the section over its numbers keeps the chunk. -/
theorem rowSection_keepsChunk (entry : Value × Nat) (row : entry.1 = evenRow) :
    rowSection.KeepsChunk 4 (rowsContext.atItem 2 entry) ⟨0⟩ := by
  obtain ⟨_, position⟩ := entry
  obtain rfl := row
  have has : (rowsContext.atItem 2 (evenRow, position)).HasSeparator :=
    ⟨_, _, rfl, rfl, rfl, rfl, rfl⟩
  have got : (rowsContext.atItem 2 (evenRow, position)).get "." = .ok evenRow := rfl
  exact Body.keepsChunk_section has got rfl (by simp) fun _ _ =>
    ⟨Body.keepsChunk_of_write rfl, Body.keepsChunk_of_write rfl⟩

/-- Equal rows are separated by their position, and so are equal numbers in each of them. -/
theorem section_separates_rows :
    let before : Snapshot := ⟨.opened true, fun _ => []⟩
    let rendered := Body.renderTo 6 rowsSection ⟨0⟩ rowsContext before.pass
    (Pass.document rowsSection rowsContext (.start .accepting true)).1.toOption =
        some "1,1; 1,1" ∧
      (∀ received fragment, Sink.accepting received fragment = none) ∧
      Snapshot.Reaches ⟨Pass.start .accepting true, fun _ => []⟩ before ∧
      rowsContext.HasSeparator ∧ rowsContext.get "rows" = .ok (.list [evenRow, evenRow]) ∧
      (Value.list [evenRow, evenRow]).items? = some [evenRow, evenRow] ∧
      ∃ start middle : Nat → Snapshot, start 0 = before ∧
        Snapshot.Alternates 3 rowSection (.text "; ") rowsContext ⟨0⟩ 2
          [evenRow, evenRow].zipIdx start middle ∧
        (middle 1).pass = rendered.2 ∧
        ∀ last, (middle 1).Reaches last → last.between ⟨0⟩ before (middle 1) =
          last.between ⟨0⟩ before (middle 0) ++ last.between ⟨0⟩ (middle 0) (start 1) ++
            last.between ⟨0⟩ (start 1) (middle 1) := by
  intro before rendered
  have reached : Snapshot.Reaches ⟨Pass.start .accepting true, fun _ => []⟩ before :=
    ReflTransGen.single (.performs _ _ .root)
  have has : rowsContext.HasSeparator := ⟨_, _, rfl, rfl, rfl, rfl, rfl⟩
  have got : rowsContext.get "rows" = .ok (.list [evenRow, evenRow]) := rfl
  have succeeded : rendered = (.ok ⟨0⟩, rendered.2) := ran_ok (by decide +kernel)
  have unrecovered : rendered.2.recoveries = before.pass.recoveries :=
    List.isEmpty_iff.mp (by decide +kernel)
  obtain ⟨separates, alternates, _⟩ := section_separates .accepting true (fun _ _ => rfl) reached
    has got rfl (List.cons_ne_nil evenRow [evenRow])
  obtain ⟨_, start, middle, begins, alternate, ends, isOpen⟩ := alternates (fun entry member =>
    ⟨rowSection_keepsChunk entry (by
      have item := List.fst_mem_of_mem_zipIdx member
      simpa using item), Body.keepsChunk_of_write rfl⟩) ⟨0⟩ rendered.2 succeeded unrecovered
  refine ⟨by decide +kernel, fun _ _ => rfl, reached, has, got, rfl, start, middle, begins,
    alternate, ends, fun last later => ?_⟩
  obtain ⟨_, _, holds⟩ := separates start middle begins alternate (ends ▸ isOpen)
  have between := (holds last later).1
  simpa [alternating, begins] using between

end TemplateStream
