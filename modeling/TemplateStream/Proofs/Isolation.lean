import TemplateStream.Proofs.AbreastRuns
import TemplateStream.Proofs.FailingScripts
import TemplateStream.Proofs.Lacking

/-!
# Calls that fail are isolated

A document that comes of a template differs from the one that comes of the template without some
calls that fail in the places of those calls alone. In the place of each call there stands what its
helper had written before it failed, followed by the error body or the placeholder, as the taps
change it that were in force before the call. That it is the place of this very call is shown by
marks: whatever is to be written in the gaps of the template without the calls, in its document the
mark of each gap stands where the full document has what the call of the gap left.
-/

namespace TemplateStream

open RenderTree Outline Relation

/-! ## Documents that differ in gaps -/

/-- A piece of the documents that come of a template and of the template without some calls. -/
inductive Piece where
  /-- The same text in both. -/
  | same (text : String)
  /-- What a call left in the one, and the gap in the other. -/
  | apart (texts : List String) (gap : Gap)

namespace Piece

/-- The texts of a piece of the document with the calls. -/
def full : Piece → List String
  | .same text => [text]
  | .apart texts _ => texts

/-- The texts of a piece of the document without the calls, with marks in the gaps. -/
def bare (marks : Marks) : Piece → List String
  | .same text => [text]
  | .apart _ gap => gap.texts marks

/-- A piece is as it should be: where there is a gap in the one document, the other has what can
have become of something that the call of the gap may leave. -/
def Fits (leaves : Gap → Outline → Prop) : Piece → Prop
  | .same _ => True
  | .apart texts gap => ∃ left : Outline, leaves gap left ∧ left.Becomes (ofTexts texts)

end Piece

/-- The results of rendering a template, and the template without some calls with any marks, are the
same fault, or documents of the same pieces: whatever the marks, they are the same but that the one
has what a call left where the other has the mark of the gap of the call. -/
def Isolates (leaves : Gap → Outline → Prop) (result : Except Fault String)
    (bare : Marks → Except Fault String) : Prop :=
  (∃ fault, result = .error fault ∧ ∀ marks, bare marks = .error fault) ∨
    ∃ pieces : List Piece, result = .ok (String.join (pieces.flatMap Piece.full)) ∧
      (∀ marks, bare marks = .ok (String.join (pieces.flatMap (Piece.bare marks)))) ∧
      ∀ piece ∈ pieces, piece.Fits leaves

/-! ## The end of two passes -/

namespace Pass

variable {pass : Pass} {outline : Outline}

/-- As many records are open as there are holes. -/
theorem Outlined.incompleteCount_eq (outlined : pass.Outlined outline) (kept : pass.Kept)
    (taken : pass.rootTaken = true) : pass.tree.incompleteCount = (holes outline).length := by
  let isOpen (entry : Handle × Nat) : Bool := !entry.1.complete
  have distinct : ((pass.handles.toList.zipIdx.filter isOpen).map Prod.snd).Nodup := by
    refine List.Nodup.sublist (List.filter_sublist.map _) ?_
    rw [List.zipIdx_map_snd]
    exact List.nodup_range'
  have numbers : ((holes outline).map Chunk.number).Nodup :=
    outlined.distinct.map fun _ _ same => Chunk.eq_of_number same
  have same : ((pass.handles.toList.zipIdx.filter isOpen).map Prod.snd).Perm
      ((holes outline).map Chunk.number) := by
    refine (List.perm_ext_iff_of_nodup distinct numbers).mpr fun number => ?_
    simp only [List.mem_map, List.mem_filter, Prod.exists, List.mem_zipIdx_iff_getElem?, isOpen,
      Array.getElem?_toList, Bool.not_eq_true']
    constructor
    · rintro ⟨handle, _, ⟨found, incomplete⟩, rfl⟩
      exact ⟨⟨_⟩, outlined.holed found incomplete, rfl⟩
    · rintro ⟨chunk, member, rfl⟩
      obtain ⟨handle, found, incomplete⟩ := outlined.isOpen member
      exact ⟨handle, _, ⟨found, incomplete⟩, rfl⟩
  have counted := same.length_eq
  rw [List.length_map, List.length_map, ← List.countP_eq_length_filter] at counted
  rw [kept.incompleteCount_eq, unended, taken, if_pos rfl, Nat.add_zero, ← counted]
  have entries : pass.handles.toList = pass.handles.toList.zipIdx.map Prod.fst :=
    (List.zipIdx_map_fst 0 _).symm
  conv_lhs => rw [entries]
  rw [List.countP_map]
  rfl

end Pass

variable {accord : Accord} {twins : List Chunk} {parts : List Part} {full bare : Pass}
  {copies : Copies}

/-- The holes of the full document are those of the bare one and those of what calls left. -/
theorem length_holes (parts : List Part) (marks : Marks) :
    (holes (parts.flatMap Part.full)).length =
      (parts.flatMap Part.places).length + (holes (parts.flatMap (Part.bare marks))).length := by
  induction parts with
  | nil => rfl
  | cons part rest ih =>
    have own :
        (holes part.full).length = part.places.length + (holes (part.bare marks)).length := by
      cases part with
      | text content => rfl
      | holes chunk other => rfl
      | apart inner gap => simp [Part.full, Part.bare, Part.places]
    simp only [List.flatMap_cons, holes_append, List.length_append, ih, own]
    omega

/-- Parts without holes are pieces. -/
theorem exists_pieces (none : holes (parts.flatMap Part.full) = [])
    (fits : ∀ part ∈ parts, part.Fits accord twins []) :
    ∃ pieces : List Piece, parts.flatMap Part.full = ofTexts (pieces.flatMap Piece.full) ∧
      (∀ marks, parts.flatMap (Part.bare marks) = ofTexts (pieces.flatMap (Piece.bare marks))) ∧
      ∀ piece ∈ pieces, piece.Fits accord.leaves := by
  induction parts with
  | nil => exact ⟨[], rfl, fun _ => rfl, by simp⟩
  | cons part rest ih =>
    obtain ⟨own, others⟩ := List.forall_mem_cons.mp fits
    rw [List.flatMap_cons, holes_append, List.append_eq_nil_iff] at none
    obtain ⟨noneHere, noneLater⟩ := none
    obtain ⟨pieces, left, right, all⟩ := ih noneLater others
    have goesOn (piece : Piece) (same : part.full = ofTexts piece.full)
        (sameToo : ∀ marks, part.bare marks = ofTexts (piece.bare marks))
        (fits : piece.Fits accord.leaves) :
        ∃ pieces : List Piece,
          (part :: rest).flatMap Part.full = ofTexts (pieces.flatMap Piece.full) ∧
          (∀ marks, (part :: rest).flatMap (Part.bare marks) =
            ofTexts (pieces.flatMap (Piece.bare marks))) ∧
          ∀ piece ∈ pieces, piece.Fits accord.leaves := by
      refine ⟨piece :: pieces, ?_, fun marks => ?_, List.forall_mem_cons.mpr ⟨fits, all⟩⟩
      · simp [left, same, ofTexts]
      · simp [right, sameToo, ofTexts]
    cases part with
    | text content => exact goesOn (.same content) rfl (fun _ => rfl) trivial
    | holes own place => cases noneHere
    | apart inner gap =>
      obtain ⟨texts, rfl⟩ := eq_ofTexts noneHere
      refine goesOn (.apart texts gap) rfl (fun _ => rfl) ?_
      have yields := own (fun _ => []) (by simp)
      rwa [expanded_ofTexts] at yields

/-- Passes that are abreast when all undertakings are done come to the same, but for what calls
left. -/
theorem Abreast.concludes (abreast : Abreast accord twins parts [] full bare copies)
    (some : twins ≠ []) :
    Isolates accord.leaves full.conclusion fun marks =>
      (bare.having (copies marks)).conclusion := by
  cases failures : full.failures with
  | cons fault rest =>
    refine .inl ⟨fault, ?_, fun _ => ?_⟩
    · simp only [Pass.conclusion, failures]
    · simp only [Pass.conclusion, ← abreast.failures, failures]
  | nil =>
    have failuresToo : bare.failures = [] := abreast.failures.symm.trans failures
    obtain ⟨chunk, rest, rfl⟩ := List.exists_cons_of_ne_nil some
    have twin : Twin (chunk :: rest) chunk ⟨0⟩ := rfl
    obtain ⟨handle, held, found, foundToo, _⟩ := abreast.handles twin
    have open_eq := abreast.outlinedFull.incompleteCount_eq abreast.keptFull
      (abreast.keptFull.owned.taken_of_found found)
    have openToo (marks : Marks) := (abreast.outlinedBare marks).incompleteCount_eq
      (abreast.keptBare marks) ((abreast.keptBare marks).owned.taken_of_found foundToo)
    obtain ⟨_, whole⟩ := abreast.keptFull.whole
    have places : parts.flatMap Part.places = [] := abreast.places.symm.eq_nil
    have same (marks : Marks) :
        full.tree.incompleteCount = (bare.having (copies marks)).tree.incompleteCount := by
      rw [open_eq, openToo, length_holes parts marks, places, List.length_nil, Nat.zero_add]
    by_cases finished : full.tree.incompleteCount = 0
    · obtain ⟨pieces, left, right, all⟩ :=
        exists_pieces (List.length_eq_zero_iff.mp (open_eq.symm.trans finished)) abreast.fits
      refine .inr ⟨pieces, ?_, fun marks => ?_, all⟩
      · obtain ⟨whole, output⟩ := (left ▸ abreast.outlinedFull).settled
        simp only [Pass.conclusion, failures, whole, if_true, RenderTree.text, output, join_solid]
      · obtain ⟨whole, output⟩ := (right marks ▸ abreast.outlinedBare marks).settled
        have texts : (copies marks).output = _ := output
        simp only [Pass.conclusion, failuresToo, whole, if_true, RenderTree.text, texts, join_solid]
    · have unfinished : full.tree.finished = false :=
        Bool.eq_false_iff.mpr fun all => finished (whole.finished_iff.mp all)
      refine .inl ⟨.chunk (.unfinished full.tree.incompleteCount), ?_, fun marks => ?_⟩
      · simp only [Pass.conclusion, failures, unfinished, Bool.false_eq_true, if_false]
      · obtain ⟨_, wholeToo⟩ := (abreast.keptBare marks).whole
        have unfinishedToo : (bare.having (copies marks)).tree.finished = false :=
          Bool.eq_false_iff.mpr fun all =>
            finished ((same marks).trans (wholeToo.finished_iff.mp all))
        simp only [Pass.conclusion, failuresToo, unfinishedToo, Bool.false_eq_true, if_false,
          same marks]

/-! ## Whole documents -/

namespace Pass

/-- Renders a body in some way into the root chunk, which is then ended. -/
def beginWith (render : RenderBody) (body : Body) (context : Context) : PassM Unit := do
  let root ← Chunk.root
  discard (render body root context)
  root.finish

/-- Renders a body in some way as a whole document. -/
def documentWith (render : RenderBody) (body : Body) (context : Context) : PassM String := do
  let result ← attempt do
    beginWith render body context
    driveWithin render turnLimit
    liftExcept (← get).conclusion
  match result with
  | .ok text => pure text
  | .error fault =>
    discard do
      driveWithin render turnLimit
      pure (← get).failures
    throw fault

/-- A pass renders documents with the rendering of bodies. -/
theorem document_eq_documentWith (body : Body) (context : Context) :
    document body context = documentWith Body.render body context := by
  simp only [document, documentWith, wait, drain, drive]
  rfl

variable {render : RenderBody} {body : Body} {context : Context} {pass middle last : Pass}
  {fault : Fault}

/-- A document that could not be begun fails after the work that is left is done. -/
theorem document_failed (begun : beginWith render body context pass = (.error fault, middle))
    (drove : driveWithin render turnLimit middle = (.ok (), last)) :
    (documentWith render body context pass).1 = .error fault := by
  simp only [documentWith, bind_step, attempt_step, begun, discard_step, drove, get_step,
    pure_step, throw_step]

/-- A document that was begun comes to the conclusion of its pass when no work is left. -/
theorem document_concluded (begun : beginWith render body context pass = (.ok (), middle))
    (drove : driveWithin render turnLimit middle = (.ok (), last))
    (done : last.agenda.pending = []) :
    (documentWith render body context pass).1 = last.conclusion := by
  have idle : driveWithin render turnLimit last = (.ok (), last) := driveWithin_empty _ done
  simp only [documentWith, bind_step, attempt_step, begun, drove, get_step, liftExcept_step]
  cases last.conclusion with
  | ok text => rfl
  | error fault => simp only [bind_step, discard_step, idle, get_step, pure_step, throw_step]

end Pass

/-- Renders a body as a whole document, with marks in the gaps. -/
def Omission.document (omission : Omission) (marks : Marks) (body : Body) (context : Context) :
    PassM String :=
  Pass.documentWith (omission.render marks) body context

/-- When a document is begun its root is open in both passes. -/
theorem abreast_opened (omission : Omission) (sheds : Shedding) :
    Abreast (omission.accord sheds) [⟨0⟩] [.holes ⟨0⟩ ⟨0⟩] [] (Pass.opened omission.looping)
      (Pass.opened omission.looping) fun _ => (Pass.opened omission.looping).tree := by
  have kept : (Pass.opened omission.looping).Kept :=
    (Pass.kept_start omission.looping).reaches
      (reaches_endure.root.after (Pass.root_opened omission.looping))
  exact {
    keptFull := kept
    keptBare := fun _ => kept
    outlinedFull := Pass.opened_outlined omission.looping
    outlinedBare := fun _ => Pass.opened_outlined omission.looping
    sizes := fun _ => rfl
    fits := List.forall_mem_singleton.mpr rfl
    places := .refl _
    tended := by simp
    paired := by
      intro number own found
      obtain ⟨inside, rfl⟩ := List.getElem?_eq_some_iff.mp found
      obtain rfl : number = 0 := Nat.lt_one_iff.mp inside
      exact ⟨_, _, rfl, rfl, rfl, rfl, TapStack.harmless_empty⟩
    all := rfl
    distinct := List.nodup_singleton _
    scheduled := ⟨rfl, [], [], [], .nil, .nil, .nil, .refl _⟩
    saved := .nil
    gates := rfl
    loopingFull := rfl
    loopingBare := rfl
    failures := rfl }

/-- Beginning documents goes along. -/
theorem Omission.Unfolds.begins {omission : Omission} {sheds : Shedding} {context : Context}
    {full bare : Body} (unfolds : omission.Unfolds sheds)
    (related : sheds Body.nestingLimit context full bare) :
    EndAbreast (omission.accord sheds) [⟨0⟩] (fun _ _ _ => True)
      (Pass.beginWith Body.render full context (Pass.start .accepting omission.looping))
      fun marks => Pass.beginWith (omission.render marks) bare context
        (Pass.start .accepting omission.looping) := by
  have twin : Twin [⟨0⟩] ⟨0⟩ ⟨0⟩ := rfl
  have along : Along (omission.accord sheds) [⟨0⟩] (fun _ _ _ => True)
      (do
        discard (full.render ⟨0⟩ context)
        Chunk.finish ⟨0⟩)
      fun marks => (do
        discard (omission.render marks bare ⟨0⟩ context)
        Chunk.finish ⟨0⟩) :=
    (unfolds.rendersAlong Body.nestingLimit related twin).discard.bind
      fun _ _ _ grows _ => .finish (twin_mono grows twin) .null
  exact along.goes (abreast_opened omission sheds)

/-- The template without the calls of those helpers. -/
def unbroken : Body :=
  .call "upper" [("block", .sequence [.text "a", .function "first" [], .text "b",
    .function "second" [], .text "c"])] []

/-- A template that numbers its texts, with bodies between them. -/
def numbered (between : List Body) : Body :=
  .call "number" [("block", .sequence ([.text "a"] ++ between ++ [.text "b", .text "c"]))] []

/-- A template that ends a branch in the end, with bodies between its texts. -/
def branched (between : List Body) : Body :=
  .sequence ([.callback [.map [.save "kept"]], .text "a"] ++ between ++
    [.text "b", .callback [.on "kept" [.finish .null]]])

end TemplateStream
