import Mathlib.Data.List.Nodup
import TemplateStream.Proofs.ChunkSteps
import TemplateStream.Proofs.Flow

/-!
# What a document is owed

While a document is being written, each of its open records is owed the texts that are still to
come. What was written to each record and what it is owed make up the document, in document
order. Writing pays a part of a debt, forking divides one between the branch and the
continuation, and a record that is owed nothing can be completed. When nothing is owed to anyone,
the whole document has flowed out.
-/

namespace TemplateStream

namespace RenderTree

/-- A plan says what is still to be written to each record, and debts name the records to which
anything is. -/
structure Planned (tree : RenderTree) (written plan : Journal) (out rest : List Nat)
    (document : List String) (debts : List (Nat × List String)) : Prop
    extends Settled tree written out rest where
  /-- Each debt is owed to a record of its own. -/
  distinct : (debts.map Prod.fst).Nodup
  writable : ∀ debt ∈ debts, tree.isOpen debt.1 = true
  waits : ∀ debt ∈ debts, debt.1 ∈ rest
  planned : ∀ debt ∈ debts, plan debt.1 = debt.2
  /-- No open record of the document is forgotten. -/
  owed : ∀ index ∈ rest, tree.isComplete index = false → index ∈ debts.map Prod.fst
  /-- Nothing is owed to complete records. -/
  paid : ∀ index, tree.isComplete index = true → plan index = []
  /-- What was written and what is to be written make up the document. -/
  document : (out ++ rest).flatMap (fun index => written index ++ plan index) = document

/-- The open records of a tree are owed what its document lacks. -/
def Due (tree : RenderTree) (document : List String) (debts : List (Nat × List String)) : Prop :=
  ∃ written plan out rest, Planned tree written plan out rest document debts

/-- The first record of a new tree is owed the whole document. -/
theorem fresh_due (strangers : Array Record) (document : List String) :
    Due (fresh strangers) document [(0, document)] := by
  have found := fresh_found strangers
  refine ⟨fun _ => [], Function.update (fun _ => []) 0 document, [], [0], {
    toSettled := fresh_settled strangers
    distinct := List.nodup_singleton 0
    writable := fun debt member => by
      rw [List.mem_singleton.mp member]
      exact isOpen_iff.mpr ⟨{}, found, rfl⟩
    waits := fun debt member => by rw [List.mem_singleton.mp member]; exact List.mem_cons_self
    planned := fun debt member => by rw [List.mem_singleton.mp member]; rfl
    owed := fun index member _ => member
    paid := ?paid
    document := by simp }⟩
  case paid =>
    intro index complete
    have different : index ≠ 0 := by
      rintro rfl
      rw [isComplete_of_found found] at complete
      cases complete
    rw [Function.update_of_ne different]

namespace Planned

variable {tree : RenderTree} {written plan : Journal} {out rest : List Nat}
  {document : List String} {debts : List (Nat × List String)} {index : Nat}

/-- A record to which something is owed is not complete. -/
theorem different (planned : Planned tree written plan out rest document debts)
    {debt : Nat × List String} (member : debt ∈ debts) {other : Nat}
    (complete : tree.isComplete other = true) : other ≠ debt.1 := by
  rintro rfl
  rw [isComplete_of_isOpen (planned.writable debt member)] at complete
  cases complete

/-- A record to which something is owed is in the arena. -/
theorem lt_size (planned : Planned tree written plan out rest document debts)
    {debt : Nat × List String} (member : debt ∈ debts) : debt.1 < tree.records.size := by
  have isOpen := planned.writable debt member
  rw [isOpen_eq, Bool.and_eq_true, decide_eq_true_eq] at isOpen
  exact isOpen.1

/-- Nothing is owed to a record that is not there yet. -/
theorem notMem_of_size_le (planned : Planned tree written plan out rest document debts)
    (outside : tree.records.size ≤ index) : index ∉ debts.map Prod.fst := by
  intro member
  obtain ⟨debt, owed, rfl⟩ := List.mem_map.mp member
  exact Nat.not_lt.mpr outside (planned.lt_size owed)

/-- The other debts are owed to other records. -/
theorem apart {texts : List String}
    (planned : Planned tree written plan out rest document ((index, texts) :: debts))
    {debt : Nat × List String} (member : debt ∈ debts) : debt.1 ≠ index := by
  intro same
  exact (List.nodup_cons.mp planned.distinct).1 (List.mem_map.mpr ⟨debt, member, same⟩)

end Planned

/-- A plan in which what a record is owed is divided between a branch and a continuation. -/
def divided (plan : Journal) (index branch continuation : Nat) (first second : List String) :
    Journal :=
  Function.update (Function.update (Function.update plan index []) continuation second)
    branch first

section divided

variable {plan : Journal} {index branch continuation : Nat} {first second : List String}

/-- A branch is owed the first part. -/
theorem divided_branch :
    divided plan index branch continuation first second branch = first :=
  Function.update_self ..

/-- A continuation is owed the second part. -/
theorem divided_continuation (apart : continuation ≠ branch) :
    divided plan index branch continuation first second continuation = second := by
  rw [divided, Function.update_of_ne apart, Function.update_self]

/-- A record that was forked is owed nothing. -/
theorem divided_index (branched : index ≠ branch) (continued : index ≠ continuation) :
    divided plan index branch continuation first second index = [] := by
  rw [divided, Function.update_of_ne branched, Function.update_of_ne continued,
    Function.update_self]

/-- All other records are owed what they were. -/
theorem divided_other {other : Nat} (forked : other ≠ index) (branched : other ≠ branch)
    (continued : other ≠ continuation) :
    divided plan index branch continuation first second other = plan other := by
  rw [divided, Function.update_of_ne branched, Function.update_of_ne continued,
    Function.update_of_ne forked]

end divided

namespace Planned

variable {tree after : RenderTree} {written plan : Journal} {out rest : List Nat}
  {document : List String} {debts : List (Nat × List String)} {index : Nat}
  {first second : List String}

/-- Whoever is owed something after a fork can be written to. -/
theorem writable_of_fork {texts : List String}
    (planned : Planned tree written plan out rest document ((index, texts) :: debts))
    (first second : List String) (size : after.records.size = tree.records.size + 2)
    (complete : ∀ other, after.isComplete other = (tree.isComplete other || other == index)) :
    ∀ debt ∈ (tree.records.size + 1, first) :: (tree.records.size, second) :: debts,
      after.isOpen debt.1 = true := by
  have inside : index < tree.records.size := planned.lt_size List.mem_cons_self
  intro debt member
  rw [isOpen_eq, size, complete, Bool.and_eq_true, decide_eq_true_eq, Bool.not_eq_true',
    Bool.or_eq_false_iff, beq_eq_false_iff_ne]
  rcases List.mem_cons.mp member with rfl | member
  · exact ⟨by simp, isComplete_of_size_le (by simp), by simp; omega⟩
  rcases List.mem_cons.mp member with rfl | later
  · exact ⟨by simp, isComplete_of_size_le (by simp), by simp; omega⟩
  · have known : debt ∈ (index, texts) :: debts := List.mem_cons_of_mem _ later
    exact ⟨Nat.lt_add_right 2 (planned.lt_size known),
      isComplete_of_isOpen (planned.writable debt known), planned.apart later⟩

/-- The branch and the continuation stand where the forked record's texts were to come, so
dividing what it is owed leaves the document as it is. -/
theorem document_of_divided
    (planned : Planned tree written plan out rest document ((index, first ++ second) :: debts)) :
    (out ++ insertBehind index [tree.records.size + 1, tree.records.size] rest).flatMap
      (fun other => written other ++
        divided plan index (tree.records.size + 1) tree.records.size first second other) =
      document := by
  have front : (index, first ++ second) ∈ (index, first ++ second) :: debts :=
    List.mem_cons_self
  have inside : index < tree.records.size := planned.lt_size front
  have outside : index ∉ out := fun flowed =>
    planned.toSettled.apart flowed (planned.waits _ front)
  rw [← insertBehind_of_notMem outside, ← insertBehind_append, ← planned.document]
  apply flatMap_insertBehind
  · intro other visited different
    have old := List.mem_range.mp (planned.linked.subset_range visited)
    rw [divided_other different (by omega) (by omega)]
  · have blank := planned.blank tree.records.size (Nat.le_refl _)
    have blankNext := planned.blank (tree.records.size + 1) (Nat.le_succ _)
    have here : plan index = first ++ second := planned.planned _ front
    rw [List.flatMap_cons, List.flatMap_singleton, divided_index (by omega) (by omega),
      divided_branch, divided_continuation (by omega), blank, blankNext, here]
    simp

end Planned

namespace Due

variable {tree : RenderTree} {document : List String} {debts : List (Nat × List String)}
  {index : Nat}

/-- It does not matter in which order debts are listed. -/
theorem perm {others : List (Nat × List String)} (due : Due tree document debts)
    (reordered : debts.Perm others) : Due tree document others := by
  obtain ⟨written, plan, out, rest, planned⟩ := due
  have names := reordered.map Prod.fst
  exact ⟨written, plan, out, rest, {
    toSettled := planned.toSettled
    distinct := names.nodup_iff.mp planned.distinct
    writable := fun debt member => planned.writable debt (reordered.mem_iff.mpr member)
    waits := fun debt member => planned.waits debt (reordered.mem_iff.mpr member)
    planned := fun debt member => planned.planned debt (reordered.mem_iff.mpr member)
    owed := fun index waiting incomplete =>
      names.mem_iff.mp (planned.owed index waiting incomplete)
    paid := planned.paid
    document := planned.document }⟩

/-- What a record receives pays a part of what it is owed. -/
theorem receive {texts left : List String}
    (due : Due tree document ((index, texts ++ left) :: debts)) :
    Due (tree.received index texts) document ((index, left) :: debts) := by
  obtain ⟨written, plan, out, rest, planned⟩ := due
  have first : (index, texts ++ left) ∈ (index, texts ++ left) :: debts := List.mem_cons_self
  have here : plan index = texts ++ left := planned.planned _ first
  obtain ⟨appended, alike⟩ := planned.receive (planned.writable _ first) texts
  refine ⟨_, Function.update plan index left, out, rest, {
    toSettled := appended
    distinct := planned.distinct
    writable := ?writable
    waits := ?waits
    planned := ?planned
    owed := ?owed
    paid := ?paid
    document := ?document }⟩
  case writable =>
    intro debt member
    rw [isOpen_eq, alike.size, alike.complete, ← isOpen_eq]
    rcases List.mem_cons.mp member with rfl | later
    · exact planned.writable (index, texts ++ left) first
    · exact planned.writable debt (List.mem_cons_of_mem _ later)
  case waits =>
    intro debt member
    rcases List.mem_cons.mp member with rfl | later
    · exact planned.waits (index, texts ++ left) first
    · exact planned.waits debt (List.mem_cons_of_mem _ later)
  case planned =>
    intro debt member
    rcases List.mem_cons.mp member with rfl | later
    · exact Function.update_self ..
    · rw [Function.update_of_ne (planned.apart later)]
      exact planned.planned debt (List.mem_cons_of_mem _ later)
  case owed =>
    intro other waiting incomplete
    rw [alike.complete other] at incomplete
    exact planned.owed other waiting incomplete
  case paid =>
    intro other complete
    rw [alike.complete other] at complete
    rw [Function.update_of_ne (planned.different first complete), planned.paid other complete]
  case document =>
    rw [← planned.document]
    refine List.flatMap_congr fun other _ => ?_
    by_cases same : other = index
    · rw [same, Function.update_self, Function.update_self, here, List.append_assoc]
    · rw [Function.update_of_ne same, Function.update_of_ne same]

/-- A record that is owed nothing can be completed. -/
theorem complete (due : Due tree document ((index, []) :: debts)) :
    ∃ after, RenderTree.complete index tree = (.ok (), after) ∧ Due after document debts := by
  obtain ⟨written, plan, out, rest, planned⟩ := due
  have first : (index, []) ∈ (index, []) :: debts := List.mem_cons_self
  obtain ⟨after, moved, left, completed, split, settled, size, complete⟩ :=
    planned.complete (planned.writable _ first)
  have writable : ∀ debt ∈ debts, after.isOpen debt.1 = true := by
    intro debt later
    have before := planned.writable debt (List.mem_cons_of_mem _ later)
    rw [isOpen_eq] at before ⊢
    rw [size, complete, beq_false_of_ne (planned.apart later), Bool.or_false]
    exact before
  refine ⟨after, completed, written, plan, out ++ moved, left, {
    toSettled := settled
    distinct := (List.nodup_cons.mp planned.distinct).2
    writable := writable
    waits := ?waits
    planned := fun debt later => planned.planned debt (List.mem_cons_of_mem _ later)
    owed := ?owed
    paid := ?paid
    document := ?document }⟩
  case waits =>
    intro debt later
    have waited : debt.1 ∈ out ++ moved ++ left := by
      rw [List.append_assoc, ← split]
      exact List.mem_append_right out (planned.waits debt (List.mem_cons_of_mem _ later))
    exact settled.waits_of_open waited (isComplete_of_isOpen (writable debt later))
  case owed =>
    intro other waiting incomplete
    rw [complete other, Bool.or_eq_false_iff, beq_eq_false_iff_ne] at incomplete
    have waited : other ∈ rest := split ▸ List.mem_append_right moved waiting
    rcases List.mem_cons.mp (planned.owed other waited incomplete.1) with same | later
    · exact absurd same incomplete.2
    · exact later
  case paid =>
    intro other completeAfter
    rw [complete other, Bool.or_eq_true, beq_iff_eq] at completeAfter
    rcases completeAfter with before | rfl
    · exact planned.paid other before
    · exact planned.planned _ first
  case document =>
    rw [List.append_assoc, ← split]
    exact planned.document

/-- Forking a record divides what it is owed between the branch and the continuation. -/
theorem fork {first second : List String}
    (due : Due tree document ((index, first ++ second) :: debts)) :
    ∃ after,
      RenderTree.fork index tree =
        (.ok (tree.records.size + 1, tree.records.size), after) ∧
      Due after document
        ((tree.records.size + 1, first) :: (tree.records.size, second) :: debts) := by
  obtain ⟨written, plan, out, rest, planned⟩ := due
  have front : (index, first ++ second) ∈ (index, first ++ second) :: debts :=
    List.mem_cons_self
  have inside : index < tree.records.size := planned.lt_size front
  obtain ⟨after, moved, left, forked, split, settled, size, complete⟩ :=
    planned.fork (planned.writable _ front)
  have waiting : index ∈ rest := planned.waits _ front
  have writable := planned.writable_of_fork first second size complete
  refine ⟨after, forked, written,
    divided plan index (tree.records.size + 1) tree.records.size first second,
    out ++ moved, left, {
      toSettled := settled
      distinct := ?distinct
      writable := writable
      waits := ?waits
      planned := ?planned
      owed := ?owed
      paid := ?paid
      document := ?document }⟩
  case distinct =>
    have old := (List.nodup_cons.mp planned.distinct).2
    have new {other : Nat} (outside : tree.records.size ≤ other) :
        other ∉ debts.map Prod.fst :=
      fun member => planned.notMem_of_size_le outside (List.mem_cons_of_mem _ member)
    refine List.nodup_cons.mpr ⟨?_, List.nodup_cons.mpr ⟨new (Nat.le_refl _), old⟩⟩
    exact List.not_mem_cons_of_ne_of_not_mem (by simp) (new (Nat.le_succ _))
  case waits =>
    intro debt member
    have waited : debt.1 ∈ insertBehind index [tree.records.size + 1, tree.records.size] rest := by
      rw [mem_insertBehind waiting]
      rcases List.mem_cons.mp member with rfl | member
      · exact Or.inr List.mem_cons_self
      rcases List.mem_cons.mp member with rfl | later
      · exact Or.inr (List.mem_cons_of_mem _ List.mem_cons_self)
      · exact Or.inl (planned.waits debt (List.mem_cons_of_mem _ later))
    refine settled.waits_of_open ?_ (isComplete_of_isOpen (writable debt member))
    rw [List.append_assoc, ← split]
    exact List.mem_append_right out waited
  case planned =>
    intro debt member
    rcases List.mem_cons.mp member with rfl | member
    · exact divided_branch
    rcases List.mem_cons.mp member with rfl | later
    · exact divided_continuation (by omega)
    · have := planned.lt_size (List.mem_cons_of_mem _ later)
      rw [divided_other (planned.apart later) (by omega) (by omega)]
      exact planned.planned debt (List.mem_cons_of_mem _ later)
  case owed =>
    intro other waits incomplete
    rw [complete other, Bool.or_eq_false_iff, beq_eq_false_iff_ne] at incomplete
    have waited : other ∈ insertBehind index [tree.records.size + 1, tree.records.size] rest :=
      split ▸ List.mem_append_right moved waits
    rcases (mem_insertBehind waiting).mp waited with old | new
    · rcases List.mem_cons.mp (planned.owed other old incomplete.1) with same | later
      · exact absurd same incomplete.2
      · exact List.mem_cons_of_mem _ (List.mem_cons_of_mem _ later)
    · simp only [List.map_cons, List.mem_cons, List.not_mem_nil, or_false] at new ⊢
      tauto
  case paid =>
    intro other completeAfter
    rw [complete other, Bool.or_eq_true, beq_iff_eq] at completeAfter
    rcases completeAfter with before | rfl
    · have old : other < tree.records.size := by
        by_contra outside
        rw [isComplete_of_size_le (Nat.le_of_not_lt outside)] at before
        cases before
      rw [divided_other (planned.different front before) (by omega) (by omega)]
      exact planned.paid other before
    · exact divided_index (by omega) (by omega)
  case document =>
    rw [List.append_assoc, ← split]
    exact planned.document_of_divided

/-- When nothing is owed to anyone the whole document has flowed out. -/
theorem settled (due : Due tree document []) :
    tree.finished = true ∧ tree.output = solid document ∧ tree.delivered = solid document := by
  obtain ⟨written, plan, out, rest, planned⟩ := due
  have ended : rest = [] := by
    cases rest with
    | nil => rfl
    | cons index rest =>
      have incomplete : tree.isComplete index = false := planned.front index rfl
      cases planned.owed index List.mem_cons_self incomplete
  subst ended
  have unplanned : out.flatMap (fun index => written index ++ plan index) =
      out.flatMap written := by
    refine List.flatMap_congr fun index member => ?_
    obtain ⟨record, found, complete, _⟩ := planned.flowed index member
    rw [planned.paid index ((isComplete_of_found found).trans complete), List.append_nil]
  have output : tree.output = solid document := by
    rw [planned.output, ← planned.document, List.append_nil, unplanned]
  refine ⟨?_, output, planned.delivered.trans output⟩
  rw [finished, planned.cursor]
  rfl

end Due

end RenderTree

end TemplateStream
