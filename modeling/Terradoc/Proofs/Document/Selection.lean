import Mathlib.Data.List.Nodup
import Terradoc.Proofs.Document.References
import Terradoc.Proofs.Lists

/-! The references that targets make: target by target those to the blocks that it selects, each block
once and under the first target that selects it. -/

namespace Terradoc

/-- What a target selects of blocks, in their order: those of its key among the ones that it addresses,
and all that it addresses where it has no key or none is of its key. -/
structure BlockTarget.Selects (target : BlockTarget) (blocks selected : List Block) : Prop where
  keyed : ∀ key, target.key = some key →
    (∃ block ∈ blocks, target.addresses block.kind = true ∧ block.key = some key) →
      selected = blocks.filter fun block => target.addresses block.kind && block.key == some key
  unkeyed : (∀ key, target.key = some key → ∀ block ∈ blocks,
      target.addresses block.kind = true → block.key ≠ some key) →
    selected = blocks.filter fun block => target.addresses block.kind

theorem BlockTarget.select_selects (target : BlockTarget) (blocks : List Block) :
    target.Selects blocks (target.select blocks) := by
  have keyed (key : InstanceKey) :
      (blocks.filter fun block => target.addresses block.kind).filter (fun block => block.key == some key) =
        blocks.filter fun block => target.addresses block.kind && block.key == some key := by
    rw [List.filter_filter]
    exact List.filter_congr fun block _ => Bool.and_comm _ _
  constructor
  · intro key same present
    obtain ⟨block, member, addressed, carried⟩ := present
    have found : block ∈ blocks.filter fun block =>
        target.addresses block.kind && block.key == some key := by
      simp [member, addressed, carried]
    simp only [select, same, keyed]
    rw [if_neg]
    intro empty
    exact List.ne_nil_of_mem found (List.isEmpty_iff.mp empty)
  · intro absent
    cases same : target.key with
    | none => simp [select, same]
    | some key =>
      have none : (blocks.filter fun block =>
          target.addresses block.kind && block.key == some key) = [] := by
        apply List.filter_eq_nil_iff.mpr
        intro block member carried
        obtain ⟨addressed, carried⟩ := Bool.and_eq_true_iff.mp carried
        exact absent key same block member addressed (beq_iff_eq.mp carried)
      simp only [select, same, keyed, none]
      rfl

section First

/-- The reference that is kept for an id is the first with the id. -/
theorem find?_firstReferences (references : List Reference) (id : BlockId) :
    (firstReferences references).find? (·.id == id) = references.find? (·.id == id) := by
  induction references using List.reverseRecOn with
  | nil => rfl
  | append_singleton references reference ih =>
    rw [firstReferences_concat, List.find?_append, ← ih]
    by_cases known : reference.id ∈ (firstReferences references).map Reference.id
    · rw [if_pos known]
      obtain ⟨kept, member, same⟩ := List.mem_map.mp known
      by_cases asked : reference.id = id
      · have found : ((firstReferences references).find? (·.id == id)).isSome = true := by
          apply List.find?_isSome.mpr
          exact ⟨kept, member, beq_iff_eq.mpr (same.trans asked)⟩
        rw [Option.or_of_isSome found]
      · simp [asked]
    · rw [if_neg known, List.find?_append]

theorem find?_of_mem_firstReferences {references : List Reference} {reference : Reference}
    (member : reference ∈ firstReferences references) :
    references.find? (·.id == reference.id) = some reference := by
  rw [← find?_firstReferences]
  have present : ((firstReferences references).find? (·.id == reference.id)).isSome = true := by
    apply List.find?_isSome.mpr
    exact ⟨reference, member, beq_self_eq_true _⟩
  obtain ⟨found, first⟩ := Option.isSome_iff_exists.mp present
  have same : found.id = reference.id := by
    simpa using List.find?_some first
  rw [first, List.inj_on_of_nodup_map (firstReferences_nodup references)
    (List.mem_of_find?_eq_some first) member same]

/-- References to blocks that are referred to already add nothing. -/
theorem firstReferences_seen {early seen : List Reference}
    (known : ∀ reference ∈ seen, reference.id ∈ early.map Reference.id) :
    firstReferences (early ++ seen) = firstReferences early := by
  induction seen using List.reverseRecOn with
  | nil => rw [List.append_nil]
  | append_singleton seen reference ih =>
    obtain ⟨before, last⟩ := List.forall_mem_append.mp known
    have kept : reference.id ∈ (firstReferences early).map Reference.id := by
      rw [firstReferences_ids, List.mem_eraseDups]
      exact last reference List.mem_cons_self
    rw [← List.append_assoc, firstReferences_concat, ih before, if_pos kept]

/-- What is kept of later references depends on what is kept of those before. -/
theorem firstReferences_append_congr {early other : List Reference}
    (same : firstReferences early = firstReferences other) (late : List Reference) :
    firstReferences (early ++ late) = firstReferences (other ++ late) := by
  induction late using List.reverseRecOn with
  | nil => simpa using same
  | append_singleton late reference ih =>
    rw [← List.append_assoc, ← List.append_assoc, firstReferences_concat, firstReferences_concat, ih]

end First

section Targets

variable (targets : List BlockTarget) (blocks : List Block) (self : BlockId)

theorem linkTargets_ids : (linkTargets targets blocks self).map Reference.id =
    (((targets.flatMap (·.select blocks)).map Block.id).filter (· != self)).eraseDups := by
  rw [linkTargets, firstReferences_ids, List.map_flatMap, List.filter_flatMap, List.filter_flatMap,
    List.map_flatMap]
  simp only [List.filter_map, List.map_map]
  rfl

/-- The reference to a block that a target selects, if it selects a block with that id. -/
private theorem find?_references (target : BlockTarget) (id : BlockId) :
    ((target.select blocks).map target.referenceTo).find? (·.id == id) =
      if id ∈ (target.select blocks).map Block.id then some ⟨id, target.label, target.name⟩
      else none := by
  induction target.select blocks with
  | nil => rfl
  | cons block rest ih =>
    rw [List.map_cons, List.find?_cons, ih, List.map_cons]
    by_cases same : block.id = id
    · simp [BlockTarget.referenceTo, same]
    · have differ : (block.id == id) = false := beq_eq_false_iff_ne.mpr same
      simp [BlockTarget.referenceTo, differ, Ne.symm same]

/-- A reference has the label and the name of the first target that selects its block. -/
theorem linkTargets_first {reference : Reference}
    (member : reference ∈ linkTargets targets blocks self) :
    ∃ target, targets.find? (fun target => (target.select blocks).any (·.id == reference.id)) =
        some target ∧
      reference.label = target.label ∧ reference.name = target.name := by
  have other : reference.id ≠ self := (mem_linkTargets member).1
  have first := find?_of_mem_firstReferences member
  rw [List.find?_filter] at first
  have passes : (fun found : Reference =>
      decide ((found.id != self) = true ∧ (found.id == reference.id) = true)) =
        fun found => found.id == reference.id := by
    funext found
    by_cases same : found.id = reference.id
    · simp [same, other]
    · simp [same]
  rw [passes] at first
  clear passes member other
  induction targets with
  | nil => cases first
  | cons target rest ih =>
    rw [List.flatMap_cons, List.find?_append, find?_references] at first
    by_cases selected : reference.id ∈ (target.select blocks).map Block.id
    · rw [if_pos selected] at first
      have same : (⟨reference.id, target.label, target.name⟩ : Reference) = reference :=
        Option.some.inj first
      refine ⟨target, ?_, (congrArg Reference.label same).symm, (congrArg Reference.name same).symm⟩
      rw [List.find?_cons_of_pos]
      simpa using selected
    · rw [if_neg selected, Option.none_or] at first
      obtain ⟨found, earliest, labelled⟩ := ih first
      refine ⟨found, ?_, labelled⟩
      rw [List.find?_cons_of_neg, earliest]
      simpa using selected

/-- A target that comes again changes nothing. -/
theorem linkTargets_again {before : List BlockTarget} {target : BlockTarget} (seen : target ∈ before)
    (after : List BlockTarget) :
    linkTargets (before ++ target :: after) blocks self = linkTargets (before ++ after) blocks self := by
  simp only [linkTargets, List.flatMap_append, List.flatMap_cons, List.filter_append]
  rw [← List.append_assoc]
  apply firstReferences_append_congr
  apply firstReferences_seen
  intro reference member
  obtain ⟨made, other⟩ := List.mem_filter.mp member
  apply List.mem_map_of_mem
  apply List.mem_filter.mpr
  exact ⟨List.mem_flatMap.mpr ⟨target, seen, made⟩, other⟩

/-- The references that targets make are those to the blocks that each of them selects, target by target,
without the block that refers and without repetitions. Each has the label and the name of the first target
that selects its block, and a target that comes again changes nothing. -/
theorem linkTargets_in_order :
    (∀ target : BlockTarget, target.Selects blocks (target.select blocks)) ∧
      (linkTargets targets blocks self).map Reference.id =
        (((targets.flatMap (·.select blocks)).map Block.id).filter (· != self)).eraseDups ∧
      (∀ reference ∈ linkTargets targets blocks self, ∃ target,
        targets.find? (fun target => (target.select blocks).any (·.id == reference.id)) = some target ∧
          reference.label = target.label ∧ reference.name = target.name) ∧
      ∀ before target after, targets = before ++ after → target ∈ before →
        linkTargets (before ++ target :: after) blocks self = linkTargets targets blocks self := by
  refine ⟨fun target => target.select_selects blocks, linkTargets_ids targets blocks self, ?_, ?_⟩
  · intro reference member
    exact linkTargets_first targets blocks self member
  · intro before target after whole seen
    rw [whole]
    exact linkTargets_again blocks self seen after

end Targets

end Terradoc
