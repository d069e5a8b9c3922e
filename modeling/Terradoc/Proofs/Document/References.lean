import Terradoc.Proofs.Document.Identity
import Terradoc.Proofs.Session.Reach

namespace Terradoc

section Links

theorem firstReferences_concat (references : List Reference) (reference : Reference) :
    firstReferences (references ++ [reference]) =
      if reference.id ∈ (firstReferences references).map Reference.id then firstReferences references
      else firstReferences references ++ [reference] := by
  simp only [firstReferences, List.foldl_append, List.foldl_cons, List.foldl_nil, List.map_reverse,
    List.mem_reverse]
  generalize references.foldl _ [] = kept
  by_cases known : reference.id ∈ kept.map Reference.id
  · have found : (kept.any fun other => other.id == reference.id) = true := by
      simpa using known
    rw [if_pos known, if_pos found]
  · have fresh : ¬ (kept.any fun other => other.id == reference.id) = true := by
      simpa using known
    rw [if_neg known, if_neg fresh, List.reverse_cons]

/-- The ids that are kept are all ids, without their repetitions. -/
theorem firstReferences_ids (references : List Reference) :
    (firstReferences references).map Reference.id = (references.map Reference.id).eraseDups := by
  induction references using List.reverseRecOn with
  | nil => rfl
  | append_singleton references reference ih =>
    rw [firstReferences_concat, List.map_append, List.map_singleton, List.eraseDups_concat, ← ih]
    have same : reference.id ∈ (firstReferences references).map Reference.id ↔
        reference.id ∈ references.map Reference.id := by
      rw [ih, List.mem_eraseDups]
    by_cases known : reference.id ∈ references.map Reference.id
    · rw [if_pos known, if_pos (same.mpr known)]
    · rw [if_neg known, if_neg (fun kept => known (same.mp kept)), List.map_append,
        List.map_singleton]

/-- No id is kept twice. -/
theorem firstReferences_nodup (references : List Reference) :
    ((firstReferences references).map Reference.id).Nodup := by
  rw [firstReferences_ids]
  exact List.nodup_eraseDups _

theorem mem_of_mem_firstReferences {references : List Reference} {reference : Reference}
    (member : reference ∈ firstReferences references) : reference ∈ references := by
  induction references using List.reverseRecOn with
  | nil => exact member
  | append_singleton references last ih =>
    rw [firstReferences_concat] at member
    by_cases known : last.id ∈ (firstReferences references).map Reference.id
    · rw [if_pos known] at member
      exact List.mem_append_left _ (ih member)
    · rw [if_neg known] at member
      rcases List.mem_append.mp member with early | here
      · exact List.mem_append_left _ (ih early)
      · exact List.mem_append_right _ here

theorem BlockTarget.mem_of_mem_select {target : BlockTarget} {blocks : List Block} {block : Block}
    (member : block ∈ target.select blocks) : block ∈ blocks ∧ target.addresses block.kind = true := by
  unfold BlockTarget.select at member
  dsimp only at member
  split at member <;> split at member
  · exact List.mem_filter.mp member
  · exact List.mem_filter.mp (List.mem_of_mem_filter member)
  · exact List.mem_filter.mp member
  · cases member

/-- Links lead from a block to other blocks, by targets that address them. -/
theorem mem_linkTargets {targets : List BlockTarget} {blocks : List Block} {self : BlockId}
    {reference : Reference} (member : reference ∈ linkTargets targets blocks self) :
    reference.id ≠ self ∧ ∃ target ∈ targets, ∃ block ∈ blocks,
      target.addresses block.kind = true ∧ reference = target.referenceTo block := by
  obtain ⟨found, other⟩ := List.mem_filter.mp (mem_of_mem_firstReferences member)
  obtain ⟨target, among, selected⟩ := List.mem_flatMap.mp found
  obtain ⟨block, inside, rfl⟩ := List.mem_map.mp selected
  obtain ⟨present, addressed⟩ := BlockTarget.mem_of_mem_select inside
  exact ⟨bne_iff_ne.mp other, target, among, block, present, addressed, rfl⟩

/-- A reference calls a block by its type, or a module call by that word, and by its name. -/
def Reference.Names (reference : Reference) : BlockKind → Prop
  | .resource type name | .data type name => reference.label = type ∧ reference.name = name
  | .module name => reference.label = "module" ∧ reference.name = name
  | _ => False

theorem BlockTarget.names_of_addresses {target : BlockTarget} {block : Block}
    (addressed : target.addresses block.kind = true) :
    (target.referenceTo block).Names block.kind := by
  unfold BlockTarget.addresses at addressed
  unfold Reference.Names BlockTarget.referenceTo
  split at addressed
  · rename_i kind _
    obtain ⟨type, name⟩ := Bool.and_eq_true_iff.mp addressed
    rw [kind]
    exact ⟨(beq_iff_eq.mp type).symm, (beq_iff_eq.mp name).symm⟩
  · rename_i kind _
    obtain ⟨type, name⟩ := Bool.and_eq_true_iff.mp addressed
    rw [kind]
    exact ⟨(beq_iff_eq.mp type).symm, (beq_iff_eq.mp name).symm⟩
  · rename_i kind called
    rw [kind]
    exact ⟨target.label_of_module called, (beq_iff_eq.mp addressed).symm⟩
  · cases addressed

/-- Each reference between linked blocks leads to another one of them, and no two references of a block
lead to the same. -/
theorem linkBlocks_references {made : List (SourceBlock × Block)} {block : Block}
    (member : block ∈ linkBlocks made) :
    (block.references.map Reference.id).Nodup ∧
      ∀ reference ∈ block.references, ∃ target ∈ linkBlocks made,
        target.id = reference.id ∧ target.id ≠ block.id ∧ reference.Names target.kind := by
  obtain ⟨⟨source, plain⟩, -, rfl⟩ := List.mem_map.mp member
  refine ⟨firstReferences_nodup _, fun reference found => ?_⟩
  obtain ⟨other, target, -, origin, present, addressed, rfl⟩ := mem_linkTargets found
  obtain ⟨entry, among, rfl⟩ := List.mem_map.mp present
  exact ⟨_, List.mem_map_of_mem among, rfl, other, target.names_of_addresses addressed⟩

end Links

/-- One instance of a module in a run: the call that it comes from, and the blocks of the module
itself. -/
structure ModuleInstance where
  call : ModuleCall
  own : List Block

/-- The call of a module instance is one that the session comes to, and its blocks are all that are made
for the module in that call, with the references between them. -/
structure ModuleInstance.MadeBy (session : Session) (inst : ModuleInstance) : Prop where
  reached : ∃ stack, session.Reaches stack inst.call
  made : ∃ sources env declarations made,
    (∃ start finish, session.moduleBlocks inst.call.directory start = .ok (sources, finish)) ∧
    (∃ start finish, sources.mapM (makeBlock session inst.call env declarations) start =
      .ok (made, finish)) ∧
    inst.own = linkBlocks made.flatten

def Composed (session : Session) (blocks : List Block) : Prop :=
  ∃ instances : List ModuleInstance, blocks = instances.flatMap ModuleInstance.own ∧
    ∀ inst ∈ instances, inst.MadeBy session

namespace Composed

variable {session : Session}

theorem nil : Composed session [] := ⟨[], rfl, fun _ member => nomatch member⟩

theorem append {first second : List Block} (early : Composed session first)
    (late : Composed session second) : Composed session (first ++ second) := by
  obtain ⟨instances, rfl, made⟩ := early
  obtain ⟨others, rfl, more⟩ := late
  refine ⟨instances ++ others, List.flatMap_append.symm, fun inst member => ?_⟩
  exact (List.mem_append.mp member).elim (made inst) (more inst)

theorem flatMap {α : Type} {parts : α → List Block} {items : List α}
    (each : ∀ item ∈ items, Composed session (parts item)) :
    Composed session (items.flatMap parts) := by
  induction items with
  | nil => exact nil
  | cons item rest ih =>
    rw [List.flatMap_cons]
    exact (each item List.mem_cons_self).append
      (ih fun other member => each other (List.mem_cons_of_mem item member))

end Composed

section Runs

variable {session : Session} {run : Runner} {stack : List Path} {call : ModuleCall}
  (runs : ∀ next, session.Reaches (call.directory :: stack) next →
    ∀ state made after, run next state = .ok (made, after) → Composed session made.blocks)
  (reached : session.Reaches stack call)
include runs reached

theorem Children.Ran.composed {children : Children}
    (ran : children.Ran session run (call.directory :: stack) call) :
    Composed session children.blocks := by
  refine .flatMap fun path _ => ?_
  cases found : Entries.get? children.runs path with
  | none => exact .nil
  | some child =>
    cases outcome : child.run with
    | none => simpa [outcome] using Composed.nil
    | some made =>
      obtain ⟨env, block, name, inst, next, start, finish, -, -, calls, begun⟩ := ran.call found outcome
      simpa [outcome] using runs next (.child reached calls) _ _ _ begun

theorem evaluateModule_composed {sources : List SourceBlock} {start read : RunState}
    (written : session.moduleBlocks call.directory start = .ok (sources, read))
    {state after : RunState} {result : ModuleRun}
    (done : evaluateModule session run (call.directory :: stack) call sources state =
      .ok (result, after)) : Composed session result.blocks := by
  obtain ⟨declarations, scope, children, settled, made, settles, makes, rfl⟩ :=
    (evaluateModule_eq_ok session run _ call sources).mp done
  refine .append ⟨[⟨call, linkBlocks made.flatten⟩], (List.append_nil _).symm, fun inst member => ?_⟩
    (Children.Ran.composed runs reached (settleModule_ran settles))
  obtain rfl := List.mem_singleton.mp member
  exact ⟨⟨stack, reached⟩, sources, _, declarations, made, ⟨_, _, written⟩, ⟨_, _, makes⟩, rfl⟩

end Runs

/-- The blocks of a run are those of module instances. -/
theorem runModule_composed {session : Session} (fuel : Nat) {stack : List Path} {call : ModuleCall}
    (reached : session.Reaches stack call) {state after : RunState} {result : ModuleRun}
    (done : runModule session fuel stack call state = .ok (result, after)) :
    Composed session result.blocks := by
  induction fuel generalizing stack call state after result with
  | zero => cases done
  | succ fuel ih =>
    obtain ⟨sources, _, written, evaluated⟩ := Running.bind_eq_ok.mp done
    exact evaluateModule_composed (fun next below _ _ _ ran => ih below ran) reached written evaluated

/-- The root module is run from the start. -/
theorem runConfiguration_eq_ok {host : Host} {path : Path} {options : Options} {services : Services}
    {run : ModuleRun} {state : RunState}
    (done : runConfiguration host path options services = .ok (run, state)) :
    let session := Session.start host (Path.absolutize host.workingDirectory path) options services
    runModule session session.depthLimit [] session.rootCall .start = .ok (run, state) := by
  unfold runConfiguration at done
  dsimp only at done
  split at done
  · cases done
  · exact done

/-- A reference of a block leads to another block, which is the only one of a document with its id. -/
structure Reference.LeadsTo (reference : Reference) (document : List Block) (source target : Block) :
    Prop where
  only : document.filter (fun block => block.id.text == reference.id.text) = [target]
  other : target.id ≠ source.id
  names : reference.Names target.kind

theorem filter_of_nodup_map {α β : Type} [BEq β] [LawfulBEq β] {key : α → β} {items : List α}
    (distinct : (items.map key).Nodup) {item : α} (member : item ∈ items) :
    items.filter (fun other => key other == key item) = [item] := by
  induction items with
  | nil => cases member
  | cons first rest ih =>
    obtain ⟨fresh, later⟩ := List.nodup_cons.mp distinct
    rcases List.mem_cons.mp member with rfl | among
    · have none : rest.filter (fun other => key other == key item) = [] :=
        List.filter_eq_nil_iff.mpr fun other present same =>
          fresh (List.mem_map.mpr ⟨other, present, beq_iff_eq.mp same⟩)
      simp only [List.filter_cons, beq_self_eq_true, ↓reduceIte, none]
    · have differ : (key first == key item) = false := beq_eq_false_iff_ne.mpr fun same =>
        fresh (List.mem_map.mpr ⟨item, among, same.symm⟩)
      simp only [List.filter_cons, differ, Bool.false_eq_true, ↓reduceIte, ih later among]

theorem blockIds_sublist (blocks : List Block) :
    (blocks.map Block.id).Sublist (blockIds blocks) := by
  induction blocks with
  | nil => exact .slnil
  | cons block rest ih =>
    rw [blockIds, List.flatMap_cons, List.map_cons, Block.ids, List.cons_append]
    exact (ih.trans (List.sublist_append_right _ _)).cons_cons _

/-- In a document with the blocks of a module instance, in which ids are as different as their texts, each
reference of one of these blocks leads to another one. -/
theorem ModuleInstance.MadeBy.references {session : Session} {inst : ModuleInstance}
    (made : inst.MadeBy session) {document : List Block} (inside : inst.own ⊆ document)
    (distinct : (document.map fun block => block.id.text).Nodup)
    (small : ∀ block ∈ document, block.id.number < 2 ^ 128) {block : Block}
    (member : block ∈ inst.own) :
    (block.references.map (·.id.text)).Nodup ∧
      ∀ reference ∈ block.references, ∃ target ∈ inst.own,
        reference.LeadsTo document block target := by
  obtain ⟨_, _, _, _, -, -, own⟩ := made.made
  obtain ⟨apart, leads⟩ := linkBlocks_references (own ▸ member)
  rw [← own] at leads
  have bounded (id : BlockId) (among : id ∈ block.references.map Reference.id) :
      id.number < 2 ^ 128 := by
    obtain ⟨reference, listed, rfl⟩ := List.mem_map.mp among
    obtain ⟨target, within, same, -⟩ := leads reference listed
    exact same ▸ small target (inside within)
  have texts := apart.map_on fun left here right there same =>
    BlockId.text_inj (bounded left here) (bounded right there) same
  rw [List.map_map] at texts
  refine ⟨texts, fun reference among => ?_⟩
  obtain ⟨target, within, same, other, names⟩ := leads reference among
  refine ⟨target, within, ⟨?_, other, names⟩⟩
  rw [← same]
  exact filter_of_nodup_map distinct (inside within)

/-- Of all blocks of a run, at the top or nested, no two have the same id, as long as the ids are fewer
than their texts. Each reference of a block leads to the one block with that id: another block of the
same module instance, of the type and name that the reference tells. No block refers to another
twice. -/
theorem runConfiguration_references_intact {host : Host} {path : Path} {options : Options}
    {services : Services} {run : ModuleRun} {state : RunState}
    (done : runConfiguration host path options services = .ok (run, state))
    (few : state.drawn < 2 ^ 128) :
    ((blockIds run.blocks).map BlockId.text).Nodup ∧
      ∃ instances : List ModuleInstance, run.blocks = instances.flatMap ModuleInstance.own ∧
        ∀ inst ∈ instances,
          inst.MadeBy
            (Session.start host (Path.absolutize host.workingDirectory path) options services) ∧
          ∀ block ∈ inst.own, (block.references.map (·.id.text)).Nodup ∧
            ∀ reference ∈ block.references, ∃ target ∈ inst.own,
              reference.LeadsTo run.blocks block target := by
  have ran := runConfiguration_eq_ok done
  have drawn := runModule_draws _ _ _ _ _ _ _ ran
  have small {id : BlockId} (member : id ∈ blockIds run.blocks) : id.number < 2 ^ 128 :=
    (drawn.between id member).2.trans_lt few
  have texts : ((blockIds run.blocks).map BlockId.text).Nodup :=
    drawn.distinct.map_on fun left here right there same =>
      BlockId.text_inj (small here) (small there) same
  have top : (run.blocks.map fun block => block.id.text).Nodup := by
    have fewer := (blockIds_sublist run.blocks).map BlockId.text
    rw [List.map_map] at fewer
    exact texts.sublist fewer
  obtain ⟨instances, all, made⟩ := runModule_composed _ .root ran
  refine ⟨texts, instances, all, fun inst member => ⟨made inst member, fun block within =>
    (made inst member).references (fun block present => ?_) top (fun block present => ?_) within⟩⟩
  · rw [all]
    exact List.mem_flatMap.mpr ⟨inst, member, present⟩
  · exact small (List.mem_flatMap.mpr ⟨block, present, List.mem_cons_self⟩)

/-- A module call that refers to a resource with a nested block, and a module in which one resource
refers to another. -/
theorem runConfiguration_references_intact_with_module :
    let host := Host.withModule
      ("resource \"t\" \"a\" \x7b\n  part \x7b\x7d\n\x7d\n" ++
        "module \"m\" \x7b\n  source = \"./inner\"\n  name = t.a.id\n\x7d\n")
      "resource \"t\" \"a\" \x7b\x7d\nresource \"t\" \"b\" \x7b\n  name = t.a.name\n\x7d\n"
    ∃ (run : ModuleRun) (state : RunState) (instances : List ModuleInstance),
      runConfiguration host ⟨"/"⟩ Options.standard = .ok (run, state) ∧
        (run.blocks.map fun block => (block.path, block.references.map (·.id.number))) =
          [("t.a", []), ("module.m", [3]), ("module.m.t.a", []), ("module.m.t.b", [1])] ∧
        (blockIds run.blocks).map BlockId.number = [3, 4, 5, 1, 2] ∧
        ((blockIds run.blocks).map BlockId.text).Nodup ∧
        run.blocks = instances.flatMap ModuleInstance.own ∧
        ∀ inst ∈ instances, ∀ block ∈ inst.own, ∀ reference ∈ block.references,
          ∃ target ∈ inst.own, reference.LeadsTo run.blocks block target := by
  intro host
  have loaded : ((runConfiguration host ⟨"/"⟩ Options.standard).map fun ended =>
      (ended.1.blocks.map fun block => (block.path, block.references.map (·.id.number)),
        (blockIds ended.1.blocks).map BlockId.number, ended.2.drawn)).toOption =
      some ([("t.a", []), ("module.m", [3]), ("module.m.t.a", []), ("module.m.t.b", [1])],
        [3, 4, 5, 1, 2], 5) := by decide +kernel
  obtain ⟨⟨run, state⟩, done, facts⟩ := Except.ok_of_map loaded
  obtain ⟨shown, numbers⟩ := Prod.mk.inj facts
  obtain ⟨numbers, drawn⟩ := Prod.mk.inj numbers
  have few : state.drawn < 2 ^ 128 := by
    rw [show state.drawn = 5 from drawn]
    decide
  obtain ⟨texts, instances, all, made⟩ := runConfiguration_references_intact done few
  exact ⟨run, state, instances, done, shown, numbers, texts, all, fun inst member block inside =>
    ((made inst member).2 block inside).2⟩

end Terradoc
