import Terradoc.Block.Evaluation
import Terradoc.Proofs.Targets.Expr
import Terradoc.Replication

/-! A block depends on nothing but what the references in its body start at: neither do its instances,
nor the attributes and nested blocks of any of them. So it depends on no other blocks than those its body
addresses. -/

namespace Terradoc

open Scope.SameOrigins (append_iff)

section Attributes

variable {context : BodyContext} {bound : List String} {env : Environment} {other : Scope}

theorem mentions_subset_attributeMentions {attributes : List Attribute} {attr : Attribute}
    (member : attr ∈ attributes) :
    attr.value.mentions bound ⊆ attributeMentions bound attributes :=
  fun _ found => List.mem_flatMap.mpr ⟨attr, member, found⟩

theorem evaluateAttribute_inScope {attr : Attribute} (binds : env.Binds bound)
    (agree : env.scope.SameOrigins (attr.value.mentions bound) other) :
    evaluateAttribute context (env.inScope other) attr = evaluateAttribute context env attr := by
  rw [evaluateAttribute, evaluateAttribute, attr.value.eval_inScope binds agree]

theorem evaluateAttributes_inScope {attributes : List Attribute} (binds : env.Binds bound)
    (agree : env.scope.SameOrigins (attributeMentions bound attributes) other) :
    evaluateAttributes context (env.inScope other) attributes =
      evaluateAttributes context env attributes := by
  have same : ∀ attr ∈ attributes,
      (attr.name, evaluateAttribute context (env.inScope other) attr) =
        (attr.name, evaluateAttribute context env attr) := fun attr member =>
    congrArg _ (evaluateAttribute_inScope binds
      (agree.subset (mentions_subset_attributeMentions member)))
  simp only [evaluateAttributes, List.map_congr_left same]

/-- An attribute that is looked up by name is one of the attributes. -/
theorem Body.attribute?_mem {body : Body} {name : String} {value : Expr}
    (found : body.attribute? name = some value) : ⟨name, value⟩ ∈ body.attributes := by
  simp only [Body.attribute?, Option.map_eq_some_iff] at found
  obtain ⟨attr, searched, rfl⟩ := found
  have same : attr.name = name := by simpa using List.find?_some searched
  exact same ▸ List.mem_of_find?_eq_some searched

end Attributes

section Turns

variable {context : BodyContext} {bound : List String} {env : Environment} {other : Scope}
  {label : String} {labels : List String} {body : Body}

def Turn.inScope (turn : Turn) (scope : Scope) : Turn := { turn with env := turn.env.inScope scope }

/-- A turn of a dynamic block whose content may use the names that are bound there. -/
structure Turn.Within (bound : List String) (scope : Scope) (turn : Turn) : Prop where
  binds : turn.env.Binds bound
  scope : turn.env.scope = scope

theorem iteratorNames_subset :
    iteratorNames (label :: labels) body ⊆ [iteratorName label body] := by
  unfold iteratorNames iteratorName
  cases body.attribute? "iterator" with
  | none => exact List.Subset.refl _
  | some value =>
    cases value with
    | «variable» name => exact List.Subset.refl _
    | _ => exact List.nil_subset _

theorem binds_iteratorNames (binds : env.Binds bound) (value : Value) :
    (env.bind (iteratorName label body) value).Binds
      (iteratorNames (label :: labels) body ++ bound) := by
  intro name member
  refine binds.bind (iteratorName label body) value name ?_
  rcases List.mem_append.mp member with here | before
  · exact List.mem_cons.mpr (.inl (List.mem_singleton.mp (iteratorNames_subset here)))
  · exact List.mem_cons_of_mem _ before

theorem turnLabels_inScope (binds : env.Binds bound)
    (agree : env.scope.SameOrigins (attributeMentions bound
      (body.attributes.filter (·.name != "for_each"))) other) :
    turnLabels context (env.inScope other) label body = turnLabels context env label body := by
  unfold turnLabels
  cases found : body.attribute? "labels" with
  | none => rfl
  | some value =>
    have member : ⟨"labels", value⟩ ∈ body.attributes.filter (·.name != "for_each") :=
      List.mem_filter.mpr ⟨Body.attribute?_mem found, rfl⟩
    dsimp only
    rw [value.eval_inScope binds (agree.subset (mentions_subset_attributeMentions member))]

theorem Turn.ofEntry_inScope (binds : env.Binds bound) (entry : Value × Value)
    (agree : env.scope.SameOrigins (attributeMentions (iteratorNames (label :: labels) body ++ bound)
      (body.attributes.filter (·.name != "for_each"))) other) :
    Turn.ofEntry context (env.inScope other) label body entry =
      (Turn.ofEntry context env label body entry).inScope other := by
  simp only [Turn.ofEntry, Turn.inScope, Environment.inScope_bind,
    turnLabels_inScope (binds_iteratorNames binds _) agree]

theorem Turn.ofEntry_within (binds : env.Binds bound) (entry : Value × Value) :
    (Turn.ofEntry context env label body entry).Within
      (iteratorNames (label :: labels) body ++ bound) env.scope :=
  ⟨binds_iteratorNames binds _, rfl⟩

theorem dynamicTurns_inScope (binds : env.Binds bound)
    (agree : env.scope.SameOrigins
      (dynamicMentions bound (iteratorNames (label :: labels) body ++ bound) body) other) :
    dynamicTurns context (env.inScope other) label body =
      (dynamicTurns context env label body).map (List.map (·.inScope other)) := by
  obtain ⟨outer, inside⟩ := append_iff.mp agree
  unfold dynamicTurns
  split
  · rename_i source found _
    rw [found] at outer
    rw [source.eval_inScope binds outer]
    cases source.eval env >>= dynamicEntries with
    | error => rfl
    | ok entries =>
      simp only [Except.map, List.map_map]
      exact congrArg Except.ok (List.map_congr_left fun entry _ =>
        Turn.ofEntry_inScope binds entry inside)
  · rfl

theorem dynamicTurns_within (binds : env.Binds bound) {turns : List Turn}
    (made : dynamicTurns context env label body = .ok turns) :
    ∀ turn ∈ turns, turn.Within (iteratorNames (label :: labels) body ++ bound) env.scope := by
  unfold dynamicTurns at made
  split at made
  · split at made
    · cases made
      rintro _ member
      obtain ⟨entry, -, rfl⟩ := List.mem_map.mp member
      exact Turn.ofEntry_within binds entry
    · cases made
  · cases made

end Turns

theorem Noted.concat_pair {α : Type} (first second : Noted (List α)) :
    (Noted.concat [first, second]).value = first.value ++ second.value := by
  simp [Noted.concat]

theorem evaluateBlocks_plain {context : BodyContext} {env : Environment} {spans : SpanTree}
    {position : Nat} {identifier : String} {labels : List String} {lines : LineRange} {body rest : Body}
    (plain : ¬ (identifier == "dynamic") = true) :
    evaluateBlocks context env spans position (.block identifier labels lines body :: rest) =
      .concat [nestedBlock identifier (.clean labels) ⟨context.filename, (spans.child position).lines⟩
        (evaluateAttributes context env body.attributes)
        (evaluateBlocks context env (spans.child position) 0 body),
        evaluateBlocks context env spans (position + 1) rest] := by
  cases labels <;> rw [evaluateBlocks, if_neg plain]

mutual
theorem evaluateBlocks_inScope : ∀ (body : Body) {context : BodyContext} {bound : List String}
    {env : Environment} {other : Scope} {spans : SpanTree} {position : Nat}, env.Binds bound →
    env.scope.SameOrigins (blockMentions bound body) other →
    evaluateBlocks context (env.inScope other) spans position body =
      evaluateBlocks context env spans position body
  | [], _, _, _, _, _, _, _, _ => by rw [evaluateBlocks, evaluateBlocks]
  | .attribute .. :: rest, _, _, _, _, _, _, binds, agree => by
    rw [blockMentions] at agree
    rw [evaluateBlocks, evaluateBlocks, evaluateBlocks_inScope rest binds agree]
  | .block identifier labels lines body :: rest, context, bound, env, other, _, _, binds, agree => by
    rw [blockMentions, append_iff] at agree
    obtain ⟨here, after⟩ := agree
    by_cases dynamic : identifier == "dynamic"
    · rw [if_pos dynamic, append_iff] at here
      cases labels with
      | nil =>
        rw [evaluateBlocks, evaluateBlocks, evaluateBlocks_inScope rest binds after, if_pos dynamic,
          if_pos dynamic]
      | cons label labels =>
        rw [evaluateBlocks, evaluateBlocks, evaluateBlocks_inScope rest binds after, if_pos dynamic,
          if_pos dynamic, dynamicTurns_inScope binds here.1]
        cases made : dynamicTurns context env label body with
        | error => rfl
        | ok turns =>
          have within : ∀ turn ∈ turns,
              turn.Within (iteratorNames (label :: labels) body ++ bound) env.scope :=
            dynamicTurns_within binds made
          dsimp only [Except.map]
          rw [evaluateContent_inScope body within here.2]
    · rw [if_neg dynamic, append_iff] at here
      rw [evaluateBlocks_plain dynamic, evaluateBlocks_plain dynamic,
        evaluateAttributes_inScope binds here.1, evaluateBlocks_inScope body binds here.2,
        evaluateBlocks_inScope rest binds after]
termination_by body => sizeOf body

theorem evaluateContent_inScope : ∀ (body : Body) {context : BodyContext} {label : String}
    {bound : List String} {turns : List Turn} {scope other : Scope} {spans : SpanTree} {position : Nat},
    (∀ turn ∈ turns, turn.Within bound scope) → scope.SameOrigins (contentMentions bound body) other →
    evaluateContent context label (turns.map (·.inScope other)) spans position body =
      evaluateContent context label turns spans position body
  | [], _, _, _, _, _, _, _, _, _, _ => by rw [evaluateContent, evaluateContent]
  | .attribute .. :: rest, _, _, _, _, _, _, _, _, within, agree => by
    rw [contentMentions] at agree
    rw [evaluateContent, evaluateContent, evaluateContent_inScope rest within agree]
  | .block identifier _ _ content :: rest, _, _, _, turns, scope, other, _, _, within, agree => by
    rw [contentMentions, append_iff, append_iff] at agree
    obtain ⟨⟨values, blocks⟩, after⟩ := agree
    rw [evaluateContent, evaluateContent, evaluateContent_inScope rest within after]
    refine ite_congr rfl (fun _ => ?_) fun _ => rfl
    rw [List.map_map]
    refine congrArg Noted.concat (List.map_congr_left fun turn member => ?_)
    obtain ⟨binds, rfl⟩ := within turn member
    simp only [Function.comp_apply, Turn.inScope]
    rw [evaluateAttributes_inScope binds values, evaluateBlocks_inScope content binds blocks]
termination_by body => sizeOf body
end

section Bodies

variable {body : Body} {env : Environment} {other : Scope}

theorem evaluateBody_of_mentions (same : env.scope.SameOrigins body.mentions other)
    (context : BodyContext) (spans : SpanTree) :
    evaluateBody context (env.inScope other) body spans = evaluateBody context env body spans := by
  obtain ⟨values, blocks⟩ := append_iff.mp same
  have binds : env.Binds [] := fun _ member => nomatch member
  rw [evaluateBody, evaluateBody, evaluateAttributes_inScope binds values,
    evaluateBlocks_inScope body binds blocks]

theorem replicationValue_of_mentions (same : env.scope.SameOrigins body.mentions other) {name : String}
    {value : Expr} (found : body.attribute? name = some value) :
    replicationValue (env.inScope other) value = replicationValue env value := by
  have values := (append_iff.mp same).1
  have binds : env.Binds [] := fun _ member => nomatch member
  rw [replicationValue, replicationValue, value.eval_inScope binds
    (values.subset (mentions_subset_attributeMentions (Body.attribute?_mem found)))]

theorem instances_of_mentions (same : env.scope.SameOrigins body.mentions other) :
    instances body (env.inScope other) = instances body env := by
  unfold instances
  split
  · rfl
  · rename_i count found _
    rw [replicationValue_of_mentions same found]
  · rename_i collection _ found
    rw [replicationValue_of_mentions same found]
  · rfl

theorem Scope.AgreeAt.sameMentions (agree : env.scope.AgreeAt body.targets other) :
    env.scope.SameOrigins body.mentions other :=
  Scope.AgreeAt.sameOrigins (body.targets_eq ▸ agree)

theorem evaluateBody_inScope (agree : env.scope.AgreeAt body.targets other) (context : BodyContext)
    (spans : SpanTree) :
    evaluateBody context (env.inScope other) body spans = evaluateBody context env body spans :=
  evaluateBody_of_mentions agree.sameMentions context spans

theorem instances_inScope (agree : env.scope.AgreeAt body.targets other) :
    instances body (env.inScope other) = instances body env :=
  instances_of_mentions agree.sameMentions

end Bodies

/-- The targets of a body are all the blocks that it depends on: where the scope agrees at them, the
body has the same instances, and each of them the same attributes and nested blocks. -/
theorem Body.same_of_targets (body : Body) (functions : FunctionTable) {left right : Scope}
    (agree : left.AgreeAt body.targets right) :
    instances body (.ofScope left functions) = instances body (.ofScope right functions) ∧
      ∀ (inst : Instance) (context : BodyContext) (spans : SpanTree),
        evaluateBody context (inst.environment (.ofScope left functions)) body spans =
          evaluateBody context (inst.environment (.ofScope right functions)) body spans := by
  have scope : (Environment.ofScope left functions).scope.AgreeAt body.targets right := agree
  refine ⟨(instances_inScope scope).symm, fun inst context spans => ?_⟩
  have within : (inst.environment (.ofScope left functions)).scope.AgreeAt body.targets right := agree
  exact (evaluateBody_inScope within context spans).symm

/-- A block that nothing addresses appears beside the one that a body reads. -/
theorem Body.same_of_targets_beside_other :
    let root := Path.mk "/"
    let body : Body := [.attribute "id"
      (.traversal (.variable "kind") [.attribute "name", .attribute "id"])]
    let known : Entries Value := [("kind.name", .map [("id", .string "x")])]
    let left := { Scope.empty root root root with blocks := known, declared := ["kind.name"] }
    let right : Scope := { left with
      blocks := known ++ [("kind.other", .null)], declared := ["kind.name", "kind.other"] }
    let functions : FunctionTable := fun name _ => .error (.unknownFunction name)
    left.AgreeAt body.targets right ∧
      evaluateBody ⟨"main", "kind.reader"⟩ (Instance.single.environment (.ofScope left functions)) body =
        evaluateBody ⟨"main", "kind.reader"⟩ (Instance.single.environment (.ofScope right functions))
          body := by
  intro root body known left right functions
  have targets : body.targets = [.resource "kind" "name"] := by
    simp only [body, Body.targets, blockTargets, List.append_nil]
    rfl
  have agree : left.AgreeAt body.targets right := by
    rw [targets]
    refine ⟨rfl, rfl, rfl, rfl, rfl, rfl, fun target member => ?_, fun target member => ?_⟩
    · obtain rfl := List.mem_singleton.mp member
      rfl
    · obtain rfl := List.mem_singleton.mp member
      decide
  exact ⟨agree, (body.same_of_targets functions agree).2 .single _ _⟩

end Terradoc
