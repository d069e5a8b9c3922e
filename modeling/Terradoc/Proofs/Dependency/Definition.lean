import Terradoc.Proofs.Entries
import Terradoc.Proofs.Replication.Instances
import Terradoc.Proofs.Settling.Passes
import Terradoc.Proofs.Targets.Body

/-! Locals and blocks of a module as definitions that refer to one another by name. What a definition
gives depends on nothing but the names that it refers to. -/

namespace Terradoc

/-- What a definition is referred to by. -/
inductive DefinitionName where
  | «local» (name : String)
  | block (address : String)
deriving DecidableEq, Repr

def Mention.name? (mention : Mention) : Option DefinitionName :=
  if mention.root == "local" then
    match mention.steps with
    | .attribute name :: _ => some (.local name)
    | _ => none
  else mention.target?.map fun target => .block target.address

namespace Scope

def lookup (scope : Scope) : DefinitionName → Option Value
  | .local name => Entries.get? scope.locals name
  | .block address => Entries.get? scope.blocks address

/-- A scope without values of definitions. -/
def bare (scope : Scope) : Scope := { scope with locals := [], blocks := [] }

end Scope

section References

theorem originOf_withLocals {env : Environment} {locals : Entries Value} {root : String}
    {steps : List Step}
    (same : ∀ name rest, root = "local" → steps = .attribute name :: rest →
      Entries.get? locals name = Entries.get? env.scope.locals name) :
    originOf (env.inScope { env.scope with locals := locals }) root steps = originOf env root steps := by
  unfold originOf
  refine ite_congr rfl (fun _ => rfl) fun _ => ?_
  cases steps with
  | nil => rfl
  | cons step rest =>
    cases step with
    | index | position | eachAttribute | each => rfl
    | «attribute» name =>
      refine ite_congr rfl (fun _ => rfl) fun _ => ?_
      refine ite_congr rfl (fun root => ?_) fun _ => rfl
      rw [namedOrigin, namedOrigin, ← same name rest (beq_iff_eq.mp root) rfl]
      rfl

theorem Mention.name?_of_target {mention : Mention} {target : BlockTarget}
    (found : mention.target? = some target) : mention.name? = some (.block target.address) := by
  have differ : (mention.root == "local") = false := by
    refine beq_eq_false_iff_ne.mpr fun root => ?_
    rw [Mention.target?, root] at found
    unfold traversalTarget? at found
    split at found
    · rename_i data
      exact absurd data (by decide)
    · split at found
      · cases found
      · cases found
  rw [Mention.name?, differ, found]
  rfl

/-- References start at the same places where the definitions that they name have the same values. -/
theorem Scope.SameOrigins.of_lookup {mentions : List Mention} {left right : Scope}
    (bare : right.bare = left.bare)
    (same : ∀ name ∈ mentions.filterMap Mention.name?, right.lookup name = left.lookup name) :
    left.SameOrigins mentions right := by
  have locals : left.SameOrigins mentions { left with locals := right.locals } := by
    rintro mention member env rfl
    refine originOf_withLocals fun name rest root steps => ?_
    refine same (.local name) (List.mem_filterMap.mpr ⟨mention, member, ?_⟩)
    rw [Mention.name?, root, steps]
    rfl
  obtain ⟨_, _, _, _, _, _, _, _⟩ := left
  obtain ⟨_, _, _, _, _, _, _, _⟩ := right
  cases bare
  refine locals.trans (Scope.AgreeAt.sameOrigins ⟨rfl, rfl, rfl, rfl, rfl, rfl, ?_, fun _ _ => Iff.rfl⟩)
  intro target found
  obtain ⟨mention, member, addressed⟩ := List.mem_filterMap.mp found
  exact (same (.block target.address)
    (List.mem_filterMap.mpr ⟨mention, member, Mention.name?_of_target addressed⟩)).symm

end References

/-- The values of the instances of a block, under their keys, and the value that a reference to the block
sees: that of the only instance if it has no key, else a list in the order of indices, or a map by names. -/
inductive Gathers : List (Option InstanceKey × Value) → Value → Prop where
  | single (value : Value) : Gathers [(none, value)] value
  | counted (count : Nat) (value : Nat → Value) :
      Gathers ((List.range count).map fun place => (some (.index place), value place))
        (.list ((List.range count).map value))
  | keyed {entries : List (String × Value)} (filled : entries ≠ []) (distinct : (entries.map Prod.fst).Nodup) :
      Gathers (entries.map fun entry => (some (.key entry.1), entry.2)) (.map entries)

theorem Gathers.collectInstances {rows : List (Option InstanceKey × Value)} {value : Value}
    (gathers : Gathers rows value) : collectInstances rows = value := by
  cases gathers with
  | single => rfl
  | counted count value =>
    rw [collectInstances_of_indices, List.map_map]
    · rfl
    · rintro entry member
      obtain ⟨place, -, rfl⟩ := List.mem_map.mp member
      exact ⟨place, rfl⟩
  | @keyed entries filled distinct =>
    cases entries with
    | nil => exact absurd rfl filled
    | cons entry rest =>
      refine congrArg Value.map ?_
      rw [List.filterMap_map]
      exact (congrArg Entries.ofList List.filterMap_some).trans (Entries.ofList_of_nodup distinct)

/-- The instances of a block always have a value together. -/
theorem Replicated.gathers {all : List Instance} (replicated : Replicated all) (value : Instance → Value) :
    ∃ result, Gathers (all.map fun inst => (inst.key, value inst)) result := by
  cases replicated with
  | single inst unkeyed =>
    rw [List.map_singleton, unkeyed]
    exact ⟨_, .single _⟩
  | counted count =>
    rw [List.map_map]
    exact ⟨_, .counted count fun place => value (.indexed place)⟩
  | keyed entries ascending =>
    by_cases empty : entries = []
    · subst empty
      exact ⟨_, .counted 0 fun _ => .null⟩
    · have named : (entries.map Instance.keyed).map (fun inst => (inst.key, value inst)) =
          (entries.map fun entry => (entry.1, value (.keyed entry))).map fun entry =>
            (some (InstanceKey.key entry.1), entry.2) := by
        rw [List.map_map, List.map_map]
        rfl
      have distinct : ((entries.map fun entry => (entry.1, value (.keyed entry))).map Prod.fst).Nodup := by
        rw [List.map_map, List.Nodup, List.pairwise_map]
        exact ascending.imp String.ne_of_lt
      rw [named]
      exact ⟨_, .keyed (fun none => empty (List.map_eq_nil_iff.mp none)) distinct⟩

/-- What passes give a value to: an attribute of a block of locals, or a resource or data source. -/
inductive Definition where
  | «local» (attr : Attribute)
  | block (source : SourceBlock)

namespace Definition

def name : Definition → DefinitionName
  | .local attr => .local attr.name
  | block source => .block source.address

def mentions : Definition → List Mention
  | .local attr => attr.value.mentions []
  | block source => source.body.mentions

def references (definition : Definition) : List DefinitionName :=
  definition.mentions.filterMap Mention.name?

/-- What a definition gives in an environment: the value of the expression of a local, or an unknown at
`local.NAME` where it has none, and for a block the values of its instances, of which there is a single one
where they cannot be told. -/
inductive Gives (env : Environment) : Definition → Value → Prop where
  | evaluated {attr : Attribute} {value : Value} (found : attr.value.eval env = .ok value) :
      Gives env (.local attr) value
  | failing {attr : Attribute} {cause : EvalError} (failed : attr.value.eval env = .error cause) :
      Gives env (.local attr) (.unknown ⟨"local." ++ attr.name, attr.name, none, none⟩)
  | replicated {source : SourceBlock} {all : List Instance} {value : Value}
      (made : instances source.body env = .ok all)
      (gathers : Gathers (all.map fun inst => (inst.key, (evaluateBody ⟨source.filename, source.address⟩
        (inst.environment env) source.body source.spans).value.value)) value) :
      Gives env (.block source) value
  | unreplicated {source : SourceBlock} {cause : ReplicationFault}
      (failed : instances source.body env = .error cause) :
      Gives env (.block source) (evaluateBody ⟨source.filename, source.address⟩
        (Instance.single.environment env) source.body source.spans).value.value

/-- How passes evaluate a definition. -/
def value (env : Environment) : Definition → Value
  | .local attr => localValue env attr
  | block source => blockValue env source

/-- Passes evaluate a definition to what it gives. -/
theorem gives_iff {env : Environment} {definition : Definition} {value : Value} :
    definition.Gives env value ↔ value = definition.value env := by
  constructor
  · intro gives
    cases gives with
    | evaluated found => rw [Definition.value, localValue, found]
    | failing failed => rw [Definition.value, localValue, failed]; rfl
    | replicated made gathers =>
      rw [Definition.value, blockValue, instancesOrSingle, made]
      exact gathers.collectInstances.symm
    | unreplicated failed => rw [Definition.value, blockValue, instancesOrSingle, failed]; rfl
  · rintro rfl
    cases definition with
    | «local» attr =>
      rw [Definition.value, localValue]
      cases found : attr.value.eval env with
      | ok value => exact .evaluated found
      | error cause => exact .failing found
    | block source =>
      rw [Definition.value, blockValue, instancesOrSingle]
      cases made : instances source.body env with
      | error cause => exact .unreplicated made
      | ok all =>
        obtain ⟨result, gathers⟩ := (instances_replicated made).gathers fun inst =>
          resourceValue (inst.environment env) source
        exact .replicated made (gathers.collectInstances ▸ gathers)

/-- A definition gives the same where the definitions that it refers to have the same values. -/
theorem value_of_lookup (session : Session) (definition : Definition) {left right : Scope}
    (bare : right.bare = left.bare)
    (same : ∀ name ∈ definition.references, right.lookup name = left.lookup name) :
    definition.value (session.environment right) = definition.value (session.environment left) := by
  have origins : left.SameOrigins definition.mentions right := .of_lookup bare same
  cases definition with
  | «local» attr =>
    have binds : (session.environment left).Binds [] := fun _ member => nomatch member
    have evaluated : attr.value.eval (session.environment right) =
        attr.value.eval (session.environment left) := attr.value.eval_inScope binds origins
    rw [value, value, localValue, localValue, evaluated]
  | block source =>
    have within : (session.environment left).scope.SameOrigins source.body.mentions right := origins
    have replicated : instances source.body (session.environment right) =
        instances source.body (session.environment left) := instances_of_mentions within
    have made : instancesOrSingle (session.environment right) source.body =
        instancesOrSingle (session.environment left) source.body := by
      rw [instancesOrSingle, instancesOrSingle, replicated]
    have evaluated (inst : Instance) : resourceValue (inst.environment (session.environment right)) source =
        resourceValue (inst.environment (session.environment left)) source := by
      have same : (inst.environment (session.environment left)).scope.SameOrigins source.body.mentions
          right := origins
      exact congrArg (·.value.value) (evaluateBody_of_mentions same _ _)
    simp only [value, blockValue, made, evaluated]

end Definition

def localAttributes (blocks : List SourceBlock) : List Attribute :=
  (blocks.filter (·.kind = .locals)).flatMap (·.body.attributes)

def definitions (blocks : List SourceBlock) : List Definition :=
  (localAttributes blocks).map .local ++ (blocks.filter (·.kind.isReplicable)).map .block

theorem mem_definitions {blocks : List SourceBlock} {definition : Definition} :
    definition ∈ definitions blocks ↔
      (∃ attr ∈ localAttributes blocks, definition = .local attr) ∨
        ∃ block ∈ blocks.filter (·.kind.isReplicable), definition = .block block := by
  rw [definitions, List.mem_append, List.mem_map, List.mem_map]
  simp only [eq_comm]

end Terradoc
