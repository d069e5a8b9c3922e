import Terradoc.Proofs.Composition.Modules
import Terradoc.Proofs.Composition.Settled
import Terradoc.Proofs.Document.Selection

/-! Instances of a block under keys that are written out. Such a key reads an instance by its index or by its
name, whichever kind of literal it is, and it refers to that instance alone where it is written as the
instance has it. Where no block has the key, it refers to all instances. -/

namespace Terradoc

/-- A key that is written out, and its value. -/
inductive Step.Literal : Step → Value → Prop where
  | number (value : Number) : Literal (.index (.number value)) (.number value)
  | string (text : String) : Literal (.index (.string text)) (.string text)
  | position (index : Nat) : Literal (.position index) (.ofNat index)

/-- A key is written in the way of a key of instances: a whole number for an index, a text for a name. -/
inductive Step.WrittenLike : Step → InstanceKey → Prop where
  | whole (value : Int) (index : Nat) : WrittenLike (.index (.number (.int value))) (.index index)
  | position (place index : Nat) : WrittenLike (.position place) (.index index)
  | text (text name : String) : WrittenLike (.index (.string text)) (.key name)

/-- An instance is read under a value that tells its index, or whose text is its name. -/
def InstanceKey.ReadUnder (key : InstanceKey) (value : Value) : Prop :=
  match key with
  | .index position => value.position? = some (position : Int)
  | .key name => value.toText = .ok name

def Instance.ReadUnder (inst : Instance) (value : Value) : Prop :=
  ∃ key, inst.key = some key ∧ key.ReadUnder value

section Literals

variable {step : Step} {value : Value} {key : InstanceKey} (literal : step.Literal value)
include literal

/-- A key that is read, and that is written in the way of the instance, is the key of the instance. -/
theorem Step.Literal.key_of_read (like : step.WrittenLike key) (read : key.ReadUnder value)
    (bounded : ∀ index, key = .index index → (index : Int) < Number.maxWord) :
    literalKey? [step] = some key := by
  have whole {position : Int} {index : Nat} (below : (index : Int) < Number.maxWord)
      (clamped : Number.clampWord position = index) : position = index := by
    rw [Number.clampWord] at clamped
    have low : Number.minWord < 0 := by decide
    omega
  cases like with
  | whole position index =>
    cases literal
    have clamped : Number.clampWord position = index := by
      exact Option.some.inj read
    obtain rfl := whole (bounded index rfl) clamped
    simp [literalKey?]
  | position place index =>
    cases literal
    have clamped : Number.clampWord place = index := by
      exact Option.some.inj read
    obtain rfl := Int.natCast_inj.mp (whole (bounded index rfl) clamped)
    rfl
  | text text name =>
    cases literal
    obtain rfl : text = name := Except.ok.inj read
    rfl

/-- The key of an instance reads it. -/
theorem Step.Literal.read_of_key (same : literalKey? [step] = some key)
    (bounded : ∀ index, key = .index index → (index : Int) < Number.maxWord) : key.ReadUnder value := by
  cases literal with
  | number number =>
    cases number with
    | float => cases same
    | int whole =>
      have written : (if 0 ≤ whole then some (InstanceKey.index whole.toNat) else none) = some key := same
      split at written
      · rename_i nonneg
        cases written
        lift whole to ℕ using nonneg
        have small : (whole : Int) ≤ Number.maxWord := (bounded whole (by rw [Int.toNat_natCast])).le
        change (some (Number.clampWord whole)).or _ = _
        rw [Number.clampWord_ofNat small, Int.toNat_natCast]
        rfl
      · cases written
  | string text =>
    cases same
    rfl
  | position index =>
    cases same
    have small := (bounded index rfl).le
    change (some (Number.clampWord index)).or _ = _
    rw [Number.clampWord_ofNat small]
    rfl

end Literals

/-- A step to a key that is written out takes the item of its value. -/
theorem Step.Literal.walk_eq {env : Environment} {step : Step} {key : Value} (literal : step.Literal key)
    (fallback : Fallback) {value : Value} (known : value.isUnknown = false) :
    walk env fallback 0 value [step] = value.item fallback key := by
  have apply : step.apply env fallback value = value.item fallback key := by
    cases literal with
    | number | string =>
      rw [Step.apply, Expr.eval]
      rfl
    | position => rw [Step.apply]
  rw [walk_step env fallback known (by cases literal <;> simp), apply]
  cases value.item fallback key with
  | error => rfl
  | ok item => exact walk_nil env fallback 0 item

section Rows

variable {rows : List SettledInstance} (replicated : Replicated (rows.map SettledInstance.inst))
  (keyed : ∀ row ∈ rows, row.inst.key.isSome)
include replicated keyed

/-- One instance at most is read under a value. -/
theorem SettledInstance.eq_of_read {value : Value} {row other : SettledInstance} (member : row ∈ rows)
    (among : other ∈ rows) (read : row.inst.ReadUnder value) (again : other.inst.ReadUnder value) :
    row = other := by
  apply eq_of_key replicated member among
  obtain ⟨key, same, read⟩ := read
  obtain ⟨twin, equal, again⟩ := again
  rw [same, equal]
  obtain ⟨-, indexed⟩ | ⟨_, -, named, -⟩ := collected_cases replicated keyed
  · obtain ⟨place, found⟩ := List.getElem?_of_mem member
    obtain ⟨second, there⟩ := List.getElem?_of_mem among
    cases same.symm.trans (indexed place row found)
    cases equal.symm.trans (indexed second other there)
    cases Option.some.inj (read.symm.trans again)
    rfl
  · obtain ⟨name, key⟩ := named row member
    obtain ⟨second, twin⟩ := named other among
    cases same.symm.trans key
    cases equal.symm.trans twin
    cases Except.ok.inj (read.symm.trans again)
    rfl

variable {env : Environment} {step : Step} {value : Value} (literal : step.Literal value)
include literal

/-- A key that is written out leads to the value of the instance that is read under it. -/
theorem SettledInstance.walk_of_read {row : SettledInstance} (member : row ∈ rows)
    (read : row.inst.ReadUnder value) (fallback : Fallback) :
    walk env fallback 0 (collected rows) [step] = .ok row.value := by
  obtain ⟨key, same, read⟩ := read
  obtain ⟨list, indexed⟩ | ⟨fields, map, named, entries⟩ := collected_cases replicated keyed
  · obtain ⟨place, found⟩ := List.getElem?_of_mem member
    cases same.symm.trans (indexed place row found)
    rw [list, literal.walk_eq fallback rfl]
    apply Value.item_list read
    rw [List.getElem?_map, found]
    rfl
  · obtain ⟨name, key⟩ := named row member
    cases same.symm.trans key
    rw [map, literal.walk_eq fallback rfl]
    apply Value.item_map read
    apply Entries.get?_ofList_of_single
    · exact (entries name row.value).mpr ⟨row, member, key, rfl⟩
    · intro other present
      obtain ⟨twin, among, equal, rfl⟩ := (entries name other).mp present
      rw [eq_of_key replicated among member (equal.trans key.symm)]

/-- A key that is written out leads to nothing else. -/
theorem SettledInstance.walk_of_unread (unread : ∀ row ∈ rows, ¬ row.inst.ReadUnder value)
    {marker : Unknown} {result : Value}
    (walked : walk env (some marker) 0 (collected rows) [step] = .ok result) : result = .unknown marker := by
  obtain ⟨list, indexed⟩ | ⟨fields, map, -, entries⟩ := collected_cases replicated keyed
  · rw [list, literal.walk_eq _ rfl] at walked
    apply Value.item_list_outside _ walked
    intro index position
    rw [List.length_map, ← List.getElem?_eq_none_iff, Option.eq_none_iff_forall_ne_some]
    intro row found
    exact unread row (List.mem_of_getElem? found) ⟨.index index, indexed index row found, position⟩
  · rw [map, literal.walk_eq _ rfl] at walked
    apply Value.item_map_outside _ walked
    intro name text
    apply Entries.get?_ofList_eq_none
    intro present
    obtain ⟨⟨_, other⟩, member, rfl⟩ := List.mem_map.mp present
    obtain ⟨row, among, key, -⟩ := (entries _ other).mp member
    exact unread row among ⟨.key _, key, text⟩

end Rows

/-- A block is addressed by a name and the names that are written after it. -/
inductive BlockKind.AddressedBy : BlockKind → BlockTarget → String → List Step → Prop where
  | resource (type name : String) (free : ∀ root ∈ "module" :: "data" :: reservedRoots, type ≠ root) :
    AddressedBy (.resource type name) (.resource type name) type [.attribute name]
  | data (type name : String) :
    AddressedBy (.data type name) (.data type name) "data" [.attribute type, .attribute name]
  | module (name : String) : AddressedBy (.module name) (.module name) "module" [.attribute name]

namespace BlockKind.AddressedBy

variable {kind : BlockKind} {target : BlockTarget} {root : String} {names : List Step}
  (addressed : kind.AddressedBy target root names)
include addressed

theorem eval {env : Environment} (unbound : Entries.get? env.bindings root = none) (steps : List Step) :
    (Expr.traversal (.variable root) (names ++ steps)).eval env =
      resolveBlock env kind.address target (traversalAddress root (names ++ steps)) steps := by
  cases addressed with
  | resource type name free => exact Expr.eval_resource unbound free
  | data type name => exact Expr.eval_data unbound
  | module name => exact Expr.eval_module unbound

theorem traversalTarget? (steps : List Step) :
    Terradoc.traversalTarget? root (names ++ steps) =
      some { target with key := literalKey? steps } := by
  cases addressed with
  | resource type name free =>
    simp only [reservedRoots, List.forall_mem_cons] at free
    simp [Terradoc.traversalTarget?, reservedRoots, free]
  | data | module => rfl

/-- The address of a block with a key that is written out addresses that block, and nothing else. -/
theorem targets {bound : List String} (free : root ∉ bound) {step : Step} {value : Value}
    (literal : step.Literal value) :
    (Expr.traversal (.variable root) (names ++ [step])).targets bound =
      [{ target with key := literalKey? [step] }] := by
  have last : stepTargets bound (names ++ [step]) = [] := by
    cases addressed <;> cases literal <;> simp [stepTargets, Expr.targets]
  have unbound : ¬ bound.contains root = true := by simpa using free
  rw [Expr.targets, if_neg unbound, last, addressed.traversalTarget?, Option.toList_some, List.append_nil]

theorem addresses_self : target.addresses kind = true := by
  cases addressed <;> simp [BlockTarget.addresses, BlockTarget.resource, BlockTarget.data, BlockTarget.module]

end BlockKind.AddressedBy

theorem mem_linkTargets_singleton {target : BlockTarget} {blocks : List Block} {self id : BlockId} :
    id ∈ (linkTargets [target] blocks self).map Reference.id ↔
      (∃ block ∈ target.select blocks, block.id = id) ∧ id ≠ self := by
  rw [linkTargets_ids, List.mem_eraseDups, List.mem_filter, List.flatMap_singleton, List.mem_map,
    bne_iff_ne]

section References

variable {session : Session} {run : Runner} {stack : List Path} {call : ModuleCall} {scope : Scope}
  {block : SourceBlock} {own : List Block} {rows : List SettledInstance}
  (settled : SettledInstances session run stack call scope block own rows)
  (distinct : (own.map Block.id).Nodup) {target : BlockTarget}
  (addressed : target.addresses block.kind = true)
include settled addressed

theorem SettledInstances.addresses {row : SettledInstance} (member : row ∈ rows) :
    target.addresses row.shown.kind = true := by
  rw [(settled.made row member).kind]
  exact addressed

/-- A target without a key, or with one that nothing has, selects all instances. -/
theorem SettledInstances.mem_link_of_unkeyed
    (none : ∀ key, target.key = some key → ∀ other ∈ own, target.addresses other.kind = true →
      other.key ≠ some key) (self : BlockId) {row : SettledInstance} (member : row ∈ rows) :
    row.shown.id ∈ (linkTargets [target] own self).map Reference.id ↔ row.shown.id ≠ self := by
  rw [mem_linkTargets_singleton, (target.select_selects own).unkeyed none]
  constructor
  · exact And.right
  · intro other
    refine ⟨⟨row.shown, List.mem_filter.mpr ⟨settled.mem_own member, ?_⟩, rfl⟩, other⟩
    exact settled.addresses addressed member

include distinct

/-- A target with the key of an instance selects that instance of the block. -/
theorem SettledInstances.mem_link_of_key (replicated : Replicated (rows.map SettledInstance.inst))
    {row : SettledInstance} (member : row ∈ rows) {key : InstanceKey} (keyed : target.key = some key)
    (same : row.inst.key = some key) (self : BlockId) {other : SettledInstance} (among : other ∈ rows) :
    other.shown.id ∈ (linkTargets [target] own self).map Reference.id ↔
      other = row ∧ other.shown.id ≠ self := by
  have carried : row.shown.key = some key := (settled.made row member).key.trans same
  rw [mem_linkTargets_singleton, (target.select_selects own).keyed key keyed
    ⟨row.shown, settled.mem_own member, settled.addresses addressed member, carried⟩]
  apply and_congr_left
  intro _
  constructor
  · rintro ⟨found, selected, equal⟩
    obtain ⟨present, selected⟩ := List.mem_filter.mp selected
    obtain rfl := List.inj_on_of_nodup_map distinct present (settled.mem_own among) equal
    have twin : other.shown.key = some key := beq_iff_eq.mp (Bool.and_eq_true_iff.mp selected).2
    apply SettledInstance.eq_of_key replicated among member
    rw [same, ← (settled.made other among).key, twin]
  · rintro rfl
    refine ⟨other.shown, List.mem_filter.mpr ⟨settled.mem_own among, ?_⟩, rfl⟩
    rw [settled.addresses addressed among, carried]
    exact beq_self_eq_true _

end References

/-- What a traversal reads in a scope that leads from the address of a block to a key that is written out, and
which instances of the block it refers to. -/
structure ReadsUnderKey (scope : Scope) (own : List Block) (rows : List SettledInstance) (target : BlockTarget)
    (root : String) (traversal : Expr) (step : Step) (value : Value) : Prop where
  once : ∀ row ∈ rows, ∀ other ∈ rows, row.inst.ReadUnder value → other.inst.ReadUnder value → row = other
  reads : ∀ row ∈ rows, row.inst.ReadUnder value → ∀ env : Environment, env.scope = scope →
    Entries.get? env.bindings root = none → traversal.eval env = .ok row.value
  misses : (∀ row ∈ rows, ¬ row.inst.ReadUnder value) → ∀ env : Environment, env.scope = scope →
    Entries.get? env.bindings root = none → ∀ result, traversal.eval env = .ok result →
      ∃ marker, result = .unknown marker ∧ marker.target = some { target with key := literalKey? [step] }
  agrees : ∀ row ∈ rows, ∀ key, row.inst.key = some key → literalKey? [step] = some key → key.ReadUnder value
  refers : ∀ row ∈ rows, ∀ key, row.inst.key = some key → key.ReadUnder value → step.WrittenLike key →
    ∀ bound, root ∉ bound → ∀ self, ∀ other ∈ rows,
      other.shown.id ∈ (linkTargets (traversal.targets bound) own self).map Reference.id ↔
        other = row ∧ other.shown.id ≠ self
  otherwise : (∀ key, literalKey? [step] = some key → ∀ other ∈ own, target.addresses other.kind = true →
      other.key ≠ some key) → ∀ bound, root ∉ bound → ∀ self, ∀ row ∈ rows,
    row.shown.id ∈ (linkTargets (traversal.targets bound) own self).map Reference.id ↔ row.shown.id ≠ self

/-- A reference to a block that has a value leads on from there, and what is missing points at the block. -/
theorem resolveBlock_of_value {env : Environment} {key address : String} {value : Value}
    (declared : env.scope.declared.contains key = true) (found : Entries.get? env.scope.blocks key = some value)
    {target : BlockTarget} {steps : List Step} :
    ∃ marker : Unknown, marker.target = some { target with key := literalKey? steps } ∧
      resolveBlock env key target address steps = walk env (some marker) 0 value steps := by
  refine ⟨{ Unknown.plain address target.name with
    target := some { target with key := literalKey? steps } }, rfl, ?_⟩
  rw [resolveBlock, blockOrigin, declared, found]
  rfl

section Runs

variable {session : Session} {run : Runner} {stack : List Path} {call : ModuleCall}
  {before rest : List SourceBlock} {block : SourceBlock}

/-- In a module whose scope no further pass changes, a key that is written out after the address of a
replicated block reads the one instance of its index or its name. It refers to that instance and to no other
one, unless it is written in another way than the key of the instance, or in that very instance. -/
theorem evaluateModule_reads_what_is_referred_to (replicable : block.kind.isReplicable = true)
    (last : ∀ other ∈ rest, other.kind.isReplicable = true → other.address ≠ block.address)
    {state settled after : RunState} {declarations : List VariableDeclaration} {final : Scope}
    {children : Children} {result : ModuleRun}
    (settles : settleModule session run stack call (before ++ block :: rest) state =
      .ok ((declarations, final, children), settled))
    (fixed : ∃ known start kept finish,
      settlePass session run stack call (before ++ block :: rest) final known start =
        .ok ((final, kept), finish))
    (keyed : ∀ inst ∈ instancesOrSingle (session.environment final) block.body, inst.key.isSome)
    (done : evaluateModule session run stack call (before ++ block :: rest) state =
      .ok (result, after)) :
    ∃ own rows, result.blocks = own ++ children.blocks ∧
      SettledInstances session run stack call final block own rows ∧
      ∀ target root names, block.kind.AddressedBy target root names → ∀ step value,
        step.Literal value →
          ReadsUnderKey final own rows target root (.traversal (.variable root) (names ++ [step])) step
            value := by
  obtain ⟨own, rows, parts, instances, found⟩ :=
    evaluateModule_settledInstances replicable last settles fixed done
  have distinct := evaluateModule_ids_nodup settles done parts
  have replicated : Replicated (rows.map SettledInstance.inst) := by
    rw [instances.all]
    exact instancesOrSingle_replicated _ _
  have keyed : ∀ row ∈ rows, row.inst.key.isSome := by
    intro row member
    apply keyed
    rw [← instances.all]
    exact List.mem_map_of_mem member
  have declared : final.declared.contains block.address = true := by
    rw [settleModule_declared _ _ _ _ _ settles, List.contains_iff_mem]
    exact List.mem_map.mpr ⟨block, List.mem_filter.mpr
      ⟨List.mem_append_right _ List.mem_cons_self, replicable⟩, rfl⟩
  refine ⟨own, rows, parts, instances, ?_⟩
  intro target root names addressed step value literal
  have bounded {row : SettledInstance} (member : row ∈ rows) {key : InstanceKey}
      (same : row.inst.key = some key) (index : Nat) (counted : key = .index index) :
      (index : Int) < Number.maxWord :=
    replicated.index_lt (List.mem_map_of_mem member) (counted ▸ same)
  have selects : ({ target with key := literalKey? [step] } : BlockTarget).addresses block.kind = true :=
    addressed.addresses_self
  have evaluated (env : Environment) (within : env.scope = final)
      (unbound : Entries.get? env.bindings root = none) : ∃ marker : Unknown,
      marker.target = some { target with key := literalKey? [step] } ∧
        (Expr.traversal (.variable root) (names ++ [step])).eval env =
          walk env (some marker) 0 (SettledInstance.collected rows) [step] := by
    rw [addressed.eval unbound]
    rw [← within] at declared found
    exact resolveBlock_of_value declared found
  constructor
  · intro row member other among
    exact SettledInstance.eq_of_read replicated keyed member among
  · intro row member read env within unbound
    obtain ⟨marker, -, same⟩ := evaluated env within unbound
    rw [same]
    exact SettledInstance.walk_of_read replicated keyed literal member read _
  · intro unread env within unbound result evaluates
    obtain ⟨marker, pointed, same⟩ := evaluated env within unbound
    rw [same] at evaluates
    exact ⟨marker, SettledInstance.walk_of_unread replicated keyed literal unread evaluates, pointed⟩
  · intro row member key same written
    exact literal.read_of_key written (bounded member same)
  · intro row member key same read like bound free self other among
    rw [addressed.targets free literal]
    exact instances.mem_link_of_key distinct selects replicated member
      (literal.key_of_read like read (bounded member same)) same self among
  · intro none bound free self row member
    rw [addressed.targets free literal]
    exact instances.mem_link_of_unkeyed selects none self member

end Runs

/-- A resource that is made twice. -/
theorem evaluateModule_reads_what_is_referred_to_twice :
    let session := Session.start (Host.withModule "" "") ⟨"/"⟩ Options.standard
    let call := session.rootCall
    let run : Runner := fun _ => throw .tooDeep
    let block : SourceBlock := ⟨.resource "t" "r",
      [.attribute "count" (.number (.int 2)),
        .attribute "position" (.traversal (.variable "count") [.attribute "index"])], "main.tf", ⟨⟨1, 4⟩, []⟩⟩
    let value (position : Nat) : Value := .map [("count", .ofNat 2), ("position", .ofNat position)]
    let final : Scope := { session.scopeOf call [block] with
      blocks := [("t.r", .list [value 0, value 1])] }
    ∃ (own : List Block) (rows : List SettledInstance), own.map Block.path = ["t.r[0]", "t.r[1]"] ∧
      SettledInstances session run [] call final block own rows ∧
      ∀ target root names, block.kind.AddressedBy target root names → ∀ step value, step.Literal value →
        ReadsUnderKey final own rows target root (.traversal (.variable root) (names ++ [step])) step
          value := by
  intro session call run block value final
  have settling : ((settleModule session run [] call [block] .start).map
      fun ended => (ended.1.2.1, ended.1.2.2.blocks.map Block.path)).toOption =
        some (final, []) := by decide +kernel
  have again : ((settlePass session run [] call [block] final .empty .start).map
      fun ended => ended.1.1).toOption = some final := by decide +kernel
  have running : ((evaluateModule session run [] call [block] .start).map
      fun ended => ended.1.blocks.map Block.path).toOption = some ["t.r[0]", "t.r[1]"] := by decide +kernel
  have keyed : ∀ inst ∈ instancesOrSingle (session.environment final) block.body, inst.key.isSome := by
    decide +kernel
  obtain ⟨⟨⟨declarations, scope, children⟩, settled⟩, settles, same⟩ := Except.ok_of_map settling
  obtain ⟨rfl, none⟩ := Prod.mk.inj same
  obtain ⟨⟨⟨scope, kept⟩, finish⟩, fixed, same⟩ := Except.ok_of_map again
  obtain rfl : scope = final := same
  obtain ⟨⟨result, after⟩, done, paths⟩ := Except.ok_of_map running
  have last : ∀ other ∈ ([] : List SourceBlock), other.kind.isReplicable = true →
      other.address ≠ block.address := by simp
  change settleModule session run [] call ([] ++ block :: []) .start = _ at settles
  obtain ⟨own, rows, parts, instances, reads⟩ :=
    evaluateModule_reads_what_is_referred_to rfl last settles ⟨_, _, _, _, fixed⟩ keyed done
  refine ⟨own, rows, ?_, instances, reads⟩
  dsimp only at paths
  rwa [parts, List.map_append, none, List.append_nil] at paths

/-- The digits of an index read the instance of the index, and refer to all. An instance that reads itself
does not refer to itself. -/
theorem evaluateModule_refers_to_what_is_not_read :
    let session := Session.start (Host.withModule "" "") ⟨"/"⟩ Options.standard
    let call := session.rootCall
    let run : Runner := fun _ => throw .tooDeep
    let block : SourceBlock := ⟨.resource "t" "r",
      [.attribute "count" (.number (.int 2)),
        .attribute "position" (.traversal (.variable "count") [.attribute "index"])], "main.tf", ⟨⟨1, 4⟩, []⟩⟩
    let value (position : Nat) : Value := .map [("count", .ofNat 2), ("position", .ofNat position)]
    let final : Scope := { session.scopeOf call [block] with
      blocks := [("t.r", .list [value 0, value 1])] }
    let under (key : Expr) : Expr := .traversal (.variable "t") [.attribute "r", .index key]
    let digits := under (.string "0")
    let number := under (.number (.int 0))
    let references (own : List Block) (traversal : Expr) (self : BlockId) :=
      (linkTargets (traversal.targets []) own self).map (·.id.number)
    ((settleModule session run [] call [block] .start).map (·.1.2.1)).toOption = some final ∧
      ((settlePass session run [] call [block] final .empty .start).map (·.1.1)).toOption = some final ∧
      (digits.eval (session.environment final)).toOption = some (value 0) ∧
      (number.eval (session.environment final)).toOption = some (value 0) ∧
      ((evaluateModule session run [] call [block] .start).map fun ended =>
        (ended.1.blocks.map fun block => (block.path, block.id.number),
          references ended.1.blocks digits ⟨3⟩, references ended.1.blocks number ⟨1⟩)).toOption =
        some ([("t.r[0]", 1), ("t.r[1]", 2)], [1, 2], []) := by
  decide +kernel

end Terradoc
