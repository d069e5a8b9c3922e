import Terradoc.Proofs.Settling.Shown
import Terradoc.Proofs.Variable.Files

namespace Terradoc

def LastGives (sources : List Inputs) (name : String) (value : Value) : Prop :=
  ∃ before table after, sources = before ++ table :: after ∧ Entries.get? table name = some value ∧
    ∀ later ∈ after, Entries.get? later name = none

theorem lastGives_concat_iff {before : List Inputs} {table : Inputs} {name : String} {value : Value} :
    LastGives (before ++ [table]) name value ↔ Entries.get? table name = some value ∨
      Entries.get? table name = none ∧ LastGives before name value := by
  constructor
  · rintro ⟨front, middle, after, same, found, later⟩
    rcases List.eq_nil_or_concat after with rfl | ⟨rest, last, rfl⟩
    · obtain ⟨-, equal⟩ := List.append_inj' same rfl
      cases equal
      exact .inl found
    · obtain ⟨earlier, silent⟩ := List.forall_mem_append.mp (List.concat_eq_append ▸ later)
      rw [List.concat_eq_append, ← List.cons_append, ← List.append_assoc] at same
      obtain ⟨rfl, equal⟩ := List.append_inj' same rfl
      cases equal
      exact .inr ⟨silent table List.mem_cons_self, front, middle, rest, rfl, found, earlier⟩
  · rintro (found | ⟨silent, front, middle, after, rfl, found, later⟩)
    · exact ⟨before, table, [], rfl, found, List.forall_mem_nil _⟩
    · refine ⟨front, middle, after ++ [table], by simp, found, ?_⟩
      exact List.forall_mem_append.mpr ⟨later, List.forall_mem_singleton.mpr silent⟩

section Merging

variable {sources : List Inputs} (once : ∀ table ∈ sources, (table.map Prod.fst).Nodup) {name : String}

theorem get?_insertAll_of_nodup {table : Inputs} (once : (table.map Prod.fst).Nodup) (inputs : Inputs)
    (name : String) :
    Entries.get? (Entries.insertAll inputs table) name =
      (Entries.get? table name).or (Entries.get? inputs name) := by
  rw [Entries.get?_insertAll, ← Entries.get?_of_perm (List.reverse_perm table).symm once]

include once

/-- Sources that are put over one another give what the last of them does. -/
theorem lastGives_iff {value : Value} :
    Entries.get? (sources.foldl Entries.insertAll []) name = some value ↔ LastGives sources name value := by
  induction sources using List.reverseRecOn generalizing value with
  | nil =>
    refine ⟨nofun, ?_⟩
    rintro ⟨before, table, after, same, -⟩
    simp at same
  | append_singleton before table ih =>
    obtain ⟨earlier, last⟩ := List.forall_mem_append.mp once
    rw [List.foldl_concat, get?_insertAll_of_nodup (last table List.mem_cons_self), lastGives_concat_iff,
      Option.or_eq_some_iff, ih earlier]

theorem merged_eq_none_iff :
    Entries.get? (sources.foldl Entries.insertAll []) name = none ↔
      ∀ table ∈ sources, Entries.get? table name = none := by
  induction sources using List.reverseRecOn with
  | nil => simp
  | append_singleton before table ih =>
    obtain ⟨earlier, last⟩ := List.forall_mem_append.mp once
    rw [List.foldl_concat, get?_insertAll_of_nodup (last table List.mem_cons_self), Option.or_eq_none_iff,
      ih earlier, List.forall_mem_append, List.forall_mem_singleton, and_comm]

end Merging

namespace VariableDeclaration

/-- What a declared variable takes from sources: what the last of them gives that knows it, converted where
that can be done, else its default as it is, else an unknown of its own address. -/
inductive Takes (declaration : VariableDeclaration) (sources : List Inputs) : Value → Prop where
  | converted {type : VarType} {given value : Value} (last : LastGives sources declaration.name given)
    (typed : declaration.type = some type) (done : type.coerce given = .ok value) :
    Takes declaration sources value
  | asGiven {given : Value} (last : LastGives sources declaration.name given)
    (kept : ∀ type, declaration.type = some type → ∀ value, type.coerce given ≠ .ok value) :
    Takes declaration sources given
  | fallback {value : Value} (absent : ∀ table ∈ sources, Entries.get? table declaration.name = none)
    (default : declaration.default = some value) : Takes declaration sources value
  | missing (absent : ∀ table ∈ sources, Entries.get? table declaration.name = none)
    (required : declaration.default = none) :
    Takes declaration sources (.unresolved ("var." ++ declaration.name) declaration.name)

variable {declaration : VariableDeclaration} {sources : List Inputs} {inputs : Inputs}

theorem accept_of_converted {type : VarType} {given value : Value} (typed : declaration.type = some type)
    (done : type.coerce given = .ok value) : declaration.accept given = value := by
  rw [accept, typed]
  dsimp only
  rw [done]
  rfl

theorem accept_of_kept {given : Value}
    (kept : ∀ type, declaration.type = some type → ∀ value, type.coerce given ≠ .ok value) :
    declaration.accept given = given := by
  rw [accept]
  cases typed : declaration.type with
  | none => rfl
  | some type =>
    dsimp only
    cases done : type.coerce given with
    | ok value => exact absurd done (kept type typed value)
    | error => rfl

/-- A given value is converted where its type can do that, and kept where it cannot. -/
theorem takes_accept {given : Value} (last : LastGives sources declaration.name given) :
    declaration.Takes sources (declaration.accept given) := by
  by_cases convertible : ∃ type value, declaration.type = some type ∧ type.coerce given = .ok value
  · obtain ⟨type, value, typed, done⟩ := convertible
    rw [accept_of_converted typed done]
    exact .converted last typed done
  · have kept : ∀ type, declaration.type = some type → ∀ value, type.coerce given ≠ .ok value :=
      fun type typed value done => convertible ⟨type, value, typed, done⟩
    rw [accept_of_kept kept]
    exact .asGiven last kept

/-- A variable that is resolved with what sources give together takes its value from them. -/
theorem resolve_eq_iff {value : Value}
    (known : ∀ given, Entries.get? inputs declaration.name = some given ↔
      LastGives sources declaration.name given)
    (silent : Entries.get? inputs declaration.name = none ↔
      ∀ table ∈ sources, Entries.get? table declaration.name = none) :
    declaration.resolve inputs = value ↔ declaration.Takes sources value := by
  constructor
  · rintro rfl
    rw [resolve]
    cases found : Entries.get? inputs declaration.name with
    | some given => exact takes_accept ((known given).mp found)
    | none =>
      cases default : declaration.default with
      | some value => exact .fallback (silent.mp found) default
      | none => exact .missing (silent.mp found) default
  · intro takes
    cases takes with
    | converted last typed done =>
      rw [resolve, (known _).mpr last]
      exact accept_of_converted typed done
    | asGiven last kept =>
      rw [resolve, (known _).mpr last]
      exact accept_of_kept kept
    | fallback absent default => rw [resolve, silent.mpr absent, default]
    | missing absent required => rw [resolve, silent.mpr absent, required]

end VariableDeclaration

/-- What the options themselves give. -/
def Options.inputs (options : Options) : Inputs :=
  Entries.ofList (options.assignments.map fun (name, value) => (name, Value.ofJson value))

/-- What is given to the root module is what its variable files and then the options give. -/
theorem exists_rootInputs {env : Environment} {files : FileTree} {root : Path} {options : Options}
    {sources : List Path} {tables : List Inputs} (formed : files.Formed)
    (ordered : VariableSources files root options sources)
    (read : List.Forall₂ (fun path table => readVariableFile env files path = .ok table) sources tables) :
    ∃ inputs, rootInputs env files root options = .ok inputs ∧
      ∀ name, Entries.get? inputs name =
        Entries.get? ((tables ++ [options.inputs]).foldl Entries.insertAll []) name := by
  obtain ⟨paths, listing⟩ : ∃ paths, files.list root = .ok paths := by
    cases ordered with
    | ordered listing => exact ⟨_, listing⟩
  rw [(variableSources_iff formed listing).mp ordered] at read
  refine ⟨Entries.insertAll (tables.foldl Entries.insertAll [])
    (options.assignments.map fun (name, value) => (name, Value.ofJson value)), ?_, fun name => ?_⟩
  · rw [rootInputs, listing]
    dsimp only
    rw [readVariableFiles_eq read]
    rfl
  · rw [List.foldl_concat, Options.inputs, get?_insertAll_of_nodup (Entries.nodup_ofList _),
      Entries.get?_ofList, Entries.get?_insertAll]

theorem settleModule_vars {session : Session} {run : Runner} {stack : List Path} {call : ModuleCall}
    {blocks : List SourceBlock} {declarations : List VariableDeclaration} {final : Scope}
    {children : Children} {state settled : RunState} {inputs : Inputs}
    (given : session.inputsOf call (session.environment (session.scopeOf call blocks)) = .ok inputs)
    (done : settleModule session run stack call blocks state =
      .ok ((declarations, final, children), settled)) :
    final.vars = resolveVariables
      (VariableDeclaration.ofBlocks (session.environment (session.scopeOf call blocks)) blocks) inputs := by
  obtain ⟨taken, _, took, rest⟩ := Running.bind_eq_ok.mp done
  obtain ⟨⟨scope, kept⟩, _, passes, last⟩ := Running.bind_eq_ok.mp rest
  cases last
  obtain ⟨locals, values, rfl⟩ := settle_scope session run stack call blocks passes
  rw [given] at took
  cases took
  rfl

/-- The variables of a root module take what the last source gives that knows them: the standard files, the
automatic files by name, those of the workspace, those that the options name, and the options themselves.
These are the values that the module settles with. -/
theorem rootVariables_take_last (session : Session) (blocks : List SourceBlock) {sources : List Path}
    {tables : List Inputs} (formed : session.host.files.Formed)
    (ordered : VariableSources session.host.files session.root session.options sources)
    (read : List.Forall₂ (fun path table => readVariableFile
      (session.environment (session.scopeOf session.rootCall blocks)) session.host.files path = .ok table)
      sources tables)
    (distinct : ((VariableDeclaration.ofBlocks
      (session.environment (session.scopeOf session.rootCall blocks)) blocks).map (·.name)).Nodup) :
    let env := session.environment (session.scopeOf session.rootCall blocks)
    let declarations := VariableDeclaration.ofBlocks env blocks
    ∃ inputs, session.inputsOf session.rootCall env = .ok inputs ∧
      (∀ declaration ∈ declarations, ∀ value,
        Entries.get? (resolveVariables declarations inputs) declaration.name = some value ↔
          declaration.Takes (tables ++ [session.options.inputs]) value) ∧
      ∀ {run stack state made scope children settled},
        settleModule session run stack session.rootCall blocks state =
          .ok ((made, scope, children), settled) → scope.vars = resolveVariables declarations inputs := by
  intro env declarations
  obtain ⟨inputs, given, merged⟩ := exists_rootInputs formed ordered read
  refine ⟨inputs, given, fun declaration member value => ?_, fun done => settleModule_vars given done⟩
  have once : ∀ table ∈ tables ++ [session.options.inputs], (table.map Prod.fst).Nodup := by
    refine List.forall_mem_append.mpr ⟨?_, List.forall_mem_singleton.mpr (Entries.nodup_ofList _)⟩
    exact forall_of_forall₂ read fun path table => readVariableFile_nodup
  rw [resolveVariables, Entries.get?_ofList_map distinct member, Option.some_inj]
  refine VariableDeclaration.resolve_eq_iff (fun value => ?_) ?_
  · rw [merged, lastGives_iff once]
  · rw [merged, merged_eq_none_iff once]

private def textOf? : Value → Option String
  | .string text => some text
  | _ => none

private theorem read_of_texts {read : Except LoadError Inputs} {texts : List (String × String)}
    (same : read.toOption.map (·.map fun entry => (entry.1, textOf? entry.2)) =
      some (texts.map fun text => (text.1, some text.2))) :
    read = .ok (texts.map fun text => (text.1, .string text.2)) := by
  cases read with
  | error fault => cases same
  | ok table =>
    have rows := map_eq_map_iff_forall₂.mp (Option.some.inj same)
    refine congrArg Except.ok (List.map_id table ▸ map_eq_map_iff_forall₂.mpr (rows.imp ?_))
    rintro ⟨name, value⟩ ⟨other, text⟩ equal
    cases value <;> cases equal
    rfl

private theorem eq_ok_of_toOption {ε α : Type} {result : Except ε α} {value : α}
    (found : result.toOption = some value) : result = .ok value := by
  cases result with
  | error fault => cases found
  | ok other => exact congrArg Except.ok (Option.some.inj found)

/-- An automatic file over the standard one, an option over both, and a variable that nothing gives. -/
theorem rootVariables_take_last_of_files :
    let file (text : String) := FileTree.file (Text.toBytes text)
    let host : Host := ⟨.directory [("terraform.tfvars", file "open = \"false\"\nname = \"low\"\n"),
      ("a.auto.tfvars", file "open = \"true\"\n")], ⟨"/"⟩, "/", ⟨"/tmp"⟩⟩
    let session := Session.start host ⟨"/"⟩
      { Options.standard with assignments := [("name", .string "high")] }
    let blocks : List SourceBlock := [
      ⟨.variable "open", [.attribute "type" (.variable "bool")], "main.tf", ⟨⟨1, 3⟩, []⟩⟩,
      ⟨.variable "name", [], "main.tf", ⟨⟨4, 4⟩, []⟩⟩,
      ⟨.variable "size", [], "main.tf", ⟨⟨5, 5⟩, []⟩⟩]
    let env := session.environment (session.scopeOf session.rootCall blocks)
    ∃ inputs, session.inputsOf session.rootCall env = .ok inputs ∧
      let vars := resolveVariables (VariableDeclaration.ofBlocks env blocks) inputs
      Entries.get? vars "open" = some (.bool true) ∧ Entries.get? vars "name" = some (.string "high") ∧
        Entries.get? vars "size" = some (.unresolved "var.size" "size") := by
  intro file host session blocks env
  have formed : host.files.Formed := by
    refine .directory (by decide) ?_ ?_
    · intro entry member
      simp only [List.mem_cons, List.not_mem_nil, or_false] at member
      rcases member with rfl | rfl <;> exact ⟨by decide, by decide, by decide, by decide⟩
    · intro entry member
      simp only [List.mem_cons, List.not_mem_nil, or_false] at member
      rcases member with rfl | rfl <;> exact .file _
  have declared : VariableDeclaration.ofBlocks env blocks =
      [⟨"open", some .bool, none⟩, ⟨"name", none, none⟩, ⟨"size", none, none⟩] := by
    have typed : VarType.parse env (.variable "bool") = .ok .bool := by
      rw [VarType.parse]
      rfl
    simp [VariableDeclaration.ofBlocks, VariableDeclaration.ofBlock?, blocks, Body.attribute?,
      Body.attributes, typed, Except.toOption]
  have listing : host.files.list ⟨"/"⟩ = .ok [⟨"/terraform.tfvars"⟩, ⟨"/a.auto.tfvars"⟩] :=
    eq_ok_of_toOption (by decide +kernel)
  have sources : VariableSources host.files ⟨"/"⟩ session.options
      [⟨"/terraform.tfvars"⟩, ⟨"/a.auto.tfvars"⟩] :=
    (variableSources_iff formed listing).mpr (by decide +kernel)
  have standard : readVariableFile env host.files ⟨"/terraform.tfvars"⟩ =
      .ok [("open", .string "false"), ("name", .string "low")] :=
    @read_of_texts _ [("open", "false"), ("name", "low")] (by decide +kernel)
  have automatic : readVariableFile env host.files ⟨"/a.auto.tfvars"⟩ = .ok [("open", .string "true")] :=
    @read_of_texts _ [("open", "true")] (by decide +kernel)
  obtain ⟨inputs, given, takes, -⟩ :=
    rootVariables_take_last session blocks formed sources (.cons standard (.cons automatic .nil))
      (by rw [declared]; decide)
  rw [declared] at takes ⊢
  refine ⟨inputs, given, (takes ⟨"open", some .bool, none⟩ (by simp) _).mpr ?_,
    (takes ⟨"name", none, none⟩ (by simp) _).mpr ?_, (takes ⟨"size", none, none⟩ (by simp) _).mpr ?_⟩
  · have last : LastGives ([[("open", .string "false"), ("name", .string "low")],
        [("open", .string "true")]] ++ [session.options.inputs]) "open" (.string "true") :=
      ⟨[_], _, [_], rfl, rfl, List.forall_mem_singleton.mpr rfl⟩
    exact .converted last rfl rfl
  · exact .asGiven ⟨[_, _], _, [], rfl, rfl, List.forall_mem_nil _⟩ nofun
  · refine .missing (List.forall_mem_cons.mpr ⟨rfl, List.forall_mem_cons.mpr ⟨rfl, ?_⟩⟩) rfl
    exact List.forall_mem_singleton.mpr rfl

end Terradoc
