import Terradoc.Proofs.Entries
import Terradoc.Proofs.Listing.Files
import Terradoc.Proofs.Text.Bytes

namespace Terradoc

def Json.KeysOnce (value : Json) : Prop :=
  ∀ fields, value = .object fields → (fields.map Prod.fst).Nodup

section Reading

variable {depth : Nat} {text rest : List Char} {value : Json}

theorem Json.readItems_keysOnce {fuel : Nat} {seen : List Json}
    (read : readItems fuel depth seen text = some (value, rest)) : value.KeysOnce := by
  induction fuel generalizing seen text with
  | zero => rw [readItems] at read; cases read
  | succ fuel ih =>
    rw [readItems] at read
    obtain ⟨⟨item, after⟩, -, read⟩ := Option.bind_eq_some_iff.mp read
    dsimp only at read
    split at read
    · exact ih read
    · cases read
      exact fun _ => nofun
    · cases read

theorem Json.readEntries_keysOnce {fuel : Nat} {seen : List (String × Json)}
    (read : readEntries fuel depth seen text = some (value, rest)) : value.KeysOnce := by
  induction fuel generalizing seen text with
  | zero => rw [readEntries] at read; cases read
  | succ fuel ih =>
    rw [readEntries] at read
    split at read
    · obtain ⟨⟨key, after⟩, -, read⟩ := Option.bind_eq_some_iff.mp read
      dsimp only at read
      split at read
      · obtain ⟨⟨item, following⟩, -, read⟩ := Option.bind_eq_some_iff.mp read
        dsimp only at read
        split at read
        · exact ih read
        · cases read
          rintro _ ⟨⟩
          exact Entries.nodup_ofList _
        · cases read
      · cases read
    · cases read

theorem Json.readValue_keysOnce {fuel : Nat} (read : readValue fuel depth text = some (value, rest)) :
    value.KeysOnce := by
  cases fuel with
  | zero => rw [readValue] at read; cases read
  | succ fuel =>
    rw [readValue] at read
    split at read
    · cases read; exact fun _ => nofun
    · cases read; exact fun _ => nofun
    · cases read; exact fun _ => nofun
    · obtain ⟨_, -, read⟩ := Option.bind_eq_some_iff.mp read
      cases read; exact fun _ => nofun
    · cases depth with
      | zero => cases read
      | succ depth =>
        dsimp only at read
        split at read
        · cases read; exact fun _ => nofun
        · exact Json.readItems_keysOnce read
    · cases depth with
      | zero => cases read
      | succ depth =>
        dsimp only at read
        split at read
        · cases read
          rintro _ ⟨⟩
          exact List.nodup_nil
        · exact Json.readEntries_keysOnce read
    · obtain ⟨_, -, read⟩ := Option.bind_eq_some_iff.mp read
      cases read; exact fun _ => nofun

theorem Json.parse?_keysOnce {text : String} (read : Json.parse? text = some value) : value.KeysOnce := by
  unfold parse? at read
  obtain ⟨⟨made, after⟩, found, read⟩ := Option.bind_eq_some_iff.mp read
  dsimp only at read
  split at read
  · cases read
    exact Json.readValue_keysOnce found
  · cases read

end Reading

theorem Value.ofJson_eq_map {value : Json} {entries : Entries Value} (same : ofJson value = .map entries) :
    ∃ fields, value = .object fields ∧ entries = entriesOfJson fields := by
  cases value with
  | object fields =>
    cases same
    exact ⟨fields, rfl, rfl⟩
  | number number =>
    rw [ofJson] at same
    cases number with
    | int whole => cases same
    | float value =>
      rw [ofJsonNumber, ofFloat] at same
      split at same <;> cases same
  | null => cases same
  | bool value => cases same
  | string text => cases same
  | array items => cases same

theorem keys_entriesOfJson (fields : List (String × Json)) :
    (Value.entriesOfJson fields).map Prod.fst = fields.map Prod.fst := by
  induction fields with
  | nil => rw [Value.entriesOfJson]; rfl
  | cons field rest ih => rw [Value.entriesOfJson, List.map_cons, ih, List.map_cons]

theorem evaluateInputs_nodup {env : Environment} {attributes : List Attribute} {inputs result : Inputs}
    (made : evaluateInputs env inputs attributes = .ok result) (once : (inputs.map Prod.fst).Nodup) :
    (result.map Prod.fst).Nodup := by
  induction attributes generalizing inputs with
  | nil => cases made; exact once
  | cons attr rest ih =>
    rw [evaluateInputs] at made
    split at made
    · exact ih made (Entries.nodup_insert once _ _)
    · cases made

/-- A variable file gives each variable one value. -/
theorem readVariableFile_nodup {env : Environment} {files : FileTree} {path : Path} {table : Inputs}
    (read : readVariableFile env files path = .ok table) : (table.map Prod.fst).Nodup := by
  unfold readVariableFile at read
  split at read
  · cases read
  · split at read
    · rename_i parsed
      cases read
      unfold parseVariableFile at parsed
      split at parsed
      · split at parsed
        · rename_i found
          cases parsed
          obtain ⟨value, json, same⟩ := Option.map_eq_some_iff.mp found
          obtain ⟨fields, rfl, rfl⟩ := Value.ofJson_eq_map same
          rw [keys_entriesOfJson]
          exact Json.parse?_keysOnce json fields rfl
        · cases parsed
        · cases parsed
      · split at parsed
        · exact evaluateInputs_nodup parsed List.nodup_nil
        · cases parsed
    · cases read

/-- Files are read one after the other, each over those before. -/
theorem readVariableFiles_eq {env : Environment} {files : FileTree} {paths : List Path} {tables : List Inputs}
    (read : List.Forall₂ (fun path table => readVariableFile env files path = .ok table) paths tables)
    (inputs : Inputs) :
    readVariableFiles env files inputs paths = .ok (tables.foldl Entries.insertAll inputs) := by
  induction read generalizing inputs with
  | nil => rfl
  | cons first _ ih =>
    rw [readVariableFiles, first]
    exact ih _

def filesNamed (paths : List Path) (name : String) : List Path :=
  paths.filter fun path => path.fileName? == some name

/-- Whether a file is taken without being named. -/
def Path.IsAutomatic (path : Path) : Prop :=
  ∃ stem, path.fileName? = some (stem ++ ".auto.tfvars") ∨
    path.fileName? = some (stem ++ ".auto.tfvars.json")

/-- The files of a directory that are taken without being named, by the bytes of their names. -/
structure AutomaticFiles (paths automatic : List Path) : Prop where
  taken : ∀ path, path ∈ automatic ↔ path ∈ paths ∧ path.IsAutomatic
  ascending : automatic.Pairwise fun left right =>
    Text.toBytes (left.fileName?.getD "") < Text.toBytes (right.fileName?.getD "")

/-- The variable files of a root directory, from low to high: the standard ones, the automatic ones, those of
the workspace, and those that the options name. -/
inductive VariableSources (files : FileTree) (root : Path) (options : Options) : List Path → Prop where
  | ordered {paths automatic : List Path} (listing : files.list root = .ok paths)
    (taken : AutomaticFiles paths automatic) :
    VariableSources files root options
      (filesNamed paths "terraform.tfvars" ++ filesNamed paths "terraform.tfvars.json" ++ automatic ++
        filesNamed paths (options.workspace ++ ".tfvars") ++
        filesNamed paths (options.workspace ++ ".tfvars.json") ++ options.variableFiles.map root.join)

theorem FileTree.Formed.follow {ancestors : List FileTree} {node result : FileTree} {steps : List String}
    (above : ∀ other ∈ ancestors, other.Formed) (formed : node.Formed)
    (found : FileTree.follow ancestors node steps = .ok result) : result.Formed := by
  induction steps generalizing ancestors node with
  | nil => cases found; exact formed
  | cons step rest ih =>
    cases formed with
    | file => cases found
    | directory once named below =>
      have here := FileTree.Formed.directory once named below
      simp only [FileTree.follow] at found
      split at found
      · exact ih above here found
      · split at found
        · cases ancestors with
          | nil => exact ih above here found
          | cons parent others =>
            obtain ⟨first, later⟩ := List.forall_mem_cons.mp above
            exact ih later first found
        · split at found
          · rename_i child inside
            exact ih (List.forall_mem_cons.mpr ⟨here, above⟩) (below _ (Entries.mem_of_get? inside)) found
          · cases found

/-- File names tell the entries of a directory apart. -/
theorem FileTree.Formed.fileNames_nodup {files : FileTree} (formed : files.Formed) {root : Path}
    {paths : List Path} (listing : files.list root = .ok paths) : (paths.map Path.fileName?).Nodup := by
  unfold FileTree.list at listing
  split at listing
  · rename_i entries found
    cases listing
    unfold FileTree.find at found
    split at found
    · cases found
    · cases FileTree.Formed.follow (List.forall_mem_nil _) formed found with
      | directory once named below =>
        have names : (entries.map fun entry => root.join entry.1).map Path.fileName? =
            (entries.map Prod.fst).map some := by
          rw [List.map_map, List.map_map]
          exact List.map_congr_left fun entry member => Path.fileName?_join root (named entry member)
        rw [names]
        exact once.map fun _ _ => Option.some.inj
  · cases listing
  · cases listing

theorem filesNamed_eq {paths : List Path} (once : (paths.map Path.fileName?).Nodup) (name : String) :
    filesNamed paths name = (paths.find? fun path => path.fileName? == some name).toList := by
  induction paths with
  | nil => rfl
  | cons path rest ih =>
    obtain ⟨fresh, later⟩ := List.nodup_cons.mp once
    rw [filesNamed, List.filter_cons, List.find?_cons]
    split
    · rename_i same
      have others : rest.filter (fun path => path.fileName? == some name) = [] := by
        refine List.filter_eq_nil_iff.mpr fun other member equal => fresh ?_
        rw [beq_iff_eq.mp same, ← beq_iff_eq.mp equal]
        exact List.mem_map_of_mem member
      rw [others, same]
      rfl
    · rename_i differ
      rw [Bool.eq_false_iff.mpr differ]
      exact ih later

theorem Path.isAutomatic_iff {path : Path} :
    path.IsAutomatic ↔ (path.fileName?.map Terradoc.isAutomatic).getD false = true := by
  rw [IsAutomatic]
  cases path.fileName? with
  | none => simp
  | some name => simp [isAutomatic, Text.endsWith_iff, exists_or]

theorem Path.IsAutomatic.fileName {path : Path} (automatic : path.IsAutomatic) :
    path.fileName? = some (path.fileName?.getD "") := by
  obtain ⟨stem, named | named⟩ := automatic <;> rw [named, Option.getD_some]

section Automatic

variable {paths automatic : List Path} (once : (paths.map Path.fileName?).Nodup)
include once

/-- Sorting gives the automatic files in their order. -/
theorem automaticFiles_sortByName : AutomaticFiles paths
    (sortByName (paths.filter fun path => (path.fileName?.map isAutomatic).getD false)) where
  taken path := by rw [sortByName, List.mem_mergeSort, List.mem_filter, Path.isAutomatic_iff]
  ascending := by
    have names : ((sortByName (paths.filter fun path => (path.fileName?.map isAutomatic).getD false)).map
        Path.fileName?).Nodup :=
      ((List.mergeSort_perm _ _).map _).nodup_iff.mpr (once.sublist (List.filter_sublist.map _))
    have sorted := pairwise_mergeSort_texts (fun path : Path => path.fileName?.getD "")
      (paths.filter fun path => (path.fileName?.map isAutomatic).getD false)
    refine List.Pairwise.imp_of_mem ?_ (sorted.and (List.pairwise_map.mp names))
    rintro left right member inside ⟨below, differ⟩
    rw [Text.toBytes_lt_iff]
    by_contra above
    refine differ ?_
    rw [sortByName, List.mem_mergeSort, List.mem_filter, ← Path.isAutomatic_iff] at member inside
    rw [member.2.fileName, inside.2.fileName]
    exact congrArg some (String.le_antisymm below (String.not_lt.mp above))

/-- There is only one order for them. -/
theorem AutomaticFiles.eq_sortByName (files : AutomaticFiles paths automatic) : automatic =
    sortByName (paths.filter fun path => (path.fileName?.map isAutomatic).getD false) := by
  have strict : automatic.Pairwise fun left right => left.fileName?.getD "" < right.fileName?.getD "" :=
    files.ascending.imp Text.toBytes_lt_iff.mp
  have order : automatic.Perm (paths.filter fun path => (path.fileName?.map isAutomatic).getD false) := by
    refine (List.perm_ext_iff_of_nodup ?_ ((List.Nodup.of_map _ once).filter _)).mpr fun path => ?_
    · exact strict.imp fun below => ne_of_apply_ne (fun path : Path => path.fileName?.getD "")
        (String.ne_of_lt below)
    · rw [files.taken, List.mem_filter, Path.isAutomatic_iff]
  have apart : NamedApart automatic := by
    intro left member right inside same
    by_contra differ
    exact forall_of_pairwise (strict.imp String.ne_of_lt) (fun _ _ => Ne.symm) member inside differ same
  rw [← sortByName_perm order apart, sortByName]
  refine (List.mergeSort_of_pairwise (strict.imp fun below => ?_)).symm
  simpa using String.lt_asymm below

theorem automaticFiles_iff : AutomaticFiles paths automatic ↔ automatic =
    sortByName (paths.filter fun path => (path.fileName?.map isAutomatic).getD false) :=
  ⟨AutomaticFiles.eq_sortByName once, fun same => same ▸ automaticFiles_sortByName once⟩

theorem pathsNamed_eq (names : List String) : pathsNamed paths names = names.flatMap (filesNamed paths) := by
  rw [pathsNamed, List.filterMap_eq_flatMap_toList]
  exact congrArg names.flatMap (funext fun name => (filesNamed_eq once name).symm)

end Automatic

/-- The files that a root module takes are its variable files, from low to high. -/
theorem variableSources_iff {files : FileTree} {root : Path} {options : Options} {sources paths : List Path}
    (formed : files.Formed) (listing : files.list root = .ok paths) :
    VariableSources files root options sources ↔
      sources = standardFiles paths options.workspace ++ options.variableFiles.map root.join := by
  have once := formed.fileNames_nodup listing
  constructor
  · rintro ⟨listing', taken⟩
    cases listing.symm.trans listing'
    simp [standardFiles, pathsNamed_eq once, (automaticFiles_iff once).mp taken]
  · rintro rfl
    have ordered : VariableSources files root options _ := .ordered listing (automaticFiles_sortByName once)
    simpa [standardFiles, pathsNamed_eq once] using ordered

end Terradoc
