import Terradoc.Proofs.Nesting.Directories
import Terradoc.Proofs.Text.Occurrences

/-! Relative paths. A path as it is seen from a base climbs out of the base and then goes down, and from the base it
leads back to where it was made for. Files and module directories are shown by such paths, so two of them are never
shown alike. -/

namespace Terradoc

namespace Path

/-- Components that stand in a text, wherever the text stands. -/
def inner (text : String) : List Component := (Text.splitChar '/' text).filterMap componentOf?

theorem inner_of_single {text : String} (single : '/' ∉ text.toList) :
    inner text = (componentOf? text).toList := by
  rw [inner, Text.splitChar_eq_single single]
  cases found : componentOf? text with
  | none => exact List.filterMap_cons_none found
  | some component => exact List.filterMap_cons_some found

@[simp] theorem inner_empty : inner "" = [] := inner_of_single (by decide)

theorem inner_current : inner "." = [] := inner_of_single (by decide)

theorem inner_append (front back : String) : inner (front ++ "/" ++ back) = inner front ++ inner back := by
  have text : (front ++ "/" ++ back).toList = front.toList ++ '/' :: back.toList := by simp
  rw [inner, Text.splitChar, text, Text.splitAt_append, List.map_append, List.filterMap_append]
  rfl

theorem inner_slash (text : String) : inner (text ++ "/") = inner text := by
  have cut := inner_append text ""
  rwa [String.append_empty, inner_empty, List.append_nil] at cut

theorem inner_joinWith {pieces : List String} (single : ∀ piece ∈ pieces, '/' ∉ piece.toList) :
    inner (Text.joinWith "/" pieces) = pieces.filterMap componentOf? := by
  by_cases empty : pieces = []
  · subst empty
    exact inner_empty
  · rw [inner, Text.splitChar_joinWith empty single]

theorem components_of_absolute {path : Path} (absolute : path.isAbsolute = true) :
    path.components = .root :: inner path.text := by
  rw [components, if_pos absolute]
  rfl

theorem isAbsolute_ofNames (names : List String) : (ofNames names).isAbsolute = true :=
  Text.startsWith_iff.mpr ⟨_, rfl⟩

/-- The components of a path below another are those of both. -/
theorem components_join {base : Path} {text : String} (absolute : base.isAbsolute = true)
    (relative : text.startsWith "/" = false) :
    (base.join text).components = base.components ++ inner text := by
  obtain ⟨rest, start⟩ := Text.startsWith_iff.mp absolute
  have below {back : String} : Path.isAbsolute ⟨base.text ++ back⟩ = true :=
    Text.startsWith_iff.mpr ⟨rest ++ back, by rw [start, String.append_assoc]⟩
  rw [components_of_absolute absolute, List.cons_append, join, relative, if_neg Bool.false_ne_true]
  split
  · rename_i ends
    rw [components_of_absolute below]
    rcases (Bool.or_eq_true ..).mp ends with empty | ends
    · rw [beq_iff_eq.mp empty, inner_empty, String.empty_append, List.nil_append]
    · -- The slash at the end of the base is the one between the two.
      obtain ⟨stem, same⟩ := Text.endsWith_iff.mp ends
      rw [same, inner_append, inner_slash]
  · rw [String.append_assoc, components_of_absolute below, ← String.append_assoc, inner_append]

/-- An absolute path whose components climb nowhere. -/
structure Normal (path : Path) : Prop where
  absolute : path.isAbsolute = true
  level : .parent ∉ path.components

/-- The absolute path without dots that an absolute path stands for. -/
def normalized (path : Path) : Path := ofNames path.names

theorem resolveDots_append (names : List String) (first second : List Component) :
    resolveDots names (first ++ second) = resolveDots (resolveDots names first) second := by
  fun_induction resolveDots names first with
  | case1 => rfl
  | case2 names rest ih | case3 names rest ih | case4 names rest ih | case5 names text rest ih => exact ih

theorem resolveDots_map_name (names added : List String) :
    resolveDots names (added.map .name) = names ++ added := by
  induction added generalizing names with
  | nil => exact (List.append_nil names).symm
  | cons text rest ih => rw [List.map_cons, resolveDots, ih, List.append_assoc, List.singleton_append]

theorem resolveDots_replicate_parent (front back : List String) :
    resolveDots (front ++ back) (List.replicate back.length .parent) = front := by
  induction back using List.reverseRecOn with
  | nil => exact List.append_nil front
  | append_singleton back text ih =>
    rw [List.length_append, List.length_singleton, List.replicate_succ, resolveDots, ← List.append_assoc,
      List.dropLast_concat, ih]

theorem exists_map_name {components : List Component}
    (named : ∀ component ∈ components, ∃ text, component = .name text) :
    ∃ texts : List String, components = texts.map .name := by
  induction components with
  | nil => exact ⟨[], rfl⟩
  | cons component rest ih =>
    obtain ⟨text, rfl⟩ := named component List.mem_cons_self
    obtain ⟨texts, rfl⟩ := ih fun other member => named other (List.mem_cons_of_mem _ member)
    exact ⟨text :: texts, rfl⟩

theorem Normal.components {path : Path} (normal : path.Normal) :
    path.components = .root :: path.names.map .name := by
  have whole := components_of_absolute normal.absolute
  have named : ∀ component ∈ inner path.text, ∃ text, component = .name text := by
    intro component member
    cases component with
    | name text => exact ⟨text, rfl⟩
    | parent => exact absurd (whole ▸ List.mem_cons_of_mem _ member) normal.level
    | root | current =>
      obtain ⟨piece, -, shown⟩ := List.mem_filterMap.mp member
      unfold componentOf? at shown
      split at shown
      · cases shown
      · split at shown <;> cases shown
  obtain ⟨texts, same⟩ := exists_map_name named
  rw [names, whole, same, resolveDots, resolveDots_map_name, List.nil_append]

theorem filterMap_componentOf? {names : List String} (named : ∀ name ∈ names, IsName name) :
    names.filterMap componentOf? = names.map .name := by
  rw [← List.filterMap_eq_map]
  exact List.filterMap_congr fun name member => componentOf?_name (named name member)

theorem components_ofNames {names : List String} (named : ∀ name ∈ names, IsName name) :
    (ofNames names).components = .root :: names.map .name := by
  have text : inner (ofNames names).text = inner ("" ++ "/" ++ Text.joinWith "/" names) := rfl
  rw [components_of_absolute (isAbsolute_ofNames names), text, inner_append, inner_empty, List.nil_append,
    inner_joinWith fun name member => (named name member).single, filterMap_componentOf? named]

theorem normalized_same_of_names {path other : Path} (normal : other.Normal) (equal : path.names = other.names) :
    path.normalized.same other = true := by
  rw [same, beq_iff_eq, normalized, equal, components_ofNames fun _ => isName_of_mem_names, normal.components]

theorem Normal.same_iff {path other : Path} (normal : path.Normal) (further : other.Normal) :
    path.same other = true ↔ path.names = other.names := by
  rw [same, beq_iff_eq, normal.components, further.components, List.cons_inj_right]
  exact (List.map_injective_iff.mpr fun _ _ => Component.name.inj).eq_iff

/-- Two paths part after the names that they start with in common. -/
theorem afterCommon_map_name (left right : List String) :
    ∃ common up down, left = common ++ up ∧ right = common ++ down ∧
      afterCommon (left.map .name) (right.map .name) = (up.map .name, down.map .name) := by
  induction left generalizing right with
  | nil => exact ⟨[], [], right, rfl, rfl, by cases right <;> rfl⟩
  | cons first lefts ih =>
    cases right with
    | nil => exact ⟨[], first :: lefts, [], rfl, rfl, rfl⟩
    | cons second rights =>
      by_cases equal : first = second
      · subst equal
        obtain ⟨common, up, down, rfl, rfl, parts⟩ := ih rights
        refine ⟨first :: common, up, down, rfl, rfl, ?_⟩
        rw [List.map_cons, List.map_cons, afterCommon, if_pos rfl, parts]
      · exact ⟨[], first :: lefts, second :: rights, rfl, rfl, if_neg (mt Component.name.inj equal)⟩

/-- The steps from a directory to another: up out of the names of the first, down into those of the second. -/
def climb (up down : List String) : List String := List.replicate up.length ".." ++ down

def climbText (up down : List String) : String :=
  if climb up down = [] then "." else Text.joinWith "/" (climb up down)

section Climb

variable {up down : List String}

theorem climb_eq_nil_iff : climb up down = [] ↔ up = [] ∧ down = [] := by
  rw [climb, List.append_eq_nil_iff, List.replicate_eq_nil_iff, List.length_eq_zero_iff]

theorem filterMap_climb (named : ∀ name ∈ down, IsName name) :
    (climb up down).filterMap componentOf? = List.replicate up.length .parent ++ down.map .name := by
  rw [climb, List.filterMap_append, filterMap_componentOf? named, List.filterMap_replicate]
  rfl

theorem splitChar_climbText (named : ∀ name ∈ down, IsName name) (moves : climb up down ≠ []) :
    Text.splitChar '/' (climbText up down) = climb up down := by
  rw [climbText, if_neg moves, Text.splitChar_joinWith moves]
  intro piece member
  rcases List.mem_append.mp member with above | below
  · rw [List.eq_of_mem_replicate above]
    decide
  · exact (named piece below).single

theorem inner_climbText (named : ∀ name ∈ down, IsName name) :
    inner (climbText up down) = List.replicate up.length .parent ++ down.map .name := by
  by_cases still : climb up down = []
  · obtain ⟨rfl, rfl⟩ := climb_eq_nil_iff.mp still
    exact inner_current
  · rw [inner, splitChar_climbText named still, filterMap_climb named]

theorem head?_climb (named : ∀ name ∈ down, IsName name) :
    (climb up down).head? ≠ some "" ∧ (climb up down).head? ≠ some "." := by
  cases up with
  | cons => exact ⟨by simp [climb, List.replicate_succ], by simp [climb, List.replicate_succ]⟩
  | nil =>
    cases down with
    | nil => exact ⟨nofun, nofun⟩
    | cons name rest =>
      have here := named name List.mem_cons_self
      exact ⟨mt Option.some.inj here.nonempty, mt Option.some.inj here.notCurrent⟩

theorem startsWith_climbText (named : ∀ name ∈ down, IsName name) :
    (climbText up down).startsWith "/" = false := by
  by_cases still : climb up down = []
  · rw [climbText, if_pos still]
    exact Text.not_startsWith_of_not_mem (List.mem_singleton_self '/') (by decide)
  · refine Bool.eq_false_iff.mpr fun starts => ?_
    obtain ⟨rest, same⟩ := Text.startsWith_iff.mp starts
    have pieces := splitChar_climbText named still
    -- What stands before a slash at the start is an empty piece, and no step is empty.
    have text : ("/" ++ rest).toList = [] ++ '/' :: rest.toList := by simp
    rw [same, Text.splitChar, text, Text.splitAt_append_cons List.not_mem_nil, List.map_cons] at pieces
    exact (head?_climb named).1 (by rw [← pieces]; rfl)

theorem components_climbText (named : ∀ name ∈ down, IsName name) :
    Path.components ⟨climbText up down⟩ =
      if climb up down = [] then [.current] else List.replicate up.length .parent ++ down.map .name := by
  have relative : Path.isAbsolute ⟨climbText up down⟩ = false := startsWith_climbText named
  have cut : Path.components ⟨climbText up down⟩ =
      if (Text.splitChar '/' (climbText up down)).head? == some "." then .current :: inner (climbText up down)
      else inner (climbText up down) := by
    rw [Path.components, relative, if_neg Bool.false_ne_true]
    rfl
  rw [cut, inner_climbText named]
  by_cases still : climb up down = []
  · obtain ⟨rfl, rfl⟩ := climb_eq_nil_iff.mp still
    rw [climbText, if_pos still, Text.splitChar_eq_single (by decide), if_pos still]
    rfl
  · have moves : ((climb up down).head? == some ".") = false := beq_eq_false_iff_ne.mpr (head?_climb named).2
    rw [splitChar_climbText named still, moves, if_neg Bool.false_ne_true, if_neg still]

end Climb

variable {base path : Path}

/-- A relative path climbs out of the names that only the base has and goes down into those that only the path has. -/
theorem Normal.relativeTo_eq (baseNormal : base.Normal) (normal : path.Normal) :
    ∃ common up down, base.names = common ++ up ∧ path.names = common ++ down ∧
      (∀ name ∈ down, IsName name) ∧ base.relativeTo path = climbText up down := by
  obtain ⟨common, up, down, left, right, parts⟩ := afterCommon_map_name base.names path.names
  have named : ∀ name ∈ down, IsName name := fun name member =>
    isName_of_mem_names (right ▸ List.mem_append_right common member)
  refine ⟨common, up, down, left, right, named, ?_⟩
  have texts : (up.map Component.name).map (fun _ => "..") ++ (down.map Component.name).map Component.text =
      climb up down := by
    simp [climb, Function.comp_def, Component.text, List.map_const']
  rw [Path.relativeTo, baseNormal.components, normal.components, afterCommon, if_pos rfl, parts]
  simp only [texts, List.isEmpty_iff, climbText]

/-- A relative path leads from its base to the path that it was made for. -/
theorem Normal.names_join_relativeTo (baseNormal : base.Normal) (normal : path.Normal) :
    (base.join (base.relativeTo path)).names = path.names := by
  obtain ⟨common, up, down, left, right, named, text⟩ := baseNormal.relativeTo_eq normal
  rw [text, names, components_join baseNormal.absolute (startsWith_climbText named), baseNormal.components,
    inner_climbText named, left, right, List.cons_append, resolveDots, resolveDots_append, resolveDots_append,
    resolveDots_map_name, resolveDots_map_name, List.nil_append, resolveDots_replicate_parent]

theorem names_join_current (absolute : base.isAbsolute = true) : (base.join ".").names = base.names := by
  have relative : ".".startsWith "/" = false :=
    Text.not_startsWith_of_not_mem (List.mem_singleton_self '/') (by decide)
  rw [names, components_join absolute relative, inner_current, List.append_nil, names]

theorem afterCommon_self (components : List Component) : afterCommon components components = ([], []) := by
  induction components with
  | nil => rfl
  | cons component rest ih => rw [afterCommon, if_pos rfl, ih]

theorem relativeTo_of_same (same : base.same path = true) : base.relativeTo path = "." := by
  rw [Path.relativeTo, ← beq_iff_eq.mp same, afterCommon_self]
  rfl

/-- A relative path climbs before it goes down. -/
theorem Normal.components_relativeTo (baseNormal : base.Normal) (normal : path.Normal) :
    ∃ climbs rest, Path.components ⟨base.relativeTo path⟩ = List.replicate climbs .parent ++ rest ∧
      .parent ∉ rest := by
  obtain ⟨common, up, down, -, -, named, text⟩ := baseNormal.relativeTo_eq normal
  rw [text, components_climbText named]
  split
  · exact ⟨0, [.current], rfl, by decide⟩
  · exact ⟨up.length, down.map .name, rfl, by simp⟩

/-- Relative paths are undone by following them. From the base a relative path leads to the path that it was made
for; it is a dot just for the base itself, climbs only at its front, and stands for no other path. -/
theorem relativeTo_inverse (baseNormal : base.Normal) (normal : path.Normal) :
    ((base.join (base.relativeTo path)).normalized.same path = true ∧
      (path.normalized = path → (base.join (base.relativeTo path)).normalized = path)) ∧
    (base.relativeTo path = "." ↔ base.same path = true) ∧
    (∃ climbs rest, Path.components ⟨base.relativeTo path⟩ = List.replicate climbs .parent ++ rest ∧
      .parent ∉ rest) ∧
    ∀ other : Path, other.Normal → base.relativeTo path = base.relativeTo other → path.same other = true := by
  have back := baseNormal.names_join_relativeTo normal
  refine ⟨⟨normalized_same_of_names normal back, fun written => ?_⟩, ⟨fun here => ?_, relativeTo_of_same⟩,
    baseNormal.components_relativeTo normal, fun other further equal => ?_⟩
  · rw [normalized, back]
    exact written
  · rw [baseNormal.same_iff normal, ← back, here, names_join_current baseNormal.absolute]
  · rw [normal.same_iff further, ← back, equal, baseNormal.names_join_relativeTo further]

theorem relativeTo_inverse_above_base :
    let base : Path := ⟨"/a/root"⟩
    let path : Path := ⟨"/a/modules/x/main.tf"⟩
    let other : Path := ⟨"/a/modules//x/main.tf/"⟩
    base.Normal ∧ path.Normal ∧ other.Normal ∧ base.relativeTo path = "../modules/x/main.tf" ∧
      base.relativeTo other = "../modules/x/main.tf" ∧ path.same other = true ∧
      (base.join "../modules/x/main.tf").normalized = path := by
  intro base path other
  have baseNormal : base.Normal := ⟨by decide +kernel, by decide +kernel⟩
  have normal : path.Normal := ⟨by decide +kernel, by decide +kernel⟩
  have further : other.Normal := ⟨by decide +kernel, by decide +kernel⟩
  have text : base.relativeTo path = "../modules/x/main.tf" := by decide +kernel
  have same : base.relativeTo other = "../modules/x/main.tf" := by decide +kernel
  obtain ⟨⟨-, back⟩, -, -, apart⟩ := relativeTo_inverse baseNormal normal
  exact ⟨baseNormal, normal, further, text, same, apart other further (text.trans same.symm),
    text ▸ back (by decide +kernel)⟩

end Path

end Terradoc
