import Terradoc.Module.Source
import Terradoc.Proofs.Text.Occurrences

/-! Git sources. A source that is put together from the URL of a repository, a directory and a revision is taken
apart into just these, whichever of them it names. -/

namespace Terradoc.GitSource

open Text (marked)

/-- The source that names a repository, a directory in it and a revision, and may say that it is one for git. -/
def compose (forced : Bool) (url : String) (subdirectory revision : Option String) : String :=
  String.ofList ((if forced then "git::".toList else []) ++ (url.toList ++
    marked "//".toList (subdirectory.map String.toList) ++ marked "?ref=".toList (revision.map String.toList)))

/-- A scheme with the slashes that follow it, or nothing. -/
def IsScheme (scheme : List Char) : Prop :=
  scheme = [] ∨ ∃ name, scheme = name ++ "://".toList ∧ ¬ "://".toList <:+: name

/-- The URL of a repository: behind its scheme no two slashes follow each other, and no other mark of a source
stands in it. -/
structure IsUrl (url : List Char) : Prop where
  separated : ∃ scheme place, url = scheme ++ place ∧ IsScheme scheme ∧ ¬ "//".toList <:+: place
  unmarked : ¬ "?ref=".toList <:+: url
  unforced : ¬ "git::".toList <+: url
  noSlash : ¬ "/".toList <:+ url
  noColon : ¬ ":".toList <:+ url

/-- A directory that can be named in a source. -/
structure IsBelow (directory : List Char) : Prop where
  unmarked : ¬ "?ref=".toList <:+: directory
  schemeless : ¬ "://".toList <:+: directory

section Cuts

variable {mark before start source : List Char}

theorem without_append (start source : List Char) : without start (start ++ source) = source := by
  rw [without, Text.after?_append, Option.getD_some]

theorem without_of_not_prefix (other : ¬ start <+: source) : without start source = source := by
  rw [without, Text.after?_eq_none_iff.mpr other, Option.getD_none]

/-- A cut finds the part behind its mark, when the mark is not there before. -/
theorem cutAt_marked (nonempty : mark ≠ []) (first : ¬ mark <:+: before ++ mark.dropLast)
    (part : Option (List Char)) : cutAt mark (before ++ marked mark part) = (before, part) := by
  cases part with
  | none =>
    have absent : ¬ mark <:+: before := mt List.infix_append_of_infix_left first
    rw [marked, Option.elim_none, List.append_nil, cutAt, Text.breakAt?_eq_none_iff.mpr absent]
  | some rest =>
    have found : Text.breakAt? mark (before ++ mark ++ rest) = some (before, rest) :=
      (Text.breakAt?_eq_some_iff nonempty).mpr ⟨rfl, first⟩
    rw [marked, Option.elim_some, ← List.append_assoc, cutAt, found]

theorem once_in_scheme : ∀ first ∈ "://".toList.head?, first ∉ "://".toList.tail := by
  rintro first ⟨⟩
  decide

theorem once_in_revision : ∀ first ∈ "?ref=".toList.head?, first ∉ "?ref=".toList.tail := by
  rintro first ⟨⟩
  decide

theorem splitScheme_append {scheme rest : List Char} (isScheme : IsScheme scheme)
    (schemeless : scheme = [] → ¬ "://".toList <:+: rest) :
    splitScheme (scheme ++ rest) = (scheme, rest) := by
  rcases isScheme with rfl | ⟨name, rfl, first⟩
  · rw [List.nil_append, splitScheme, Text.breakAt?_eq_none_iff.mpr (schemeless rfl)]
  · have found : Text.breakAt? "://".toList (name ++ "://".toList ++ rest) = some (name, rest) :=
      Text.breakAt?_append (by decide) once_in_scheme first rest
    rw [splitScheme, found]

theorem ofList_completeUrl (url : String) :
    String.ofList (completeUrl url.toList) =
      if url.startsWith "github.com/" || url.startsWith "bitbucket.org/" then "https://" ++ url else url := by
  have starts (host : String) : (Text.after? host.toList url.toList).isSome = url.startsWith host := by
    rw [Bool.eq_iff_iff, String.startsWith_string_iff, Option.isSome_iff_exists]
    exact exists_congr fun rest => Text.after?_eq_some.trans eq_comm
  rw [completeUrl, starts, starts]
  split
  · rw [String.ofList_append, String.ofList_toList, String.ofList_toList]
  · exact String.ofList_toList

end Cuts

section Marks

variable {url : List Char} {subdirectory : Option (List Char)}

/-- Before the revision there is no mark for one. -/
theorem IsUrl.no_revision (isUrl : IsUrl url) (below : ∀ directory ∈ subdirectory, IsBelow directory) :
    ¬ "?ref=".toList <:+: url ++ marked "//".toList subdirectory ++ "?ref=".toList.dropLast := by
  refine mt (Text.infix_append_dropLast_iff (by decide) once_in_revision).mp ?_
  cases subdirectory with
  | none => simpa [marked] using isUrl.unmarked
  | some directory =>
    have outside : ¬ "?ref=".toList <:+: [] ++ '/' :: directory := by
      rw [Text.infix_append_cons_iff (by decide), not_or]
      exact ⟨by decide, (below directory rfl).unmarked⟩
    change ¬ "?ref=".toList <:+: url ++ '/' :: ('/' :: directory)
    rw [Text.infix_append_cons_iff (by decide), not_or]
    exact ⟨isUrl.unmarked, outside⟩

/-- Where a URL has no scheme, none begins in it and none is in the directory. -/
theorem IsUrl.no_scheme (isUrl : IsUrl url) (apart : ¬ "//".toList <:+: url)
    (below : ∀ directory ∈ subdirectory, IsBelow directory) :
    ¬ "://".toList <:+: url ++ marked "//".toList subdirectory := by
  have bare : ¬ "://".toList <:+: url := fun inside => apart (List.IsInfix.trans (by decide) inside)
  cases subdirectory with
  | none => simpa [marked] using bare
  | some directory =>
    rw [marked, Option.elim_some, List.infix_append_iff_ne_nil]
    rintro (left | right | ⟨front, back, some, more, whole, ends, -⟩)
    · exact bare left
    · have own : ∀ rest, ¬ "://".toList <+: '/' :: rest := by simp
      rcases List.infix_cons_iff.mp right with here | right
      · exact own _ here
      rcases List.infix_cons_iff.mp right with here | right
      · exact own _ here
      · exact (below directory rfl).schemeless right
    · -- What of the mark is in the URL is a colon at its end, or a slash.
      match front, back with
      | [], _ => exact some rfl
      | [colon], _ =>
        obtain rfl := (List.cons.inj whole).1
        exact isUrl.noColon ends
      | [colon, slash], _ =>
        obtain rfl := (List.cons.inj (List.cons.inj whole).2).1
        exact isUrl.noSlash (List.IsSuffix.trans ⟨[colon], rfl⟩ ends)
      | _ :: _ :: _ :: _, _ :: _ => simp at whole

/-- The last cut of a source: no slashes reach from the place over its end. -/
theorem IsUrl.no_slashes {scheme place : List Char} (isUrl : IsUrl (scheme ++ place))
    (apart : ¬ "//".toList <:+: place) : ¬ "//".toList <:+: place ++ "//".toList.dropLast := by
  change ¬ ['/', '/'] <:+: place ++ ['/']
  rw [List.infix_concat_iff, not_or]
  refine ⟨fun ends => ?_, apart⟩
  obtain ⟨front, same⟩ := ends
  have ends : front ++ ['/'] ++ ['/'] = place ++ ['/'] := by simpa using same
  have last : front ++ ['/'] = place := List.append_cancel_right ends
  exact isUrl.noSlash (List.IsSuffix.trans ⟨front, last⟩ (List.suffix_append _ _))

theorem IsUrl.no_force (isUrl : IsUrl url) (subdirectory revision : Option (List Char)) :
    ¬ "git::".toList <+: url ++ marked "//".toList subdirectory ++ marked "?ref=".toList revision := by
  have foreign {char : Char} (right : List Char) (other : char ∉ "git::".toList) :
      ¬ "git::".toList <+: url ++ char :: right := mt (Text.prefix_append_cons_iff other).mp isUrl.unforced
  rw [List.append_assoc]
  rcases subdirectory with - | directory
  · rcases revision with - | revision
    · simpa [marked] using isUrl.unforced
    · exact foreign _ (by decide)
  · exact foreign _ (by decide)

end Marks

/-- A git source is taken apart into what it was put together from: the URL, with its scheme where it is the one
of a well-known host, the directory and the revision. -/
theorem parse_compose (forced : Bool) {url : String} (isUrl : IsUrl url.toList) {subdirectory : Option String}
    (below : ∀ directory ∈ subdirectory, IsBelow directory.toList) (revision : Option String) :
    GitSource.parse (compose forced url subdirectory revision) =
      ⟨if url.startsWith "github.com/" || url.startsWith "bitbucket.org/" then "https://" ++ url else url,
        subdirectory, revision⟩ := by
  obtain ⟨scheme, place, whole, isScheme, apart⟩ := isUrl.separated
  have belowChars : ∀ directory ∈ subdirectory.map String.toList, IsBelow directory := by
    intro directory member
    obtain ⟨text, there, rfl⟩ := Option.map_eq_some_iff.mp member
    exact below text there
  have unforced : without "git::".toList (compose forced url subdirectory revision).toList =
      url.toList ++ marked "//".toList (subdirectory.map String.toList) ++
        marked "?ref=".toList (revision.map String.toList) := by
    have chars : (compose forced url subdirectory revision).toList = _ := String.toList_ofList
    rw [chars]
    cases forced with
    | true => rw [if_pos rfl, without_append]
    | false =>
      rw [if_neg Bool.false_ne_true, List.nil_append]
      exact without_of_not_prefix (isUrl.no_force _ _)
  have revised := cutAt_marked (by decide) (isUrl.no_revision belowChars) (revision.map String.toList)
  have schemed : splitScheme (url.toList ++ marked "//".toList (subdirectory.map String.toList)) =
      (scheme, place ++ marked "//".toList (subdirectory.map String.toList)) := by
    rw [whole, List.append_assoc]
    refine splitScheme_append isScheme fun bare => ?_
    rw [bare, List.nil_append] at whole
    exact (whole ▸ isUrl).no_scheme apart belowChars
  have placed := cutAt_marked (by decide) ((whole ▸ isUrl : IsUrl (scheme ++ place)).no_slashes apart)
    (subdirectory.map String.toList)
  have same (part : Option String) : (part.map String.toList).map String.ofList = part := by
    simp [Function.comp_def]
  rw [GitSource.parse, unforced, revised]
  dsimp only
  rw [schemed, placed, ← whole]
  dsimp only
  rw [ofList_completeUrl, same, same]

/-- A source with all parts, and one that names a well-known host and a directory. -/
theorem parse_compose_of_hosts :
    GitSource.parse "git::https://example.com/network.git//modules/vpc?ref=v1.2.0" =
        ⟨"https://example.com/network.git", some "modules/vpc", some "v1.2.0"⟩ ∧
      GitSource.parse "github.com/org/repo//modules/vpc" =
        ⟨"https://github.com/org/repo", some "modules/vpc", none⟩ := by
  have below : ∀ directory ∈ some "modules/vpc", IsBelow directory.toList := by
    intro directory same
    cases same
    exact ⟨by decide, by decide⟩
  have schemed : IsUrl "https://example.com/network.git".toList :=
    ⟨⟨"https://".toList, "example.com/network.git".toList, by decide,
      .inr ⟨"https".toList, by decide, by decide⟩, by decide⟩, by decide, by decide, by decide, by decide⟩
  have bare : IsUrl "github.com/org/repo".toList :=
    ⟨⟨[], _, rfl, .inl rfl, by decide⟩, by decide, by decide, by decide, by decide⟩
  have first : "git::https://example.com/network.git//modules/vpc?ref=v1.2.0" =
      compose true "https://example.com/network.git" (some "modules/vpc") (some "v1.2.0") := by decide
  have second : "github.com/org/repo//modules/vpc" = compose false "github.com/org/repo" (some "modules/vpc") none := by
    decide
  rw [first, second, parse_compose true schemed below (some "v1.2.0"), parse_compose false bare below none]
  simp

end Terradoc.GitSource
