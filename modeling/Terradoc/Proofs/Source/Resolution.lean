import Terradoc.Module.Session

/-! Where modules stand: in a directory that is written, where they are installed, or in the cache of what is
fetched, whatever the services answer. A version counts only for modules of registries that are fetched. -/

namespace Terradoc

/-- What a source leads to: a written directory that exists, else an installed one, else what is fetched. -/
inductive Resolver.Finds (resolver : Resolver) (caller : Path) (key source : String)
    (version : Option String) : Path → Prop where
  | written (directory : SourceKind.ofSource source = .directory)
      (present : resolver.files.hasDirectory
        (Path.absolutize resolver.workingDirectory (caller.join source)) = true) :
      Finds resolver caller key source version (Path.absolutize resolver.workingDirectory (caller.join source))
  | installed {place : Path} (elsewhere : SourceKind.ofSource source ≠ .directory)
      (known : resolver.installed? key = some place) : Finds resolver caller key source version place
  | fetched {fetch : Fetcher} {place : Path} (elsewhere : SourceKind.ofSource source ≠ .directory)
      (unknown : resolver.installed? key = none) (fetcher : resolver.fetcher = some fetch)
      (found : fetch source version = .ok place) : Finds resolver caller key source version place

theorem Resolver.installed?_eq_some {resolver : Resolver} {key : String} {place : Path} :
    resolver.installed? key = some place ↔
      Entries.get? resolver.manifest key = some place ∧ resolver.files.hasDirectory place = true := by
  rw [installed?, Option.bind_eq_some_iff]
  constructor
  · rintro ⟨listed, known, kept⟩
    split at kept
    · cases kept
      exact ⟨known, ‹_›⟩
    · cases kept
  · rintro ⟨known, present⟩
    exact ⟨place, known, if_pos present⟩

theorem Resolver.resolve_eq_ok {resolver : Resolver} {caller directory : Path} {key source : String}
    {version : Option String} :
    resolver.resolve caller key source version = .ok directory ↔
      resolver.Finds caller key source version directory := by
  constructor
  · intro found
    unfold resolve at found
    split at found
    · rename_i written
      dsimp only at found
      split at found
      · cases found
        exact .written written ‹_›
      · cases found
    · rename_i elsewhere
      split at found
      · rename_i known
        cases found
        exact .installed elsewhere known
      · cases found
      · rename_i unknown fetcher
        split at found
        · rename_i fetched
          cases found
          exact .fetched elsewhere unknown fetcher fetched
        · cases found
  · intro finds
    cases finds with
    | written directory present => rw [resolve, if_pos directory, if_pos present]
    | installed elsewhere known => rw [resolve, if_neg elsewhere, known]
    | fetched elsewhere unknown fetcher found =>
      rw [resolve, if_neg elsewhere, unknown, fetcher]
      dsimp only
      rw [found]

/-- The places of repositories in a cache, and the subdirectories that are named with them. -/
inductive InCache (cache : Path) : Path → Prop where
  | repository (git : GitSource) : InCache cache (cache.join git.cacheName)
  | inside {place : Path} (outer : InCache cache place) (inner : String) : InCache cache (place.join inner)

theorem InCache.optional {cache place : Path} (outer : InCache cache place) (subdirectory : Option String) :
    InCache cache (place.inside subdirectory) := by
  cases subdirectory with
  | none => exact outer
  | some inner => exact outer.inside inner

section Fetching

variable {services : Services} {files : FileTree} {cache directory : Path} {source : String}
  {version : Option String}

theorem fetchRepository_inCache (fetched : fetchRepository services files cache source = .ok directory) :
    InCache cache directory := by
  have place : InCache cache ((cache.join (GitSource.parse source).cacheName).inside
      (GitSource.parse source).subdirectory) := (InCache.repository _).optional _
  unfold fetchRepository at fetched
  dsimp only at fetched
  split at fetched
  · cases fetched
    exact place
  · split at fetched
    · cases fetched
    · split at fetched
      · cases fetched
        exact place
      · cases fetched

/-- Whatever git and the registries answer, what is fetched stands in the cache. -/
theorem fetchSource_inCache (fetched : fetchSource files cache source version services = .ok directory) :
    InCache cache directory := by
  unfold fetchSource at fetched
  split at fetched
  · cases fetched
  · split at fetched
    · cases fetched
    · rename_i address _
      cases located : services.locate (packageOf source) version with
      | error => rw [located] at fetched; cases fetched
      | ok location =>
        cases cloned : fetchRepository services files cache location with
        | error => rw [located] at fetched; simp [Bind.bind, Except.bind, cloned] at fetched
        | ok place =>
          rw [located] at fetched
          simp only [Bind.bind, Except.bind, cloned] at fetched
          cases fetched
          exact (fetchRepository_inCache cloned).optional address.subdirectory
  · split at fetched
    · cases fetched
    · exact fetchRepository_inCache fetched

theorem fetchSource_version (elsewhere : SourceKind.ofSource source ≠ .registry) (other : Option String) :
    fetchSource files cache source version services = fetchSource files cache source other services := by
  unfold fetchSource
  split
  · rfl
  · rename_i registry
    exact absurd registry elsewhere
  · rfl

end Fetching

theorem Session.start_fetcher {host : Host} {root : Path} {options : Options} {services : Services}
    {fetch : Fetcher} : (Session.start host root options services).resolver.fetcher = some fetch ↔
      options.allowDownloads = true ∧ host.fetcher services = fetch := by
  simp [start]

/-- Modules stand in directories that exist when the session starts, or in the cache. -/
theorem Session.resolve_stands {host : Host} {root : Path} {options : Options} {services : Services}
    {caller directory : Path} {key source : String} {version : Option String}
    (found : (Session.start host root options services).resolver.resolve caller key source version =
      .ok directory) :
    host.files.hasDirectory directory = true ∨
      options.allowDownloads = true ∧
        InCache (host.temporaryDirectory.join "tfparse-modules") directory := by
  cases Resolver.resolve_eq_ok.mp found with
  | written _ present => exact .inl present
  | installed _ known => exact .inl (Resolver.installed?_eq_some.mp known).2
  | @fetched fetch _ _ _ fetcher fetched =>
    obtain ⟨allowed, rfl⟩ := Session.start_fetcher.mp fetcher
    exact .inr ⟨allowed, fetchSource_inCache fetched⟩

theorem Resolver.resolve_version {resolver : Resolver} {caller : Path} {key source : String}
    {version other : Option String}
    (same : (resolver.installed? key).isSome ∨
      ∀ fetch, resolver.fetcher = some fetch → fetch source version = fetch source other) :
    resolver.resolve caller key source version = resolver.resolve caller key source other := by
  unfold resolve
  cases installed : resolver.installed? key with
  | some place => rfl
  | none =>
    have answers := same.resolve_left (by simp [installed])
    cases fetcher : resolver.fetcher with
    | none => rfl
    | some fetch =>
      dsimp only
      rw [answers fetch fetcher]

/-- In a session, another version leads elsewhere only for modules of registries that are not installed. -/
theorem Session.resolve_version (host : Host) (root : Path) (options : Options) (services : Services)
    {caller : Path} {key source : String}
    (settled : SourceKind.ofSource source ≠ .registry ∨
      ((Session.start host root options services).resolver.installed? key).isSome)
    (version other : Option String) :
    (Session.start host root options services).resolver.resolve caller key source version =
      (Session.start host root options services).resolver.resolve caller key source other := by
  apply Resolver.resolve_version
  refine settled.symm.imp id fun elsewhere fetch fetcher => ?_
  obtain ⟨-, rfl⟩ := start_fetcher.mp fetcher
  exact fetchSource_version elsewhere other

end Terradoc
