namespace Terradoc

/-- Values by key; a key stands once. -/
abbrev Entries (α : Type) := List (String × α)

namespace Entries

variable {α β : Type}

def get? (entries : Entries α) (key : String) : Option α := entries.lookup key

/-- A key that is there keeps its place and takes the new value; a new one goes to the end. -/
def insert : Entries α → String → α → Entries α
  | [], key, value => [(key, value)]
  | (other, old) :: rest, key, value =>
    if other == key then (other, value) :: rest else (other, old) :: insert rest key value

/-- Changes the value under a key, or the given start when the key is new. -/
def alter (entries : Entries α) (key : String) (start : α) (change : α → α) : Entries α :=
  insert entries key (change ((get? entries key).getD start))

/-- Inserts all entries of the second list, in order. -/
def insertAll (entries : Entries α) (more : List (String × α)) : Entries α :=
  more.foldl (fun all entry => insert all entry.1 entry.2) entries

/-- The entries of a list in which a later value of a key replaces an earlier one. -/
def ofList (entries : List (String × α)) : Entries α := insertAll [] entries

def keys (entries : Entries α) : List String := entries.map (·.1)

def contains (entries : Entries α) (key : String) : Bool := (get? entries key).isSome

@[simp] theorem get?_nil (key : String) : get? ([] : Entries α) key = none := rfl

@[simp] theorem get?_cons (entries : Entries α) (other key : String) (value : α) :
    get? ((other, value) :: entries) key = if key == other then some value else get? entries key := by
  simp only [get?, List.lookup_cons]
  split <;> simp_all

theorem get?_insert (entries : Entries α) (key other : String) (value : α) :
    get? (insert entries key value) other =
      if other == key then some value else get? entries other := by
  induction entries with
  | nil => simp [insert]
  | cons head rest ih =>
    obtain ⟨first, old⟩ := head
    by_cases same : first = key
    · subst same
      simp only [insert, beq_self_eq_true, ↓reduceIte, get?_cons]
      split <;> rfl
    · have differ : (first == key) = false := by simpa using same
      simp only [insert, differ, Bool.false_eq_true, ↓reduceIte, get?_cons]
      by_cases equal : other = first
      · subst equal
        simp [same]
      · simpa [equal] using ih

theorem get?_append (first second : Entries α) (key : String) :
    get? (first ++ second) key = (get? first key).or (get? second key) := List.lookup_append

theorem get?_insertAll (entries : Entries α) (more : List (String × α)) (key : String) :
    get? (insertAll entries more) key = (get? more.reverse key).or (get? entries key) := by
  induction more generalizing entries with
  | nil => rfl
  | cons head rest ih =>
    obtain ⟨other, value⟩ := head
    have step : insertAll entries ((other, value) :: rest) = insertAll (insert entries other value) rest :=
      rfl
    rw [step, ih, List.reverse_cons, get?_append, get?_insert, get?_cons, get?_nil, Option.or_assoc]
    split <;> simp

/-- The last value of a key is the one that counts. -/
theorem get?_ofList (entries : List (String × α)) (key : String) :
    get? (ofList entries) key = get? entries.reverse key := by
  rw [ofList, get?_insertAll, get?_nil, Option.or_none]

theorem mem_of_get? {entries : Entries α} {key : String} {value : α}
    (found : get? entries key = some value) : (key, value) ∈ entries := by
  induction entries with
  | nil => cases found
  | cons head rest ih =>
    obtain ⟨other, first⟩ := head
    rw [get?_cons] at found
    split at found
    · rename_i same
      obtain rfl := beq_iff_eq.mp same
      cases found
      exact List.mem_cons_self
    · exact List.mem_cons_of_mem _ (ih found)

theorem get?_isSome_of_mem {entries : Entries α} {key : String} {value : α}
    (member : (key, value) ∈ entries) : (get? entries key).isSome := by
  induction entries with
  | nil => cases member
  | cons head rest ih =>
    obtain ⟨other, first⟩ := head
    rw [get?_cons]
    split
    · rfl
    · rename_i differ
      rcases List.mem_cons.mp member with same | later
      · cases same
        exact absurd (beq_self_eq_true key) differ
      · exact ih later

/-- Where all entries of a key have one value, the key has that value. -/
theorem get?_ofList_of_single {entries : List (String × α)} {key : String} {value : α}
    (member : (key, value) ∈ entries) (single : ∀ other, (key, other) ∈ entries → other = value) :
    get? (ofList entries) key = some value := by
  rw [get?_ofList]
  obtain ⟨found, present⟩ :=
    Option.isSome_iff_exists.mp (get?_isSome_of_mem (List.mem_reverse.mpr member))
  rw [present, single found (List.mem_reverse.mp (mem_of_get? present))]

theorem get?_ofList_eq_none {entries : List (String × α)} {key : String}
    (absent : key ∉ keys entries) : get? (ofList entries) key = none := by
  rw [get?_ofList, Option.eq_none_iff_forall_ne_some]
  intro value found
  exact absent (List.mem_map.mpr ⟨_, List.mem_reverse.mp (mem_of_get? found), rfl⟩)

theorem get?_map (change : α → β) (entries : Entries α) (key : String) :
    get? (entries.map fun entry => (entry.1, change entry.2)) key =
      (get? entries key).map change := by
  induction entries with
  | nil => rfl
  | cons head rest ih =>
    rw [List.map_cons, get?_cons, get?_cons, ih]
    split <;> rfl

theorem insert_map (change : α → β) (entries : Entries α) (key : String) (value : α) :
    insert (entries.map fun entry => (entry.1, change entry.2)) key (change value) =
      (insert entries key value).map fun entry => (entry.1, change entry.2) := by
  induction entries with
  | nil => rfl
  | cons head rest ih =>
    simp only [List.map_cons, insert, ih]
    split <;> rfl

theorem get?_eq_some_iff {entries : Entries α} (once : (entries.map Prod.fst).Nodup) {key : String}
    {value : α} : get? entries key = some value ↔ (key, value) ∈ entries := by
  refine ⟨mem_of_get?, fun member => ?_⟩
  induction entries with
  | nil => cases member
  | cons head rest ih =>
    obtain ⟨other, first⟩ := head
    obtain ⟨fresh, once⟩ := List.nodup_cons.mp once
    rw [get?_cons]
    rcases List.mem_cons.mp member with same | later
    · cases same
      rw [beq_self_eq_true, if_pos rfl]
    · have differ : (key == other) = false := by
        rw [beq_eq_false_iff_ne]
        rintro rfl
        exact fresh (List.mem_map.mpr ⟨_, later, rfl⟩)
      rw [differ, if_neg Bool.false_ne_true]
      exact ih once later

/-- Where each key stands once, the order of entries does not matter to a look-up. -/
theorem get?_of_perm {entries others : Entries α} (order : entries.Perm others)
    (once : (entries.map Prod.fst).Nodup) (key : String) : get? entries key = get? others key := by
  have other : (others.map Prod.fst).Nodup := (order.map Prod.fst).nodup_iff.mp once
  refine Option.ext fun value => ?_
  rw [get?_eq_some_iff once, get?_eq_some_iff other, order.mem_iff]

end Entries

end Terradoc
