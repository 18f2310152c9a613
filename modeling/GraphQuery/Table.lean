/-!
# Tables sorted by name

A `Table` lists named entries in the order of their names, each name once. `Table.insert` keeps that order, so two
tables with the same entries are equal and are written the same way. Looking up is `List.lookup`.

* `Table.Sorted` is the order invariant, kept by `Table.insert` (`Table.sorted_insert`) and so by `Table.ofList`;
* `Table.lookup_insert` says what an insertion changes.
-/

namespace GraphQuery

/-- Entries with their names, sorted by name when built by `Table.insert`. -/
abbrev Table (α : Type) := List (String × α)

namespace Table

variable {α β : Type}

/-- Sets the entry of a name, replacing an earlier one. -/
def insert (table : Table α) (name : String) (entry : α) : Table α :=
  match table with
  | [] => [(name, entry)]
  | (n, e) :: rest =>
    if name < n then (name, entry) :: (n, e) :: rest
    else if name = n then (name, entry) :: rest
    else (n, e) :: insert rest name entry

/-- The table of a list of entries; of two entries with one name the later stays. -/
def ofList (entries : List (String × α)) : Table α :=
  entries.foldl (fun table entry => table.insert entry.1 entry.2) []

/-- Applies a function to every entry. -/
def mapEntries (f : α → β) (table : Table α) : Table β := table.map fun (n, e) => (n, f e)

/-- Names ascend strictly. -/
def Sorted (table : Table α) : Prop := List.Pairwise (fun a b => a.1 < b.1) table

/-- Looking up in a table with a first entry. -/
theorem lookup_cons (table : Table α) (name key : String) (entry : α) :
    List.lookup key ((name, entry) :: table) = if key = name then some entry else List.lookup key table := by
  rw [List.lookup_cons]
  by_cases h : key = name
  · simp [h]
  · have : (key == name) = false := by simp [h]
    simp [h, this]

/-- What an insertion leaves under each name. -/
theorem lookup_insert (table : Table α) (name key : String) (entry : α) :
    List.lookup key (table.insert name entry) = if key = name then some entry else List.lookup key table := by
  induction table with
  | nil => rw [insert, lookup_cons]
  | cons head rest ih =>
    obtain ⟨n, e⟩ := head
    unfold insert
    split
    · rw [lookup_cons]
    · split
      · rename_i heq
        subst heq
        simp only [lookup_cons]
        split <;> rfl
      · rename_i hne
        simp only [lookup_cons, ih]
        by_cases h : key = n
        · subst h
          have : ¬ key = name := fun h => hne h.symm
          simp [this]
        · simp [h]

/-- A name of an insertion is the inserted one or an earlier one. -/
theorem name_mem_insert {table : Table α} {name : String} {entry : α} {x : String × α}
    (h : x ∈ table.insert name entry) : x.1 = name ∨ x ∈ table := by
  induction table with
  | nil => simp only [insert, List.mem_singleton] at h; exact .inl (by rw [h])
  | cons head rest ih =>
    obtain ⟨n, e⟩ := head
    unfold insert at h
    split at h
    · rcases List.mem_cons.mp h with h | h
      · exact .inl (by rw [h])
      · exact .inr h
    · split at h
      · rcases List.mem_cons.mp h with h | h
        · exact .inl (by rw [h])
        · exact .inr (List.mem_cons_of_mem _ h)
      · rcases List.mem_cons.mp h with h | h
        · exact .inr (by rw [h]; exact List.mem_cons_self)
        · exact (ih h).imp id (List.mem_cons_of_mem _)

/-- An insertion keeps a table sorted. -/
theorem sorted_insert {table : Table α} (h : Sorted table) (name : String) (entry : α) :
    Sorted (table.insert name entry) := by
  induction table with
  | nil => exact List.pairwise_singleton _ _
  | cons head rest ih =>
    obtain ⟨n, e⟩ := head
    obtain ⟨hn, hrest⟩ := List.pairwise_cons.mp h
    unfold insert
    split
    · rename_i hlt
      refine List.pairwise_cons.mpr ⟨fun x hx => ?_, h⟩
      rcases List.mem_cons.mp hx with hx | hx
      · rw [hx]; exact hlt
      · exact String.lt_trans hlt (hn x hx)
    · split
      · rename_i heq
        subst heq
        exact List.pairwise_cons.mpr ⟨hn, hrest⟩
      · rename_i hlt hne
        refine List.pairwise_cons.mpr ⟨fun x hx => ?_, ih hrest⟩
        rcases name_mem_insert hx with hx | hx
        · rw [hx]
          exact Std.lt_of_le_of_ne (String.not_lt.mp hlt) (fun h => hne h.symm)
        · exact hn x hx

/-- A table built from a list is sorted. -/
theorem sorted_ofList (entries : List (String × α)) : Sorted (ofList entries) := by
  suffices ∀ (es : List (String × α)) (t : Table α), Sorted t →
      Sorted (es.foldl (fun table entry => table.insert entry.1 entry.2) t) from
    this entries [] List.Pairwise.nil
  intro es
  induction es with
  | nil => intro t h; exact h
  | cons e es ih => intro t h; exact ih _ (sorted_insert h _ _)

end Table

/-! ## Sorted lists of names -/

/-- Puts a name into a sorted list of distinct names. -/
def insertName (names : List String) (name : String) : List String :=
  match names with
  | [] => [name]
  | n :: rest =>
    if name < n then name :: n :: rest
    else if name = n then n :: rest
    else n :: insertName rest name

/-- The distinct names of a list, in order. -/
def sortNames (names : List String) : List String := names.foldl insertName []

theorem mem_insertName {names : List String} {name x : String} :
    x ∈ insertName names name ↔ x = name ∨ x ∈ names := by
  induction names with
  | nil => simp [insertName]
  | cons n rest ih =>
    unfold insertName
    split
    · simp
    · split
      · rename_i h; subst h; simp
      · simp only [List.mem_cons, ih]
        exact ⟨fun h => by rcases h with h | h | h <;> simp [h], fun h => by rcases h with h | h | h <;> simp [h]⟩

/-- Sorting neither adds a name nor loses one. -/
theorem mem_sortNames {names : List String} {x : String} : x ∈ sortNames names ↔ x ∈ names := by
  suffices ∀ acc : List String, x ∈ names.foldl insertName acc ↔ x ∈ acc ∨ x ∈ names by
    simpa [sortNames] using this []
  induction names with
  | nil => simp
  | cons n rest ih =>
    intro acc
    simp only [List.foldl_cons, ih, mem_insertName, List.mem_cons]
    exact ⟨fun h => by rcases h with (h | h) | h <;> simp [h], fun h => by rcases h with h | h | h <;> simp [h]⟩

end GraphQuery
