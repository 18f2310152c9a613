import GraphQuery.Table

/-!
# Looking up in tables

What is looked up in a sorted table is what stands in it (`Table.lookup_eq_some_iff`), and a list of entries with
distinct names keeps them all as a table (`Table.lookup_ofList`, `Table.length_ofList`), under the sorted names
(`Table.names_ofList`). A list of sorted names has no repetition (`nodup_sortNames`).
-/

namespace GraphQuery
namespace Table

variable {α : Type} {table : Table α} {entries : List (String × α)} {name key : String} {entry : α}

theorem lookup_eq_none (h : ∀ x ∈ entries, x.1 ≠ name) : List.lookup name entries = none := by
  induction entries with
  | nil => rfl
  | cons head rest ih =>
    obtain ⟨n, e⟩ := head
    rw [lookup_cons, if_neg fun hn => h _ List.mem_cons_self hn.symm]
    exact ih fun x hx => h x (List.mem_cons_of_mem _ hx)

theorem mem_of_lookup (h : List.lookup name entries = some entry) : (name, entry) ∈ entries := by
  induction entries with
  | nil => cases h
  | cons head rest ih =>
    obtain ⟨n, e⟩ := head
    rw [lookup_cons] at h
    split at h
    · rename_i hn
      cases h
      exact hn ▸ List.mem_cons_self
    · exact List.mem_cons_of_mem _ (ih h)

/-- Among entries with distinct names a name has the entry it stands with. -/
theorem lookup_of_mem (hn : (entries.map (·.1)).Nodup) (h : (name, entry) ∈ entries) :
    List.lookup name entries = some entry := by
  induction entries with
  | nil => cases h
  | cons head rest ih =>
    obtain ⟨n, e⟩ := head
    obtain ⟨hnotin, hrest⟩ := List.nodup_cons.mp hn
    rw [lookup_cons]
    rcases List.mem_cons.mp h with heq | hmem
    · cases heq
      exact if_pos rfl
    · have hne : name ≠ n := fun heq => hnotin (List.mem_map.mpr ⟨_, hmem, heq⟩)
      rw [if_neg hne]
      exact ih hrest hmem

theorem mem_insert {x : String × α} (h : x ∈ Table.insert table name entry) : x = (name, entry) ∨ x ∈ table := by
  induction table with
  | nil => exact .inl (List.mem_singleton.mp h)
  | cons head rest ih =>
    obtain ⟨n, e⟩ := head
    unfold Table.insert at h
    split at h
    · exact List.mem_cons.mp h
    · split at h
      · exact (List.mem_cons.mp h).imp id (List.mem_cons_of_mem _)
      · rcases List.mem_cons.mp h with rfl | h
        · exact .inr List.mem_cons_self
        · exact (ih h).imp id (List.mem_cons_of_mem _)

theorem Sorted.nodup_names (h : Sorted table) : (table.map (·.1)).Nodup := by
  refine List.pairwise_map.mpr (List.Pairwise.imp (fun hlt heq => ?_) h)
  exact String.lt_irrefl _ (heq ▸ hlt)

/-- A sorted table gives back what stands in it. -/
theorem lookup_eq_some_iff (h : Sorted table) : List.lookup name table = some entry ↔ (name, entry) ∈ table :=
  ⟨mem_of_lookup, lookup_of_mem h.nodup_names⟩

/-- What a list of insertions leaves under a name that is not among the inserted ones. -/
theorem lookup_foldl_insert_of_ne : ∀ (es : List (String × α)) (t : Table α), (∀ x ∈ es, x.1 ≠ key) →
    List.lookup key (es.foldl (fun table entry => Table.insert table entry.1 entry.2) t) = List.lookup key t
  | [], _, _ => rfl
  | e :: es, t, h => by
    rw [List.foldl_cons, lookup_foldl_insert_of_ne es _ fun x hx => h x (List.mem_cons_of_mem _ hx), lookup_insert,
      if_neg fun hk => h e List.mem_cons_self hk.symm]

theorem lookup_foldl_insert : ∀ (es : List (String × α)) (t : Table α), (es.map (·.1)).Nodup →
    (∀ x ∈ es, List.lookup x.1 t = none) →
      List.lookup key (es.foldl (fun table entry => Table.insert table entry.1 entry.2) t) =
        (List.lookup key es).or (List.lookup key t)
  | [], t, _, _ => by simp
  | (n, e) :: es, t, hn, ht => by
    obtain ⟨hnotin, hrest⟩ := List.nodup_cons.mp hn
    have hne : ∀ x ∈ es, x.1 ≠ n := fun x hx heq => hnotin (List.mem_map.mpr ⟨_, hx, heq⟩)
    rw [List.foldl_cons, lookup_cons]
    by_cases hk : key = n
    · subst hk
      rw [lookup_foldl_insert_of_ne es _ hne, lookup_insert, if_pos rfl, if_pos rfl]
      rfl
    · rw [lookup_foldl_insert es _ hrest, lookup_insert, if_neg hk, if_neg hk]
      intro x hx
      rw [lookup_insert, if_neg (hne x hx)]
      exact ht x (List.mem_cons_of_mem _ hx)

/-- Entries with distinct names all stand in their table. -/
theorem lookup_ofList (hn : (entries.map (·.1)).Nodup) : List.lookup key (ofList entries) = List.lookup key entries := by
  rw [ofList, lookup_foldl_insert entries [] hn fun _ _ => rfl]
  simp

/-- Entries whose names ascend behind those of a table are put at its end. -/
theorem insert_of_lt : ∀ {t : Table α}, (∀ x ∈ t, x.1 < name) → Table.insert t name entry = t ++ [(name, entry)]
  | [], _ => rfl
  | (n, e) :: rest, h => by
    have hlt : n < name := h _ List.mem_cons_self
    have hne : ¬ name = n := fun heq => String.lt_irrefl _ (heq ▸ hlt)
    rw [Table.insert, if_neg (String.not_lt.mpr (Std.le_of_lt hlt)), if_neg hne,
      insert_of_lt fun x hx => h x (List.mem_cons_of_mem _ hx), List.cons_append]

/-- A sorted table is the table of its entries. -/
theorem ofList_of_sorted (h : Sorted table) : ofList table = table := by
  suffices ∀ es t : Table α, Sorted (t ++ es) →
      es.foldl (fun table entry => Table.insert table entry.1 entry.2) t = t ++ es from this table [] h
  intro es
  induction es with
  | nil => exact fun t _ => (List.append_nil t).symm
  | cons e es ih =>
    intro t ht
    have hlt : ∀ x ∈ t, x.1 < e.1 := fun x hx => (List.pairwise_append.mp ht).2.2 x hx e List.mem_cons_self
    have hrest : Sorted ((t ++ [e]) ++ es) := by rwa [List.append_assoc]
    rw [List.foldl_cons, insert_of_lt hlt, ih _ hrest, List.append_assoc]
    rfl

theorem length_insert : ∀ {t : Table α}, (∀ x ∈ t, x.1 ≠ name) → (Table.insert t name entry).length = t.length + 1
  | [], _ => rfl
  | (n, e) :: rest, h => by
    unfold Table.insert
    split
    · rfl
    · rw [if_neg fun heq => h _ List.mem_cons_self heq.symm, List.length_cons, List.length_cons,
        length_insert fun x hx => h x (List.mem_cons_of_mem _ hx)]

/-- Entries with distinct names are as many as stand in their table. -/
theorem length_ofList (hn : (entries.map (·.1)).Nodup) : (ofList entries).length = entries.length := by
  suffices ∀ (es : List (String × α)) (t : Table α), (es.map (·.1)).Nodup → (∀ e ∈ es, ∀ x ∈ t, x.1 ≠ e.1) →
      (es.foldl (fun table entry => Table.insert table entry.1 entry.2) t).length = t.length + es.length by
    simpa [ofList] using this entries [] hn
  intro es
  induction es with
  | nil => exact fun t _ _ => rfl
  | cons e es ih =>
    intro t hn ht
    obtain ⟨hnotin, hrest⟩ := List.nodup_cons.mp hn
    rw [List.foldl_cons, ih _ hrest, length_insert (ht e List.mem_cons_self), List.length_cons]
    · omega
    · intro other hother x hx
      rcases name_mem_insert hx with hx | hx
      · exact fun heq => hnotin (List.mem_map.mpr ⟨other, hother, heq.symm.trans hx⟩)
      · exact ht other (List.mem_cons_of_mem _ hother) x hx

/-- An entry of a table made of a list is an entry of the list. -/
theorem mem_ofList {x : String × α} (h : x ∈ ofList entries) : x ∈ entries := by
  suffices ∀ (es : List (String × α)) (t : Table α),
      x ∈ es.foldl (fun table entry => Table.insert table entry.1 entry.2) t → x ∈ es ∨ x ∈ t by
    rcases this entries [] h with h | h
    · exact h
    · cases h
  intro es
  induction es with
  | nil => exact fun t h => .inr h
  | cons e es ih =>
    intro t h
    rcases ih _ h with h | h
    · exact .inl (List.mem_cons_of_mem _ h)
    · rcases mem_insert h with h | h
      · exact .inl (h ▸ List.mem_cons_self)
      · exact .inr h

/-- A name of a table made of a list is a name of the list. -/
theorem mem_names_ofList {x : String × α} (h : x ∈ ofList entries) : x.1 ∈ entries.map (·.1) :=
  List.mem_map_of_mem (mem_ofList h)

end Table

/-! ## Sorted lists of names -/

theorem pairwise_insertName {name : String} : ∀ {names : List String}, names.Pairwise (· < ·) →
    (insertName names name).Pairwise (· < ·)
  | [], _ => List.pairwise_singleton _ _
  | n :: rest, h => by
    obtain ⟨hn, hrest⟩ := List.pairwise_cons.mp h
    unfold insertName
    split
    · rename_i hlt
      refine List.pairwise_cons.mpr ⟨fun x hx => ?_, h⟩
      rcases List.mem_cons.mp hx with rfl | hx
      · exact hlt
      · exact String.lt_trans hlt (hn x hx)
    · split
      · exact h
      · rename_i hlt hne
        refine List.pairwise_cons.mpr ⟨fun x hx => ?_, pairwise_insertName hrest⟩
        rcases mem_insertName.mp hx with rfl | hx
        · exact Std.lt_of_le_of_ne (String.not_lt.mp hlt) (fun h => hne h.symm)
        · exact hn x hx

namespace Table

variable {α : Type}

theorem names_insert (name : String) (entry : α) : ∀ table : Table α,
    (Table.insert table name entry).map (·.1) = insertName (table.map (·.1)) name
  | [] => rfl
  | (n, e) :: rest => by
    rw [Table.insert, List.map_cons, insertName]
    split
    · rfl
    · split
      · rename_i hname
        exact congrArg (· :: rest.map (·.1)) hname
      · exact congrArg (n :: ·) (names_insert name entry rest)

/-- The names of a table made of a list are those of the list, sorted. -/
theorem names_ofList (entries : List (String × α)) : (ofList entries).map (·.1) = sortNames (entries.map (·.1)) := by
  suffices ∀ (es : List (String × α)) (t : Table α),
      (es.foldl (fun table entry => Table.insert table entry.1 entry.2) t).map (·.1) =
        (es.map (·.1)).foldl insertName (t.map (·.1)) from this entries []
  intro es
  induction es with
  | nil => exact fun _ => rfl
  | cons e es ih =>
    intro t
    rw [List.foldl_cons, ih, names_insert, List.map_cons, List.foldl_cons]

end Table

/-- Sorted names ascend. -/
theorem pairwise_sortNames (names : List String) : (sortNames names).Pairwise (· < ·) := by
  suffices ∀ (ns acc : List String), acc.Pairwise (· < ·) → (ns.foldl insertName acc).Pairwise (· < ·) from
    this names [] .nil
  intro ns
  induction ns with
  | nil => exact fun _ h => h
  | cons n ns ih => exact fun acc h => ih _ (pairwise_insertName h)

/-- Names that ascend are distinct. -/
theorem nodup_of_ascending {names : List String} (hp : names.Pairwise (· < ·)) : names.Nodup := by
  refine List.Pairwise.imp (fun {a b} (hlt : a < b) heq => ?_) hp
  exact String.lt_irrefl _ (heq ▸ hlt)

theorem nodup_sortNames (names : List String) : (sortNames names).Nodup := nodup_of_ascending (pairwise_sortNames names)

end GraphQuery
