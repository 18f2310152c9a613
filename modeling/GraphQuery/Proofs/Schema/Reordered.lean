import GraphQuery.Proofs.Schema.WellFormed
import Mathlib.Data.List.Nodup
import Mathlib.Data.List.Perm.Basic

/-!
# Building does not depend on orders

Gathering makes the same table of declarations in whatever order they are listed (`Schema.gather_of_perm`). The passes
over this table may visit the types in any order as well (`Schema.buildVisiting`): each reads whole tables only, and
what it makes of a type depends on the type alone (`Schema.mapEntriesM_of_perm`). So building fails for every order of
the declarations and every order of the visits, or gives one and the same schema for all of them
(`Schema.build_of_perm`).
-/

namespace GraphQuery

/-! ## Runs over a list in another order -/

namespace Result

variable {α β : Type} {xs ys : List α}

/-- Two runs that succeed with the same answers have the same outcome, apart from the error. -/
theorem toOption_congr {x y : Result α} (h : ∀ a, x = .ok a ↔ y = .ok a) : x.toOption = y.toOption := by
  cases x with
  | ok a => rw [(h a).mp rfl]
  | error e =>
    cases y with
    | ok b => cases (h b).mpr rfl
    | error e' => rfl

/-- A run that maps succeeds in another order, too, with the same answers in that order. -/
theorem mapM_of_perm {f : α → Result β} (h : xs.Perm ys) {as : List β} (hxs : xs.mapM f = .ok as) :
    ∃ bs, ys.mapM f = .ok bs ∧ bs.Perm as := by
  obtain ⟨bs, hys, hbs⟩ := List.perm_comp_forall₂ h.symm (mapM_eq_ok.mp hxs)
  exact ⟨bs, mapM_eq_ok.mpr hys, hbs⟩

theorem forM_of_perm {f : α → Result PUnit} (h : xs.Perm ys) : xs.forM f = .ok () ↔ ys.forM f = .ok () := by
  simp only [forM_eq_ok, h.mem_iff]

end Result

namespace Table

variable {α : Type} {table other : Table α} {entries entries' : List (String × α)}

/-- Entries with distinct names are those of their table. -/
theorem perm_ofList (hn : (entries.map (·.1)).Nodup) : (ofList entries).Perm entries := by
  have hnodup : (ofList entries).Nodup := List.Nodup.of_map _ (sorted_ofList entries).nodup_names
  refine (List.perm_ext_iff_of_nodup hnodup (List.Nodup.of_map _ hn)).mpr fun x => ⟨mem_ofList, fun hx => ?_⟩
  have hlookup : List.lookup x.1 (ofList entries) = some x.2 := (lookup_ofList hn).trans (lookup_of_mem hn hx)
  exact mem_of_lookup hlookup

/-- Two sorted tables with the same entries are equal. -/
theorem Sorted.eq_of_perm (h : Sorted table) (hother : Sorted other) (hperm : table.Perm other) : table = other :=
  hperm.eq_of_pairwise (fun _ _ _ _ hlt hgt => absurd hgt (String.lt_asymm hlt)) h hother

/-- The table of entries with distinct names does not depend on their order. -/
theorem ofList_of_perm (hn : (entries.map (·.1)).Nodup) (h : entries.Perm entries') :
    ofList entries = ofList entries' := by
  have hn' : (entries'.map (·.1)).Nodup := (h.map _).nodup_iff.mp hn
  have hperm : (ofList entries).Perm (ofList entries') := ((perm_ofList hn).trans h).trans (perm_ofList hn').symm
  exact (sorted_ofList entries).eq_of_perm (sorted_ofList entries') hperm

end Table

namespace Schema

/-! ## Gathering -/

section Gathering

variable {decls decls' : List EntityDecl} {table : Table EntityDecl}

/-- A declaration as an entry under its name. -/
def entryOf (decl : EntityDecl) : String × EntityDecl := (decl.name, decl)

/-- Gathers further declarations into a table. -/
def gatherInto (table : Table EntityDecl) (decls : List EntityDecl) : Result (Table EntityDecl) :=
  decls.foldlM (fun table decl =>
    match firstRepeated? [] (memberNames decl) with
    | some name => .error (.invalidSchema (.duplicateMember name decl.name))
    | none =>
      if (List.lookup decl.name table).isSome then .error (.invalidSchema (.duplicateEntity decl.name))
      else .ok (Table.insert table decl.name decl)) table

theorem gatherInto_cons {earlier : Table EntityDecl} {first : EntityDecl} :
    gatherInto earlier (first :: decls) = .ok table ↔
      (firstRepeated? [] (memberNames first) = none ∧ List.lookup first.name earlier = none) ∧
        gatherInto (Table.insert earlier first.name first) decls = .ok table := by
  rw [gatherInto, List.foldlM_cons, Result.bind_eq_ok]
  constructor
  · rintro ⟨_, hfirst, h⟩
    obtain ⟨hmembers, hnew, rfl⟩ := gather_cons.mp hfirst
    exact ⟨⟨hmembers, hnew⟩, h⟩
  · rintro ⟨⟨hmembers, hnew⟩, h⟩
    exact ⟨_, gather_cons.mpr ⟨hmembers, hnew, rfl⟩, h⟩

theorem gatherInto_eq_ok : ∀ {decls : List EntityDecl} {earlier : Table EntityDecl},
    gatherInto earlier decls = .ok table ↔
      (∀ decl ∈ decls, firstRepeated? [] (memberNames decl) = none ∧ List.lookup decl.name earlier = none) ∧
        (decls.map (·.name)).Nodup ∧
          (decls.map entryOf).foldl (fun table entry => Table.insert table entry.1 entry.2) earlier = table
  | [], earlier => by simp [gatherInto]
  | first :: rest, earlier => by
    rw [gatherInto_cons, gatherInto_eq_ok, List.forall_mem_cons, List.map_cons, List.nodup_cons, List.map_cons,
      List.foldl_cons]
    -- a later name is new to the longer table just if it is new to the shorter one and not the first
    have hlater : ∀ decl : EntityDecl, List.lookup decl.name (Table.insert earlier first.name first) = none ↔
        List.lookup decl.name earlier = none ∧ decl.name ≠ first.name := by
      intro decl
      rw [Table.lookup_insert]
      split <;> simp_all
    have hfirst : first.name ∉ rest.map (·.name) ↔ ∀ decl ∈ rest, decl.name ≠ first.name := by simp
    simp only [hlater, hfirst, entryOf, forall_and]
    tauto

/-- Declarations are gathered just if none repeats a member and no two have one name; the table has all of them. -/
theorem gather_eq_ok : gather decls = .ok table ↔ (∀ decl ∈ decls, firstRepeated? [] (memberNames decl) = none) ∧
    (decls.map (·.name)).Nodup ∧ Table.ofList (decls.map entryOf) = table := by
  have hinto : gather decls = gatherInto [] decls := rfl
  rw [hinto, gatherInto_eq_ok]
  simp [Table.ofList]

/-- The declarations are gathered to the same table in every order. -/
theorem gather_of_perm (h : decls.Perm decls') : gather decls = .ok table ↔ gather decls' = .ok table := by
  have hnames := (h.map (·.name)).nodup_iff
  rw [gather_eq_ok, gather_eq_ok]
  simp only [h.mem_iff, hnames]
  refine and_congr_right fun _ => and_congr_right fun hn => ?_
  have hentries : ((decls.map entryOf).map (·.1)).Nodup := by
    rw [List.map_map]
    exact hnames.mpr hn
  rw [Table.ofList_of_perm hentries (h.map entryOf)]

end Gathering

/-! ## Passes over a table -/

section Passes

variable {α β : Type} {f : α → Result β} {table : Table α} {mapped : Table β}

theorem sorted_mapEntriesM (hsorted : Table.Sorted table) (h : mapEntriesM f table = .ok mapped) :
    Table.Sorted mapped := by
  rw [sorted_iff_names, names_mapEntriesM h]
  exact sorted_iff_names.mp hsorted

/-- A pass over a sorted table makes the same table in whatever order it visits the entries. -/
theorem mapEntriesM_of_perm (hsorted : Table.Sorted table) {visited : List (String × α)} (h : visited.Perm table) :
    Table.ofList <$> mapEntriesM f visited = .ok mapped ↔ mapEntriesM f table = .ok mapped := by
  -- what the pass makes in order is sorted, and a sorted table is that of its entries in any order
  have hofList : ∀ {made other : Table β}, mapEntriesM f table = .ok made → other.Perm made →
      Table.ofList other = made := by
    intro made other hmade hperm
    have hmadeSorted := sorted_mapEntriesM hsorted hmade
    have hn : (other.map (·.1)).Nodup := (hperm.map _).nodup_iff.mpr hmadeSorted.nodup_names
    rw [Table.ofList_of_perm hn hperm, Table.ofList_of_sorted hmadeSorted]
  rw [Result.map_eq_ok]
  constructor
  · rintro ⟨other, hother, rfl⟩
    obtain ⟨made, hmade, hperm⟩ := Result.mapM_of_perm h hother
    rwa [hofList hmade hperm.symm]
  · intro hmade
    obtain ⟨other, hother, hperm⟩ := Result.mapM_of_perm h.symm hmade
    exact ⟨other, hother, hofList hmade hperm⟩

end Passes

/-! ## Building -/

/-- An order in which a pass visits the entries of a table, each of them once. -/
structure Visit (α : Type) where
  order : Table α → List (String × α)
  perm : ∀ table, (order table).Perm table

/-- The schema of a list of declarations, where the passes that collect the lineages, flatten the types and check the
inverses visit the types in orders of their own. -/
def buildVisiting (ascending : Visit EntityDecl) (flattening : Visit (EntityDecl × List String))
    (checking : Visit EntityType) (decls : List EntityDecl) : Result Schema := do
  let decls ← gather decls
  let lineages ← Table.ofList <$> mapEntriesM (fun decl => do return (decl, ← lineage decls decl.name))
    (ascending.order decls)
  let entities ← Table.ofList <$> mapEntriesM (fun (decl, above) => flatten decls decl above)
    (flattening.order lineages)
  let schema : Schema := ⟨entities⟩
  (checking.order schema.entities).forM fun (_, entity) => entity.relationships.forM schema.checkInverse
  return schema

section Building

variable {decls decls' : List EntityDecl} {ascending : Visit EntityDecl}
  {flattening : Visit (EntityDecl × List String)} {checking : Visit EntityType} {schema : Schema}

/-- The orders of the visits make no difference. -/
theorem buildVisiting_eq_ok : buildVisiting ascending flattening checking decls = .ok schema ↔
    build decls = .ok schema := by
  unfold buildVisiting build
  simp only [Result.bind_eq_ok]
  refine exists_congr fun table => and_congr_right fun htable => ?_
  have hsorted := sorted_of_gather htable
  simp only [mapEntriesM_of_perm hsorted (ascending.perm table)]
  refine exists_congr fun lineages => and_congr_right fun hlineages => ?_
  have hlineagesSorted := sorted_mapEntriesM hsorted hlineages
  simp only [mapEntriesM_of_perm hlineagesSorted (flattening.perm lineages)]
  refine exists_congr fun entities => and_congr_right fun _ => ?_
  exact exists_congr fun _ => and_congr_left fun _ => Result.forM_of_perm (checking.perm entities)

/-- Building fails for all orders of the declarations and of the visits, or makes one schema for all of them. -/
theorem build_of_perm (h : decls.Perm decls') (ascending : Visit EntityDecl)
    (flattening : Visit (EntityDecl × List String)) (checking : Visit EntityType) :
    (build decls').toOption = (build decls).toOption ∧
      (buildVisiting ascending flattening checking decls').toOption = (build decls).toOption := by
  have hbuild : (build decls').toOption = (build decls).toOption := by
    refine Result.toOption_congr fun schema => ?_
    unfold build
    simp only [Result.bind_eq_ok, gather_of_perm h]
  exact ⟨hbuild, (Result.toOption_congr fun _ => buildVisiting_eq_ok).trans hbuild⟩

/-- The visit that goes through a table backwards. -/
def Visit.backward {α : Type} : Visit α := ⟨List.reverse, List.reverse_perm⟩

theorem build_of_perm_diamond : (∃ schema, build diamond = .ok schema) ∧
    (build diamond.reverse).toOption = (build diamond).toOption ∧
    (buildVisiting .backward .backward .backward diamond.reverse).toOption = (build diamond).toOption :=
  ⟨⟨_, rfl⟩, build_of_perm (List.reverse_perm diamond).symm .backward .backward .backward⟩

end Building

end Schema
end GraphQuery
