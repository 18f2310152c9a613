import GraphQuery.Proofs.Graph.Inserted

/-!
# Ledgers of insertions

A `Ledger` is a graph together with the insertion that each of its nodes was last stored by: the type and the properties
that were given. A call that is refused changes neither (`Ledger.call`). After any calls the nodes are those on record,
and each is what its insertion makes of it (`Ledger.balanced_run`).

So every node has nothing but what the properties of its type admit. Of the properties that must not be null it has the
identifier and those that the insertion gave, since nothing asks for the others (`Ledger.conforms_run`).
-/

namespace GraphQuery
namespace Graph

/-- A call that changes a graph. -/
inductive Change where
  | insert (type id : String) (properties : List (String × Value))
  | addEdge (source label target : String)
deriving DecidableEq

/-- Makes a change, or refuses it. -/
def change (schema : Schema) (graph : Graph) : Change → Result Graph
  | .insert type id properties => do graph.insert (← schema.entity type) id properties
  | .addEdge source label target => graph.addEdge source label target

/-- What is given when a node is inserted. -/
structure Insertion where
  /-- The name of the type. -/
  type : String
  properties : List (String × Value)
deriving DecidableEq

namespace Insertion

/-- The node of an identifier that is stored for an insertion with a type. -/
def node (insertion : Insertion) (entity : EntityType) (id : String) : StoredNode :=
  ⟨sortNames entity.labels, (Table.ofList insertion.properties).insert idProperty (.string id)⟩

/-- The type is in the schema and admits every property. -/
structure Admitted (schema : Schema) (insertion : Insertion) (entity : EntityType) : Prop where
  type : schema.entity? insertion.type = some entity
  properties : ∀ entry ∈ insertion.properties, checkProperty entity entry.1 entry.2 = .ok ()

section Storing

variable (insertion : Insertion) (entity : EntityType) (id : String) {name : String}

/-- What stands in the node of an insertion under a name other than that of the identifier was given. -/
theorem lookup_node (hname : name ≠ idProperty) :
    List.lookup name (insertion.node entity id).properties = List.lookup name (Table.ofList insertion.properties) := by
  rw [node, Table.lookup_insert, if_neg hname]

/-- A node has a property if its insertion gives it, however often. -/
theorem isSome_lookup_node (hname : name ≠ idProperty) :
    (List.lookup name (insertion.node entity id).properties).isSome = true ↔
      ∃ value, (name, value) ∈ insertion.properties := by
  rw [lookup_node _ _ _ hname, Option.isSome_iff_exists]
  constructor
  · rintro ⟨value, hvalue⟩
    exact ⟨value, Table.mem_ofList (Table.mem_of_lookup hvalue)⟩
  · rintro ⟨value, hvalue⟩
    have hgiven : name ∈ (Table.ofList insertion.properties).map (·.1) := by
      rw [Table.names_ofList, mem_sortNames]
      exact List.mem_map_of_mem hvalue
    obtain ⟨⟨_, kept⟩, hkept, rfl⟩ := List.mem_map.mp hgiven
    exact ⟨kept, (Table.lookup_eq_some_iff (Table.sorted_ofList _)).mpr hkept⟩

end Storing

namespace Admitted

variable {schema : Schema} {insertion : Insertion} {entity : EntityType} {name : String}

/-- Of a property that must not be null a node has a value just if it is the identifier or was given. -/
theorem present_iff (h : insertion.Admitted schema entity) (id : String) {property : PropertyDef}
    (hproperty : entity.property? name = some property) (hrequired : property.nullable = false) :
    (∃ value, List.lookup name (insertion.node entity id).properties = some value ∧ value ≠ .null) ↔
      name = idProperty ∨ ∃ value, (name, value) ∈ insertion.properties := by
  by_cases hname : name = idProperty
  · subst hname
    exact iff_of_true ⟨.string id, by rw [node, Table.lookup_insert, if_pos rfl], nofun⟩ (.inl rfl)
  · rw [or_iff_right hname, ← isSome_lookup_node insertion entity id hname, Option.isSome_iff_exists]
    refine exists_congr fun value => and_iff_left_of_imp fun hvalue hnull => ?_
    -- a null would have been refused
    rw [lookup_node _ _ _ hname] at hvalue
    obtain ⟨declared, hdeclared, _, hnullable⟩ :=
      checkProperty_eq_ok.mp (h.properties _ (Table.mem_ofList (Table.mem_of_lookup hvalue)))
    cases hproperty.symm.trans hdeclared
    rw [hnullable hnull] at hrequired
    cases hrequired

end Admitted

end Insertion

/-- An insertion that is not refused is admitted, and stores its node. -/
theorem admitted_of_insert {graph changed : Graph} {schema : Schema} {insertion : Insertion} {entity : EntityType}
    {id : String} (hentity : schema.entity? insertion.type = some entity)
    (h : graph.insert entity id insertion.properties = .ok changed) :
    insertion.Admitted schema entity ∧
      ∀ other, changed.node? other = if other = id then some (insertion.node entity id) else graph.node? other := by
  obtain ⟨⟨⟩, hchecked, _⟩ := Result.bind_eq_ok.mp h
  refine ⟨⟨hentity, Result.forM_eq_ok.mp hchecked⟩, fun other => ?_⟩
  rw [insert_eq_ok h, node?_addNode]
  rfl

/-! ## Ledgers -/

/-- A graph with the last insertion of each of its nodes. -/
structure Ledger where
  graph : Graph
  insertions : Table Insertion

namespace Ledger

/-- No nodes, and no insertions on record. -/
def empty : Ledger := ⟨.empty, []⟩

/-- Records a change. -/
def record (insertions : Table Insertion) : Change → Table Insertion
  | .insert type id properties => insertions.insert id ⟨type, properties⟩
  | .addEdge .. => insertions

/-- The ledger after a call. A change that is refused is not made and not recorded. -/
def call (schema : Schema) (ledger : Ledger) (change : Change) : Ledger :=
  match ledger.graph.change schema change with
  | .ok graph => ⟨graph, record ledger.insertions change⟩
  | .error _ => ledger

/-- The ledger after a sequence of calls. -/
def run (schema : Schema) (calls : List Change) : Ledger := calls.foldl (call schema) empty

/-- The insertion on record for a node, with its type. -/
structure Stores (schema : Schema) (ledger : Ledger) (id : String) (insertion : Insertion) (entity : EntityType) :
    Prop where
  recorded : List.lookup id ledger.insertions = some insertion
  admitted : insertion.Admitted schema entity
  stored : ledger.graph.node? id = some (insertion.node entity id)

namespace Stores

variable {schema : Schema} {ledger : Ledger} {id name : String} {insertion : Insertion} {entity : EntityType}

/-- What is read under a property that must not be null is null just if it was not given. -/
theorem value_ne_null_iff (h : ledger.Stores schema id insertion entity) {property : PropertyDef}
    (hproperty : entity.property? name = some property) (hrequired : property.nullable = false) :
    ledger.graph.value id name ≠ .null ↔ name = idProperty ∨ ∃ value, (name, value) ∈ insertion.properties := by
  rw [← h.admitted.present_iff id hproperty hrequired, value, h.stored]
  cases hlookup : List.lookup name (insertion.node entity id).properties <;> simp [hlookup]

/-- What was not given reads as null. -/
theorem value_eq_null (h : ledger.Stores schema id insertion entity) (hname : name ≠ idProperty)
    (hgiven : ∀ value, (name, value) ∉ insertion.properties) : ledger.graph.value id name = .null := by
  have hnone : List.lookup name (insertion.node entity id).properties = none := by
    rw [← Option.not_isSome_iff_eq_none, Insertion.isSome_lookup_node _ _ _ hname]
    exact fun ⟨value, hvalue⟩ => hgiven value hvalue
  rw [value, h.stored]
  simp only [hnone, Option.getD_none]

/-- A node has the labels of the types that its type lies at or below. -/
theorem hasLabel_iff (h : ledger.Stores schema id insertion entity) {label : String} :
    ledger.graph.hasLabel id label = true ↔ entity.isSubtypeOf label = true := by
  rw [hasLabel, h.stored]
  simp only [Insertion.node, List.contains_iff_mem, mem_sortNames, EntityType.mem_labels]

end Stores

/-- Every node has a value under every property that must not be null. -/
def Complete (schema : Schema) (ledger : Ledger) : Prop :=
  ∀ id insertion entity, List.lookup id ledger.insertions = some insertion →
    schema.entity? insertion.type = some entity → ∀ name property, entity.property? name = some property →
      property.nullable = false → ledger.graph.value id name ≠ .null

/-- The nodes of the graph are those on record. -/
structure Balanced (schema : Schema) (ledger : Ledger) : Prop where
  stored : ∀ id insertion, List.lookup id ledger.insertions = some insertion →
    ∃ entity, ledger.Stores schema id insertion entity
  recorded : ∀ id node, ledger.graph.node? id = some node →
    ∃ insertion, List.lookup id ledger.insertions = some insertion

variable {schema : Schema} {ledger : Ledger}

theorem balanced_empty : empty.Balanced schema := ⟨nofun, nofun⟩

/-- Every call keeps a ledger balanced. -/
theorem Balanced.call (h : ledger.Balanced schema) (change : Change) : (ledger.call schema change).Balanced schema := by
  unfold Ledger.call
  split
  case h_2 => exact h
  case h_1 changed hchanged =>
    cases change with
    | insert type id properties =>
      obtain ⟨entity, hentity, hinsert⟩ := Result.bind_eq_ok.mp hchanged
      have hentity : schema.entity? (Insertion.mk type properties).type = some entity := Schema.entity_eq_ok.mp hentity
      obtain ⟨hadmitted, hnodes⟩ := admitted_of_insert hentity hinsert
      have hrecord : ∀ other, List.lookup other (record ledger.insertions (.insert type id properties)) =
          if other = id then some ⟨type, properties⟩ else List.lookup other ledger.insertions :=
        fun other => Table.lookup_insert ..
      refine ⟨fun other insertion hrecorded => ?_, fun other node hnode => ?_⟩
      · by_cases hother : other = id
        · subst hother
          rw [hrecord, if_pos rfl] at hrecorded
          cases hrecorded
          exact ⟨entity, by rw [hrecord, if_pos rfl], hadmitted, by rw [hnodes, if_pos rfl]⟩
        · rw [hrecord, if_neg hother] at hrecorded
          obtain ⟨stored, hstored⟩ := h.stored other insertion hrecorded
          exact ⟨stored, by rw [hrecord, if_neg hother, hstored.recorded], hstored.admitted,
            by rw [hnodes, if_neg hother, hstored.stored]⟩
      · rw [hrecord]
        split
        · exact ⟨_, rfl⟩
        · rename_i hother
          rw [hnodes, if_neg hother] at hnode
          exact h.recorded other node hnode
    | addEdge source label target =>
      have hnodes : ∀ other, changed.node? other = ledger.graph.node? other := fun other => by
        rw [node?, node?, addEdge_nodes hchanged]
      refine ⟨fun other insertion hrecorded => ?_, fun other node hnode => ?_⟩
      · obtain ⟨entity, hstored⟩ := h.stored other insertion hrecorded
        exact ⟨entity, hrecorded, hstored.admitted, (hnodes other).trans hstored.stored⟩
      · exact h.recorded other node ((hnodes other).symm.trans hnode)

theorem Balanced.calls (h : ledger.Balanced schema) : ∀ calls : List Change,
    (calls.foldl (Ledger.call schema) ledger).Balanced schema := by
  intro calls
  induction calls generalizing ledger with
  | nil => exact h
  | cons change rest ih => exact ih (h.call change)

/-- After any calls the nodes are those on record. -/
theorem balanced_run (schema : Schema) (calls : List Change) : (run schema calls).Balanced schema :=
  balanced_empty.calls calls

/-- A single insertion that is not refused. -/
theorem run_insert {type id : String} {properties : List (String × Value)} {entity : EntityType} {changed : Graph}
    (hentity : schema.entity? type = some entity) (h : Graph.empty.insert entity id properties = .ok changed) :
    run schema [.insert type id properties] = ⟨changed, [(id, ⟨type, properties⟩)]⟩ := by
  have hchange : empty.graph.change schema (.insert type id properties) = .ok changed := by
    rw [change, Schema.entity_eq_ok.mpr hentity]
    exact h
  rw [run, List.foldl_cons, List.foldl_nil, call, hchange]
  rfl

/-- After any calls the nodes are those on record, and what the insertion of a node gave decides all of it: it has the
labels of the type, nothing but properties that the type declares, each with a value that the declaration accepts, and
its identifier. A property that must not be null may still be missing: it is there just if the insertion gave it. -/
theorem conforms_run {decls : List EntityDecl} (hmade : ∀ decl ∈ decls, decl.Made)
    (hbuild : Schema.build decls = .ok schema) (calls : List Change) :
    (∀ id, (∃ node, (run schema calls).graph.node? id = some node) ↔
      ∃ insertion, List.lookup id (run schema calls).insertions = some insertion) ∧
    ∀ id node insertion, (run schema calls).graph.node? id = some node →
      List.lookup id (run schema calls).insertions = some insertion →
        ∃ entity, schema.entity? insertion.type = some entity ∧ node.labels = sortNames entity.labels ∧
          (∀ entry ∈ node.properties, ∃ property, entity.property? entry.1 = some property ∧
            property.type.accepts entry.2 = true ∧ (entry.2 = .null → property.nullable = true)) ∧
          List.lookup idProperty node.properties = some (.string id) ∧
          ∀ name property, entity.property? name = some property → property.nullable = false →
            ((∃ value, List.lookup name node.properties = some value ∧ value ≠ .null) ↔
              name = idProperty ∨ ∃ value, (name, value) ∈ insertion.properties) := by
  have hbalanced := balanced_run schema calls
  refine ⟨fun id => ⟨fun ⟨node, hnode⟩ => hbalanced.recorded id node hnode, fun ⟨insertion, hrecorded⟩ => ?_⟩, ?_⟩
  · obtain ⟨entity, hstored⟩ := hbalanced.stored id insertion hrecorded
    exact ⟨_, hstored.stored⟩
  · intro id node insertion hnode hrecorded
    obtain ⟨entity, hstored⟩ := hbalanced.stored id insertion hrecorded
    cases hnode.symm.trans hstored.stored
    obtain ⟨table, htable, hflattens⟩ := Schema.gather_of_build hbuild
    have hidentifier := (hflattens.wellFormed htable).identifier hmade hstored.admitted.type
    have hconforms : (insertion.node entity id).Conforms entity :=
      conforms_of_admitted hidentifier hstored.admitted.properties
    refine ⟨entity, hstored.admitted.type, hconforms.labels,
      fun entry hentry => checkProperty_eq_ok.mp (hconforms.admitted entry hentry), ?_,
      fun name property hproperty hrequired => hstored.admitted.present_iff id hproperty hrequired⟩
    rw [Insertion.node, Table.lookup_insert, if_pos rfl]

/-- Documents have a name. Notes are documents. -/
def notes : List EntityDecl :=
  [.declare "Doc" false [⟨"name", .string, false⟩] [] [] [], .declare "Note" false [⟨"size", .int, true⟩] [] ["Doc"] []]

/-- A document is made a note. In between it is refused to take its name away. -/
def demotion : List Change :=
  [.insert "Doc" "d" [("name", .string "a")], .insert "Doc" "d" [("name", .null)], .insert "Note" "d" []]

theorem conforms_run_notes : ∃ schema note node, Schema.build notes = .ok schema ∧
    schema.entity? "Note" = some note ∧ note.property? "name" = some ⟨"name", .string, false⟩ ∧
    (run schema demotion).graph.node? "d" = some node ∧
    List.lookup "d" (run schema demotion).insertions = some ⟨"Note", []⟩ ∧
    ¬ ∃ value, List.lookup "name" node.properties = some value ∧ value ≠ .null := by
  have hmade : ∀ decl ∈ notes, decl.Made := by
    simp only [notes, List.forall_mem_cons]
    exact ⟨⟨_, _, _, _, _, _, rfl⟩, ⟨_, _, _, _, _, _, rfl⟩, nofun⟩
  have hsome : ∃ schema, Schema.build notes = .ok schema := ⟨_, rfl⟩
  obtain ⟨schema, hschema⟩ := hsome
  cases hschema
  refine ⟨_, _, _, rfl, rfl, rfl, rfl, rfl, ?_⟩
  obtain ⟨note, hnote, _, _, _, hpresent⟩ := (conforms_run hmade rfl demotion).2 "d" _ ⟨"Note", []⟩ rfl rfl
  cases hnote
  rw [hpresent "name" ⟨"name", .string, false⟩ rfl rfl]
  simp [idProperty]

end Ledger
end Graph
end GraphQuery
