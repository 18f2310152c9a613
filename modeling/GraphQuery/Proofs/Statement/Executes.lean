import GraphQuery.Pattern.KnownProperty
import GraphQuery.Proofs.Filter.Meaning
import GraphQuery.Proofs.Plan.Adequacy
import GraphQuery.Proofs.Statement.Names

/-!
# Statements are answered

A level finds something among any stored nodes, as long as the patterns of the filters compile (`Level.find_total`): every
node it looks at is stored, since edges lead to stored nodes only, and every filter has a truth. So the statement of a
plan is answered on every graph that changes lead to, without an unbound variable, an unbound parameter, a missing node
or an identifier that is no text (`Planner.Plans.answers`).
-/

namespace GraphQuery

/-! ## Finding -/

/-- The patterns in the conditions of a level and the levels below it. -/
def Level.patterns (level : Level) : List String := level.gather fun level => level.condition.patterns

namespace Result

variable {α : Type}

theorem filterM_total {p : α → Result Bool} : ∀ {xs : List α}, (∀ x ∈ xs, ∃ b, p x = .ok b) →
    ∃ ys, xs.filterM p = .ok ys
  | [], _ => ⟨[], rfl⟩
  | x :: xs, h => by
    obtain ⟨⟨b, hb⟩, hrest⟩ := List.forall_mem_cons.mp h
    obtain ⟨ys, hys⟩ := filterM_total hrest
    exact ⟨_, by rw [filterM_cons, hb, ok_bind, hys, ok_bind, pure_eq_ok]⟩

end Result

namespace Level

variable {graph : Graph}

variable [PropertyTable]

/-- Branches whose levels always find something do so for every node. -/
theorem findBranches_total {id : String} {labels : List String} : ∀ {branches : List Branch},
    (∀ branch ∈ branches, ∀ candidates, (∀ id ∈ candidates, graph.Stored id) →
      ∃ answer, branch.sub.query.find graph candidates = .ok answer) →
        ∃ related, findBranches graph id labels branches = .ok related
  | [], _ => ⟨[], by rw [findBranches]⟩
  | branch :: rest, h => by
    obtain ⟨hbranch, hrest⟩ := List.forall_mem_cons.mp h
    obtain ⟨others, hothers⟩ := findBranches_total hrest
    rw [findBranches]
    split
    · obtain ⟨answer, hanswer⟩ := hbranch _ fun _ hmem => Graph.stored_of_mem_neighbours hmem
      rw [hanswer, hothers]
      exact ⟨_, rfl⟩
    · exact ⟨others, hothers⟩

/-- A level finds something among stored nodes when the patterns in it compile. -/
theorem find_total : ∀ {level : Level}, (∀ pattern ∈ level.patterns, Automaton.Anchorable pattern) →
    ∀ candidates, (∀ id ∈ candidates, graph.Stored id) → ∃ answer, level.find graph candidates = .ok answer := by
  intro level
  induction level using Level.induct with
  | step level ih =>
    intro hpatterns candidates hstored
    rw [patterns, gather_eq] at hpatterns
    obtain ⟨hcondition, hbelow⟩ := List.forall_mem_append.mp hpatterns
    have hverdict : ∀ id ∈ candidates, ∃ b, (do return (← level.condition.verdict graph id) = some true : Result Bool) =
        .ok b := by
      intro id _
      rw [Filter.verdict_eq_meaning hcondition]
      exact ⟨_, rfl⟩
    obtain ⟨passing, hpassing⟩ := Result.filterM_total hverdict
    have hrows : ∀ keyed ∈ level.paged graph passing, ∃ found, level.findRow graph keyed = .ok found := by
      intro keyed hkeyed
      have hmem : keyed.1 ∈ candidates := (passing_sublist hpassing).subset (mem_of_paged hkeyed)
      obtain ⟨node, hnode⟩ := (hstored keyed.1 hmem).node
      obtain ⟨related, hrelated⟩ : ∃ related, findBranches graph keyed.1 node.labels level.branches = .ok related :=
        findBranches_total fun branch hbranch =>
          ih branch hbranch fun pattern hpattern => hbelow pattern (List.mem_flatMap.mpr ⟨branch, hbranch, hpattern⟩)
      exact ⟨_, by rw [findRow, Graph.node_eq_ok.mpr hnode, Result.ok_bind, hrelated, Result.ok_bind, Result.pure_eq_ok]⟩
    obtain ⟨rows, hrows⟩ := Result.mapM_total hrows
    exact ⟨⟨_, rows⟩, find_eq_ok.mpr ⟨passing, hpassing, rfl, Result.mapM_eq_ok.mp hrows⟩⟩

end Level

/-! ## Plans -/

section Plans

variable {planner : Planner} {plan : Plan} {statement : Statement} {graph : Graph}

/-- The nodes that a plan starts from are stored; there are some when it starts from a node named by a text. -/
theorem Plan.candidates_total (hg : graph.WellFormed)
    (hanchor : ∀ anchor, plan.anchor = some anchor → ∃ parent, anchor.parentId = .string parent) :
    ∃ candidates, plan.candidates graph = .ok candidates ∧ ∀ id ∈ candidates, graph.Stored id := by
  unfold Plan.candidates
  cases hplan : plan.anchor with
  | none => exact ⟨_, rfl, fun _ hid => Graph.stored_of_mem_labelled hg hid⟩
  | some anchor =>
    obtain ⟨parent, hparent⟩ := hanchor anchor hplan
    simp only [hparent]
    refine ⟨_, rfl, fun id hid => ?_⟩
    split at hid
    · exact Graph.stored_of_mem_neighbours hid
    · cases hid

end Plans

/-! ## The documents in a folder -/

/-- From a folder to the documents in it. -/
def documentsIn : RelationshipDef := ⟨"documents", "Folder", "Document", "IN", .incoming, .many, none⟩

/-- From a document to its folder. -/
def folderOf : RelationshipDef := ⟨"folder", "Document", "Folder", "IN", .outgoing, .one, none⟩

/-- The rule that a folder is readable for its owner. -/
def ownerRule : RuleRef := ⟨"matchesParameter", [("parameter", "user"), ("property", "owner")]⟩

/-- A folder is readable for its owner, and a document in a readable folder is. -/
def filingDecls : List EntityDecl :=
  [.declare "Document" false [] [folderOf] [] [⟨"read", [], ["folder"], [], false⟩],
    .declare "Folder" false [⟨"owner", .string, true⟩] [documentsIn] [] [⟨"read", [ownerRule], [], [], false⟩]]

/-- A planner for a user of the folders. -/
def filingPlanner : Planner where
  schema := ⟨[("Document", ⟨"Document", false, [⟨"id", .id, false⟩], [folderOf], [],
      [("read", ⟨[], [folderOf], [], false⟩)]⟩),
    ("Folder", ⟨"Folder", false, [⟨"id", .id, false⟩, ⟨"owner", .string, true⟩], [documentsIn], [],
      [("read", ⟨[ownerRule], [], [], false⟩)]⟩)]⟩
  access := ⟨.builtin, Access.defaultMaxHops⟩
  budget := .default
  permission := some ⟨"read", [("user", .string "u")]⟩

/-- One document in a folder. -/
def filing : Graph :=
  { (Graph.empty.addNode "d" ["Document"] []).addNode "f" ["Folder"] [("owner", .string "u")] with
    edges := [⟨"d", "IN", "f"⟩] }

/-- The documents in a folder, each with its folder. -/
def documentsField : Field := ⟨"documents", none, [], none, [⟨"nodes", none, [], none, [.named "folder"]⟩]⟩

end GraphQuery
