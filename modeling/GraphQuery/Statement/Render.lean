import GraphQuery.Statement.Basic

/-!
# Statement text

`Statement.render` writes a statement in the query language of graph stores. A block counts in one correlated sub-query
and pages in another, where its rows are gathered in a list, children included, so a block adds one row to its parent.
-/

namespace GraphQuery

/-- A line at a depth of indentation. -/
def indented (depth : Nat) (text : String) : String := String.join (List.replicate depth "  ") ++ text

namespace Block

/-- The pattern that binds the nodes of a block. -/
def matchClause (block : Block) : String :=
  match block.source with
  | .all => "MATCH (" ++ block.var ++ ":" ++ block.label ++ ")"
  | .anchored parentLabel parentParam label direction =>
    let parent := "_parent:" ++ parentLabel ++ " \x7bid: $" ++ parentParam ++ "\x7d"
    "MATCH " ++ Step.text ⟨label, direction, block.label⟩ parent block.var
  | .traversal node label direction => "MATCH " ++ Step.text ⟨label, direction, block.label⟩ node block.var

/-- A name as the key of a map; a name with other characters than letters, digits and underscores is quoted. -/
def mapKey (name : String) : String :=
  if name.toList.all fun c => c.isAlphanum || c = '_' then name else "`" ++ name ++ "`"

/-- The map in which a block returns its count and its rows. -/
def resultMap (block : Block) : String :=
  let total := if block.count then block.var ++ "_total" else "null"
  let rows := if block.reversed then "reverse(" ++ block.var ++ "_rows)" else block.var ++ "_rows"
  "\x7btotal: " ++ total ++ ", rows: " ++ rows ++ "\x7d"

/-- The variables that hold the values of the sort keys. -/
def keyVars (block : Block) : List String :=
  (List.range block.order.length).map fun i => block.var ++ "_k" ++ toString i

/-- The text that the condition of a block contributes, if it is not always true. -/
def conditionText (condition : Condition) : List String := if condition.isAlways then [] else [condition.render]

/-- The texts of the label test and the condition of a block. -/
def filterTexts (block : Block) (parent : Option String) : List String :=
  let guard :=
    match parent, block.onlyOnTypes with
    | some parent, some types => ["(" ++ String.intercalate " OR " (types.map fun t => parent ++ ":" ++ t) ++ ")"]
    | _, _ => []
  guard ++ conditionText block.condition

/-- The beginning of a sub-query: the parent it is correlated with, the pattern and the filters. -/
def opening (block : Block) (parent : Option String) (filters : List String) : List String :=
  (parent.map ("WITH " ++ ·)).toList ++ [block.matchClause] ++
    (if filters.isEmpty then [] else ["WHERE " ++ String.intercalate " AND " filters])

/-- The sub-query that counts, for a block that counts. -/
def countLines (block : Block) (parent : Option String) (depth : Nat) : List String :=
  if block.count then
    [indented depth "CALL \x7b"] ++
      (block.opening parent (block.filterTexts parent) ++
        ["RETURN count(" ++ block.var ++ ") AS " ++ block.var ++ "_total"]).map (indented (depth + 1)) ++
      [indented depth "\x7d"]
  else []

/-- The lines that project, sort and cut off. -/
def pageTexts (block : Block) : List String :=
  let projections := block.order.zip block.keyVars |>.map fun (term, key) => term.operand.text ++ " AS " ++ key
  let sorts := block.order.zip block.keyVars |>.map fun (term, key) =>
    key ++ " " ++ (block.effectiveDirection term).name
  ["WITH " ++ String.intercalate ", " (block.var :: projections)] ++
    (if sorts.isEmpty then [] else ["ORDER BY " ++ String.intercalate ", " sorts]) ++
    (block.limit.map fun n => "LIMIT " ++ toString n).toList

/-- The line that gathers the rows. -/
def collectText (block : Block) : String :=
  let keys := block.order.zip block.keyVars |>.map fun (term, key) => mapKey term.name ++ ": " ++ key
  let children := block.children.map fun child => child.var ++ ": " ++ child.var ++ "_result"
  "RETURN collect(\x7bnode: " ++ block.var ++ ", keys: \x7b" ++ String.intercalate ", " keys ++
    "\x7d, children: \x7b" ++ String.intercalate ", " children ++ "\x7d\x7d) AS " ++ block.var ++ "_rows"

/-- The lines of a block around those of its children. -/
def linesAround (block : Block) (parent : Option String) (depth : Nat) (children : List String) : List String :=
  let filters := block.filterTexts parent ++ conditionText block.seek
  block.countLines parent depth ++ [indented depth "CALL \x7b"] ++
    (block.opening parent filters ++ block.pageTexts).map (indented (depth + 1)) ++ children ++
    [indented (depth + 1) block.collectText, indented depth "\x7d"]

mutual

/-- The lines of a block. -/
def lines : Block → (parent : Option String) → (depth : Nat) → List String
  | ⟨var, label, source, resultKey, subQuery, onlyOnTypes, condition, count, seek, order, limit, reversed, children⟩,
    parent, depth =>
    linesAround
      ⟨var, label, source, resultKey, subQuery, onlyOnTypes, condition, count, seek, order, limit, reversed, children⟩
      parent depth (childrenLines var children (depth + 1))

/-- The lines of the children of a row bound to a variable. -/
def childrenLines (var : String) : List Block → (depth : Nat) → List String
  | [], _ => []
  | child :: rest, depth =>
    [indented depth "CALL \x7b", indented (depth + 1) ("WITH " ++ var)] ++ child.lines (some var) (depth + 1) ++
      [indented (depth + 1) ("RETURN " ++ child.resultMap ++ " AS " ++ child.var ++ "_result"),
        indented depth "\x7d"] ++
      childrenLines var rest depth

end

end Block

/-- The text of a statement. -/
def Statement.render (statement : Statement) : String :=
  String.intercalate "\n"
    (statement.root.lines none 0 ++ ["RETURN " ++ statement.root.resultMap ++ " AS result"])

end GraphQuery
