import GraphQuery.Json.Writer
import GraphQuery.Schema.Property

/-!
# Errors

An error has a kind, one for each part of the engine that may refuse a request, and a cause. `Error.message` is the
text shown to the caller; every wording stands in this module.
-/

namespace GraphQuery

/-! ## Causes -/

/-- Why a filter is refused, from client input or from an authorization rule. -/
inductive FilterFault where
  | notAnObject (entity : String) (raw : Json)
  | unknownMember (name entity : String)
  | listExpected (key : String)
  | emptyList (key : String)
  | quantifiersExpected (relationship : String)
  | unknownQuantifier (key relationship : String)
  | operatorsExpected (property : String)
  | operandListExpected (property : String)
  | booleanRange (operator property : String)
  | invalidPattern (property : String)
  | booleanExpected (property : String)
  | unknownOperator (operator property : String)
  | nullOperand (property : String)
  | operandMismatch (raw : Json) (type : PropertyType) (property : String)
  | textualExpected (operator property : String) (type : PropertyType)
  | textExpected (operator property : String)
  | ruleWithoutParameter (rule entity : String)
  | ruleReadsUnknownProperty (rule property entity : String)
  | parameterMissing (permission parameter : String)

/-- Why an order is refused. -/
inductive OrderFault where
  | shape (raw : Json)
  | itemShape (raw : Json)
  | fieldMissing (raw : Json)
  | unknownDirection (direction : String)
  | orderedTwice (name : String)
  | unknownProperty (name entity : String)
  | notSingle (relationship entity : String)

/-- Why a cursor is refused. -/
inductive CursorFault where
  | unreadable
  | otherOrder (found expected : List String)
  | textExpected (argument : String)

/-- Why a plan does not fit the schema. -/
inductive PlanFault where
  | notARelationship (name entity : String)
  | conditionDoesNotApply (condition entity : String)
  | unknownType (name : String)
  | notASubtype (name entity : String)
  | blockMissing (resultKey entity : String)

/-- Why the store refuses a change or fails to run a statement. -/
inductive StoreFault where
  | unknownProperty (name entity : String)
  | invalidValue (value : Value) (entity property : String)
  | noNode (id : String)
  | parentNotText (value : Value)
  | unboundParameter (name : String)
  | unboundVariable (name : String)
  | invalidPattern (pattern : String)
  | noConcreteType (id : String)
  /-- A failure in the words of the store. -/
  | reported (message : String)

/-- Why the options of a query are refused. -/
inductive OptionsFault where
  | bothLimits
  | negative (name : String) (limit : Int)
  | integerExpected (argument : String)
  | conflictingArguments (resultKey : String)

/-- Why a schema is refused. -/
inductive SchemaFault where
  | duplicateMember (name entity : String)
  | duplicateEntity (name : String)
  | unknownSupertype (name : String)
  | supertypeCycle
  | unknownTarget (relationship target : String)
  | unknownAllowance (permission entity relationship : String)
  | inverseMissing (inverse relationship target : String)
  | inverseMismatch (inverse relationship label : String)
  | inverseUnrelated (inverse target owner : String)
  | inverseAstray (inverse back name : String)

/-- Which limit a plan exceeds. -/
inductive BudgetFault where
  | pageSize (size : Nat) (entity : String) (limit : Nat)
  | depth (relationship : String) (limit : Nat)

/-- An error of the engine. -/
inductive Error where
  | malformedFilter (fault : FilterFault)
  | invalidOrder (fault : OrderFault)
  | invalidCursor (fault : CursorFault)
  | unknownRule (name : String)
  | planCompilation (fault : PlanFault)
  | storeExecution (fault : StoreFault)
  /-- A relationship result was asked for while it was being computed; the key is shown. -/
  | reentrantComputation (key : String)
  | invalidQueryOptions (fault : OptionsFault)
  | invalidSchema (fault : SchemaFault)
  | unknownEntity (name : String)
  | budgetExceeded (fault : BudgetFault)
  | authorizationDepthExceeded (permission entity : String) (limit : Nat)

/-- The result of an operation that may be refused. -/
abbrev Result (α : Type) := Except Error α

/-! ## Texts -/

/-- A text between apostrophes. -/
def tick (s : String) : String := "'" ++ s ++ "'"

/-- The text of a cause. -/
def FilterFault.message : FilterFault → String
  | notAnObject entity raw => "expected an object for " ++ tick entity ++ ", got " ++ raw.text
  | unknownMember name entity => tick name ++ " is not a property or relationship of " ++ tick entity
  | listExpected key => tick key ++ " expects a list"
  | emptyList key => tick key ++ " expects at least one filter"
  | quantifiersExpected relationship => tick relationship ++ " expects an object of 'all', 'any' or 'none'"
  | unknownQuantifier key relationship => "unknown quantifier " ++ tick key ++ " on " ++ tick relationship
  | operatorsExpected property => tick property ++ " expects an object of operators"
  | operandListExpected property => "'in' on " ++ tick property ++ " expects a list"
  | booleanRange operator property => tick operator ++ " cannot be applied to boolean " ++ tick property
  | invalidPattern property => "invalid pattern for " ++ tick property ++ ":"
  | booleanExpected property => "'isNull' on " ++ tick property ++ " expects a boolean"
  | unknownOperator operator property => "unknown operator " ++ tick operator ++ " on " ++ tick property
  | nullOperand property => "null operand for " ++ tick property
  | operandMismatch raw type property =>
    raw.text ++ " does not fit " ++ type.name ++ " property " ++ tick property
  | textualExpected operator property type =>
    tick operator ++ " requires a string property, " ++ tick property ++ " is " ++ type.name
  | textExpected operator property => tick operator ++ " on " ++ tick property ++ " expects a string"
  | ruleWithoutParameter rule entity =>
    "rule " ++ tick rule ++ " on " ++ tick entity ++ " needs a 'parameter' option"
  | ruleReadsUnknownProperty rule property entity =>
    "rule " ++ tick rule ++ " reads unknown property " ++ tick property ++ " of " ++ tick entity
  | parameterMissing permission parameter =>
    "permission " ++ tick permission ++ " has no parameter " ++ tick parameter

@[inherit_doc FilterFault.message]
def OrderFault.message : OrderFault → String
  | shape raw => "expected an object or a list, got " ++ raw.text
  | itemShape raw => "expected \x7bfield, direction\x7d, got " ++ raw.text
  | fieldMissing raw => "missing 'field' in " ++ raw.text
  | unknownDirection direction => "unknown direction " ++ tick direction
  | orderedTwice name => tick name ++ " is ordered twice"
  | unknownProperty name entity => tick name ++ " is not a property of " ++ tick entity
  | notSingle relationship entity => tick relationship ++ " is not a single relationship of " ++ tick entity

@[inherit_doc FilterFault.message]
def CursorFault.message : CursorFault → String
  | unreadable => "not a cursor"
  | otherOrder found expected =>
    "cursor keys [" ++ String.intercalate ", " found ++ "] do not match order keys [" ++
      String.intercalate ", " expected ++ "]"
  | textExpected argument => tick argument ++ " must be a string"

@[inherit_doc FilterFault.message]
def PlanFault.message : PlanFault → String
  | notARelationship name entity => tick name ++ " is not a relationship of " ++ tick entity
  | conditionDoesNotApply condition entity =>
    "type condition " ++ tick condition ++ " does not apply to " ++ tick entity
  | unknownType name => "plan references unknown type " ++ tick name
  | notASubtype name entity => tick name ++ " is not a subtype of " ++ tick entity
  | blockMissing resultKey entity => "no compiled block for " ++ tick resultKey ++ " on " ++ tick entity

@[inherit_doc FilterFault.message]
def StoreFault.message : StoreFault → String
  | unknownProperty name entity => tick name ++ " is not a property of " ++ tick entity
  | invalidValue value entity property =>
    value.diagnostic ++ " is not a valid value for " ++ tick (entity ++ "." ++ property)
  | noNode id => "no node with id " ++ tick id
  | parentNotText value => "parent identifier must be a string, got " ++ value.diagnostic
  | unboundParameter name => "unbound parameter $" ++ name
  | unboundVariable name => "unbound variable " ++ tick name
  | invalidPattern pattern => "invalid pattern " ++ tick pattern ++ ":"
  | noConcreteType id => "node " ++ tick id ++ " has no concrete type among its labels"
  | reported message => message

@[inherit_doc FilterFault.message]
def OptionsFault.message : OptionsFault → String
  | bothLimits => "first and last are mutually exclusive"
  | negative name limit => name ++ " must not be negative, got " ++ toString limit
  | integerExpected argument => tick argument ++ " must be an integer"
  | conflictingArguments resultKey => tick resultKey ++ " is requested with conflicting arguments"

@[inherit_doc FilterFault.message]
def SchemaFault.message : SchemaFault → String
  | duplicateMember name entity => "duplicate member " ++ tick name ++ " on type " ++ tick entity
  | duplicateEntity name => "duplicate entity type " ++ tick name
  | unknownSupertype name => "unknown supertype " ++ tick name
  | supertypeCycle => "supertype cycle"
  | unknownTarget relationship target =>
    "relationship " ++ tick relationship ++ " targets unknown type " ++ tick target
  | unknownAllowance permission entity relationship =>
    "authorization " ++ tick permission ++ " on " ++ tick entity ++ " allows from unknown relationship " ++
      tick relationship
  | inverseMissing inverse relationship target =>
    "inverse " ++ tick inverse ++ " of " ++ tick relationship ++ " not found on " ++ tick target
  | inverseMismatch inverse relationship label =>
    "inverse " ++ tick inverse ++ " of " ++ tick relationship ++ " must use label " ++ tick label ++
      " in the opposite direction"
  | inverseUnrelated inverse target owner =>
    "inverse " ++ tick inverse ++ " targets " ++ tick target ++ ", unrelated to " ++ tick owner
  | inverseAstray inverse back name =>
    "inverse " ++ tick inverse ++ " points back to " ++ tick back ++ " instead of " ++ tick name

@[inherit_doc FilterFault.message]
def BudgetFault.message : BudgetFault → String
  | pageSize size entity limit =>
    "page size " ++ toString size ++ " on " ++ tick entity ++ " exceeds " ++ toString limit
  | depth relationship limit => tick relationship ++ " nests deeper than " ++ toString limit

namespace Error

/-- The name of the kind of an error. -/
def kind : Error → String
  | malformedFilter _ => "MalformedFilter"
  | invalidOrder _ => "InvalidOrder"
  | invalidCursor _ => "InvalidCursor"
  | unknownRule _ => "UnknownRule"
  | planCompilation _ => "PlanCompilation"
  | storeExecution _ => "StoreExecution"
  | reentrantComputation _ => "ReentrantComputation"
  | invalidQueryOptions _ => "InvalidQueryOptions"
  | invalidSchema _ => "InvalidSchema"
  | unknownEntity _ => "UnknownEntity"
  | budgetExceeded _ => "BudgetExceeded"
  | authorizationDepthExceeded .. => "AuthorizationDepthExceeded"

/-- The text of an error. -/
def message : Error → String
  | malformedFilter fault => "malformed filter: " ++ fault.message
  | invalidOrder fault => "invalid order: " ++ fault.message
  | invalidCursor fault => "invalid cursor: " ++ fault.message
  | unknownRule name => "unknown authorization rule: " ++ name
  | planCompilation fault => "plan compilation failed: " ++ fault.message
  | storeExecution fault => "store execution failed: " ++ fault.message
  | reentrantComputation key => "relationship result already being computed: " ++ key
  | invalidQueryOptions fault => "invalid query options: " ++ fault.message
  | invalidSchema fault => "invalid schema: " ++ fault.message
  | unknownEntity name => "unknown entity type: " ++ name
  | budgetExceeded fault => "query budget exceeded: " ++ fault.message
  | authorizationDepthExceeded permission entity limit =>
    "authorization depth exceeded: " ++ tick permission ++ " on " ++ tick entity ++ " follows more than " ++
      toString limit ++ " related hops"

end Error

end GraphQuery
