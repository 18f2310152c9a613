import GraphQuery.Filter.Basic
import GraphQuery.Request.Permission
import GraphQuery.Schema.Basic
import GraphQuery.Text.Quoted

/-!
# Authorization rules

A rule is a name under which a function is registered that gives, for a type and a permission, the filter of the nodes
the rule speaks of. `RuleRegistry.builtin` holds the one rule known from the start, `matchesParameter`, which compares
a property with a parameter of the permission.
-/

namespace GraphQuery

/-- What a rule may look at. -/
structure RuleContext where
  /-- The type that is authorized. -/
  entity : EntityType
  /-- The reference to the rule, with its static options. -/
  rule : RuleRef
  permission : Permission

/-- Gives the filter that a rule stands for. -/
abbrev RuleGenerator := RuleContext → Result Filter

/-- The test that a property equals a parameter, or is one of its elements. -/
def PropertyTest.ofParameter : Value → PropertyTest
  | .strings items => .oneOf (items.map .string)
  | .ints items => .oneOf (items.map .int)
  | .null => .isNull true
  | value => .eq value

/-- Compares the property named by the option `"property"`, the identifier by default, with the parameter named by the
option `"parameter"`. -/
def matchesParameter (context : RuleContext) : Result Filter :=
  let property := (context.rule.option? "property").getD idProperty
  match context.rule.option? "parameter" with
  | none => .error (.malformedFilter (.ruleWithoutParameter context.rule.name context.entity.name))
  | some parameter =>
    if (context.entity.property? property).isNone then
      .error (.malformedFilter (.ruleReadsUnknownProperty context.rule.name property context.entity.name))
    else
      match context.permission.parameter? parameter with
      | none => .error (.malformedFilter (.parameterMissing context.permission.name parameter))
      | some value => .ok (.property property (.ofParameter value))

/-- Generators by the names of their rules. -/
structure RuleRegistry where
  rules : Table RuleGenerator

namespace RuleRegistry

/-- No rule. -/
def empty : RuleRegistry := ⟨[]⟩

/-- Registers a rule, replacing an earlier one of its name. -/
def register (registry : RuleRegistry) (name : String) (generator : RuleGenerator) : RuleRegistry :=
  ⟨registry.rules.insert name generator⟩

/-- The registry of the rules known from the start. -/
def builtin : RuleRegistry := empty.register "matchesParameter" matchesParameter

/-- The filter that a reference to a rule stands for. -/
def generate (registry : RuleRegistry) (entity : EntityType) (permission : Permission) (rule : RuleRef) :
    Result Filter :=
  match List.lookup rule.name registry.rules with
  | some generator => generator ⟨entity, rule, permission⟩
  | none => .error (.unknownRule rule.name)

/-- A registry as diagnostics show it. -/
def diagnostic (registry : RuleRegistry) : String :=
  "RuleRegistry \x7b rules: " ++ Quoted.list (registry.rules.map fun (name, _) => Quoted.quote name) ++ " \x7d"

end RuleRegistry

end GraphQuery
