import GraphQuery.Pattern.Reader
import GraphQuery.Text.Category
import GraphQuery.Text.Script

/-!
# A table of properties

The general categories and the scripts, each by its long or short name, and some properties without values. In names
case, blanks, hyphens, underscores and a leading `is` do not matter.
-/

namespace GraphQuery
namespace KnownProperty

/-! ## Names -/

/-- The characters of a name that matter. -/
def plainName (name : List Char) : List Char :=
  (name.filter fun c => c.toNat < 0x80 && !([' ', '_', '-'].contains c)).map Char.toLower

/-- A name without what does not matter. What is left of `isc` names a property of its own. -/
def normalName (name : String) : String :=
  match name.toList with
  | i :: s :: rest =>
    if plainName [i, s] = ['i', 's'] ∧ plainName rest ≠ ['c'] then String.ofList (plainName rest)
    else String.ofList (plainName (i :: s :: rest))
  | text => String.ofList (plainName text)

/-- The short name that belongs to a long or a short one. -/
def shortName? (names : List (String × String)) (name : String) : Option String :=
  (names.find? fun (long, short) => name = long || name = normalName short).map (·.2)

/-! ## Values of code points -/

/-- Reads values of so many letters, each followed by the hexadecimal number of the code point from which on it
holds. -/
def readRuns (letters : Nat) (text : String) : List (String × Nat) :=
  ((text.splitToList Char.isWhitespace).filter (!·.isEmpty)).map fun run =>
    (String.ofList (run.toList.take letters), WrittenPattern.numberOf 16 (run.toList.drop letters))

/-- The ranges of the code points whose value passes a test; the first argument is the start of a range that is not
closed yet. -/
def rangesOf (test : String → Bool) : (start : Option Nat) → List (String × Nat) → List (Nat × Nat)
  | none, [] => []
  | some low, [] => [(low, CharSet.lastCode)]
  | none, (value, first) :: rest => rangesOf test (if test value then some first else none) rest
  | some low, (value, first) :: rest =>
    if test value then rangesOf test (some low) rest else (low, first - 1) :: rangesOf test none rest

/-- The categories of the code points. -/
def categories : List (String × Nat) := readRuns 2 Category.runs

/-- The scripts of the code points. -/
def scripts : List (String × Nat) := readRuns 4 Script.runs

/-- The characters of a category or a group of categories. -/
def ofCategory (short : String) : CharSet :=
  let test (category : String) : Bool :=
    if short = "LC" then ["Lu", "Ll", "Lt"].contains category else short.toList.isPrefixOf category.toList
  ⟨rangesOf test none categories⟩

/-! ## Queries -/

/-- The characters of a category, or of all that are assigned, or of ASCII, or all. -/
def category? (name : String) : Option CharSet :=
  match name with
  | "any" => some .all
  | "ascii" => some (.range 0 0x7F)
  | "assigned" => some (ofCategory "Cn").complement
  | name => (shortName? Category.names name).map ofCategory

/-- The characters of a script. -/
def script? (name : String) : Option CharSet :=
  (shortName? Script.names name).map fun short => ⟨rangesOf (· = short) none scripts⟩

/-- The letters. -/
def letters : CharSet :=
  (CharSet.mk WordCharacter.ranges).diff ((CharSet.mk DecimalDigit.ranges).union ⟨Letter.attached⟩)

/-- The characters with a property that has no values. -/
def plain? (name : String) : Option CharSet :=
  if ["alphabetic", "alpha"].contains name then some letters
  else if ["whitespace", "wspace", "space"].contains name then some ⟨Blank.ranges⟩
  else none

/-- The characters that a query asks for. -/
def set? : PropertyQuery → Option CharSet
  | .named name =>
    let name := normalName name
    (plain? name).or ((category? name).or (script? name))
  | .valued property value =>
    match normalName property with
    | "gc" | "generalcategory" => category? (normalName value)
    | "sc" | "script" => script? (normalName value)
    | _ => none

end KnownProperty

instance : PropertyTable := ⟨KnownProperty.set?⟩

end GraphQuery
