import GraphQuery.Pattern.Basic
import GraphQuery.Pattern.Property
import GraphQuery.Text.Blank
import GraphQuery.Text.DecimalDigit

/-!
# Regular expressions as written

A `WrittenPattern` is the tree of what stands in a text: flags are settings and groups that change them, classes are
what stands between their brackets. Flags hold from where they are set to the end of their group, so the meaning of a
part depends on those in force.

* `WrittenPattern.depth` counts how deep repetitions, groups, sequences, alternatives and classes are nested;
* `WrittenPattern.toPattern?` resolves the flags. It fails where the table does not know a property, and where a part
  could match half a character or asks for a property, which happens only when characters are taken as bytes.
-/

namespace GraphQuery

variable [PropertyTable]

/-! ## Flags -/

/-- The name of a flag. -/
inductive PatternFlag where
  | caseless
  | multiLine
  | dotAll
  | lazyFirst
  | unicode
  | withReturn
  | verbose
deriving DecidableEq, Inhabited

/-- The letter of a flag. -/
def PatternFlag.letter : PatternFlag → Char
  | caseless => 'i'
  | multiLine => 'm'
  | dotAll => 's'
  | lazyFirst => 'U'
  | unicode => 'u'
  | withReturn => 'R'
  | verbose => 'x'

/-- All flags. -/
def PatternFlag.all : List PatternFlag := [caseless, multiLine, dotAll, lazyFirst, unicode, withReturn, verbose]

/-- Flags with their new values. -/
abbrev FlagChange := List (PatternFlag × Bool)

/-- The flags that decide what a pattern means. -/
structure PatternFlags where
  /-- Case is disregarded. -/
  caseless : Bool
  /-- Lines have starts and ends of their own. -/
  multiLine : Bool
  /-- The dot takes line ends. -/
  dotAll : Bool
  /-- Repetition takes as little as it can, unless marked. -/
  lazyFirst : Bool
  /-- Characters are those of all scripts; otherwise they are taken as bytes. -/
  unicode : Bool
  /-- Lines may also end with a carriage return. -/
  withReturn : Bool
deriving DecidableEq, Inhabited

namespace PatternFlags

/-- The flags at the start of a pattern. -/
def initial : PatternFlags := ⟨false, false, false, false, true, false⟩

/-- Sets a flag. What is skipped between parts does not change their meaning. -/
def set (flags : PatternFlags) : PatternFlag × Bool → PatternFlags
  | (.caseless, value) => { flags with caseless := value }
  | (.multiLine, value) => { flags with multiLine := value }
  | (.dotAll, value) => { flags with dotAll := value }
  | (.lazyFirst, value) => { flags with lazyFirst := value }
  | (.unicode, value) => { flags with unicode := value }
  | (.withReturn, value) => { flags with withReturn := value }
  | (.verbose, _) => flags

/-- Changes several flags. -/
def apply (flags : PatternFlags) (change : FlagChange) : PatternFlags := change.foldl set flags

/-- Adds the other cases of the members of a set, if case is disregarded. -/
def fold (flags : PatternFlags) (set : CharSet) : CharSet :=
  if flags.caseless then
    if flags.unicode then set.withCases else set.withCasesBelow 0x80
  else set

/-- The characters, or bytes, that are not in a set. -/
def complement (flags : PatternFlags) (set : CharSet) : CharSet :=
  if flags.unicode then set.complement else set.complementUpTo 0xFF

/-- A set, if it consists of whole characters. -/
def whole? (flags : PatternFlags) (set : CharSet) : Option CharSet :=
  if flags.unicode || set.isAscii then some set else none

/-- A set or what is not in it. -/
def negate (flags : PatternFlags) (negated : Bool) (set : CharSet) : CharSet :=
  if negated then flags.complement set else set

end PatternFlags

/-! ## Classes -/

/-- The classes that have a letter. -/
inductive NamedClass where
  | digit
  | blank
  | word
deriving DecidableEq, Inhabited

namespace NamedClass

/-- The ASCII members. -/
def asciiSet : NamedClass → CharSet
  | digit => .range 0x30 0x39
  | blank => ⟨[(0x09, 0x0D), (0x20, 0x20)]⟩
  | word => ⟨[(0x30, 0x39), (0x41, 0x5A), (0x5F, 0x5F), (0x61, 0x7A)]⟩

/-- All members. -/
def set : NamedClass → CharSet
  | digit => ⟨DecimalDigit.ranges⟩
  | blank => ⟨Blank.ranges⟩
  | word => ⟨WordCharacter.ranges⟩

/-- The set of a class, or of what is not in it. -/
def set? (flags : PatternFlags) (negated : Bool) (cls : NamedClass) : Option CharSet :=
  flags.whole? (flags.negate negated (if flags.unicode then cls.set else cls.asciiSet))

end NamedClass

/-- The set of the characters that a query asks for, or of those that it does not. It takes characters of all scripts,
so there is none where they are taken as bytes. -/
def PropertyQuery.set? (flags : PatternFlags) (negated : Bool) (query : PropertyQuery) : Option CharSet :=
  if flags.unicode then (PropertyTable.set? query).map fun set => flags.negate negated (flags.fold set) else none

/-- What is done with two parts of a class. -/
inductive SetOperation where
  | intersection
  | difference
  | symmetricDifference
deriving DecidableEq, Inhabited

/-- The set of an operation. -/
def SetOperation.apply (a b : CharSet) : SetOperation → CharSet
  | intersection => a.inter b
  | difference => a.diff b
  | symmetricDifference => (a.diff b).union (b.diff a)

/-- What stands between the brackets of a class. -/
inductive ClassBody where
  | empty
  | char (c : Char)
  | range (low high : Char)
  /-- An ASCII class that is written by its name. -/
  | ascii (set : CharSet) (negated : Bool)
  | named (cls : NamedClass) (negated : Bool)
  | property (query : PropertyQuery) (negated : Bool)
  | bracket (negated : Bool) (body : ClassBody)
  | union (items : List ClassBody)
  | op (operation : SetOperation) (left right : ClassBody)
deriving Inhabited

namespace ClassBody

/-- Several items side by side. -/
def ofItems : List ClassBody → ClassBody
  | [] => empty
  | [item] => item
  | items => union items

mutual

/-- How deep brackets, unions and operations are nested. -/
def depth : ClassBody → Nat
  | bracket _ body => depth body + 1
  | union items => greatestDepth items + 1
  | op _ left right => max (depth left) (depth right) + 1
  | _ => 0

/-- The greatest depth of several items. -/
def greatestDepth : List ClassBody → Nat
  | [] => 0
  | item :: items => max (depth item) (greatestDepth items)

end

mutual

/-- The set of a class, if it consists of whole characters. -/
def set? (flags : PatternFlags) : ClassBody → Option CharSet
  | empty => some .empty
  | char c => if flags.unicode || c.toNat < 0x80 then some (.single c) else none
  | range low high =>
    if flags.unicode || (low.toNat < 0x80 && high.toNat < 0x80) then some (.range low.toNat high.toNat) else none
  | ascii set negated => flags.whole? (flags.negate negated (flags.fold set))
  | named cls negated => cls.set? flags negated
  | property query negated => query.set? flags negated
  | bracket negated body => do flags.whole? (flags.negate negated (flags.fold (← set? flags body)))
  | union items => unionOf? flags items
  | op operation left right => do
    let left ← set? flags left
    let right ← set? flags right
    return operation.apply (flags.fold left) (flags.fold right)

/-- The union of the sets of several items. -/
def unionOf? (flags : PatternFlags) : List ClassBody → Option CharSet
  | [] => some .empty
  | item :: items => do return (← set? flags item).union (← unionOf? flags items)

end

end ClassBody

/-! ## Patterns -/

/-- A written boundary. -/
inductive BoundaryMark where
  | lineStart
  | lineEnd
  | textStart
  | textEnd
  | word
  | notWord
  | wordStart
  | wordEnd
  | wordStartHalf
  | wordEndHalf
deriving DecidableEq, Inhabited

/-- The boundary for which a mark stands. -/
def BoundaryMark.boundary (flags : PatternFlags) : BoundaryMark → Boundary
  | lineStart => if flags.multiLine then .lineStart flags.withReturn else .textStart
  | lineEnd => if flags.multiLine then .lineEnd flags.withReturn else .textEnd
  | textStart => .textStart
  | textEnd => .textEnd
  | word => .word !flags.unicode
  | notWord => .notWord !flags.unicode
  | wordStart => .wordStart !flags.unicode
  | wordEnd => .wordEnd !flags.unicode
  | wordStartHalf => .wordStartHalf !flags.unicode
  | wordEndHalf => .wordEndHalf !flags.unicode

/-- A regular expression as written. -/
inductive WrittenPattern where
  | empty
  /-- A setting of flags up to the end of the group. -/
  | setting (change : FlagChange)
  /-- A character; `byte` tells that it is written by two hexadecimal digits, so that it may stand for a byte. -/
  | char (c : Char) (byte : Bool)
  | dot
  | mark (m : BoundaryMark)
  | named (cls : NamedClass) (negated : Bool)
  | property (query : PropertyQuery) (negated : Bool)
  | bracket (negated : Bool) (body : ClassBody)
  | rounds (p : WrittenPattern) (least : Nat) (most : Option Nat) (greedy : Bool)
  /-- A group that is numbered. -/
  | capture (index : Nat) (p : WrittenPattern)
  /-- A group in which some flags are changed. -/
  | scope (change : FlagChange) (p : WrittenPattern)
  | seq (parts : List WrittenPattern)
  | alt (branches : List WrittenPattern)
deriving Inhabited

namespace WrittenPattern

/-- Several parts one after the other. -/
def ofParts : List WrittenPattern → WrittenPattern
  | [] => empty
  | [part] => part
  | parts => seq parts

/-- Several alternatives. -/
def ofBranches : List WrittenPattern → WrittenPattern
  | [] => empty
  | [branch] => branch
  | branches => alt branches

/-! ### Depth -/

mutual

/-- How deep repetitions, groups, sequences, alternatives and classes are nested. -/
def depth : WrittenPattern → Nat
  | bracket _ body => body.depth + 1
  | rounds p _ _ _ => depth p + 1
  | capture _ p => depth p + 1
  | scope _ p => depth p + 1
  | seq parts => greatestDepth parts + 1
  | alt branches => greatestDepth branches + 1
  | _ => 0

/-- The greatest depth of several patterns. -/
def greatestDepth : List WrittenPattern → Nat
  | [] => 0
  | p :: ps => max (depth p) (greatestDepth ps)

end

/-- The depth that is allowed. -/
def depthLimit : Nat := 250

/-! ### Meaning -/

/-- One character, or one of its cases. -/
def charPattern (flags : PatternFlags) (c : Char) : Pattern := .ofSet (flags.fold (.single c))

/-- The characters that a dot takes. -/
def dotSet (flags : PatternFlags) : CharSet :=
  if flags.dotAll then .all
  else if flags.withReturn then CharSet.complement ⟨[(0x0A, 0x0A), (0x0D, 0x0D)]⟩
  else (CharSet.single '\n').complement

mutual

/-- The meaning of a pattern under flags, and the flags after it. -/
def toPattern? (flags : PatternFlags) : WrittenPattern → Option (Pattern × PatternFlags)
  | empty => some (.empty, flags)
  | setting change => some (.empty, flags.apply change)
  | char c byte =>
    if flags.unicode || !byte || c.toNat < 0x80 then some (charPattern flags c, flags) else none
  | dot => if flags.unicode then some (.ofSet (dotSet flags), flags) else none
  | mark m => some (.boundary (m.boundary flags), flags)
  | named cls negated => do return (.ofSet (← cls.set? flags negated), flags)
  | property query negated => do return (.ofSet (← query.set? flags negated), flags)
  | bracket negated body => do return (.ofSet (← (ClassBody.bracket negated body).set? flags), flags)
  | rounds p least most greedy => do
    let (p, after) ← toPattern? flags p
    return (.repeated p least most (greedy != flags.lazyFirst), after)
  | capture index p => do
    let (p, _) ← toPattern? flags p
    return (.group index p, flags)
  | scope change p => do
    let (p, _) ← toPattern? (flags.apply change) p
    return (p, flags)
  | seq parts => do
    let (parts, after) ← toPatterns? flags parts
    return (.concat parts, after)
  | alt branches => do
    let (branches, after) ← toPatterns? flags branches
    return (.choice branches, after)

/-- The meanings of several patterns, each under the flags after the one before it. -/
def toPatterns? (flags : PatternFlags) : List WrittenPattern → Option (List Pattern × PatternFlags)
  | [] => some ([], flags)
  | p :: ps => do
    let (p, after) ← toPattern? flags p
    let (ps, after) ← toPatterns? after ps
    return (p :: ps, after)

end

end WrittenPattern

end GraphQuery
