import GraphQuery.Pattern.Written
import GraphQuery.Text.Letter

/-!
# Reading regular expressions

The language has alternatives, groups (plain, named, without capture, with flags), greedy and lazy repetition with and
without bounds, classes with ranges, nesting, set operations and named ASCII classes, the classes of digits, words and
blanks, the classes of properties, and boundaries. There is no looking around and no reference back. Under the flag `x`
blanks and comments are skipped, also within a number or the name of a property.

* `WrittenPattern.ofText?` reads a text, whose parts may not be nested too deep;
* `Pattern.ofText?` gives its meaning.
-/

namespace GraphQuery
namespace WrittenPattern

/-! ## Blanks and comments -/

/-- The text after blanks and comments, if they are skipped; a comment reaches to the end of its line. -/
def skip (verbose : Bool) (text : List Char) : List Char :=
  if verbose then go false text else text
where
  /-- Skips on, inside a comment or outside. -/
  go (comment : Bool) : List Char → List Char
    | [] => []
    | c :: rest =>
      if comment then go (c != '\n') rest
      else if c = '#' then go true rest
      else if isBlankCharacter c then go false rest
      else c :: rest

/-- Takes at most so many characters of a kind, and skips after each of them. -/
def takeOf (verbose : Bool) (kind : Char → Bool) : (limit : Nat) → List Char → List Char × List Char
  | limit + 1, c :: rest =>
    if kind c then
      let (taken, rest) := takeOf verbose kind limit (skip verbose rest)
      (c :: taken, rest)
    else ([], c :: rest)
  | _, text => ([], text)

/-! ## Numbers -/

/-- The value of a digit. -/
def digitValue? (c : Char) : Option Nat :=
  if '0' ≤ c ∧ c ≤ '9' then some (c.toNat - 48)
  else if 'a' ≤ c ∧ c ≤ 'f' then some (c.toNat - 87)
  else if 'A' ≤ c ∧ c ≤ 'F' then some (c.toNat - 55)
  else none

/-- The value of digits to a base. -/
def numberOf (base : Nat) (digits : List Char) : Nat :=
  digits.foldl (fun n c => n * base + (digitValue? c).getD 0) 0

/-- The character of a number. -/
def charOf? (n : Nat) : Option Char := if n.isValidChar then some (Char.ofNat n) else none

/-- Reads a character by number: hexadecimal digits between braces, or as many as the kind of escape has. -/
def readNumbered? (verbose : Bool) (width : Nat) (text : List Char) : Option (WrittenPattern × List Char) := do
  let hexadecimal (c : Char) : Bool := (digitValue? c).isSome
  match skip verbose text with
  | '\x7b' :: rest =>
    match takeOf verbose hexadecimal rest.length (skip verbose rest) with
    | (digit :: digits, '\x7d' :: rest) => return (.char (← charOf? (numberOf 16 (digit :: digits))) false, rest)
    | _ => none
  | rest =>
    let (digits, rest) := takeOf verbose hexadecimal width rest
    if digits.length = width then return (.char (← charOf? (numberOf 16 digits)) (width = 2), rest) else none

/-- Reads a count with blanks around it. -/
def readCount? (verbose : Bool) (text : List Char) : Option (Nat × List Char) :=
  match takeOf verbose Char.isDigit text.length (text.dropWhile isBlankCharacter) with
  | ([], _) => none
  | (digits, rest) =>
    let n := numberOf 10 digits
    if n < 0x100000000 then some (n, rest.dropWhile isBlankCharacter) else none

/-- Reads the bounds of a repetition after the opening brace. -/
def readBounds? (verbose : Bool) (text : List Char) : Option ((Nat × Option Nat) × List Char) := do
  let (least, rest) ← readCount? verbose (skip verbose text)
  match rest with
  | '\x7d' :: rest => return ((least, some least), rest)
  | ',' :: rest =>
    match skip verbose rest with
    | '\x7d' :: rest => return ((least, none), rest)
    | rest =>
      match ← readCount? verbose rest with
      | (most, '\x7d' :: rest) => if least ≤ most then return ((least, some most), rest) else none
      | _ => none
  | _ => none

/-! ## Escapes -/

/-- The characters with a meaning of their own. -/
def metaChars : List Char := "\\.+*?()|[]\x7b\x7d^$#&-~".toList

/-- The marks of boundaries of words that are written by name. -/
def wordMark? (name : String) : Option BoundaryMark :=
  [("start", .wordStart), ("end", .wordEnd), ("start-half", .wordStartHalf), ("end-half", .wordEndHalf)].lookup name

/-- Reads what may follow a boundary of words: a name between braces, unless the braces hold a repetition. -/
def readWordMark? (verbose : Bool) (text : List Char) : Option (BoundaryMark × List Char) :=
  let nameChar (c : Char) : Bool := c.isAlpha || c = '-'
  match text with
  | '\x7b' :: rest =>
    match takeOf verbose nameChar rest.length (skip verbose rest) with
    | ([], []) => none
    | ([], _) => some (.word, text)
    | (name, '\x7d' :: rest) => (wordMark? (String.ofList name)).map fun m => (m, rest)
    | _ => none
  | text => some (.word, text)

/-- Reads what a class of a property asks for, after its letter: a text between braces, or one character. -/
def readProperty? (verbose : Bool) (text : List Char) : Option (PropertyQuery × List Char) :=
  match skip verbose text with
  | '\x7b' :: rest =>
    match takeOf verbose (· ≠ '\x7d') rest.length (skip verbose rest) with
    | (query, '\x7d' :: rest) => some (.ofChars query, rest)
    | _ => none
  | '\\' :: _ => none
  | c :: rest => some (.named (String.singleton c), skip verbose rest)
  | [] => none

/-- Reads an escape after its backslash. -/
def readEscape? (verbose : Bool) : List Char → Option (WrittenPattern × List Char)
  | [] => none
  | c :: rest =>
    if metaChars.contains c then some (.char c false, rest)
    else match c with
      | 'x' => readNumbered? verbose 2 rest
      | 'u' => readNumbered? verbose 4 rest
      | 'U' => readNumbered? verbose 8 rest
      | 'p' => (readProperty? verbose rest).map fun (query, rest) => (.property query false, rest)
      | 'P' => (readProperty? verbose rest).map fun (query, rest) => (.property query true, rest)
      | 'd' => some (.named .digit false, rest)
      | 'D' => some (.named .digit true, rest)
      | 'w' => some (.named .word false, rest)
      | 'W' => some (.named .word true, rest)
      | 's' => some (.named .blank false, rest)
      | 'S' => some (.named .blank true, rest)
      | 'a' => some (.char (Char.ofNat 0x07) false, rest)
      | 'f' => some (.char (Char.ofNat 0x0C) false, rest)
      | 't' => some (.char '\t' false, rest)
      | 'n' => some (.char '\n' false, rest)
      | 'r' => some (.char '\r' false, rest)
      | 'v' => some (.char (Char.ofNat 0x0B) false, rest)
      | 'A' => some (.mark .textStart, rest)
      | 'z' => some (.mark .textEnd, rest)
      | 'b' => (readWordMark? verbose rest).map fun (m, rest) => (.mark m, rest)
      | 'B' => some (.mark .notWord, rest)
      | '<' => some (.mark .wordStart, rest)
      | '>' => some (.mark .wordEnd, rest)
      | c => if c.toNat < 0x80 ∧ !c.isAlphanum then some (.char c false, rest) else none

/-! ## Classes -/

/-- The ASCII class of a name. -/
def asciiClass? (name : String) : Option CharSet :=
  let ranges : Option (List (Nat × Nat)) :=
    [("alnum", [(0x30, 0x39), (0x41, 0x5A), (0x61, 0x7A)]), ("alpha", [(0x41, 0x5A), (0x61, 0x7A)]),
     ("ascii", [(0x00, 0x7F)]), ("blank", [(0x09, 0x09), (0x20, 0x20)]), ("cntrl", [(0x00, 0x1F), (0x7F, 0x7F)]),
     ("digit", [(0x30, 0x39)]), ("graph", [(0x21, 0x7E)]), ("lower", [(0x61, 0x7A)]), ("print", [(0x20, 0x7E)]),
     ("punct", [(0x21, 0x2F), (0x3A, 0x40), (0x5B, 0x60), (0x7B, 0x7E)]), ("space", [(0x09, 0x0D), (0x20, 0x20)]),
     ("upper", [(0x41, 0x5A)]), ("word", [(0x30, 0x39), (0x41, 0x5A), (0x5F, 0x5F), (0x61, 0x7A)]),
     ("xdigit", [(0x30, 0x39), (0x41, 0x46), (0x61, 0x66)])].lookup name
  ranges.map fun ranges => ⟨ranges⟩

/-- Reads a named ASCII class such as `[:alpha:]` or `[:^alpha:]`, after its bracket. -/
def readAsciiClass? : List Char → Option (ClassBody × List Char)
  | ':' :: rest =>
    let (negated, rest) := match rest with
      | '^' :: r => (true, r)
      | r => (false, r)
    match rest.span (· != ':') with
    | (name, ':' :: ']' :: after) => (asciiClass? (String.ofList name)).map fun set => (.ascii set negated, after)
    | _ => none
  | _ => none

/-- The part of a class that an escape or a character stands for. -/
def classPart? : WrittenPattern → Option ClassBody
  | .char c _ => some (.char c)
  | .named cls negated => some (.named cls negated)
  | .property query negated => some (.property query negated)
  | _ => none

/-- Reads a character or an escape inside a class. -/
def readClassItem? (verbose : Bool) : List Char → Option (ClassBody × List Char)
  | [] => none
  | '\\' :: rest => do
    let (item, rest) ← readEscape? verbose rest
    return (← classPart? item, rest)
  | c :: rest => some (.char c, rest)

/-- The character that decides about a hyphen before it. Where blanks are skipped, blanks and the first mark of a
comment are passed over, but not the text of the comment; when nothing else is left, the next character decides. -/
def afterHyphen? (verbose : Bool) (text : List Char) : Option Char :=
  let passed : List Char :=
    match text.dropWhile isBlankCharacter with
    | '#' :: rest => rest.dropWhile isBlankCharacter
    | rest => rest
  if verbose then passed.head?.or text.head? else text.head?

/-- Reads a character, a range or a class of an escape. -/
def readClassRange? (verbose : Bool) (text : List Char) : Option (ClassBody × List Char) := do
  let (first, rest) ← readClassItem? verbose text
  match skip verbose rest with
  | [] => none
  | '-' :: after =>
    if [some ']', some '-'].contains (afterHyphen? verbose after) then return (first, '-' :: after)
    else
      let (second, rest) ← readClassItem? verbose (skip verbose after)
      match first, second with
      | .char low, .char high => if low ≤ high then return (.range low high, rest) else none
      | _, _ => none
  | rest => return (first, rest)

/-- Takes the hyphens at the start of a class, which stand for themselves. -/
def takeHyphens (verbose : Bool) (limit : Nat) (text : List Char) : List ClassBody × List Char :=
  let (hyphens, rest) := takeOf verbose (· = '-') limit text
  (hyphens.map .char, rest)

/-- Joins what stands to the left of an operation with the items after it, the last one first. -/
def joinOperand (left : Option (ClassBody × SetOperation)) (items : List ClassBody) : ClassBody :=
  let right := ClassBody.ofItems items.reverse
  match left with
  | none => right
  | some (left, operation) => .op operation left right

mutual

/-- Reads a class after its opening bracket: whether it is negated, what it holds, and the rest. -/
def readClass? (verbose : Bool) : (fuel : Nat) → List Char → Option (Bool × ClassBody × List Char)
  | 0, _ => none
  | fuel + 1, text => do
    let (negated, rest) := match skip verbose text with
      | '^' :: rest => (true, skip verbose rest)
      | rest => (false, rest)
    let (items, rest) := takeHyphens verbose fuel rest
    let (items, rest) := match items, rest with
      | [], ']' :: rest => ([.char ']'], rest)
      | items, rest => (items, rest)
    let (body, rest) ← readClassBody? verbose fuel none items rest
    return (negated, body, rest)

/-- Reads the parts of a class up to its closing bracket; `items` are those after the last operation, the last one
first. -/
def readClassBody? (verbose : Bool) : (fuel : Nat) → Option (ClassBody × SetOperation) → (items : List ClassBody) →
    List Char → Option (ClassBody × List Char)
  | 0, _, _, _ => none
  | fuel + 1, left, items, text =>
    let operate (operation : SetOperation) (rest : List Char) :=
      readClassBody? verbose fuel (some (joinOperand left items, operation)) [] rest
    match skip verbose text with
    | [] => none
    | ']' :: rest => some (joinOperand left items, rest)
    | '&' :: '&' :: rest => operate .intersection rest
    | '-' :: '-' :: rest => operate .difference rest
    | '~' :: '~' :: rest => operate .symmetricDifference rest
    | '[' :: rest =>
      match readAsciiClass? rest with
      | some (item, rest) => readClassBody? verbose fuel left (item :: items) rest
      | none => do
        let (negated, body, rest) ← readClass? verbose fuel rest
        readClassBody? verbose fuel left (.bracket negated body :: items) rest
    | text => do
      let (item, rest) ← readClassRange? verbose text
      readClassBody? verbose fuel left (item :: items) rest

end

/-! ## Groups -/

/-- What was read so far: whether blanks are skipped, the names of groups, and the number of groups. -/
structure Progress where
  verbose : Bool
  names : List (List Char)
  groups : Nat

/-- Whether blanks are skipped after a change of flags. -/
def verboseAfter (verbose : Bool) (change : FlagChange) : Bool := (change.lookup .verbose).getD verbose

/-- Reads flags up to `)` or `:`: their changes, that mark, and the rest. Each flag and the mark of those that are
switched off may stand once, and something has to follow that mark. -/
def readFlags? (change : FlagChange) (off dangling : Bool) : List Char → Option (FlagChange × Char × List Char)
  | [] => none
  | c :: rest =>
    if c = ')' ∨ c = ':' then
      if dangling then none else some (change, c, rest)
    else if c = '-' then
      if off then none else readFlags? change true true rest
    else
      match PatternFlag.all.find? (·.letter = c) with
      | none => none
      | some flag => if (change.lookup flag).isSome then none else readFlags? ((flag, !off) :: change) off false rest

/-- Reads the name of a group and its closing angle bracket. -/
def readName? (progress : Progress) (text : List Char) : Option (Progress × List Char) :=
  match text.span (· != '>') with
  | (c :: name, _ :: rest) =>
    let nameStart : Bool := c = '_' || isLetter c
    let nameRest : Bool := name.all fun d => isLetterOrNumber d || ['_', '.', '[', ']'].contains d
    if nameStart ∧ nameRest ∧ ¬ progress.names.contains (c :: name) then
      some ({ progress with names := (c :: name) :: progress.names }, rest)
    else none
  | _ => none

/-- What an opening parenthesis begins. -/
inductive Opening where
  | setting (change : FlagChange)
  | capture
  | scope (change : FlagChange)

/-- Reads what follows an opening parenthesis, up to the content of the group. -/
def readOpening? (progress : Progress) (text : List Char) : Option (Opening × Progress × List Char) :=
  match skip progress.verbose text with
  | '?' :: '=' :: _ => none
  | '?' :: '!' :: _ => none
  | '?' :: '<' :: '=' :: _ => none
  | '?' :: '<' :: '!' :: _ => none
  | '?' :: 'P' :: '<' :: rest => do
    let (progress, rest) ← readName? progress rest
    return (.capture, progress, rest)
  | '?' :: '<' :: rest => do
    let (progress, rest) ← readName? progress rest
    return (.capture, progress, rest)
  | '?' :: rest => do
    let (change, close, rest) ← readFlags? [] false false rest
    if close = ':' then return (.scope change, progress, rest)
    else if change.isEmpty then none
    else return (.setting change, progress, rest)
  | rest => some (.capture, progress, rest)

/-! ## Patterns -/

/-- Repeats the last part of a sequence, which is given from its end. -/
def repeatLast? (least : Nat) (most : Option Nat) (greedy : Bool) : List WrittenPattern → Option (List WrittenPattern)
  | .setting _ :: _ => none
  | p :: parts => some (.rounds p least most greedy :: parts)
  | [] => none

/-- Whether a repetition is greedy, and the text after the mark of one that is not. -/
def readGreed : List Char → Bool × List Char
  | '?' :: rest => (false, rest)
  | rest => (true, rest)

/-- Repeats the last part of a sequence, with the greed that is read. -/
def repeatRead? (least : Nat) (most : Option Nat) (parts : List WrittenPattern) (text : List Char) :
    Option (List WrittenPattern × List Char) :=
  let (greedy, rest) := readGreed text
  (repeatLast? least most greedy parts).map fun parts => (parts, rest)

mutual

/-- Reads alternatives up to a closing parenthesis or the end; `branches` are those before, the last one first. -/
def readAlternatives? : (fuel : Nat) → Progress → (branches : List WrittenPattern) → List Char →
    Option (WrittenPattern × Progress × List Char)
  | 0, _, _, _ => none
  | fuel + 1, progress, branches, text => do
    let (p, progress, rest) ← readSequence? fuel progress [] text
    match rest with
    | '|' :: rest => readAlternatives? fuel progress (p :: branches) rest
    | rest => return (ofBranches (p :: branches).reverse, progress, rest)

/-- Reads a sequence up to a bar, a closing parenthesis or the end; `parts` are those before, the last one first. -/
def readSequence? : (fuel : Nat) → Progress → (parts : List WrittenPattern) → List Char →
    Option (WrittenPattern × Progress × List Char)
  | 0, _, _, _ => none
  | fuel + 1, progress, parts, text =>
    match skip progress.verbose text with
    | [] => some (ofParts parts.reverse, progress, [])
    | ')' :: rest => some (ofParts parts.reverse, progress, ')' :: rest)
    | '|' :: rest => some (ofParts parts.reverse, progress, '|' :: rest)
    | '(' :: rest => do
      let (opening, progress, rest) ← readOpening? progress rest
      match opening with
      | .setting change =>
        let progress := { progress with verbose := verboseAfter progress.verbose change }
        readSequence? fuel progress (.setting change :: parts) rest
      | .capture =>
        let index := progress.groups + 1
        match ← readAlternatives? fuel { progress with groups := index } [] rest with
        | (p, inner, ')' :: rest) =>
          readSequence? fuel { inner with verbose := progress.verbose } (.capture index p :: parts) rest
        | _ => none
      | .scope change =>
        let inner := { progress with verbose := verboseAfter progress.verbose change }
        match ← readAlternatives? fuel inner [] rest with
        | (p, inner, ')' :: rest) =>
          readSequence? fuel { inner with verbose := progress.verbose } (.scope change p :: parts) rest
        | _ => none
    | '[' :: rest => do
      let (negated, body, rest) ← readClass? progress.verbose (2 * rest.length + 2) rest
      readSequence? fuel progress (.bracket negated body :: parts) rest
    | '*' :: rest => do
      let (parts, rest) ← repeatRead? 0 none parts rest
      readSequence? fuel progress parts rest
    | '+' :: rest => do
      let (parts, rest) ← repeatRead? 1 none parts rest
      readSequence? fuel progress parts rest
    | '?' :: rest => do
      let (parts, rest) ← repeatRead? 0 (some 1) parts rest
      readSequence? fuel progress parts rest
    | '\x7b' :: rest => do
      let ((least, most), rest) ← readBounds? progress.verbose rest
      let (parts, rest) ← repeatRead? least most parts (skip progress.verbose rest)
      readSequence? fuel progress parts rest
    | '.' :: rest => readSequence? fuel progress (.dot :: parts) rest
    | '^' :: rest => readSequence? fuel progress (.mark .lineStart :: parts) rest
    | '$' :: rest => readSequence? fuel progress (.mark .lineEnd :: parts) rest
    | '\\' :: rest => do
      let (part, rest) ← readEscape? progress.verbose rest
      readSequence? fuel progress (part :: parts) rest
    | c :: rest => readSequence? fuel progress (.char c false :: parts) rest

end

/-- The pattern that is written as characters, if it is one and is not nested too deep. -/
def ofChars? (text : List Char) : Option WrittenPattern := do
  let (p, _, rest) ← readAlternatives? (2 * text.length + 2) ⟨false, [], 0⟩ [] text
  if rest.isEmpty ∧ p.depth ≤ depthLimit then return p else none

/-- The pattern that is written as a text. -/
def ofText? (text : String) : Option WrittenPattern := ofChars? text.toList

/-- The pattern of a text between a start and an end of the whole. A comment that is open at the end of the text
swallows the closing part, so this may fail where `ofText?` does not. -/
def anchored? (text : String) : Option WrittenPattern := ofChars? ("^(?:".toList ++ text.toList ++ ")$".toList)

variable [PropertyTable]

/-- The meaning of a whole pattern. -/
def meaning? (p : WrittenPattern) : Option Pattern := (p.toPattern? .initial).map (·.1)

end WrittenPattern

variable [PropertyTable]

/-- The pattern that is written as a text. -/
def Pattern.ofText? (text : String) : Option Pattern := do (← WrittenPattern.ofText? text).meaning?

/-- The pattern of a text that has to match a whole text. -/
def Pattern.anchored? (text : String) : Option Pattern := do (← WrittenPattern.anchored? text).meaning?

end GraphQuery
