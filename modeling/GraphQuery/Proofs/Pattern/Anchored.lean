import GraphQuery.Proofs.Pattern.Closing

/-!
# Patterns that match whole texts

A text that is a pattern need not be one between `^(?:` and `)$`. It is, unless a comment at its end swallows the closing
part, in which case the text followed by `)$` is a pattern itself, or it is nested too deep
(`WrittenPattern.anchored_eq`). Its meaning is then that of the text between the start and the end of the whole
(`Pattern.anchored_eq`), whose automaton has to fit (`Automaton.anchored_isSome_iff`).
-/

namespace GraphQuery
namespace WrittenPattern

/-- A pattern between a start and an end. -/
def between (p : WrittenPattern) : WrittenPattern := .seq [.mark .lineStart, .scope [] p, .mark .lineEnd]

theorem depth_between (p : WrittenPattern) : p.between.depth = p.depth + 2 := by
  simp [between, depth, greatestDepth]

variable {p : WrittenPattern} {text : List Char}

/-- Nothing has been read. -/
def Progress.start : Progress := ⟨false, [], 0⟩

theorem ofChars_eq (text : List Char) : ofChars? text =
    readAlternatives? (2 * text.length + 2) .start [] text >>= fun read =>
      if read.2.2.isEmpty ∧ read.1.depth ≤ depthLimit then some read.1 else none := rfl

theorem ofChars_eq_some : ofChars? text = some p ↔
    (∃ progress, readAlternatives? (2 * text.length + 2) .start [] text = some (p, progress, [])) ∧
      p.depth ≤ depthLimit := by
  rw [ofChars_eq, Option.bind_eq_bind, Option.bind_eq_some_iff]
  constructor
  · rintro ⟨⟨q, progress, rest⟩, hread, h⟩
    obtain ⟨⟨hrest, hdepth⟩, h⟩ := Option.ite_none_right_eq_some.mp h
    cases h
    rw [List.isEmpty_iff] at hrest
    subst hrest
    exact ⟨⟨progress, hread⟩, hdepth⟩
  · rintro ⟨⟨progress, hread⟩, hdepth⟩
    exact ⟨_, hread, by simp [hdepth]⟩

/-- The closing part is read as the end of a pattern, or swallowed by a comment, with any fuel that is enough. -/
theorem readAlternatives_closing {progress : Progress}
    (h : readAlternatives? (2 * text.length + 2) .start [] text = some (p, progress, [])) :
    ∃ rest, (rest = [] ∨ rest = closing) ∧ ∀ fuel, 2 * text.length + 6 ≤ fuel →
      readAlternatives? fuel .start [] (text ++ closing) = some (p, progress, rest) := by
  obtain ⟨_, hread, ⟨_, _, hrest⟩⟩ := (patternsFollow true _).alternatives .start [] (.append_closing text)
    (by omega : 2 * text.length + 2 ≤ 2 * text.length + 6) _ h
  rename_i rest
  refine ⟨rest, hrest.atEnd, fun fuel hfuel => ?_⟩
  obtain ⟨_, hread, ⟨_, _, hrest⟩⟩ := (patternsFollow false _).alternatives .start [] (.refl _) hfuel _ hread
  rw [hread, hrest.eq]

section Reading

variable {progress : Progress} (hplain : progress.verbose = false) (fuel : Nat) (parts : List WrittenPattern)

include hplain

theorem readSequence_atEnd :
    readSequence? (fuel + 1) progress parts [] = some (ofParts parts.reverse, progress, []) := by
  rw [readSequence?, hplain]
  rfl

theorem readSequence_lineStart (rest : List Char) : readSequence? (fuel + 1) progress parts ('^' :: rest) =
    readSequence? fuel progress (.mark .lineStart :: parts) rest := by
  rw [readSequence?, hplain]
  rfl

theorem readSequence_lineEnd (rest : List Char) : readSequence? (fuel + 1) progress parts ('$' :: rest) =
    readSequence? fuel progress (.mark .lineEnd :: parts) rest := by
  rw [readSequence?, hplain]
  rfl

/-- A group without flags is what stands up to its closing parenthesis. -/
theorem readSequence_scope (text : List Char) : readSequence? (fuel + 1) progress parts ('(' :: '?' :: ':' :: text) =
    readAlternatives? fuel progress [] text >>= fun read =>
      match read with
      | (p, inner, ')' :: rest) => readSequence? fuel { inner with verbose := false } (.scope [] p :: parts) rest
      | _ => none := by
  have hopening : readOpening? progress ('?' :: ':' :: text) = some (.scope [], progress, text) := by
    simp [readOpening?, skip, hplain, readFlags?]
  have hinner : { progress with verbose := verboseAfter false [] } = progress := by
    rw [← hplain]
    rfl
  rw [readSequence?, hplain]
  simp only [skip, Bool.false_eq_true, if_false, hopening, Option.bind_eq_bind, Option.bind_some, hplain]
  exact congrArg (fun inner => Option.bind (readAlternatives? fuel inner [] text) _) hinner

end Reading

/-- The start of a pattern that has to match a whole text is read as a start and the beginning of a group. -/
theorem readAlternatives_opening {progress : Progress} {rest : List Char} {fuel : Nat}
    (h : readAlternatives? (fuel + 2) .start [] text = some (p, progress, rest)) (hrest : rest = [] ∨ rest = closing) :
    readAlternatives? (fuel + 5) .start [] ('^' :: '(' :: '?' :: ':' :: text) =
      if rest = [] then none else some (p.between, { progress with verbose := false }, []) := by
  rw [readAlternatives?, readSequence_lineStart rfl, readSequence_scope rfl, h]
  rcases hrest with rfl | rfl
  · rfl
  · have hclosed : readSequence? (fuel + 2) { progress with verbose := false } [.scope [] p, .mark .lineStart] ['$'] =
        some (p.between, { progress with verbose := false }, []) := by
      rw [readSequence_lineEnd rfl, readSequence_atEnd rfl]
      rfl
    rw [if_neg (by decide)]
    simp only [closing, Option.bind_eq_bind, Option.bind_some, hclosed]
    rfl

/-- The text of a pattern between a start and an end is a pattern, unless the closing part is swallowed or the pattern
is nested too deep. -/
theorem ofChars_between (h : ofChars? text = some p) :
    ofChars? ('^' :: '(' :: '?' :: ':' :: (text ++ closing)) =
      if (ofChars? (text ++ closing)).isSome ∨ depthLimit < p.depth + 2 then none else some p.between := by
  obtain ⟨⟨progress, hread⟩, hdepth⟩ := ofChars_eq_some.mp h
  obtain ⟨rest, hrest, hfollows⟩ := readAlternatives_closing hread
  have hlength : (text ++ closing).length = text.length + 2 := by simp [closing]
  have halone : (ofChars? (text ++ closing)).isSome ↔ rest = [] := by
    rw [ofChars_eq, hfollows _ (by omega)]
    simp [hdepth]
  have hfuel : 2 * ('^' :: '(' :: '?' :: ':' :: (text ++ closing)).length + 2 = 2 * text.length + 9 + 5 := by
    simp only [List.length_cons, hlength]
    omega
  rw [ofChars_eq, hfuel, readAlternatives_opening (hfollows (2 * text.length + 11) (by omega)) hrest]
  by_cases hempty : rest = []
  · rw [if_pos hempty, if_pos (.inl (halone.mpr hempty))]
    rfl
  · simp only [hempty, if_false, Option.bind_eq_bind, Option.bind_some, List.isEmpty_nil, true_and, depth_between,
      halone, false_or, ← Nat.not_le]
    exact (ite_not _ _ _).symm

theorem anchored_eq {text : String} (h : ofText? text = some p) : anchored? text =
    if (ofText? (text ++ ")$")).isSome ∨ depthLimit < p.depth + 2 then none else some p.between := by
  have hclosing : (text ++ ")$").toList = text.toList ++ closing := by
    rw [String.toList_append]
    rfl
  rw [ofText?, hclosing, ← ofChars_between h]
  rfl

end WrittenPattern

/-! ## Meanings -/

/-- A pattern between the start and the end of a text. -/
def Pattern.whole (p : Pattern) : Pattern := .concat [.boundary .textStart, p, .boundary .textEnd]

variable [PropertyTable]

theorem WrittenPattern.meaning_between {p : WrittenPattern} {q : Pattern} (h : p.meaning? = some q) :
    p.between.meaning? = some q.whole := by
  obtain ⟨⟨_, flags⟩, htoPattern, rfl⟩ := Option.map_eq_some_iff.mp h
  have happly : PatternFlags.initial.apply [] = .initial := rfl
  simp only [meaning?, between, toPattern?, toPatterns?, happly, htoPattern, Option.bind_eq_bind, Option.bind_some]
  rfl

section Anchored

variable {text : String} {p : WrittenPattern} {q : Pattern} (hp : WrittenPattern.ofText? text = some p)
  (hq : p.meaning? = some q)

include hp hq

theorem Pattern.anchored_eq : anchored? text =
    if (WrittenPattern.ofText? (text ++ ")$")).isSome ∨ WrittenPattern.depthLimit < p.depth + 2 then none
    else some q.whole := by
  rw [anchored?, WrittenPattern.anchored_eq hp]
  split
  · rfl
  · exact WrittenPattern.meaning_between hq

/-- A pattern has an automaton for whole texts unless a comment at its end swallows the closing part, it is nested too
deep with what is put around it, or the automaton does not fit. -/
theorem Automaton.anchored_isSome_iff : (anchored? text).isSome ↔
    WrittenPattern.ofText? (text ++ ")$") = none ∧ p.depth + 2 ≤ WrittenPattern.depthLimit ∧
      (ofPattern? q.whole).isSome := by
  rw [anchored?, Pattern.anchored_eq hp hq, ← Option.not_isSome_iff_eq_none, ← Nat.not_lt, ← and_assoc, ← not_or]
  split
  · rename_i hfails
    exact iff_of_false nofun fun h => h.1 hfails
  · rename_i hstands
    exact (and_iff_right hstands).symm

end Anchored

end GraphQuery
