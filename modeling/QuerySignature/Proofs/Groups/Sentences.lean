import QuerySignature.Proofs.Groups.Detached
import QuerySignature.Proofs.Outcome.Sequence
import QuerySignature.Proofs.Path.Sentences
import QuerySignature.Proofs.Triples.Abbreviations

/-!
# Proofs/Groups/Sentences — the grammar of group bodies

    body = block? (pattern '.'? block?)*        block = triples ('.' block?)?

One loop reads a body, and its turns are triples or a pattern with the point behind either.  A body is nevertheless read
exactly if it is a sentence of these two rules (`group_sentences`): triples without a point are the last of their
block, for behind them only a pattern or the closing brace can stand, and neither continues triples or a pattern.
-/

namespace QuerySignature

open Reader

variable {depth : Option Inside} {tokens rest between : List Token} {closing : Token}

/-! ## Sentences -/

/-- **Triples with points between them**, and perhaps one behind the last. -/
inductive IsBlockOfTriples (depth : Option Inside) : List Token → List Element → Prop where
  | last {tokens : List Token} {list : List Triple} : (triples depth).read tokens = .done list [] →
      IsBlockOfTriples depth tokens (list.map .triple)
  | point {tokens : List Token} {list : List Triple} {point : Token} : (triples depth).read tokens = .done list [] →
      point.isSymbol ["."] = true → IsBlockOfTriples depth (tokens ++ [point]) (list.map .triple)
  | more {tokens others : List Token} {list : List Triple} {elements : List Element} {point : Token} :
      (triples depth).read tokens = .done list [] → point.isSymbol ["."] = true →
      IsBlockOfTriples depth others elements →
      IsBlockOfTriples depth (tokens ++ point :: others) (list.map .triple ++ elements)

/-- A block of triples, or nothing. -/
inductive IsOptionalBlock (depth : Option Inside) : List Token → List Element → Prop where
  | none : IsOptionalBlock depth [] []
  | some {tokens : List Token} {elements : List Element} : IsBlockOfTriples depth tokens elements →
      IsOptionalBlock depth tokens elements

/-- **A pattern that is not made of triples**, and perhaps a point and triples behind it. -/
inductive IsPatternBlock (depth : Option Inside) : List Token → List Element → Prop where
  | pattern {tokens point block : List Token} {element : Element} {elements : List Element} :
      (pattern depth).read tokens = .done element [] → IsOptional ["."] point → IsOptionalBlock depth block elements →
      IsPatternBlock depth (tokens ++ (point ++ block)) (element :: elements)

/-- **The body of a group.** -/
inductive IsGroupBody (depth : Option Inside) : List Token → List Element → Prop where
  | body {block tokens : List Token} {elements : List Element} {lists : List (List Element)} :
      IsOptionalBlock depth block elements → IsSequence (IsPatternBlock depth) tokens lists →
      IsGroupBody depth (block ++ tokens) (elements ++ lists.flatten)

namespace Reader

/-! ## What comes next -/

/-- A next token that satisfies one predicate does not satisfy another. -/
theorem next_apart {p q : Token → Bool} (h : tokens.head?.any p = true)
    (apart : ∀ {token}, p token = true → q token = false) : tokens.head?.any q = false := by
  obtain ⟨token, ahead, holds⟩ := (Option.any_eq_true _ _).mp h
  rw [ahead]
  exact apart holds

/-- The words that start a pattern. -/
abbrev patternWords : List String := ["OPTIONAL", "MINUS", "GRAPH", "SERVICE", "FILTER", "BIND", "VALUES"]

theorem kind_of_spells {token : Token} {words : List String} (h : token.spells words = true) : token.kind = .keyword := by
  by_contra other
  rw [not_spells other] at h
  cases h

theorem isSymbol_of_spells {token : Token} {words : List String} (h : token.spells words = true) (symbols : List String) :
    token.isSymbol symbols = false := by
  refine Bool.eq_false_iff.mpr fun is => ?_
  cases (kind_of_spells h).symm.trans (kind_of_isSymbol is)

theorem isResource_of_spells {token : Token} {words : List String} (h : token.spells words = true) :
    token.isResource = false := by
  refine Bool.eq_false_iff.mpr fun is => ?_
  rcases kind_of_isResource is with other | other <;> cases (kind_of_spells h).symm.trans other

/-- A pattern continues no triples, and is no point and no further alternative. -/
theorem startsPattern_apart {token : Token} (h : startsPattern token = true) :
    token.isSymbol ["."] = false ∧ token.spells ["UNION"] = false ∧ continuesList token = false := by
  rcases (Bool.or_eq_true _ _).mp h with brace | word
  · exact ⟨Token.isSymbol_apart brace (by decide), not_spells_of_isSymbol brace _,
      continuesList_symbol brace (by decide) (by decide)⟩
  · refine ⟨isSymbol_of_spells word _, not_spells_of_spells word (by decide), ?_⟩
    have verb : token.spells ["a"] = false := not_spells_of_spells word (by decide)
    unfold continuesList startsVerb isStep
    rw [isSymbol_of_spells word, isSymbol_of_spells word, isResource_of_spells word, verb, kind_of_spells word]
    rfl

/-- What closes a group is no point, no further alternative, and continues no triples. -/
theorem closing_apart (closes : closing.isSymbol ["\x7d"] = true) :
    closing.isSymbol ["."] = false ∧ closing.spells ["UNION"] = false ∧ continuesList closing = false :=
  ⟨Token.isSymbol_apart closes (by decide), not_spells_of_isSymbol closes _,
    continuesList_symbol closes (by decide) (by decide)⟩

/-- Triples start with a node. -/
theorem triples_node {list : List Triple} (read : (triples depth).read tokens = .done list rest) :
    ∃ subject between, (node depth).read tokens = .done subject between := by
  obtain ⟨_, _, looked, further⟩ := bind_done.mp read
  obtain ⟨-, rfl⟩ := next_done.mp looked
  obtain ⟨_, _, looked, further⟩ := bind_done.mp further
  cases looked
  obtain ⟨subject, between, nodeRead, -⟩ := bind_done.mp further
  exact ⟨subject, between, nodeRead⟩

/-- Triples start with no point and no further alternative. -/
theorem triples_apart {list : List Triple} (read : (triples depth).read tokens = .done list rest) :
    tokens.head?.any (·.isSymbol ["."]) = false ∧ tokens.head?.any (·.spells ["UNION"]) = false := by
  obtain ⟨subject, between, nodeRead⟩ := triples_node read
  rcases node_starts nodeRead with starts | ⟨sign, number, others, rfl, isSign, -⟩
  · cases tokens with
    | nil => exact ⟨rfl, rfl⟩
    | cons token others =>
      rcases (Bool.or_eq_true _ _).mp starts with atom | bracket
      · refine ⟨isAtom_isSymbol atom _, not_spells ?_ _⟩
        rcases kind_of_isAtom atom with kind | kind | kind | kind <;> rw [kind] <;> decide
      · exact ⟨Token.isSymbol_apart bracket (by decide), not_spells_of_isSymbol bracket _⟩
  · exact ⟨Token.isSymbol_apart isSign (by decide), not_spells_of_isSymbol isSign _⟩

/-- **Where triples are read they can start**, whatever follows. -/
theorem startsTriples_of_triples (hd : DepthDetached depth) {list : List Triple}
    (read : (triples depth).read tokens = .done list []) (more : List Token) : StartsTriples (tokens ++ more) := by
  obtain ⟨subject, between, nodeRead⟩ := triples_node read
  obtain ⟨front, rfl⟩ := exists_taken nodeRead
  have whole : (node depth).read (front ++ []) = .done subject [] :=
    Detached.node (p := nothing) hd (.inr ⟨by cases between <;> rfl, rfl⟩) nodeRead
  rw [List.append_nil] at whole
  rw [List.append_assoc]
  exact startsTriples_of_read whole _

/-- A pattern starts like one. -/
theorem pattern_starts {element : Element} (read : (pattern depth).read tokens = .done element rest) :
    tokens.head?.any startsPattern = true := by
  have word {words : List String} {M : Bool → Reader Element} (among : words ⊆ patternWords)
      (read : (accept (·.spells words) >>= M).read tokens = .done element rest) :
      tokens.head?.any startsPattern = true ∨ (M false).read tokens = .done element rest := by
    obtain ⟨_ | _, between, accepted, further⟩ := bind_done.mp read
    · obtain ⟨rfl, -⟩ := accept_false.mp accepted
      exact .inr further
    · obtain ⟨token, rfl, spells⟩ := accept_true.mp accepted
      exact .inl ((Bool.or_eq_true _ _).mpr (.inr (Token.spells_mono spells among)))
  obtain ⟨braced, _, ahead, read⟩ := bind_done.mp read
  obtain ⟨is, rfl⟩ := next_done.mp ahead
  cases braced with
  | true =>
    cases tokens with
    | nil => cases is
    | cons token tokens => exact (Bool.or_eq_true _ _).mpr (.inl is)
  | false =>
    rcases word (by decide) read with starts | read
    · exact starts
    rcases word (by decide) read with starts | read
    · exact starts
    rcases word (by decide) read with starts | read
    · exact starts
    rcases word (by decide) read with starts | read
    · exact starts
    rcases word (by decide) read with starts | read
    · exact starts
    rcases word (by decide) read with starts | read
    · exact starts
    obtain ⟨block, _, blockRead, -⟩ := bind_done.mp read
    obtain ⟨keyword, _, starts, -⟩ := bind_done.mp (show valuesContent.read tokens = .done block _ from blockRead)
    obtain ⟨rfl, spells⟩ := require_done.mp starts
    exact (Bool.or_eq_true _ _).mpr (.inr (Token.spells_mono spells (by decide)))

/-! ## The turns of the loop -/

/-- **What a turn reads**: nothing in front of a closing brace, a pattern and perhaps a point, or triples with a point or
in front of a pattern; behind other triples the loop ends. -/
inductive IsTurn (depth : Option Inside) : List Token → Turn (List Element) → List Token → Prop where
  | stop {tokens : List Token} : tokens.head?.any (·.isSymbol ["\x7d"]) = true → IsTurn depth tokens .stop tokens
  | pattern {tokens point rest : List Token} {element : Element} :
      (pattern depth).read tokens = .done element (point ++ rest) → IsOptional ["."] point →
      IsTurn depth tokens (.more [element]) rest
  | point {tokens rest : List Token} {list : List Triple} {point : Token} :
      (triples depth).read tokens = .done list (point :: rest) → point.isSymbol ["."] = true →
      IsTurn depth tokens (.more (list.map .triple)) rest
  | before {tokens rest : List Token} {list : List Triple} : (triples depth).read tokens = .done list rest →
      rest.head?.any startsPattern = true → IsTurn depth tokens (.more (list.map .triple)) rest
  | last {tokens rest : List Token} {list : List Triple} : (triples depth).read tokens = .done list rest →
      IsTurn depth tokens (.last (list.map .triple)) rest

theorem startsNode_rest {starts : Bool} (read : startsNode.read tokens = .done starts rest) : tokens = rest := by
  obtain ⟨found, _, ahead, further⟩ := bind_done.mp read
  obtain ⟨-, rfl⟩ := next_done.mp ahead
  cases found <;> exact (Reading.done.inj further).2

theorem isTurn_of_read {turned : Turn (List Element)} (read : (elements depth).read tokens = .done turned rest) :
    IsTurn depth tokens turned rest := by
  obtain ⟨closes, _, ahead, further⟩ := bind_done.mp read
  obtain ⟨brace, rfl⟩ := next_done.mp ahead
  cases closes with
  | true =>
    obtain ⟨rfl, rfl⟩ := pure_done.mp further
    exact .stop brace
  | false =>
    obtain ⟨starts, _, ahead, further⟩ := bind_done.mp further
    obtain ⟨-, rfl⟩ := next_done.mp ahead
    cases starts with
    | true =>
      obtain ⟨element, between, elementRead, further⟩ := bind_done.mp further
      obtain ⟨_ | _, _, accepted, gives⟩ := bind_done.mp further
      · obtain ⟨rfl, -⟩ := accept_false.mp accepted
        obtain ⟨rfl, rfl⟩ := pure_done.mp gives
        exact .pattern (show (pattern depth).read tokens = .done element ([] ++ between) from elementRead) .none
      · obtain ⟨point, rfl, is⟩ := accept_true.mp accepted
        obtain ⟨rfl, rfl⟩ := pure_done.mp gives
        exact .pattern (show (pattern depth).read tokens = .done element ([point] ++ _) from elementRead) (.some is)
    | false =>
      obtain ⟨_ | _, _, looked, further⟩ := bind_done.mp further
      · obtain ⟨_, _, -, refused⟩ := bind_done.mp further
        exact (refuse_done.mp refused).elim
      · obtain rfl := startsNode_rest looked
        obtain ⟨list, between, listRead, afterTriples⟩ := bind_done.mp further
        obtain ⟨_ | _, _, accepted, further⟩ := bind_done.mp afterTriples
        · obtain ⟨rfl, -⟩ := accept_false.mp accepted
          obtain ⟨_ | _, _, ahead, gives⟩ := bind_done.mp further
          · obtain ⟨-, rfl⟩ := next_done.mp ahead
            obtain ⟨rfl, rfl⟩ := pure_done.mp gives
            exact .last listRead
          · obtain ⟨starts, rfl⟩ := next_done.mp ahead
            obtain ⟨rfl, rfl⟩ := pure_done.mp gives
            exact .before listRead starts
        · obtain ⟨point, whole, is⟩ := accept_true.mp accepted
          obtain ⟨rfl, rfl⟩ := pure_done.mp further
          subst whole
          exact .point listRead is

/-- **Where a turn is read no point and no further alternative comes next.** -/
theorem IsTurn.apart {turned : Turn (List Element)} (h : IsTurn depth tokens turned rest) :
    tokens.head?.any (·.isSymbol ["."]) = false ∧ tokens.head?.any (·.spells ["UNION"]) = false := by
  cases h with
  | stop brace =>
    exact ⟨next_apart brace fun closes => (closing_apart closes).1,
      next_apart brace fun closes => (closing_apart closes).2.1⟩
  | pattern read =>
    have starts := pattern_starts read
    exact ⟨next_apart starts fun starts => (startsPattern_apart starts).1,
      next_apart starts fun starts => (startsPattern_apart starts).2.1⟩
  | point read => exact triples_apart read
  | before read => exact triples_apart read
  | last read => exact triples_apart read

theorem loop_apart {lists : List (List Element)} (read : (loop (elements depth)).read tokens = .done lists rest) :
    tokens.head?.any (·.isSymbol ["."]) = false ∧ tokens.head?.any (·.spells ["UNION"]) = false := by
  rw [loop_unroll (.elements id)] at read
  obtain ⟨turned, between, turnRead, -⟩ := bind_done.mp read
  exact (isTurn_of_read turnRead).apart

/-- A block starts with triples. -/
theorem startsTriples_of_block (hd : DepthDetached depth) {elements : List Element}
    (h : IsBlockOfTriples depth tokens elements) (more : List Token) : StartsTriples (tokens ++ more) := by
  cases h with
  | last whole => exact startsTriples_of_triples hd whole _
  | point whole =>
    rw [List.append_assoc]
    exact startsTriples_of_triples hd whole _
  | more whole =>
    rw [List.append_assoc]
    exact startsTriples_of_triples hd whole _

end Reader

/-! ## Bodies behind triples and patterns -/

namespace IsGroupBody

variable {taken : List Token} {list : List Triple} {element : Element} {elements : List Element} {point : Token}

/-- A block of triples is a body. -/
theorem ofBlock (h : IsBlockOfTriples depth tokens elements) : IsGroupBody depth tokens elements := by
  have alone := IsGroupBody.body (.some h) .nil
  rwa [List.append_nil, List.flatten_nil, List.append_nil] at alone

/-- Behind a pattern, and perhaps a point. -/
theorem behindPattern (h : IsGroupBody depth tokens elements) (whole : (pattern depth).read taken = .done element [])
    {point : List Token} (isPoint : IsOptional ["."] point) :
    IsGroupBody depth (taken ++ (point ++ tokens)) (element :: elements) := by
  cases h with
  | @body block tokens elements lists isBlock patterns =>
    have more := IsGroupBody.body .none (.cons (.pattern whole isPoint isBlock) patterns)
    simpa only [List.nil_append, List.append_assoc, List.flatten_cons, List.cons_append] using more

/-- Behind triples with a point. -/
theorem behindPoint (h : IsGroupBody depth tokens elements) (whole : (triples depth).read taken = .done list [])
    (is : point.isSymbol ["."] = true) : IsGroupBody depth (taken ++ point :: tokens) (list.map .triple ++ elements) := by
  cases h with
  | @body block tokens elements lists isBlock patterns =>
    cases isBlock with
    | none =>
      have more := IsGroupBody.body (.some (.point whole is)) patterns
      simpa only [List.nil_append, List.append_assoc, List.cons_append] using more
    | some isBlock =>
      have more := IsGroupBody.body (.some (.more whole is isBlock)) patterns
      simpa only [List.append_assoc, List.cons_append] using more

/-- Behind triples without a point, where a pattern comes next. -/
theorem behindTriples (hd : DepthDetached depth) (h : IsGroupBody depth tokens elements)
    (whole : (triples depth).read taken = .done list []) {rest : List Token}
    (starts : (tokens ++ rest).head?.any startsPattern = true) :
    IsGroupBody depth (taken ++ tokens) (list.map .triple ++ elements) := by
  cases h with
  | @body block tokens elements lists isBlock patterns =>
    cases isBlock with
    | none => exact .body (.some (.last whole)) patterns
    | some isBlock =>
      have other := (startsTriples_of_block hd isBlock (tokens ++ rest)).not_startsPattern.2
      rw [← List.append_assoc, starts] at other
      cases other

end IsGroupBody

namespace Reader

/-! ## From tokens to sentences -/

section Depth

variable (hd : DepthDetached depth) (ht : DepthTracks Likeness.same.lenient depth depth)

include hd in
/-- Triples that are read in front of tokens that do not continue them are read whole. -/
theorem triples_whole {taken : List Token} {list : List Triple}
    (read : (triples depth).read (taken ++ rest) = .done list rest) (ends : rest.head?.any continuesList = false) :
    (triples depth).read taken = .done list [] := by
  have whole := Detached.triples hd (.inr ⟨ends, (rfl : ([] : List Token).head?.any continuesList = false)⟩) read
  rwa [List.append_nil] at whole

include hd in
theorem triples_append {taken : List Token} {list : List Triple} (whole : (triples depth).read taken = .done list [])
    (ends : rest.head?.any continuesList = false) : (triples depth).read (taken ++ rest) = .done list rest := by
  rw [← List.append_nil taken] at whole
  exact Detached.triples hd (.inr ⟨rfl, ends⟩) whole

include ht in
theorem pattern_whole {taken : List Token} {element : Element}
    (read : (pattern depth).read (taken ++ rest) = .done element rest)
    (ends : rest.head?.any (·.spells ["UNION"]) = false) :
    (pattern depth).read taken = .done element [] := by
  have whole := Detached.pattern ht (.inr ⟨ends, (rfl : ([] : List Token).head?.any (·.spells ["UNION"]) = false)⟩) read
  rwa [List.append_nil] at whole

include ht in
theorem pattern_append {taken : List Token} {element : Element} (whole : (pattern depth).read taken = .done element [])
    (ends : rest.head?.any (·.spells ["UNION"]) = false) : (pattern depth).read (taken ++ rest) = .done element rest := by
  rw [← List.append_nil taken] at whole
  exact Detached.pattern ht (.inr ⟨rfl, ends⟩) whole

include hd ht in
/-- **What the loop reads up to a closing brace is a sentence.** -/
theorem isGroupBody_of_read {lists : List (List Element)} (closes : closing.isSymbol ["\x7d"] = true)
    (read : (loop (elements depth)).read tokens = .done lists (closing :: rest)) :
    ∃ body, tokens = body ++ closing :: rest ∧ IsGroupBody depth body lists.flatten := by
  induction length : tokens.length using Nat.strong_induction_on generalizing tokens lists with
  | _ n ih =>
  subst length
  rw [loop_unroll (.elements id)] at read
  obtain ⟨turned, between, turnRead, further⟩ := bind_done.mp read
  -- behind a turn that goes on there is a body again
  have behind {list : List Element} (more : turned = .more list) : ∃ body elements,
      between = body ++ closing :: rest ∧ IsGroupBody depth body elements ∧ lists.flatten = list ++ elements ∧
        between.head?.any (·.spells ["UNION"]) = false := by
    subst more
    obtain ⟨others, _, othersRead, gives⟩ := bind_done.mp further
    obtain ⟨rfl, rfl⟩ := pure_done.mp gives
    have less := Progress.elements (P := Turn.GoesOn) id turnRead trivial
    obtain ⟨body, whole, sentence⟩ := ih _ less othersRead rfl
    exact ⟨body, _, whole, sentence, rfl, (loop_apart othersRead).2⟩
  cases isTurn_of_read turnRead with
  | stop brace =>
    obtain ⟨rfl, rfl⟩ := pure_done.mp further
    exact ⟨[], rfl, .body .none .nil⟩
  | last listRead =>
    obtain ⟨rfl, rfl⟩ := pure_done.mp further
    obtain ⟨taken, rfl⟩ := exists_taken listRead
    rw [List.flatten_singleton]
    exact ⟨taken, rfl, .ofBlock (.last (triples_whole hd listRead (closing_apart closes).2.2))⟩
  | @pattern point between element elementRead isPoint =>
    obtain ⟨body, elements, rfl, sentence, same, apart⟩ := behind rfl
    obtain ⟨taken, rfl⟩ := exists_taken elementRead
    have ends : (point ++ (body ++ closing :: rest)).head?.any (·.spells ["UNION"]) = false := by
      cases isPoint with
      | none => exact apart
      | some is => exact not_spells_of_isSymbol is _
    rw [same]
    refine ⟨taken ++ (point ++ body), ?_, sentence.behindPattern (pattern_whole ht elementRead ends) isPoint⟩
    rw [List.append_assoc, List.append_assoc]
  | @point between list point listRead is =>
    obtain ⟨body, elements, rfl, sentence, same, -⟩ := behind rfl
    obtain ⟨taken, rfl⟩ := exists_taken listRead
    have whole := triples_whole hd listRead (continuesList_symbol is (by decide) (by decide))
    rw [same]
    refine ⟨taken ++ point :: body, ?_, sentence.behindPoint whole is⟩
    rw [List.append_assoc]
    rfl
  | before listRead starts =>
    obtain ⟨body, elements, rfl, sentence, same, -⟩ := behind rfl
    obtain ⟨taken, rfl⟩ := exists_taken listRead
    have ends := next_apart starts fun starts => (startsPattern_apart starts).2.2
    rw [same]
    exact ⟨taken ++ body, (List.append_assoc ..).symm,
      sentence.behindTriples hd (triples_whole hd listRead ends) starts⟩

/-! ## From sentences to tokens -/

/-- A closing brace, or a pattern, comes next. -/
def EndsTriples (tokens : List Token) : Prop :=
  tokens.head?.any (fun token => token.isSymbol ["\x7d"] || startsPattern token) = true

theorem EndsTriples.apart (h : EndsTriples tokens) :
    tokens.head?.any (·.isSymbol ["."]) = false ∧ tokens.head?.any continuesList = false := by
  have apart {token : Token} (ends : (token.isSymbol ["\x7d"] || startsPattern token) = true) :
      token.isSymbol ["."] = false ∧ continuesList token = false := by
    rcases (Bool.or_eq_true _ _).mp ends with closes | starts
    · exact ⟨(closing_apart closes).1, (closing_apart closes).2.2⟩
    · exact ⟨(startsPattern_apart starts).1, (startsPattern_apart starts).2.2⟩
  exact ⟨next_apart h fun ends => (apart ends).1, next_apart h fun ends => (apart ends).2⟩

theorem loop_stop (closes : closing.isSymbol ["\x7d"] = true) :
    (loop (elements depth)).read (closing :: rest) = .done [] (closing :: rest) := by
  rw [loop_unroll (.elements id)]
  exact bind_done.mpr ⟨.stop, _, elements_stop closes, rfl⟩

/-- The loop goes on behind a turn. -/
theorem loop_more {list : List Element} {lists : List (List Element)}
    (turn : (elements depth).read tokens = .done (.more list) between)
    (read : (loop (elements depth)).read between = .done lists rest) :
    (loop (elements depth)).read tokens = .done (list :: lists) rest := by
  rw [loop_unroll (.elements id)]
  exact bind_done.mpr ⟨.more list, between, turn, bind_done.mpr ⟨lists, rest, read, rfl⟩⟩

include hd in
/-- **A block is read** in front of a pattern or the end. -/
theorem loop_block {elements : List Element} {lists : List (List Element)} {block : List Token}
    (h : IsBlockOfTriples depth block elements) (ends : EndsTriples tokens)
    (read : (loop (Reader.elements depth)).read tokens = .done lists (closing :: rest)) :
    ∃ lists', (loop (Reader.elements depth)).read (block ++ tokens) = .done lists' (closing :: rest) ∧
      lists'.flatten = elements ++ lists.flatten := by
  have pointed {taken : List Token} {list : List Triple} {point : Token} {between : List Token}
      {lists : List (List Element)} (whole : (triples depth).read taken = .done list [])
      (is : point.isSymbol ["."] = true)
      (read : (loop (Reader.elements depth)).read between = .done lists (closing :: rest)) :
      (loop (Reader.elements depth)).read (taken ++ point :: between) =
        .done (list.map .triple :: lists) (closing :: rest) := by
    refine loop_more (elements_reads (startsTriples_of_triples hd whole _) ?_ (afterTriples_more is)) read
    exact triples_append hd whole (continuesList_symbol is (by decide) (by decide))
  induction h with
  | @last taken list whole =>
    have starts := startsTriples_of_triples hd whole tokens
    have listRead := triples_append hd whole ends.apart.2
    cases patternNext : tokens.head?.any startsPattern with
    | true =>
      refine ⟨_, loop_more (elements_reads starts listRead ?_) read, rfl⟩
      refine bind_done.mpr ⟨false, _, accept_false.mpr ⟨rfl, ends.apart.1⟩, ?_⟩
      exact bind_done.mpr ⟨true, _, next_done.mpr ⟨patternNext, rfl⟩, rfl⟩
    | false =>
      -- then the group ends, and the loop with it
      obtain ⟨brace, ahead, stops⟩ := (Option.any_eq_true _ _).mp ends
      obtain ⟨others, rfl⟩ := List.head?_eq_some_iff.mp ahead
      have closes := ((Bool.or_eq_true _ _).mp stops).resolve_right (Bool.eq_false_iff.mp patternNext)
      obtain ⟨rfl, same⟩ := Reading.done.inj ((loop_stop closes).symm.trans read)
      rw [← same]
      refine ⟨[list.map .triple], ?_, rfl⟩
      rw [loop_unroll (.elements id)]
      exact bind_done.mpr ⟨_, _, elements_reads starts listRead (afterTriples_last closes), rfl⟩
  | @point taken list point whole is =>
    rw [List.append_assoc]
    exact ⟨_, pointed whole is read, rfl⟩
  | @more taken others list elements point whole is _ ih =>
    obtain ⟨lists', read', same⟩ := ih
    rw [List.append_assoc]
    refine ⟨_, pointed whole is read', ?_⟩
    rw [List.flatten_cons, same, List.append_assoc]

include hd in
/-- An optional block is read there. -/
theorem loop_optional {elements : List Element} {lists : List (List Element)} {block : List Token}
    (h : IsOptionalBlock depth block elements) (ends : EndsTriples tokens)
    (read : (loop (Reader.elements depth)).read tokens = .done lists (closing :: rest)) :
    ∃ lists', (loop (Reader.elements depth)).read (block ++ tokens) = .done lists' (closing :: rest) ∧
      lists'.flatten = elements ++ lists.flatten := by
  cases h with
  | none => exact ⟨lists, read, rfl⟩
  | some block => exact loop_block hd block ends read

/-- A pattern is read with the point behind it. -/
theorem elements_pattern {element : Element} {point : List Token}
    (read : (pattern depth).read tokens = .done element (point ++ between)) (isPoint : IsOptional ["."] point)
    (noPoint : between.head?.any (·.isSymbol ["."]) = false) :
    (elements depth).read tokens = .done (.more [element]) between := by
  have starts := pattern_starts read
  have brace : tokens.head?.any (·.isSymbol ["\x7d"]) = false := by
    refine next_apart starts fun starts => ?_
    rcases (Bool.or_eq_true _ _).mp starts with opens | word
    · exact Token.isSymbol_apart opens (by decide)
    · exact isSymbol_of_spells word _
  refine bind_done.mpr ⟨false, tokens, next_done.mpr ⟨brace, rfl⟩, ?_⟩
  refine bind_done.mpr ⟨true, tokens, next_done.mpr ⟨starts, rfl⟩, bind_done.mpr ⟨element, _, read, ?_⟩⟩
  cases isPoint with
  | none => exact bind_done.mpr ⟨false, _, accept_false.mpr ⟨rfl, noPoint⟩, rfl⟩
  | @some point is => exact bind_done.mpr ⟨true, _, accept_true.mpr ⟨point, rfl, is⟩, rfl⟩

include hd ht in
/-- **Patterns are read** up to the end. -/
theorem loop_patterns {lists : List (List Element)} (h : IsSequence (IsPatternBlock depth) tokens lists)
    (closes : closing.isSymbol ["\x7d"] = true) : EndsTriples (tokens ++ closing :: rest) ∧
      ∃ lists', (loop (elements depth)).read (tokens ++ closing :: rest) = .done lists' (closing :: rest) ∧
        lists'.flatten = lists.flatten := by
  induction h with
  | nil => exact ⟨(Bool.or_eq_true _ _).mpr (.inl closes), [], loop_stop closes, rfl⟩
  | cons first _ ih =>
    obtain ⟨ends, lists', read, same⟩ := ih
    cases first with
    | @pattern taken point block element elements whole isPoint isBlock =>
      obtain ⟨lists'', blockRead, same'⟩ := loop_optional hd isBlock ends read
      obtain ⟨noPoint, apart⟩ := loop_apart blockRead
      simp only [List.append_assoc]
      generalize block ++ (_ ++ closing :: rest) = behind at blockRead noPoint apart ⊢
      have following : (point ++ behind).head?.any (·.spells ["UNION"]) = false := by
        cases isPoint with
        | none => exact apart
        | some is => exact not_spells_of_isSymbol is _
      have elementRead := pattern_append ht whole following
      refine ⟨?_, [element] :: lists'', loop_more (elements_pattern elementRead isPoint noPoint) blockRead, ?_⟩
      · obtain ⟨token, ahead, starts⟩ := (Option.any_eq_true _ _).mp (pattern_starts elementRead)
        exact (Option.any_eq_true _ _).mpr ⟨token, ahead, (Bool.or_eq_true _ _).mpr (.inr starts)⟩
      · rw [List.flatten_cons, same', same]
        rfl

end Depth

end Reader

/-- **The grammar of group bodies.** Where one more bracket may open and no inner selection comes next, a group is read
exactly if the tokens up to its closing brace are a body, and then it holds the elements of the body in their order. -/
theorem group_sentences (brackets : Nat) {opening : Token} {tokens : List Token}
    (opens : opening.isSymbol ["\x7b"] = true) (plain : tokens.head?.any (·.spells ["SELECT"]) = false)
    (found : Group) (rest : List Token) :
    (group (inside (brackets + 1))).read (opening :: tokens) = .done found rest ↔
      ∃ body closing elements, tokens = body ++ closing :: rest ∧ closing.isSymbol ["\x7d"] = true ∧
        IsGroupBody (inside brackets) body elements ∧ found = .pattern elements := by
  have hd := Detached.inside brackets
  have ht : DepthTracks Likeness.same.lenient (inside brackets) (inside brackets) := inside_tracks (.inl rfl)
  constructor
  · intro read
    obtain ⟨_, _, opened, inner⟩ := bind_done.mp read
    obtain ⟨whole, -⟩ := require_done.mp opened
    cases whole
    obtain ⟨_, _, entered, inner⟩ := bind_done.mp inner
    cases entered
    obtain ⟨content_, _, contentRead, shuts⟩ := bind_done.mp inner
    obtain ⟨closing, _, closes, gives⟩ := bind_done.mp shuts
    obtain ⟨rfl, isClosing⟩ := close_done.mp closes
    obtain ⟨rfl, rfl⟩ := pure_done.mp gives
    obtain ⟨selects, _, ahead, contentRead⟩ := bind_done.mp contentRead
    obtain ⟨select, rfl⟩ := next_done.mp ahead
    obtain rfl := plain.symm.trans select
    obtain ⟨lists, _, read, gives⟩ := bind_done.mp contentRead
    obtain ⟨rfl, rfl⟩ := pure_done.mp gives
    obtain ⟨body, whole, sentence⟩ := isGroupBody_of_read hd ht isClosing read
    exact ⟨body, closing, lists.flatten, whole, isClosing, sentence, rfl⟩
  · rintro ⟨_, closing, _, rfl, closes, @⟨block, tokens, elements, lists, isBlock, patterns⟩, rfl⟩
    obtain ⟨ends, lists', patternsRead, same⟩ := loop_patterns hd ht patterns closes
    obtain ⟨lists'', read, same'⟩ := loop_optional hd isBlock ends patternsRead
    rw [List.append_assoc] at plain ⊢
    rw [← same, ← same']
    exact group_reads opens plain read closes

/-- Triples with a point, a constraint, and triples behind it without one. -/
theorem group_sentences_filter :
    let mark (symbol : Char) : Token := ⟨.punctuation, [symbol], .start⟩
    let var (name : Char) : Token := ⟨.var, ['?', name], .start⟩
    let filter : Token := ⟨.keyword, "FILTER".toList, .start⟩
    let first := [var 's', var 'p', var 'o', mark '.']
    let constraint := [filter, mark '(', var 'o', mark ')']
    let second := [var 'o', var 'p', var 's']
    (group (inside 2)).read (mark '\x7b' :: (first ++ constraint ++ second ++ [mark '\x7d'])) =
        .done (.pattern [.triple ⟨.var ['s'], .var ['p'], .var ['o']⟩, .filter ⟨"?o".toList, [['o']], []⟩,
          .triple ⟨.var ['o'], .var ['p'], .var ['s']⟩]) [] := by
  intro mark var filter first constraint second
  have firstRead : (triples (inside 1)).read [var 's', var 'p', var 'o'] =
      .done [⟨.var ['s'], .var ['p'], .var ['o']⟩] [] := rfl
  have secondRead : (triples (inside 1)).read second = .done [⟨.var ['o'], .var ['p'], .var ['s']⟩] [] := rfl
  have filterRead : (pattern (inside 1)).read constraint = .done (.filter ⟨"?o".toList, [['o']], []⟩) [] := rfl
  have block := IsBlockOfTriples.point firstRead (rfl : (mark '.').isSymbol ["."] = true)
  have patterns := IsSequence.cons (IsPatternBlock.pattern filterRead .none (.some (.last secondRead))) .nil
  have body := IsGroupBody.body (.some block) patterns
  exact (group_sentences 1 rfl rfl _ _).mpr ⟨first ++ constraint ++ second, mark '\x7d', _, rfl, rfl, body, rfl⟩

end QuerySignature
