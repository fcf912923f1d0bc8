import QuerySignature.Proofs.Outcome.Ceilings
import QuerySignature.Proofs.Path.Grammar
import QuerySignature.Proofs.Triples.Detached

/-!
# Proofs/Triples/Abbreviations — separators stand for repeated subjects and verbs

    { s v a , b ; ; w c ; }      { s v a . s v b . s w c . }

A property list behind a subject is read as the triples that repeat the subject for every verb and the verb for every
object (`IsAbbreviated`, `IsExpanded`); and a property list in brackets that stands alone is read as one behind empty
brackets.  So both ways to write a group are read as the same elements (`group_abbreviated`).  No object may start
with a plus, which would repeat the path in front of it.
-/

namespace QuerySignature

open Reader

variable {depth : Option Inside} {tokens rest between others : List Token} {opening closing : Token}

/-! ## Two ways to write triples -/

/-- **The tokens are read whole as a node**, and continue no path that stands in front of them. -/
structure IsObject (depth : Option Inside) (object : Node) (tokens : List Token) : Prop where
  whole : (node depth).read tokens = .done object []
  plain : tokens.head?.any (·.isSymbol ["+"]) = false

/-- **Objects with commas between them.** -/
inductive IsObjects (depth : Option Inside) : List Node → List Token → Prop where
  | one {object : Node} {tokens : List Token} : IsObject depth object tokens → IsObjects depth [object] tokens
  | more {object : Node} {objects : List Node} {tokens others : List Token} {comma : Token} :
      IsObject depth object tokens → comma.isSymbol [","] = true → IsObjects depth objects others →
      IsObjects depth (object :: objects) (tokens ++ comma :: others)

/-- **Verbs with their objects**, with semicolons between and perhaps behind them. -/
inductive IsAbbreviated (depth : Option Inside) : List (Verb × Node) → List Token → Prop where
  | one {name : Verb} {objects : List Node} {starts tokens semicolons : List Token} :
      (verb depth).read starts = .done name [] → IsObjects depth objects tokens →
      (∀ token ∈ semicolons, token.isSymbol [";"] = true) →
      IsAbbreviated depth (objects.map (name, ·)) (starts ++ (tokens ++ semicolons))
  | more {name : Verb} {objects : List Node} {pairs : List (Verb × Node)} {starts tokens semicolons others : List Token}
      {semicolon : Token} : (verb depth).read starts = .done name [] → IsObjects depth objects tokens →
      (∀ token ∈ semicolon :: semicolons, token.isSymbol [";"] = true) → IsAbbreviated depth pairs others →
      IsAbbreviated depth (objects.map (name, ·) ++ pairs) (starts ++ (tokens ++ semicolon :: (semicolons ++ others)))

/-- **Triples that are written out**, each with a point behind it. -/
inductive IsExpanded (depth : Option Inside) (subject : Node) : List (Verb × Node) → List Token → Prop where
  | nil : IsExpanded depth subject [] []
  | cons {name : Verb} {object : Node} {pairs : List (Verb × Node)} {starts middle ends others : List Token}
      {point : Token} : (node depth).read starts = .done subject [] → (verb depth).read middle = .done name [] →
      IsObject depth object ends → point.isSymbol ["."] = true → IsExpanded depth subject pairs others →
      IsExpanded depth subject ((name, object) :: pairs) (starts ++ (middle ++ (ends ++ point :: others)))

/-- **Tokens in braces**, and others behind the closing one. -/
inductive InBraces (tokens rest : List Token) : List Token → Prop where
  | braces {opening closing : Token} : opening.isSymbol ["\x7b"] = true → closing.isSymbol ["\x7d"] = true →
      InBraces tokens rest (opening :: (tokens ++ closing :: rest))

namespace Reader

/-! ## First tokens -/

theorem isAtom_isSymbol {token : Token} (h : isAtom token = true) (symbols : List String) :
    token.isSymbol symbols = false := by
  refine Bool.eq_false_iff.mpr fun holds => ?_
  rcases kind_of_isAtom h with kind | kind | kind | kind <;> rw [kind_of_isSymbol holds] at kind <;> cases kind

/-- **A node starts** with an atom, a bracket, or a sign and its number. -/
theorem node_starts {found : Node} (read : (node depth).read tokens = .done found rest) :
    tokens.head?.any (fun token => isAtom token || token.isSymbol ["[", "("]) = true ∨
      ∃ sign number others, tokens = sign :: number :: others ∧ sign.isSymbol ["+", "-"] = true ∧
        number.isNumeric = true := by
  have bracket {token : Token} {symbols : List String} (is : token.isSymbol symbols = true)
      (sub : symbols ⊆ ["[", "("]) : (isAtom token || token.isSymbol ["[", "("]) = true :=
    (Bool.or_eq_true _ _).mpr (.inr (Token.isSymbol_mono is sub))
  obtain ⟨_ | pair, between, accepted, others⟩ := bind_done.mp read
  case some =>
    obtain ⟨rfl, opens, -⟩ := acceptTwo?_some.mp accepted
    exact .inl (bracket opens (by decide))
  obtain rfl := acceptTwo?_none accepted
  obtain ⟨found, _, opened, others⟩ := bind_done.mp others
  rcases open?_done opened with ⟨rfl, rfl, -⟩ | ⟨_, _, -, -, rfl, opens⟩
  case inr => exact .inl (bracket opens (by decide))
  obtain ⟨found, _, opened, others⟩ := bind_done.mp others
  rcases open?_done opened with ⟨rfl, rfl, -⟩ | ⟨_, _, -, -, rfl, opens⟩
  case inr => exact .inl (bracket opens (by decide))
  obtain ⟨_ | token, between, accepted, others⟩ := bind_done.mp others
  case some =>
    obtain ⟨rfl, is⟩ := accept?_some.mp accepted
    exact .inl ((Bool.or_eq_true _ _).mpr (.inl is))
  obtain ⟨rfl, -⟩ := accept?_none.mp accepted
  obtain ⟨_ | number, between, signed, gives⟩ := bind_done.mp others
  case none => exact (refuse_done.mp gives).elim
  obtain ⟨sign, digits, rfl, isSign, isNumber, -⟩ := (signedNumber?_done signed).1 number rfl
  exact .inr ⟨sign, digits, _, rfl, isSign, isNumber⟩

/-- **Where a node can be read, one can start**, and no pattern of another kind. -/
theorem startsNode_of_read {found : Node} (read : (node depth).read tokens = .done found []) (rest : List Token) :
    startsNode.read (tokens ++ rest) = .done true (tokens ++ rest) ∧
      ∃ first others, tokens = first :: others ∧ first.kind ≠ .keyword ∧ first.isSymbol ["\x7b", "\x7d"] = false ∧
        (first.isSymbol ["+"] = false → continuesPath first = false) := by
  rcases node_starts read with starts | ⟨sign, number, others, rfl, isSign, isNumber⟩
  · obtain ⟨first, others, rfl⟩ : ∃ first others, tokens = first :: others := by
      cases tokens with
      | nil => cases starts
      | cons first others => exact ⟨first, others, rfl⟩
    refine ⟨bind_done.mpr ⟨true, _, next_done.mpr ⟨starts, rfl⟩, rfl⟩, first, others, rfl, ?_⟩
    rcases (Bool.or_eq_true _ _).mp starts with atom | bracket
    · refine ⟨?_, isAtom_isSymbol atom _, fun _ => isAtom_isSymbol atom _⟩
      rcases kind_of_isAtom atom with kind | kind | kind | kind <;> rw [kind] <;> decide
    · refine ⟨?_, Token.isSymbol_apart bracket (by decide), fun _ => Token.isSymbol_apart bracket (by decide)⟩
      rw [kind_of_isSymbol bracket]
      decide
  · have other : (isAtom sign || sign.isSymbol ["[", "("]) = false := by
      rw [Token.isSymbol_apart isSign (by decide), isAtom, kind_of_isSymbol isSign]
      rfl
    have two : (nextTwo (·.isSymbol ["+", "-"]) Token.isNumeric).read (sign :: number :: others ++ rest) =
        .done (sign.isSymbol ["+", "-"] && number.isNumeric) (sign :: number :: others ++ rest) := rfl
    rw [isSign, isNumber] at two
    refine ⟨bind_done.mpr ⟨false, _, next_done.mpr ⟨other, rfl⟩, two⟩, sign, _, rfl, ?_,
      Token.isSymbol_apart isSign (by decide), fun plain => ?_⟩
    · rw [kind_of_isSymbol isSign]
      decide
    · rw [Token.isSymbol_cons, plain, Bool.false_or] at isSign
      exact Token.isSymbol_apart isSign (by decide)

/-- A verb starts like one. -/
theorem verb_starts {name : Verb} (read : (verb depth).read tokens = .done name rest) :
    tokens.head?.any startsVerb = true := by
  obtain ⟨_ | token, between, accepted, further⟩ := bind_done.mp read
  · obtain ⟨rfl, -⟩ := accept?_none.mp accepted
    obtain ⟨starts, _, ahead, chosen⟩ := bind_done.mp further
    obtain ⟨holds, rfl⟩ := next_done.mp ahead
    cases starts with
    | true => exact holds
    | false => exact (refuse_done.mp chosen).elim
  · obtain ⟨rfl, var⟩ := accept?_some.mp accepted
    rw [List.head?_cons, Option.any_some, startsVerb, var]
    rfl

/-- What starts a verb is no separator. -/
theorem startsVerb_apart {token : Token} (h : startsVerb token = true) {symbols : List String}
    (apart : ∀ text ∈ ["^", "(", "!"].map String.toList, text ∉ symbols.map String.toList) :
    token.isSymbol symbols = false := by
  rcases (Bool.or_eq_true _ _).mp h with other | symbol
  · rcases (Bool.or_eq_true _ _).mp other with var | step
    · refine Bool.eq_false_iff.mpr fun holds => ?_
      cases (kind_of_isSymbol holds).symm.trans (of_decide_eq_true var)
    · exact isStep_isSymbol step symbols
  · exact Token.isSymbol_apart symbol apart

/-- Where a verb can start no separator comes next. -/
theorem head_apart (h : rest.head?.any startsVerb = true) {symbols : List String}
    (apart : ∀ text ∈ ["^", "(", "!"].map String.toList, text ∉ symbols.map String.toList) :
    rest.head?.any (·.isSymbol symbols) = false := by
  cases rest with
  | nil => rfl
  | cons token rest => exact startsVerb_apart h apart

/-! ## Objects -/

/-- An object behind a comma, if there is one. -/
def objectBehind (depth : Option Inside) : Reader (Option Node) := do
  if ← accept (·.isSymbol [","]) then return some (← node depth) else return none

theorem objects_eq (depth : Option Inside) :
    objects depth = (do
      let first ← node depth
      let others ← many (objectBehind depth)
      return first :: others) := rfl

theorem Progress.objectBehind : Progress Found (Reader.objectBehind depth) := .orElse' (.pure nofun)

/-- The last object. -/
theorem objects_one {object : Node} (read : (node depth).read tokens = .done object rest)
    (ends : rest.head?.any (·.isSymbol [","]) = false) : (objects depth).read tokens = .done [object] rest := by
  have none_ : (objectBehind depth).read rest = .done none rest :=
    bind_done.mpr ⟨false, rest, accept_false.mpr ⟨rfl, ends⟩, rfl⟩
  rw [objects_eq]
  exact bind_done.mpr ⟨object, rest, read, bind_done.mpr ⟨[], rest,
    (many_done Progress.objectBehind).mpr (.inl ⟨rfl, none_⟩), rfl⟩⟩

/-- An object in front of others. -/
theorem objects_more {object : Node} {list : List Node} {comma : Token}
    (read : (node depth).read tokens = .done object (comma :: between)) (is : comma.isSymbol [","] = true)
    (further : (objects depth).read between = .done list rest) :
    (objects depth).read tokens = .done (object :: list) rest := by
  rw [objects_eq] at further ⊢
  obtain ⟨second, behind, secondRead, further⟩ := bind_done.mp further
  obtain ⟨later, _, laterRead, gives⟩ := bind_done.mp further
  obtain ⟨rfl, rfl⟩ := pure_done.mp gives
  have found : (objectBehind depth).read (comma :: between) = .done (some second) behind :=
    bind_done.mpr ⟨true, between, accept_true.mpr ⟨comma, rfl, is⟩, bind_done.mpr ⟨second, behind, secondRead, rfl⟩⟩
  exact bind_done.mpr ⟨object, _, read, bind_done.mpr ⟨second :: later, _,
    (many_done Progress.objectBehind).mpr (.inr ⟨second, later, behind, rfl, found, laterRead⟩), rfl⟩⟩

variable (hd : DepthDetached depth)
include hd

/-- What is read whole is read in front of anything. -/
theorem node_append {found : Node} (whole : (node depth).read tokens = .done found []) (rest : List Token) :
    (node depth).read (tokens ++ rest) = .done found rest := by
  rw [← List.append_nil tokens] at whole
  exact Detached.node (p := nothing) hd (.inr ⟨rfl, by cases rest <;> rfl⟩) whole

theorem objects_reads {list : List Node} (h : IsObjects depth list tokens)
    (ends : rest.head?.any (·.isSymbol [","]) = false) : (objects depth).read (tokens ++ rest) = .done list rest := by
  induction h with
  | one object => exact objects_one (node_append hd object.whole rest) ends
  | more object is _ ih =>
    rw [List.append_assoc]
    exact objects_more (node_append hd object.whole _) is ih

/-! ## Property lists -/

omit hd in
/-- Semicolons, up to what is none. -/
theorem semicolons_read {semicolons : List Token} (are : ∀ token ∈ semicolons, token.isSymbol [";"] = true)
    (ends : rest.head?.any (·.isSymbol [";"]) = false) :
    (many (accept? (·.isSymbol [";"]))).read (semicolons ++ rest) = .done semicolons rest := by
  induction semicolons with
  | nil => exact (many_done .accept?).mpr (.inl ⟨rfl, accept?_none.mpr ⟨rfl, ends⟩⟩)
  | cons token semicolons ih =>
    obtain ⟨is, others⟩ := List.forall_mem_cons.mp are
    exact (many_done .accept?).mpr (.inr ⟨token, semicolons, _, rfl, accept?_some.mpr ⟨rfl, is⟩, ih others⟩)

/-- A verb in front of objects. -/
theorem verb_append {name : Verb} {starts : List Token} {list : List Node} (whole : (verb depth).read starts = .done name [])
    (objects : IsObjects depth list tokens) (rest : List Token) :
    (verb depth).read (starts ++ (tokens ++ rest)) = .done name (tokens ++ rest) := by
  rw [← List.append_nil starts] at whole
  refine Detached.verb hd (.inr ⟨rfl, ?_⟩) whole
  have first {object : Node} {tokens : List Token} (h : IsObject depth object tokens) (rest : List Token) :
      (tokens ++ rest).head?.any continuesPath = false := by
    obtain ⟨-, first, others, rfl, -, -, continues⟩ := startsNode_of_read h.whole rest
    exact continues h.plain
  cases objects with
  | one object => exact first object rest
  | more object _ _ =>
    rw [List.append_assoc]
    exact first object _

omit hd in
/-- What follows the objects of a verb. -/
def afterObjects (list : List (Verb × Node)) : Reader (Turn (List (Verb × Node))) := do
  if ← accept (·.isSymbol [";"]) then
    let _ ← many (accept? (·.isSymbol [";"]))
    if ← next startsVerb then return .more list else return .last list
  else return .last list

/-- A verb and its objects. -/
theorem property_reads {name : Verb} {list : List Node} {starts : List Token} {turned : Turn (List (Verb × Node))}
    (whole : (verb depth).read starts = .done name []) (objects : IsObjects depth list tokens)
    (ends : between.head?.any (·.isSymbol [","]) = false)
    (further : (afterObjects (list.map (name, ·))).read between = .done turned rest) :
    (property depth).read (starts ++ (tokens ++ between)) = .done turned rest :=
  bind_done.mpr ⟨name, _, verb_append hd whole objects between,
    bind_done.mpr ⟨list, between, objects_reads hd objects ends, further⟩⟩

omit hd in
theorem afterObjects_last {list : List (Verb × Node)} {semicolons : List Token}
    (are : ∀ token ∈ semicolons, token.isSymbol [";"] = true) (semicolon : rest.head?.any (·.isSymbol [";"]) = false)
    (starts : rest.head?.any startsVerb = false) :
    (afterObjects list).read (semicolons ++ rest) = .done (.last list) rest := by
  cases semicolons with
  | nil => exact bind_done.mpr ⟨false, rest, accept_false.mpr ⟨rfl, semicolon⟩, rfl⟩
  | cons token semicolons =>
    obtain ⟨is, others⟩ := List.forall_mem_cons.mp are
    refine bind_done.mpr ⟨true, _, accept_true.mpr ⟨token, rfl, is⟩, ?_⟩
    refine bind_done.mpr ⟨semicolons, rest, semicolons_read others semicolon, ?_⟩
    exact bind_done.mpr ⟨false, rest, next_done.mpr ⟨starts, rfl⟩, rfl⟩

omit hd in
theorem afterObjects_more {list : List (Verb × Node)} {semicolon : Token} {semicolons : List Token}
    (are : ∀ token ∈ semicolon :: semicolons, token.isSymbol [";"] = true)
    (plain : rest.head?.any (·.isSymbol [";"]) = false) (starts : rest.head?.any startsVerb = true) :
    (afterObjects list).read (semicolon :: (semicolons ++ rest)) = .done (.more list) rest := by
  obtain ⟨is, others⟩ := List.forall_mem_cons.mp are
  refine bind_done.mpr ⟨true, _, accept_true.mpr ⟨semicolon, rfl, is⟩, ?_⟩
  refine bind_done.mpr ⟨semicolons, rest, semicolons_read others plain, ?_⟩
  exact bind_done.mpr ⟨true, rest, next_done.mpr ⟨starts, rfl⟩, rfl⟩

omit hd in
/-- What continues no list is no separator and starts no verb. -/
theorem continuesList_false (h : rest.head?.any continuesList = false) :
    rest.head?.any (·.isSymbol [","]) = false ∧ rest.head?.any (·.isSymbol [";"]) = false ∧
      rest.head?.any startsVerb = false := by
  cases rest with
  | nil => exact ⟨rfl, rfl, rfl⟩
  | cons token rest =>
    obtain ⟨separator, starts⟩ := Bool.or_eq_false_iff.mp h
    rw [Token.isSymbol_cons, Bool.or_eq_false_iff] at separator
    exact ⟨separator.1, separator.2, starts⟩

omit hd in
/-- Verbs with their objects start like a verb. -/
theorem abbreviated_starts {pairs : List (Verb × Node)} (h : IsAbbreviated depth pairs tokens) (rest : List Token) :
    (tokens ++ rest).head?.any startsVerb = true := by
  have first {name : Verb} {starts : List Token} (whole : (verb depth).read starts = .done name []) (rest : List Token) :
      (starts ++ rest).head?.any startsVerb = true := by
    have holds := verb_starts whole
    cases starts with
    | nil => cases holds
    | cons token starts => exact holds
  cases h with
  | one whole =>
    rw [List.append_assoc]
    exact first whole _
  | more whole =>
    rw [List.append_assoc]
    exact first whole _

/-- **Verbs with their objects are read as such.** -/
theorem properties_reads {pairs : List (Verb × Node)} (h : IsAbbreviated depth pairs tokens)
    (ends : rest.head?.any continuesList = false) : (properties depth).read (tokens ++ rest) = .done pairs rest := by
  obtain ⟨noComma, noSemicolon, starts⟩ := continuesList_false ends
  -- the loop gives one list for each verb
  suffices lists : ∃ lists, (loop (property depth)).read (tokens ++ rest) = .done lists rest ∧ lists.flatten = pairs by
    obtain ⟨lists, read, rfl⟩ := lists
    exact bind_done.mpr ⟨lists, rest, read, rfl⟩
  induction h with
  | @one _ _ _ _ semicolons whole objects are =>
    rw [loop_unroll .property, List.append_assoc, List.append_assoc]
    have plain : (semicolons ++ rest).head?.any (·.isSymbol [","]) = false := by
      cases semicolons with
      | nil => exact noComma
      | cons token semicolons => exact Token.isSymbol_apart (are token List.mem_cons_self) (by decide)
    exact ⟨_, bind_done.mpr ⟨_, _, property_reads hd whole objects plain (afterObjects_last are noSemicolon starts), rfl⟩,
      List.append_nil _⟩
  | @more name list _ _ _ semicolons others semicolon whole objects are listed ih =>
    obtain ⟨lists, read, rfl⟩ := ih
    rw [loop_unroll .property, List.append_assoc, List.append_assoc, List.cons_append, List.append_assoc]
    have starts := abbreviated_starts listed rest
    have further : (afterObjects (list.map (name, ·))).read _ = _ :=
      afterObjects_more are (head_apart starts (by decide)) starts
    have comma : (semicolon :: (semicolons ++ (others ++ rest))).head?.any (·.isSymbol [","]) = false :=
      Token.isSymbol_apart (List.forall_mem_cons.mp are).1 (by decide)
    exact ⟨_, bind_done.mpr ⟨_, _, property_reads hd whole objects comma further,
      bind_done.mpr ⟨lists, rest, read, rfl⟩⟩, rfl⟩

/-! ## Triples -/

/-- **A subject and its property list.** -/
theorem triples_reads {subject : Node} {pairs : List (Verb × Node)} {starts : List Token}
    (whole : (node depth).read starts = .done subject [])
    (ahead : (tokens ++ rest).head?.any startsVerb = true)
    (read : (properties depth).read (tokens ++ rest) = .done pairs rest) :
    (triples depth).read (starts ++ (tokens ++ rest)) = .done (Triple.ofSubject subject pairs) rest := by
  refine bind_done.mpr ⟨_, _, next_read _ _, bind_done.mpr ⟨_, _, rfl, ?_⟩⟩
  refine bind_done.mpr ⟨subject, _, node_append hd whole _, ?_⟩
  refine bind_done.mpr ⟨true, _, next_done.mpr ⟨ahead, rfl⟩, ?_⟩
  have others : (do return Triple.ofSubject subject (← properties depth) : Reader (List Triple)).read (tokens ++ rest) =
      .done (Triple.ofSubject subject pairs) rest := bind_done.mpr ⟨pairs, rest, read, rfl⟩
  rw [Bool.not_true, Bool.and_false]
  cases subject <;> exact others

omit hd in
/-- A property list starts like a verb. -/
theorem properties_starts {list : List (Verb × Node)} (read : (properties depth).read tokens = .done list rest) :
    tokens.head?.any startsVerb = true := by
  obtain ⟨lists, _, loopRead, -⟩ := bind_done.mp read
  rw [loop_unroll .property] at loopRead
  obtain ⟨turned, _, turnRead, -⟩ := bind_done.mp loopRead
  obtain ⟨name, _, verbRead, -⟩ := bind_done.mp turnRead
  exact verb_starts verbRead

omit hd in
/-- **A property list in brackets that stands alone.** -/
theorem triples_alone {brackets : Nat} {list : List (Verb × Node)} (opens : opening.isSymbol ["["] = true)
    (read : (properties (inside brackets)).read (tokens ++ closing :: rest) = .done list (closing :: rest))
    (closes : closing.isSymbol ["]"] = true) (ahead : rest.head?.any startsVerb = false) :
    (triples (inside (brackets + 1))).read (opening :: (tokens ++ closing :: rest)) =
      .done (Triple.ofSubject (.blank none) list) rest := by
  -- the brackets are not empty
  have full : (tokens ++ closing :: rest).head?.any (·.isSymbol ["]"]) = false :=
    head_apart (properties_starts read) (by decide)
  have missed : ((opening :: (tokens ++ closing :: rest)).head?.any (·.isSymbol ["["]) &&
      (opening :: (tokens ++ closing :: rest)).tail.head?.any (·.isSymbol ["]"])) = false := by
    rw [List.tail_cons, full, Bool.and_false]
  have nodeRead : (node (inside (brackets + 1))).read (opening :: (tokens ++ closing :: rest)) =
      .done (.properties list) rest := by
    refine bind_done.mpr ⟨none, _, (acceptTwo?_missed (Bool.not_eq_true _ ▸ missed)).1, ?_⟩
    refine bind_done.mpr ⟨_, _, open?_some rfl opens, bind_done.mpr ⟨list, _, read, ?_⟩⟩
    exact bind_done.mpr ⟨closing, rest, bind_done.mpr ⟨closing, rest, require_done.mpr ⟨rfl, closes⟩, rfl⟩, rfl⟩
  refine bind_done.mpr ⟨true, _, next_done.mpr ⟨opens, rfl⟩, ?_⟩
  refine bind_done.mpr ⟨false, _, congrArg (Reading.done · _) missed, ?_⟩
  exact bind_done.mpr ⟨_, _, nodeRead, bind_done.mpr ⟨false, rest, next_done.mpr ⟨ahead, rfl⟩, rfl⟩⟩

/-! ## Groups -/

omit hd

/-- **Triples can start here**, and nothing else. -/
structure StartsTriples (tokens : List Token) : Prop where
  node : startsNode.read tokens = .done true tokens
  plain : tokens.head?.any (fun token => token.kind = .keyword || token.isSymbol ["\x7b", "\x7d"]) = false

theorem startsTriples_of_read {found : Node} (read : (node depth).read tokens = .done found []) (rest : List Token) :
    StartsTriples (tokens ++ rest) := by
  obtain ⟨starts, first, others, rfl, kind, brace, -⟩ := startsNode_of_read read rest
  exact ⟨starts, Bool.or_eq_false_iff.mpr ⟨decide_eq_false kind, brace⟩⟩

theorem startsTriples_of_bracket (opens : opening.isSymbol ["["] = true) : StartsTriples (opening :: tokens) := by
  have starts : (isAtom opening || opening.isSymbol ["[", "("]) = true :=
    (Bool.or_eq_true _ _).mpr (.inr (Token.isSymbol_mono opens (by decide)))
  refine ⟨bind_done.mpr ⟨true, _, next_done.mpr ⟨starts, rfl⟩, rfl⟩, Bool.or_eq_false_iff.mpr ⟨?_, ?_⟩⟩
  · exact decide_eq_false (by rw [kind_of_isSymbol opens]; decide)
  · exact Token.isSymbol_apart opens (by decide)

theorem StartsTriples.not_spells (h : StartsTriples tokens) (words : List String) :
    tokens.head?.any (·.spells words) = false := by
  cases tokens with
  | nil => rfl
  | cons first others => exact not_spells (of_decide_eq_false (Bool.or_eq_false_iff.mp h.plain).1) words

theorem StartsTriples.not_startsPattern (h : StartsTriples tokens) :
    tokens.head?.any (·.isSymbol ["\x7d"]) = false ∧ tokens.head?.any startsPattern = false := by
  have words := h.not_spells
  cases tokens with
  | nil => exact ⟨rfl, rfl⟩
  | cons first others =>
    have brace := (Bool.or_eq_false_iff.mp h.plain).2
    rw [Token.isSymbol_cons, Bool.or_eq_false_iff] at brace
    exact ⟨brace.2, Bool.or_eq_false_iff.mpr ⟨brace.1, words _⟩⟩

/-- What follows triples in a group. -/
def afterTriples (list : List Element) : Reader (Turn (List Element)) := do
  if ← accept (·.isSymbol ["."]) then return .more list
  else if ← next startsPattern then return .more list
  else return .last list

theorem elements_reads {list : List Triple} {turned : Turn (List Element)} (starts : StartsTriples tokens)
    (read : (triples depth).read tokens = .done list between)
    (further : (afterTriples (list.map .triple)).read between = .done turned rest) :
    (elements depth).read tokens = .done turned rest := by
  obtain ⟨brace, other⟩ := starts.not_startsPattern
  refine bind_done.mpr ⟨false, tokens, next_done.mpr ⟨brace, rfl⟩, ?_⟩
  refine bind_done.mpr ⟨false, tokens, next_done.mpr ⟨other, rfl⟩, ?_⟩
  exact bind_done.mpr ⟨true, tokens, starts.node, bind_done.mpr ⟨list, between, read, further⟩⟩

theorem elements_stop (closes : closing.isSymbol ["\x7d"] = true) :
    (elements depth).read (closing :: rest) = .done .stop (closing :: rest) :=
  bind_done.mpr ⟨true, _, next_done.mpr ⟨closes, rfl⟩, rfl⟩

/-- A closing brace starts no pattern, and is no point. -/
theorem afterTriples_last {list : List Element} (closes : closing.isSymbol ["\x7d"] = true) :
    (afterTriples list).read (closing :: rest) = .done (.last list) (closing :: rest) := by
  have word := not_spells (by rw [kind_of_isSymbol closes]; decide)
    ["OPTIONAL", "MINUS", "GRAPH", "SERVICE", "FILTER", "BIND", "VALUES"]
  have other : startsPattern closing = false :=
    Bool.or_eq_false_iff.mpr ⟨Token.isSymbol_apart closes (by decide), word⟩
  refine bind_done.mpr ⟨false, _, accept_false.mpr ⟨rfl, Token.isSymbol_apart closes (by decide)⟩, ?_⟩
  exact bind_done.mpr ⟨false, _, next_done.mpr ⟨other, rfl⟩, rfl⟩

theorem afterTriples_more {list : List Element} {point : Token} (is : point.isSymbol ["."] = true) :
    (afterTriples list).read (point :: rest) = .done (.more list) rest :=
  bind_done.mpr ⟨true, _, accept_true.mpr ⟨point, rfl, is⟩, rfl⟩

/-- **Triples behind which the group ends**, with a point or without. -/
theorem elements_whole {list : List Triple} {final : List Token} (starts : StartsTriples tokens)
    (read : (triples depth).read tokens = .done list (final ++ closing :: rest)) (point : IsOptional ["."] final)
    (closes : closing.isSymbol ["\x7d"] = true) :
    (loop (elements depth)).read tokens = .done [list.map .triple] (closing :: rest) := by
  rw [loop_unroll (.elements id)]
  cases point with
  | none => exact bind_done.mpr ⟨_, _, elements_reads starts read (afterTriples_last closes), rfl⟩
  | some is =>
    refine bind_done.mpr ⟨_, _, elements_reads starts read (afterTriples_more is), bind_done.mpr ⟨[], _, ?_, rfl⟩⟩
    rw [loop_unroll (.elements id)]
    exact bind_done.mpr ⟨_, _, elements_stop closes, rfl⟩

/-- **A group of elements.** -/
theorem group_reads {brackets : Nat} {lists : List (List Element)} (opens : opening.isSymbol ["\x7b"] = true)
    (starts : tokens.head?.any (·.spells ["SELECT"]) = false)
    (read : (loop (elements (inside brackets))).read tokens = .done lists (closing :: rest))
    (closes : closing.isSymbol ["\x7d"] = true) :
    (group (inside (brackets + 1))).read (opening :: tokens) = .done (.pattern lists.flatten) rest := by
  have content : (content (inside brackets)).read tokens = .done (.pattern lists.flatten) (closing :: rest) :=
    bind_done.mpr ⟨false, tokens, next_done.mpr ⟨starts, rfl⟩, bind_done.mpr ⟨lists, _, read, rfl⟩⟩
  refine bind_done.mpr ⟨opening, tokens, require_done.mpr ⟨rfl, opens⟩, bind_done.mpr ⟨_, tokens, rfl, ?_⟩⟩
  refine bind_done.mpr ⟨_, _, content, bind_done.mpr ⟨closing, rest, ?_, rfl⟩⟩
  exact bind_done.mpr ⟨closing, rest, require_done.mpr ⟨rfl, closes⟩, rfl⟩

/-! ## Both ways -/

/-- A symbol that is no separator and starts no verb continues no list. -/
theorem continuesList_symbol {token : Token} {symbols : List String} (is : token.isSymbol symbols = true)
    (apart : ∀ text ∈ symbols.map String.toList, text ∉ [",", ";"].map String.toList)
    (apart' : ∀ text ∈ symbols.map String.toList, text ∉ ["^", "(", "!"].map String.toList) :
    continuesList token = false := by
  have step : isStep token = false := by
    refine Bool.eq_false_iff.mpr fun step => ?_
    rw [isStep_isSymbol step] at is
    cases is
  unfold continuesList startsVerb
  rw [Token.isSymbol_apart is apart, Token.isSymbol_apart is apart', step, kind_of_isSymbol is]
  rfl

theorem continuesList_end {final : List Token} (point : IsOptional ["."] final)
    (closes : closing.isSymbol ["\x7d"] = true) : (final ++ closing :: rest).head?.any continuesList = false := by
  cases point with
  | none => exact continuesList_symbol closes (by decide) (by decide)
  | some is => exact continuesList_symbol is (by decide) (by decide)

/-- **Triples that are written out** are read one by one. -/
theorem expanded_reads (hd : DepthDetached depth) {subject : Node} {pairs : List (Verb × Node)}
    (h : IsExpanded depth subject pairs tokens) (closes : closing.isSymbol ["\x7d"] = true) :
    (tokens ++ closing :: rest).head?.any (·.spells ["SELECT"]) = false ∧
      ∃ lists, (loop (elements depth)).read (tokens ++ closing :: rest) = .done lists (closing :: rest) ∧
        lists.flatten = (Triple.ofSubject subject pairs).map .triple := by
  induction h with
  | nil =>
    refine ⟨not_spells (by rw [kind_of_isSymbol closes]; decide) _, [], ?_, rfl⟩
    rw [List.nil_append, loop_unroll (.elements id)]
    exact bind_done.mpr ⟨_, _, elements_stop closes, rfl⟩
  | @cons name object pairs starts middle ends others point whole verb object_ is _ ih =>
    obtain ⟨-, lists, read, flat⟩ := ih
    have behind : starts ++ (middle ++ (ends ++ point :: others)) ++ closing :: rest =
        starts ++ (middle ++ (ends ++ []) ++ point :: (others ++ closing :: rest)) := by simp
    have listed : IsAbbreviated depth [(name, object)] (middle ++ (ends ++ [])) := .one verb (.one object_) nofun
    have plain : (point :: (others ++ closing :: rest)).head?.any continuesList = false :=
      continuesList_symbol is (by decide) (by decide)
    have triple := triples_reads hd whole (abbreviated_starts listed _) (properties_reads hd listed plain)
    have starts_ : StartsTriples (starts ++ (middle ++ (ends ++ []) ++ point :: (others ++ closing :: rest))) :=
      startsTriples_of_read whole _
    rw [behind]
    refine ⟨starts_.not_spells _, [.triple ⟨subject, name, object⟩] :: lists, ?_, ?_⟩
    · rw [loop_unroll (.elements id)]
      exact bind_done.mpr ⟨_, _, elements_reads starts_ triple (afterTriples_more is),
        bind_done.mpr ⟨lists, _, read, rfl⟩⟩
    · rw [List.flatten_cons, flat]
      rfl

/-- A subject with its property list is read as the only triples of a group. -/
theorem subject_reads (hd : DepthDetached depth) {subject : Node} {pairs : List (Verb × Node)}
    {starts list final : List Token} (whole : (node depth).read starts = .done subject [])
    (first : (list ++ (final ++ closing :: rest)).head?.any startsVerb = true)
    (read : (properties depth).read (list ++ (final ++ closing :: rest)) = .done pairs (final ++ closing :: rest))
    (point : IsOptional ["."] final) (closes : closing.isSymbol ["\x7d"] = true) :
    (starts ++ list ++ final ++ closing :: rest).head?.any (·.spells ["SELECT"]) = false ∧
      (loop (elements depth)).read (starts ++ list ++ final ++ closing :: rest) =
        .done [(Triple.ofSubject subject pairs).map .triple] (closing :: rest) := by
  have starts_ : StartsTriples (starts ++ (list ++ (final ++ closing :: rest))) := startsTriples_of_read whole _
  rw [show starts ++ list ++ final ++ closing :: rest = starts ++ (list ++ (final ++ closing :: rest)) by simp]
  exact ⟨starts_.not_spells _, elements_whole starts_ (triples_reads hd whole first read) point closes⟩

/-- A property list in brackets is read as the only triples of a group. -/
theorem alone_reads {brackets : Nat} {pairs : List (Verb × Node)} {list final : List Token} {brace : Token}
    (opens : opening.isSymbol ["["] = true) (closes : closing.isSymbol ["]"] = true)
    (read : (properties (inside brackets)).read (list ++ closing :: (final ++ brace :: rest)) =
      .done pairs (closing :: (final ++ brace :: rest)))
    (point : IsOptional ["."] final) (ends : brace.isSymbol ["\x7d"] = true) :
    (opening :: (list ++ closing :: final) ++ brace :: rest).head?.any (·.spells ["SELECT"]) = false ∧
      (loop (elements (inside (brackets + 1)))).read (opening :: (list ++ closing :: final) ++ brace :: rest) =
        .done [(Triple.ofSubject (.blank none) pairs).map .triple] (brace :: rest) := by
  have starts : StartsTriples (opening :: (list ++ closing :: (final ++ brace :: rest))) := startsTriples_of_bracket opens
  have alone := triples_alone opens read closes (continuesList_false (continuesList_end point ends)).2.2
  rw [show opening :: (list ++ closing :: final) ++ brace :: rest =
    opening :: (list ++ closing :: (final ++ brace :: rest)) by simp]
  exact ⟨starts.not_spells _, elements_whole starts alone point ends⟩

/-- A property list is read as it is with one bracket more around it. -/
theorem properties_shallower {brackets : Nat} {list : List (Verb × Node)}
    (read : (properties (inside brackets)).read tokens = .done list rest) :
    (properties (inside (brackets + 1))).read tokens = .done list rest := by
  have free (bracket : Token) (left : List Token) :
      (properties (inside brackets)).read tokens ≠ .stopped (.tooDeep bracket) left := by
    rw [read]
    exact nofun
  rw [← read]
  exact Tracks.read_deeper (properties_tracks (inside_tracks (.inr ⟨trivial, Nat.le_succ _⟩))) Eq.symm free

end Reader

/-- **Abbreviations mean what they abbreviate.**  A subject with verbs and objects between separators is read as the
same elements as its triples written out; and a property list in brackets that stands alone as the same as one behind
empty brackets. -/
theorem group_abbreviated (brackets : Nat) (rest rest' : List Token) :
    (∀ {subject : Node} {pairs : List (Verb × Node)} {starts list final expanded short long : List Token},
      (node (inside brackets)).read starts = .done subject [] → IsAbbreviated (inside brackets) pairs list →
      IsOptional ["."] final → IsExpanded (inside brackets) subject pairs expanded →
      InBraces (starts ++ list ++ final) rest short → InBraces expanded rest' long →
      (group (inside (brackets + 1))).read short =
          .done (.pattern ((Triple.ofSubject subject pairs).map .triple)) rest ∧
        (group (inside (brackets + 1))).read long =
          .done (.pattern ((Triple.ofSubject subject pairs).map .triple)) rest') ∧
    ∀ {pairs : List (Verb × Node)} {list behind final short long : List Token} {opening closing left right : Token},
      opening.isSymbol ["["] = true → closing.isSymbol ["]"] = true →
      left.isSymbol ["["] = true → right.isSymbol ["]"] = true →
      (properties (inside brackets)).read (list ++ closing :: behind) = .done pairs (closing :: behind) →
      IsOptional ["."] final →
      InBraces (opening :: (list ++ closing :: final)) rest short → InBraces ([left, right] ++ list ++ final) rest' long →
      (group (inside (brackets + 2))).read short =
          .done (.pattern ((Triple.ofSubject (.blank none) pairs).map .triple)) rest ∧
        (group (inside (brackets + 2))).read long =
          .done (.pattern ((Triple.ofSubject (.blank none) pairs).map .triple)) rest' := by
  refine ⟨fun {subject pairs starts list final expanded short long} whole listed point expands inShort inLong => ?_,
    fun {pairs list behind final short long opening closing left right} opens closes isLeft isRight read point inShort
      inLong => ?_⟩
  · have hd := Detached.inside brackets
    constructor
    · obtain ⟨opens, closes⟩ := inShort
      obtain ⟨noSelect, read⟩ := subject_reads hd whole (abbreviated_starts listed _)
        (properties_reads hd listed (continuesList_end point closes)) point closes
      have grouped := group_reads opens noSelect read closes
      rwa [List.flatten_singleton] at grouped
    · obtain ⟨opens, closes⟩ := inLong
      obtain ⟨noSelect, lists, read, flat⟩ := expanded_reads hd expands closes
      rw [group_reads opens noSelect read closes, flat]
  · have bracket := continuesList_symbol closes (by decide) (by decide)
    have listRead (behind' : List Token) (ends : behind'.head?.any continuesList = false) :
        (properties (inside brackets)).read (list ++ behind') = .done pairs behind' := by
      have same : SameAhead continuesList (closing :: behind) behind' := .inr ⟨bracket, ends⟩
      exact Detached.properties (Detached.inside brackets) same read
    constructor
    · obtain ⟨braceOpens, braceCloses⟩ := inShort
      obtain ⟨noSelect, read⟩ := alone_reads opens closes (listRead _ bracket) point braceCloses
      have grouped := group_reads braceOpens noSelect read braceCloses
      rwa [List.flatten_singleton] at grouped
    · obtain @⟨brace, brace', braceOpens, braceCloses⟩ := inLong
      have empty : (node (inside (brackets + 1))).read [left, right] = .done (.blank none) [] :=
        bind_done.mpr ⟨_, [], acceptTwo?_some.mpr ⟨rfl, isLeft, isRight⟩, rfl⟩
      have ahead : (final ++ brace' :: rest').head?.any continuesList = false := continuesList_end point braceCloses
      have listed := properties_shallower (listRead _ ahead)
      obtain ⟨noSelect, read⟩ := subject_reads (Detached.inside _) empty (properties_starts listed) listed point braceCloses
      have grouped := group_reads braceOpens noSelect read braceCloses
      rwa [List.flatten_singleton] at grouped

/-- Empty brackets with two verbs, and the brackets around the verbs. -/
theorem group_abbreviated_two :
    let mark (symbol : Char) : Token := ⟨.punctuation, [symbol], .start⟩
    let var (name : Char) : Token := ⟨.var, ['?', name], .start⟩
    let name : Token := ⟨.prefixedName, "ex:p".toList, .start⟩
    let group := group (inside 2)
    let pairs : List (Verb × Node) :=
      [(.resource (.prefixed "ex".toList "p".toList), .var ['a']), (.var ['v'], .var ['b'])]
    let elements : Group := .pattern ((Triple.ofSubject (.blank none) pairs).map .triple)
    let list := [name, var 'a', mark ';', mark ';', var 'v', var 'b', mark ';']
    group.read ([mark '\x7b', mark '[', mark ']'] ++ list ++ [mark '\x7d']) = .done elements [] ∧
      group.read [mark '\x7b', mark '[', mark ']', name, var 'a', mark '.', mark '[', mark ']', var 'v', var 'b',
        mark '.', mark '\x7d'] = .done elements [] ∧
      group.read ([mark '\x7b', mark '['] ++ list ++ [mark ']', mark '.', mark '\x7d']) = .done elements [] := by
  intro mark var name group pairs elements list
  have inBraces (tokens : List Token) : InBraces tokens [] (mark '\x7b' :: (tokens ++ [mark '\x7d'])) := .braces rfl rfl
  have object (name : Char) : IsObject (inside 1) (.var [name]) [var name] := ⟨rfl, rfl⟩
  have resource : (verb (inside 1)).read [name] = .done (.resource (.prefixed "ex".toList "p".toList)) [] := rfl
  have variable_ : (verb (inside 1)).read [var 'v'] = .done (.var ['v']) [] := rfl
  have empty : (node (inside 1)).read [mark '[', mark ']'] = .done (.blank none) [] := rfl
  have semicolon : ∀ token ∈ [mark ';'], token.isSymbol [";"] = true := List.forall_mem_singleton.mpr rfl
  have semicolons : ∀ token ∈ [mark ';', mark ';'], token.isSymbol [";"] = true :=
    List.forall_mem_cons.mpr ⟨rfl, semicolon⟩
  have last := IsAbbreviated.one variable_ (.one (object 'b')) semicolon
  have listed := IsAbbreviated.more resource (.one (object 'a')) semicolons last
  have point : (mark '.').isSymbol ["."] = true := rfl
  have second := IsExpanded.cons empty variable_ (object 'b') point .nil
  have expanded := IsExpanded.cons empty resource (object 'a') point second
  have written := (group_abbreviated 1 [] []).1 empty listed .none expanded (inBraces _) (inBraces _)
  have alone : (properties (inside 0)).read (list ++ [mark ']']) = .done pairs [mark ']'] := rfl
  have opens : (mark '[').isSymbol ["["] = true := rfl
  have closes : (mark ']').isSymbol ["]"] = true := rfl
  have bracketed :=
    (group_abbreviated 0 [] []).2 opens closes opens closes alone (.some point) (inBraces _) (inBraces _)
  exact ⟨written.1, written.2, bracketed.1⟩

end QuerySignature
