import QuerySignature.Proofs.Outcome.Causal
import QuerySignature.Proofs.Signs.Groups

/-!
# Proofs/Signs/Queries — queries with a number behind a sign

Each form of query meets a sign in one of its parts, and so does each operation of an update request.  With it
`parseTokens_plus` says what comes of a plus in the place of a minus.
-/

namespace QuerySignature

variable {signs : Signs} {depth : Option Inside}

namespace Reader

/-! ## Prologues and datasets -/

theorem Termless.prologue : Termless Reader.prologue := by
  have iri : Termless Reader.iri := bind (require nofun) fun _ => pure
  have label : Termless Reader.namespaceLabel := by
    refine bind peek fun found => ?_
    cases found with
    | none => exact refuse nofun
    | some token =>
      dsimp only
      split
      · exact stop fun _ => nofun
      · exact bind (require nofun) fun _ => pure
  refine many .declaration? (bind accept (Bool.forall_bool.mpr ⟨?_, bind iri fun _ => pure⟩))
  exact bind accept (Bool.forall_bool.mpr ⟨pure, bind label fun _ => bind iri fun _ => pure⟩)

theorem Shielded.prologue : Shielded Reader.prologue := .of_tracks prologue_tracks Eq.symm

/-- Graphs behind a keyword each. -/
theorem Termless.named {keyword : String} : Termless (Reader.many do
    if ← Reader.accept (·.spells [keyword]) then
      let _ ← Reader.accept (·.spells ["NAMED"])
      return some (← Reader.resource)
    else return none) :=
  many (.orElse' (.pure nofun)) (bind accept (Bool.forall_bool.mpr
    ⟨pure, bind accept fun _ => bind resource fun _ => pure⟩))

theorem Termless.datasets : Termless Reader.datasets := bind named fun _ => pure

theorem Shielded.datasets : Shielded Reader.datasets := .of_tracks datasets_tracks Eq.symm

theorem Termless.described : Termless Reader.described := by
  refine bind accept (Bool.forall_bool.mpr ⟨bind (many .accept? accept?) fun list => ?_, pure⟩)
  split
  · exact refuse nofun
  · exact pure

theorem Shielded.described : Shielded Reader.described := .of_tracks described_tracks Eq.symm

section Depth

variable {α β : Type} {V : PlusRole → α → α → Prop} {W : PlusRole → β → β → Prop}

/-- Behind datasets. -/
theorem Meets.behindDatasets {R : Reader β} (later : TermBehind R) (met : Meets signs W R) :
    Meets signs W (Reader.datasets >>= fun _ => R) :=
  andThen (.shielded .datasets fun _ => later) .datasets fun _ => met

variable (hd : DepthMeets signs depth)
include hd

/-! ## Templates -/

theorem Meets.template : Meets signs Group.Flipped (Reader.template depth) := within (group hd)

theorem Shielded.template : Shielded (Reader.template depth) := group hd

/-! ## Queries -/

omit hd in
/-- What stands behind a pattern starts with no term. -/
theorem TermBehind.solution {pattern : Reader α} {make : α → Modifiers → Option Values → β}
    (first : TermBehind pattern) : TermBehind (do
      let a ← pattern
      let modifiers ← Reader.modifiers depth
      return make a modifiers (← Reader.values?)) :=
  .bind first fun _ => .bind .modifiers fun _ => .of_termless (.bind .values? fun _ => .pure)

theorem Meets.selectBody : Meets signs Query.Body.Flipped (Reader.selectBody depth) := by
  have shielded : Shielded (Reader.selection depth) :=
    .of_tracks (selection_tracks hd.tracks) (Selection.eq_of_like Likeness.same_exact _ _)
  refine bind (.shielded shielded fun _ => .bind (.of_termless .datasets) fun _ => .solution .whereGroup) (selection hd)
    (fun selection => behindDatasets (.solution .whereGroup) ?_) fun related => ?_
  · exact solution hd (.whereGroup hd) (whereGroup hd) (fun modifiers values => .selectGroup selection modifiers values)
      fun group values => .selectModifiers selection group values
  · exact .bind fun _ => .bind fun group => .bind fun modifiers => .bind fun values =>
      .pure (.selection group modifiers values related)

theorem Meets.askBody : Meets signs Query.Body.Flipped (Reader.askBody depth) :=
  require nofun fun _ => behindDatasets (.solution .whereGroup)
    (solution hd (.whereGroup hd) (whereGroup hd) .askGroup fun group => .askModifiers group)

/-- **A construction meets the sign** in its template, which is dropped, or in its pattern. -/
theorem Meets.constructGroup :
    Meets signs (fun role group group' => group = group' ∨ group.Flipped role group') (Reader.constructGroup depth) := by
  refine ifNext (fun is is' => ?_) ?_ ?_
  · rw [Token.not_isSymbol_of_isSign (by decide) is, Token.not_isSymbol_of_isSign (by decide) is']
  · refine bind (.shielded (.template hd) fun _ => .bind (.of_termless .datasets) fun _ => .whereGroup) (template hd)
      (fun _ => behindDatasets .whereGroup ((whereGroup hd).mono .inr)) fun _ => .same fun _ => .inl rfl
  · exact behindDatasets (.require nofun) (require nofun fun _ => (group hd).mono .inr)

theorem Meets.constructBody : Meets signs Query.Body.Flipped (Reader.constructBody depth) := by
  have shielded : Shielded (Reader.constructGroup depth) :=
    .of_tracks (constructGroup_tracks hd.tracks) (Group.eq_of_like Likeness.same_exact _ _)
  refine require nofun fun _ => solution hd shielded (constructGroup hd) (fun modifiers values related => ?_)
    fun group => .constructModifiers group
  rcases related with rfl | flipped
  · exact .template _ modifiers values
  · exact .constructGroup modifiers values flipped

theorem Meets.describeBody : Meets signs Query.Body.Flipped (Reader.describeBody depth) := by
  have rest (found : Option Group) : Meets signs Query.Body.Flipped (do
      let modifiers ← Reader.modifiers depth
      return .describe found modifiers (← Reader.values?)) :=
    before (modifiers hd) (fun _ => .bind .values? fun _ => .pure) fun related => .bind fun values =>
      .pure (.describeModifiers found values related)
  have later (found : Option Group) : TermBehind (do
      let modifiers ← Reader.modifiers depth
      return Query.Body.describe found modifiers (← Reader.values?)) :=
    .bind .modifiers fun _ => .of_termless (.bind .values? fun _ => .pure)
  have pattern : TermBehind (some <$> Reader.group depth) := .bind .group fun _ => .of_termless .pure
  have choice : TermBehind (do
      let pattern ←
        if (← Reader.accept (·.spells ["WHERE"])) || (← Reader.next (·.isSymbol ["\x7b"])) then
          some <$> Reader.group depth
        else Pure.pure none
      let modifiers ← Reader.modifiers depth
      return Query.Body.describe pattern modifiers (← Reader.values?)) := by
    refine .bind (.of_termless .accept) fun _ => .bind (.of_termless .next) fun _ => ?_
    split
    · exact .bind pattern later
    · exact later none
  refine require nofun fun _ => andThen
    (.shielded .described fun _ => .bind (.of_termless .datasets) fun _ => choice) .described fun _ =>
      behindDatasets choice ?_
  refine andThen (.indifferent (.accept Token.not_spells_of_isSign)) .accept fun _ =>
    andThen (.indifferent (.next fun is is' => ?_)) .next fun _ => ?_
  · rw [Token.not_isSymbol_of_isSign (by decide) is, Token.not_isSymbol_of_isSign (by decide) is']
  · split
    · refine solution hd ((Shielded.group hd).bind fun _ => Indifferent.pure.shielded) (found (group hd))
        (fun modifiers values related => ?_) fun group => .describeModifiers group
      cases related with
      | some related => exact .describeGroup modifiers values related
    · exact rest none

/-! ## Updates -/

omit hd in
theorem Termless.graphOrDefault : Termless Reader.graphOrDefault :=
  bind accept (Bool.forall_bool.mpr ⟨bind accept fun _ => bind resource fun _ => pure, pure⟩)

omit hd in
theorem Termless.manage (management : Management) : Termless (Reader.manage management) := by
  have clears : Termless (do
      if ← Reader.accept (·.spells ["GRAPH"]) then
        let _ ← Reader.resource
      else
        let _ ← word ["DEFAULT", "NAMED", "ALL"]
      return Operation.manage management) :=
    bind accept (Bool.forall_bool.mpr ⟨bind (require nofun) fun _ => pure, bind resource fun _ => pure⟩)
  have copies : Termless (do
      Reader.graphOrDefault
      let _ ← word ["TO"]
      Reader.graphOrDefault
      return Operation.manage management) :=
    bind graphOrDefault fun _ => bind (require nofun) fun _ => bind graphOrDefault fun _ => pure
  refine bind accept fun _ => ?_
  cases management with
  | load =>
    refine bind resource fun _ => bind accept (Bool.forall_bool.mpr ⟨pure, ?_⟩)
    exact bind (require nofun) fun _ => bind resource fun _ => pure
  | clear => exact clears
  | drop => exact clears
  | create => exact bind (require nofun) fun _ => bind resource fun _ => pure
  | add => exact copies
  | move => exact copies
  | copy => exact copies

omit hd in
theorem TermBehind.modify (deleted inserted : Option Group) : TermBehind (Reader.modify depth deleted inserted) :=
  .bind (.of_termless .named) fun _ => .require nofun

/-- The pattern of an operation meets the sign. -/
theorem Meets.modify (deleted inserted : Option Group) :
    Meets signs Operation.Flipped (Reader.modify depth deleted inserted) := by
  have usings : Shielded (Reader.many do
      if ← Reader.accept (·.spells ["USING"]) then
        let _ ← Reader.accept (·.spells ["NAMED"])
        return some (← Reader.resource)
      else return none) :=
    .of_tracks (many_plain (V := Eq)
      (.ifAccept (.spells _)
        (.same (accept_tracks (.spells _)) fun _ => .same resource_tracks fun _ => .pure rfl (.some rfl))
        (.pure rfl .none))
      (.orElse' (.pure nofun)) (.orElse' (.pure nofun))) fun same => (List.forall₂_eq_eq_eq ▸ same : _ = _).symm
  exact andThen (.shielded usings fun _ => .require nofun) .named fun _ => require nofun fun _ =>
    map (group hd) (.group deleted inserted)

omit hd in
/-- The rest of an operation is the same behind another deletion or insertion. -/
theorem Follows.modify {role : PlusRole} {deleted inserted deleted' inserted' : Option Group}
    (related : ∀ group, Operation.Flipped role (.modify deleted inserted group) (.modify deleted' inserted' group)) :
    Follows (Operation.Flipped role) (Reader.modify depth deleted inserted) (Reader.modify depth deleted' inserted') :=
  .bind fun _ => .bind fun _ => .bind fun group => .pure (related group)

/-- An insertion with its pattern meets the sign. -/
theorem Meets.insert (deleted : Option Group) : Meets signs Operation.Flipped (do
    let inserted ← Reader.template depth
    Reader.modify depth deleted (some inserted)) :=
  bind (.shielded (.template hd) fun _ => .modify _ _) (template hd) (fun _ => modify hd _ _) fun related =>
    .modify fun group => .inserted deleted group related

theorem Meets.deleteInsert : Meets signs Operation.Flipped (Reader.deleteInsert depth) := by
  have keyword {sign : Token} : sign.isSign = true → sign.spells ["INSERT"] = false := Token.not_spells_of_isSign
  refine bind (.shielded (.template hd) fun _ => .ifAccept keyword (.modify _ _)) (template hd) (fun deleted => ?_)
    fun related => ?_
  · refine ifAccept keyword ?_ (modify hd _ _)
    refine bind (.shielded ((Shielded.template hd).bind fun _ => Indifferent.pure.shielded) fun _ => .modify _ _)
      (found (template hd)) (fun _ => modify hd _ _) fun related => ?_
    cases related with
    | some related => exact .modify fun group => .inserted (some deleted) group related
  · refine .bind (Bool.forall_bool.mpr ⟨.modify fun group => .deleted none group related, ?_⟩)
    exact .bind fun inserted => .modify fun group => .deleted inserted group related

omit hd in
theorem management?_sign {sign : Token} (is : sign.isSign = true) : management? sign = none :=
  List.find?_eq_none.mpr fun management _ => by
    rw [Token.not_spells_of_isSign is]
    exact Bool.false_ne_true

/-- **An operation meets the sign.** -/
theorem Meets.operation : Meets signs Operation.Flipped (Reader.operation depth) := by
  have spells {words : List String} {sign : Token} : sign.isSign = true → sign.spells words = false :=
    Token.not_spells_of_isSign
  have whole {sign : Token} (is : sign.isSign = true) : (management? sign).isSome = false := by
    rw [management?_sign is]
    rfl
  refine orElse whole (fun token => ?_) (ifAccept spells ?_ (ifAccept spells ?_ (ifAccept spells ?_ (refuse nofun))))
  · dsimp only
    split
    · exact of_termless (.manage _)
    · exact refuse nofun
  · exact ifAccept spells (map (template hd) .insertData) (insert hd none)
  · exact ifAccept spells (map (template hd) .deleteData)
      (ifAccept spells (map (group hd) .deleteWhere) (deleteInsert hd))
  · exact andThen (.indifferent (.bind .require fun _ => .pure)) .resource fun _ =>
      ifAccept spells (insert hd none) (require nofun fun _ => deleteInsert hd)

omit hd in
theorem TermBehind.operation : TermBehind (Reader.operation depth) := by
  have spells {words : List String} {sign : Token} : sign.isSign = true → sign.spells words = false :=
    Token.not_spells_of_isSign
  refine .orElse (fun is => ?_) (.ifAccept spells (.ifAccept spells (.ifAccept spells (.of_termless (.refuse nofun)))))
  rw [management?_sign is]
  rfl

/-- An operation with its declarations meets the sign. -/
theorem Meets.operationTurn : Meets signs (fun role => TurnLike fun pair pair' =>
    pair.1.Flipped role pair'.1 ∧ pair.2 = pair'.2) (Reader.operationTurn depth) := by
  refine before (operation hd) (fun operation => ?_) fun related => ?_
  · refine .bind .accept (Bool.forall_bool.mpr ⟨.pure, .bind .prologue fun _ => .bind .peek fun found => ?_⟩)
    cases found <;> exact .pure
  · refine .bind (Bool.forall_bool.mpr ⟨.pure (.last ⟨related, rfl⟩), .bind fun _ => .bind fun found => ?_⟩)
    cases found with
    | none => exact .pure (.last ⟨related, rfl⟩)
    | some => exact .pure (.more ⟨related, rfl⟩)

theorem Shielded.operationTurn : Shielded (Reader.operationTurn depth) := by
  have pairs {pair pair' : Operation × Prologue} (like : pair.1.Like .same pair'.1 ∧ pair.2 = pair'.2) : pair' = pair :=
    Prod.ext (Likeness.same_exact.operation like.1) like.2.symm
  refine .of_tracks (operationTurn_tracks hd.tracks) fun like => ?_
  cases like with
  | stop => rfl
  | last related => rw [pairs related]
  | more related => rw [pairs related]

/-! ## All forms -/

/-- **The body of a query meets the sign.** -/
theorem Meets.body : Meets signs (fun role pair pair' => pair.1.Flipped role pair'.1 ∧ pair.2 = pair'.2)
    (Reader.body depth) := by
  have spells {words : List String} {sign sign' : Token} (is : sign.isSign = true) (is' : sign'.isSign = true) :
      sign'.spells words = sign.spells words := by
    rw [Token.not_spells_of_isSign is, Token.not_spells_of_isSign is']
  have turns : Meets signs (fun role => OneOf fun pair pair' => pair.1.Flipped role pair'.1 ∧ pair.2 = pair'.2)
      (Reader.loop (Reader.operationTurn depth)) := by
    have progress : Progress Turn.GoesOn (Reader.operationTurn depth) := Progress.operation.of_first
    exact loop progress (.turns progress (.operationTurn hd) (.of_first Progress.operation .operation)) (operationTurn hd)
  refine ifNext spells (map (selectBody hd) fun related => ⟨related, rfl⟩) <|
    ifNext spells (map (askBody hd) fun related => ⟨related, rfl⟩) <|
    ifNext spells (map (constructBody hd) fun related => ⟨related, rfl⟩) <|
    ifNext spells (map (describeBody hd) fun related => ⟨related, rfl⟩) <|
    ifNext spells (map turns fun related => ?_) (refuse nofun)
  obtain ⟨front, pair, pair', behind, rfl, rfl, flipped, same⟩ := related.exists_parts
  rw [List.map_append, List.map_append, List.flatMap_append, List.flatMap_append, List.flatMap_cons, List.flatMap_cons,
    same]
  refine ⟨.update ?_, rfl⟩
  have one : OneOf (Operation.Flipped _) [pair.1] [pair'.1] := .here flipped
  simpa using one.between (front.map (·.1)) (behind.map (·.1))

omit hd in
theorem TermBehind.body : TermBehind (Reader.body depth) := by
  have spells {words : List String} {sign : Token} : sign.isSign = true → sign.spells words = false :=
    Token.not_spells_of_isSign
  exact .ifNext spells (.ifNext spells (.ifNext spells (.ifNext spells (.ifNext spells (.of_termless (.refuse nofun))))))

/-- **A query meets the sign.** -/
theorem Meets.query : Meets signs Query.Flipped (Reader.query depth) := by
  have end_ : ∀ (declarations : Prologue) (pair : Query.Body × Prologue), Termless (do
      if (← Reader.peek).isSome then Reader.refuse .endOfInput
      else return (⟨declarations ++ pair.2, pair.1⟩ : Query)) := by
    refine fun declarations pair => .bind .peek fun found => ?_
    split
    · exact .refuse nofun
    · exact .pure
  refine andThen (.shielded .prologue fun declarations => .bind .body fun pair => .of_termless (end_ declarations pair))
    .prologue fun declarations => before (body hd) (end_ declarations) fun {role pair pair'} related => .bind fun found => ?_
  obtain ⟨body, further⟩ := pair
  obtain ⟨body', further'⟩ := pair'
  obtain ⟨flipped, rfl⟩ := related
  cases found with
  | some token => exact fun _ _ _ read => (refuse_done.mp read).elim
  | none => exact .pure (.mk _ flipped)

end Depth

end Reader

/-! ## Outcomes -/

/-- The words in front of the end of a list, and those of the list with another token for one of them. -/
theorem Token.Readable.replaced {limits : Limits} {front behind : List Token} {token token' : Token}
    (free : ∀ word ∈ front, word.kind ≠ .eof) (word : token.kind ≠ .eof) (word' : token'.kind ≠ .eof)
    (readable : Token.Readable limits (front ++ token :: behind)) :
    ∃ words stop more, behind = words ++ stop :: more ∧ stop.kind = .eof ∧
      (∀ word ∈ front ++ token :: words, word.kind ≠ .eof) ∧ (∀ word ∈ front ++ token' :: words, word.kind ≠ .eof) ∧
      Token.Readable limits (front ++ token' :: behind) := by
  have ended : ∃ stop ∈ behind, stop.kind = .eof := by
    obtain ⟨stop, member, ends⟩ := readable.exists_eof
    rcases List.mem_append.mp member with inside | inside
    · exact absurd ends (free stop inside)
    · rcases List.mem_cons.mp inside with rfl | inside
      · exact absurd ends word
      · exact ⟨stop, inside, ends⟩
  obtain ⟨words, stop, more, rfl, freeBehind, ends⟩ := exists_end ended
  have still : Token.Readable limits (front ++ token' :: (words ++ stop :: more)) := by
    obtain ⟨last, few⟩ := readable
    have same (token : Token) : front ++ token :: (words ++ stop :: more) = (front ++ token :: words) ++ stop :: more := by
      simp
    rw [same, List.getLast?_append_of_ne_nil _ (List.cons_ne_nil _ _)] at last
    refine ⟨?_, by simpa using few⟩
    rwa [same, List.getLast?_append_of_ne_nil _ (List.cons_ne_nil _ _)]
  exact ⟨words, stop, more, rfl, ends, List.forall_mem_append.mpr ⟨free, List.forall_mem_cons.mpr ⟨word, freeBehind⟩⟩,
    List.forall_mem_append.mpr ⟨free, List.forall_mem_cons.mpr ⟨word', freeBehind⟩⟩, still⟩

/-- **A plus in the place of a minus.**  Of a query that is read, let a minus stand in front of a number where a term is
expected: the reading of the tokens up to the minus stops there for want of a term.  With a plus for the minus a query
is read too.  If the reading up to the plus stops there for want of a term, the plus is the sign of the number, and the
queries differ in that sign.  Otherwise the path in front has taken the plus, which repeats it, and the number has no
sign. -/
theorem parseTokens_plus {limits : Limits} {before after : List Token} {minus plus number : Token} {query : Query}
    (isMinus : minus.isSymbol ["-"] = true) (isPlus : plus.isSymbol ["+"] = true) (isNumber : number.isNumeric = true)
    (free : ∀ token ∈ before, token.kind ≠ .eof)
    (wanted : limits.reader.read (before ++ [minus]) = .stopped (.unexpected .term (some minus)) [minus])
    (read : parseTokens limits (before ++ minus :: number :: after) = .ok query) :
    ∃ (role : PlusRole) (query' : Query), parseTokens limits (before ++ plus :: number :: after) = .ok query' ∧
      query.Flipped role query' ∧ limits.reader.read (before ++ [plus]) = role.stopped plus := by
  have readable := readable_of_parseTokens read
  let signs : Signs := ⟨minus, plus, number, isMinus, isPlus, isNumber⟩
  obtain ⟨role, plusRead, further⟩ := Reader.Meets.query (Reader.Meets.inside signs limits.maxDepth) before wanted
  have word {token : Token} {symbols : List String} (is : token.isSymbol symbols = true) : token.kind ≠ .eof := by
    rw [Reader.kind_of_isSymbol is]
    decide
  obtain ⟨words, stop, more, whole, ends, freeMinus, freePlus, readable'⟩ := readable.replaced free (word isMinus) (word isPlus)
  -- the number is one of the words
  obtain ⟨others, rfl⟩ : ∃ others, words = number :: others := by
    cases words with
    | nil =>
      obtain ⟨rfl, -⟩ := List.cons.inj whole
      exact absurd ends (by rw [Reader.kind_of_isNumeric isNumber]; decide)
    | cons first others => exact ⟨others, congrArg (· :: others) (List.cons.inj whole).1.symm⟩
  have split (sign : Token) : before ++ sign :: number :: after =
      (before ++ sign :: number :: others) ++ stop :: more := by rw [whole]; simp
  rw [split] at read readable readable' ⊢
  obtain ⟨-, query', plusRead', flipped⟩ := further ((parseTokens_eq_ok freeMinus ends readable).mp read)
  exact ⟨role, query', (parseTokens_eq_ok freePlus ends readable').mpr plusRead', flipped, plusRead⟩

/-- A plus that a predicate takes. -/
theorem parseTokens_plus_repetition :
    let word (kind : Token.Kind) (text : String) : Token := ⟨kind, text.toList, .start⟩
    let before := [word .keyword "ASK", word .punctuation "\x7b", word .var "?s", word .prefixedName "ex:p"]
    let after := [word .punctuation "\x7d", word .eof ""]
    ∃ query query' : Query,
      parseTokens .standard (before ++ word .punctuation "-" :: word .literal "5" :: after) = .ok query ∧
      parseTokens .standard (before ++ word .punctuation "+" :: word .literal "5" :: after) = .ok query' ∧
      query.Flipped .repetition query' := by
  intro word before after
  obtain ⟨query, read⟩ : ∃ query, parseTokens .standard
      (before ++ word .punctuation "-" :: word .literal "5" :: after) = .ok query := ⟨_, rfl⟩
  obtain ⟨role, query', read', flipped, stopped⟩ := @parseTokens_plus .standard before after (word .punctuation "-")
    (word .punctuation "+") (word .literal "5") query rfl rfl rfl (by decide) rfl read
  cases role with
  | sign => cases stopped
  | repetition => exact ⟨query, query', read, read', flipped⟩

/-- **Not every number is read alike behind both signs**: behind a predicate the minus is a sign, and the plus is taken
for a repetition of the predicate. -/
theorem not_read_alike :
    ¬∀ (limits : Limits) (before after : List Token) (minus plus number : Token) (query : Query),
      minus.isSymbol ["-"] = true → plus.isSymbol ["+"] = true → plus.position = minus.position →
      number.isNumeric = true → (∀ token ∈ before, token.kind ≠ .eof) →
      limits.reader.read (before ++ [minus]) = .stopped (.unexpected .term (some minus)) [minus] →
      parseTokens limits (before ++ minus :: number :: after) = .ok query →
      ∃ query', parseTokens limits (before ++ plus :: number :: after) = .ok query' ∧ query.Flipped .sign query' := by
  intro always
  let word (kind : Token.Kind) (text : String) : Token := ⟨kind, text.toList, .start⟩
  obtain ⟨query', read, flipped⟩ := always .standard
    [word .keyword "ASK", word .punctuation "\x7b", word .var "?s", word .prefixedName "ex:p"]
    [word .punctuation "\x7d", word .eof ""] (word .punctuation "-") (word .punctuation "+") (word .literal "5") _
    rfl rfl rfl rfl (by decide) rfl rfl
  cases read
  cases flipped with
  | mk _ flipped =>
    cases flipped with
    | askGroup _ _ flipped => exact absurd flipped.verbs (by decide)

end QuerySignature
