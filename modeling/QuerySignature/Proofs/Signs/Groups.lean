import QuerySignature.Proofs.Signs.Modifiers

/-!
# Proofs/Signs/Groups — patterns and groups

A pattern meets a sign in a group or an expression, and the elements of a group meet one in triples or in a pattern.
By induction on the brackets that may be open, what can be read inside a bracket meets the sign
(`Meets.inside`).
-/

namespace QuerySignature

variable {α β : Type} {signs : Signs} {depth : Option Inside} {role : PlusRole}

/-- **Elements that are read at once**, in which one minus is turned into a plus. -/
inductive Element.FlippedAll (role : PlusRole) : List Element → List Element → Prop where
  | triples {list list' : List Triple} : Triples.Flipped role list list' →
      Element.FlippedAll role (list.map .triple) (list'.map .triple)
  | element {element element' : Element} : element.Flipped role element' →
      Element.FlippedAll role [element] [element']

/-- The elements of a group. -/
theorem Group.Flipped.of_elements {lists lists' : List (List Element)}
    (h : OneOf (Element.FlippedAll role) lists lists') :
    Group.Flipped role (.pattern lists.flatten) (.pattern lists'.flatten) := by
  obtain ⟨front, list, list', behind, rfl, rfl, flipped⟩ := h.exists_parts
  cases flipped with
  | triples related => simpa using Group.Flipped.triples front.flatten behind.flatten related
  | element related =>
    have one : OneOf (Element.Flipped role) [_] [_] := .here related
    simpa using Group.Flipped.element (one.between front.flatten behind.flatten)

namespace Reader

variable {V : PlusRole → α → α → Prop} {W : PlusRole → β → β → Prop}

/-! ## Names and inline data -/

theorem Termless.resource : Termless Reader.resource := bind (require nofun) fun _ => pure

theorem Termless.target : Termless Reader.target :=
  bind accept? fun
    | some _ => pure
    | none => bind resource fun _ => pure

theorem Termless.cell : Termless Reader.cell :=
  bind accept? fun
    | some _ => pure
    | none => bind accept? fun
      | some _ => pure
      | none => bind accept? fun
        | some _ => bind valued fun _ => pure
        | none => bind signedNumber? fun
          | some _ => pure
          | none => refuse nofun

theorem Termless.manyUntil {p : Token → Bool} {item : Reader α} (advances : Advances item) (h : Termless item) :
    Termless (Reader.manyUntil p item) :=
  many (.choice (.pure nofun) advances.of_first) (bind next (Bool.forall_bool.mpr ⟨bind h fun _ => pure, pure⟩))

theorem Termless.valuesContent : Termless Reader.valuesContent := by
  have header : Termless Reader.valuesHeader :=
    bind accept? fun
      | some _ => pure
      | none => bind accept (Bool.forall_bool.mpr ⟨refuse nofun, bind (many (.orElse (.pure nofun)) (bind accept? fun
          | some _ => pure
          | none => pure)) fun _ => bind (require nofun) fun _ => pure⟩)
  have rows {row : Reader (List Cell)} (vars : List Text) (keyword : Token) (advances : Advances row)
      (h : Termless row) : Termless (do
        let _ ← symbol "\x7b"
        let rows ← Reader.manyUntil (·.isSymbol ["\x7d"]) row
        let closing ← symbol "\x7d"
        return (⟨vars, rows, ⟨keyword.position.offset, closing.stop⟩⟩ : Values)) :=
    bind (require nofun) fun _ => bind (manyUntil advances h) fun _ => bind (require nofun) fun _ => pure
  refine bind (require nofun) fun keyword => ?_
  -- only the two readers of rows come from a header
  intro tokens rest token stopped
  rcases bind_stopped.mp stopped with here | ⟨⟨vars, row⟩, between, read, there⟩
  · exact header here
  rcases valuesHeader_done read with ⟨-, -, -, -, rfl⟩ | ⟨-, declared, -, -, -, -, -, -, rfl⟩
  · exact rows vars keyword Progress.cell.of_first (bind cell fun _ => pure) there
  · refine rows vars keyword Progress.require.of_first ?_ there
    refine bind (require nofun) fun _ => bind (manyUntil Progress.cell cell) fun _ => bind (require nofun) fun _ => ?_
    split
    · exact pure
    · exact stop fun _ => nofun

theorem Termless.values : Termless Reader.values := valuesContent

theorem Termless.values? : Termless Reader.values? :=
  bind next (Bool.forall_bool.mpr ⟨pure, bind values fun _ => pure⟩)

section Depth

variable (hd : DepthMeets signs depth)
include hd

/-! ## Selections -/

theorem Meets.whereGroup : Meets signs Group.Flipped (Reader.whereGroup depth) :=
  andThen (.indifferent (.accept Token.not_spells_of_isSign)) .accept fun _ => group hd

theorem Shielded.whereGroup : Shielded (Reader.whereGroup depth) :=
  .of_tracks (whereGroup_tracks hd.tracks) (Group.eq_of_like Likeness.same_exact _ _)

omit hd in
theorem TermBehind.whereGroup : TermBehind (Reader.whereGroup depth) :=
  .ifAccept Token.not_spells_of_isSign .group

/-- **A pattern with modifiers and inline data meets the sign** in the pattern or in the modifiers. -/
theorem Meets.solution {pattern : Reader α} {make : α → Modifiers → Option Values → β} (shielded : Shielded pattern)
    (met : Meets signs V pattern)
    (inPattern : ∀ {role a a'} modifiers values, V role a a' → W role (make a modifiers values) (make a' modifiers values))
    (inModifiers : ∀ {role modifiers modifiers'} a values, modifiers.Flipped role modifiers' →
      W role (make a modifiers values) (make a modifiers' values)) :
    Meets signs W (do
      let a ← pattern
      let modifiers ← Reader.modifiers depth
      return make a modifiers (← Reader.values?)) := by
  have rest : ∀ a modifiers, Termless (do return make a modifiers (← Reader.values?)) :=
    fun _ _ => .bind .values? fun _ => .pure
  refine bind (.shielded shielded fun a => .bind .modifiers fun modifiers => .of_termless (rest a modifiers)) met
    (fun a => ?_) fun related => ?_
  · exact before (modifiers hd) (rest a) fun related => .bind fun values => .pure (inModifiers a values related)
  · exact .bind fun modifiers => .bind fun values => .pure (inPattern modifiers values related)

/-- **A selection inside a group meets the sign.** -/
theorem Meets.subSelect : Meets signs SubSelect.Flipped (Reader.subSelect depth) := by
  have shielded : Shielded (Reader.selection depth) :=
    .of_tracks (selection_tracks hd.tracks) (Selection.eq_of_like Likeness.same_exact _ _)
  refine bind (.shielded shielded fun _ => .bind .whereGroup fun _ => .bind .modifiers fun _ =>
    .of_termless (.bind .values? fun _ => .pure)) (selection hd) (fun selection => ?_) fun related => ?_
  · exact solution hd (.whereGroup hd) (whereGroup hd) (fun modifiers values => .group selection modifiers values)
      fun group values => .modifiers selection group values
  · exact .bind fun group => .bind fun modifiers => .bind fun values => .pure (.selection group modifiers values related)

/-! ## Patterns -/

/-- **A group, or one of several, meets the sign.** -/
theorem Meets.alternatives : Meets signs Element.Flipped (Reader.alternatives depth) := by
  have keyword : Indifferent (Reader.accept (·.spells ["UNION"])) := .accept Token.not_spells_of_isSign
  have shielded : Shielded (do
      if ← Reader.accept (·.spells ["UNION"]) then return some (← Reader.group depth) else return none) :=
    keyword.shielded.bind (Bool.forall_bool.mpr
      ⟨Indifferent.pure.shielded, (Shielded.group hd).bind fun _ => Indifferent.pure.shielded⟩)
  have later : TermBehind (do
      if ← Reader.accept (·.spells ["UNION"]) then return some (← Reader.group depth) else return none) :=
    .ifAccept Token.not_spells_of_isSign (.of_termless .pure)
  have progress : Progress Found (do
      if ← Reader.accept (·.spells ["UNION"]) then return some (← Reader.group depth) else return none) :=
    .orElse' (.pure nofun)
  refine bind (.shielded (.group hd) fun first => ?_) (group hd) (fun first => ?_) fun {role first first'} related => ?_
  · refine .bind (.loop (goesOn_itemTurn progress) (later.bind fun found => ?_)) fun others => ?_
    · cases found <;> exact .of_termless .pure
    · cases others <;> exact .of_termless .pure
  · refine before (many progress (.items progress shielded later)
      (ifAccept Token.not_spells_of_isSign (found (group hd)) pure)) (fun others => ?_) fun related => ?_
    · cases others <;> exact .pure
    · cases related with
      | here related => exact .pure (.union (.there (.here related)))
      | there related => exact .pure (.union (.there (.there related)))
  · refine .bind fun others => ?_
    cases others with
    | nil => exact .pure (.nested related)
    | cons second others => exact .pure (.union (.here related))

/-- **A pattern meets the sign.** -/
theorem Meets.pattern : Meets signs Element.Flipped (Reader.pattern depth) := by
  have spells {words : List String} {sign : Token} : sign.isSign = true → sign.spells words = false :=
    Token.not_spells_of_isSign
  have target : Shielded Reader.target := .of_tracks target_tracks Eq.symm
  refine ifNext (fun is is' => ?_) (alternatives hd) <| ifAccept spells (map (group hd) .optional) <|
    ifAccept spells (map (group hd) .minus) <| ifAccept spells ?_ <| ifAccept spells ?_ <|
    ifAccept spells (map (constraint hd) .filter) <| ifAccept spells ?_ (of_termless (.bind .values fun _ => .pure))
  · rw [Token.not_isSymbol_of_isSign (by decide) is, Token.not_isSymbol_of_isSign (by decide) is']
  · exact andThen (.shielded target fun _ => .bind .group fun _ => .of_termless .pure) .target fun name =>
      map (group hd) (.graph name)
  · refine andThen (.indifferent (.accept spells)) .accept fun silent => ?_
    exact andThen (.shielded target fun _ => .bind .group fun _ => .of_termless .pure) .target fun endpoint =>
      map (group hd) (.service silent endpoint)
  · refine require nofun fun _ => map (namedExpression hd) fun {role pair pair'} related => ?_
    obtain ⟨expression, name⟩ := pair
    obtain ⟨expression', name'⟩ := pair'
    obtain ⟨flipped, rfl⟩ := related
    exact .bind name flipped

omit hd in
theorem startsPattern_sign {sign : Token} (is : sign.isSign = true) : startsPattern sign = false := by
  rw [startsPattern, Token.not_isSymbol_of_isSign (by decide) is, Token.not_spells_of_isSign is, Bool.or_self]

/-! ## Elements -/

omit hd in
/-- A sign alone starts no node. -/
theorem startsNode_sign {sign : Token} (is : sign.isSign = true) :
    startsNode.read [sign] = .done false [sign] := by
  have none_ : (isAtom sign || sign.isSymbol ["[", "("]) = false := by
    rw [not_isAtom_of_isSign is, Token.not_isSymbol_of_isSign (by decide) is, Bool.or_self]
  exact bind_done.mpr ⟨false, [sign], next_done.mpr ⟨none_, rfl⟩, congrArg (Reading.done · _) (Bool.and_false _)⟩

omit hd in
/-- **Whether a node starts** is told apart by the sign only where nothing is in front of it, and no node starts with
the sign alone. -/
theorem Unseen.startsNode {N : Bool → Reader β} (no : Termless (N false)) : Unseen signs Reader.startsNode N := by
  have shielded : Shielded Reader.startsNode := .of_tracks startsNode_tracks Eq.symm
  intro front behind starts read stopped sign more is
  by_cases alone : behind = []
  · subst alone
    obtain ⟨here, between, nextRead, further⟩ := bind_done.mp read
    obtain ⟨-, rfl⟩ := next_done.mp nextRead
    have whole : front ++ [signs.minus] = [signs.minus] := by
      cases here with
      | true => exact (pure_done.mp further).2
      | false => exact (Reading.done.inj further).2
    rw [whole] at read
    cases (startsNode_sign signs.isSign_minus).symm.trans read
    exact (no stopped).elim
  · exact shielded [] more signs.isSign_minus is alone read

omit hd in
theorem Termless.startsNode : Termless Reader.startsNode :=
  bind next (Bool.forall_bool.mpr ⟨nextTwo, pure⟩)

omit hd in
/-- What no element starts with is refused. -/
theorem Termless.noElement : Termless (do
    Reader.refuse (if (← Reader.peek).isSome then .patternElement else .symbol "\x7d") : Reader α) := by
  refine bind peek fun found => refuse ?_
  split <;> nofun

/-- **The next elements meet the sign.** -/
theorem Meets.elements :
    Meets signs (fun role => TurnLike (Element.FlippedAll role)) (Reader.elements depth) := by
  have symbol {symbols : List String} (apart : ∀ text ∈ ["+", "-"].map String.toList, text ∉ symbols.map String.toList)
      {sign sign' : Token} (is : sign.isSign = true) (is' : sign'.isSign = true) :
      sign'.isSymbol symbols = sign.isSymbol symbols := by
    rw [Token.not_isSymbol_of_isSign apart is, Token.not_isSymbol_of_isSign apart is']
  have starts {sign sign' : Token} (is : sign.isSign = true) (is' : sign'.isSign = true) :
      startsPattern sign' = startsPattern sign := (startsPattern_sign is').trans (startsPattern_sign is).symm
  refine ifNext (symbol (by decide)) pure (ifNext starts ?_ ?_)
  · refine before (pattern hd) (fun _ => .bind .accept fun _ => .pure) fun related => ?_
    exact .bind fun _ => .pure (.more (.element related))
  · have further : ∀ list : List Triple, Termless (do
        if ← Reader.accept (·.isSymbol ["."]) then return Turn.more (list.map Element.triple)
        else if ← Reader.next startsPattern then return Turn.more (list.map Element.triple)
        else return Turn.last (list.map Element.triple)) := fun list =>
      .bind .accept (Bool.forall_bool.mpr ⟨.bind .next (Bool.forall_bool.mpr ⟨.pure, .pure⟩), .pure⟩)
    refine andThen (.startsNode .noElement) .startsNode (Bool.forall_bool.mpr ⟨of_termless .noElement, ?_⟩)
    refine before (triples hd) further fun related => ?_
    refine .bind (Bool.forall_bool.mpr ⟨.bind (Bool.forall_bool.mpr ⟨?_, ?_⟩), ?_⟩)
    · exact .pure (.last (.triples related))
    · exact .pure (.more (.triples related))
    · exact .pure (.more (.triples related))

theorem Shielded.elements : Shielded (Reader.elements depth) :=
  .of_tracks (elements_tracks hd.tracks) fun like => by
    cases like with
    | stop => rfl
    | last related => rw [Element.eq_of_likeAll Likeness.same_exact _ _ related]
    | more related => rw [Element.eq_of_likeAll Likeness.same_exact _ _ related]

omit hd in
theorem TermBehind.elements : TermBehind (Reader.elements depth) :=
  .ifNext (Token.not_isSymbol_of_isSign (by decide)) (.ifNext startsPattern_sign
    (.choice startsNode_sign (.of_termless .noElement)))

/-- **The content of a group meets the sign.** -/
theorem Meets.content : Meets signs Group.Flipped (Reader.content depth) := by
  refine ifNext (fun is is' => ?_) (map (subSelect hd) .selection) (map ?_ .of_elements)
  · rw [Token.not_spells_of_isSign is, Token.not_spells_of_isSign is']
  · exact loop (.elements id) (.turns (.elements id) (.elements hd) .elements) (elements hd)

end Depth

/-- **What can be read inside a bracket meets the sign**, however many may be open within it. -/
theorem Meets.inside (signs : Signs) (brackets : Nat) : DepthMeets signs (Reader.inside brackets) := by
  induction brackets with
  | zero => exact ⟨inside_tracks (.inl rfl), Detached.inside 0, nofun⟩
  | succ brackets ih =>
    refine ⟨inside_tracks (.inl rfl), Detached.inside (brackets + 1), fun inner same => ?_⟩
    obtain rfl := Option.some.inj same
    exact ⟨.path fun inner deeper => (ih.inside inner deeper).path, .node ih, .properties ih, .brackets ih, .content ih⟩

end Reader

end QuerySignature
