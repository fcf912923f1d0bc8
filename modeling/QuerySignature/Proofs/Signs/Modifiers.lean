import QuerySignature.Proofs.Signs.Expressions

/-!
# Proofs/Signs/Modifiers — selections and modifiers

Selections, conditions and sort keys meet a sign in an expression.  Each clause leaves a token in front of a sign that
a later one meets.
-/

namespace QuerySignature.Reader

variable {α : Type} {signs : Signs} {depth : Option Inside}

/-! ## Clauses -/

theorem TermBehind.clause {keyword : Reader Bool} {missing : Expected} {item : Reader (Option α)}
    (missed : ∀ {sign}, sign.isSign = true → keyword.read [sign] = .done false [sign]) :
    TermBehind (Reader.clause keyword missing item) :=
  .choice missed (.of_termless .pure)

/-- **A clause meets the sign** in one of its items. -/
theorem Meets.clause {V : PlusRole → α → α → Prop} {keyword : Reader Bool} {missing : Expected}
    {item : Reader (Option α)} (other : missing ≠ .term) (indifferent : Indifferent keyword) (termless : Termless keyword)
    (progress : Progress Found item) (shielded : Shielded item) (later : TermBehind item)
    (met : Meets signs (fun role => SomeLike (V role)) item) :
    Meets signs (fun role => OneOf (V role)) (Reader.clause keyword missing item) := by
  refine either indifferent termless ?_ pure
  refine before (many progress (.items progress shielded later) met) (fun list => ?_) fun {role list list'} related => ?_
  · split
    · exact .refuse other
    · exact .pure
  · rw [related.isEmpty.1, related.isEmpty.2]
    exact .pure related

theorem Shielded.clause {V : α → α → Prop} {keyword : Reader Bool} {missing : Expected} {item : Reader (Option α)}
    (keywords : Plain .same Eq keyword keyword) (items : Plain .same (Option.Rel V) item item)
    (progress : Progress Found item) (exact_ : ∀ {a a'}, V a a' → a' = a) :
    Shielded (Reader.clause keyword missing item) := by
  refine .of_tracks (clause_tracks keywords items progress progress) fun {list list'} related => ?_
  induction related with
  | nil => rfl
  | cons like _ ih => rw [exact_ like, ih]

theorem Indifferent.keywordBy (keyword : String) : Indifferent (Reader.keywordBy keyword) :=
  bind (accept Token.not_spells_of_isSign) (Bool.forall_bool.mpr ⟨pure, bind require fun _ => pure⟩)

theorem Termless.keywordBy (keyword : String) : Termless (Reader.keywordBy keyword) :=
  bind accept (Bool.forall_bool.mpr ⟨pure, bind (require nofun) fun _ => pure⟩)

theorem keywordBy_sign {keyword : String} {sign : Token} (is : sign.isSign = true) :
    (keywordBy keyword).read [sign] = .done false [sign] :=
  bind_done.mpr ⟨false, [sign], accept_false.mpr ⟨rfl, Token.not_spells_of_isSign is⟩, rfl⟩

theorem Termless.slice? (keyword : String) : Termless (Reader.slice? keyword) := by
  refine bind accept? fun found => ?_
  cases found with
  | none => exact pure
  | some keyword =>
    refine bind (require nofun) fun number => ?_
    split
    · exact pure
    · exact stop nofun

theorem Termless.slices : Termless Reader.slices := by
  refine bind (slice? _) fun found => ?_
  cases found with
  | some limit => exact bind (slice? _) fun _ => pure
  | none =>
    refine bind (slice? _) fun found => ?_
    cases found with
    | some offset => exact bind (slice? _) fun _ => pure
    | none => exact pure

section Depth

variable (hd : DepthMeets signs depth)
include hd

/-! ## Selections -/

theorem Meets.projection? : Meets signs (fun role => SomeLike (Projection.Flipped role)) (Reader.projection? depth) := by
  refine orElse (Token.not_isKind_of_isSign (by decide)) (fun _ => pure)
    (ifAccept (Token.not_isSymbol_of_isSign (by decide)) ?_ pure)
  refine before (namedExpression hd) (fun _ => .pure) fun {role pair pair'} related => ?_
  obtain ⟨expression, name⟩ := pair
  obtain ⟨expression', name'⟩ := pair'
  obtain ⟨flipped, rfl⟩ := related
  exact .pure (.some (.aliased name flipped))

/-- **A selection meets the sign** in a column. -/
theorem Meets.selection : Meets signs Selection.Flipped (Reader.selection depth) := by
  have duplicates : Indifferent Reader.duplicates ∧ Termless Reader.duplicates :=
    ⟨.bind (.accept Token.not_spells_of_isSign) (Bool.forall_bool.mpr
      ⟨.bind (.accept Token.not_spells_of_isSign) (Bool.forall_bool.mpr ⟨.pure, .pure⟩), .pure⟩),
    .bind .accept (Bool.forall_bool.mpr ⟨.bind .accept (Bool.forall_bool.mpr ⟨.pure, .pure⟩), .pure⟩)⟩
  have shielded : Shielded (Reader.projection? depth) :=
    .of_tracks (projection?_tracks hd.tracks) (Likeness.Exact.option (Projection.eq_of_like Likeness.same_exact _ _))
  have later : TermBehind (Reader.projection? depth) :=
    .orElse (Token.not_isKind_of_isSign (by decide))
      (.ifAccept (Token.not_isSymbol_of_isSign (by decide)) (.of_termless .pure))
  refine require nofun fun _ => andThen (.indifferent duplicates.1) duplicates.2 fun duplicates =>
    ifAccept (Token.not_isSymbol_of_isSign (by decide)) pure ?_
  refine before (many Progress.projection? (.items Progress.projection? shielded later) (within (projection? hd)))
    (fun list => ?_) fun {role list list'} related => ?_
  · split
    · exact .refuse nofun
    · exact .pure
  · rw [related.isEmpty.1, related.isEmpty.2]
    exact .pure (.listed duplicates related)

/-! ## Grouping and order -/

theorem Meets.groupCondition? :
    Meets signs (fun role => SomeLike (Expression.Flipped role)) (Reader.groupCondition? depth) := by
  refine orElse (Token.not_isKind_of_isSign (by decide)) (fun _ => pure)
    (ifAccept (Token.not_isSymbol_of_isSign (by decide)) ?_ (either .startsCall .nextTwo (found (functionCall hd)) pure))
  refine before (expression hd) (fun inner => ?_) fun related => ?_
  · exact .bind .accept (Bool.forall_bool.mpr ⟨.bind (.require nofun) fun _ => .pure,
      .bind (.require nofun) fun _ => .bind (.require nofun) fun _ => .pure⟩)
  · refine .bind (Bool.forall_bool.mpr ⟨.bind fun _ => .pure (.some related), .bind fun name => .bind fun _ => ?_⟩)
    cases related with
    | mk front behind vars groups =>
      refine .pure (.some ?_)
      simpa using Expression.Flipped.mk ('(' :: front) (behind ++ " AS ".toList ++ name.text ++ [')'])
        (vars ++ [name.name]).eraseDups groups

omit hd in
theorem Indifferent.startsConstraint : Indifferent Reader.startsConstraint := by
  refine bind (next fun {sign sign'} is is' => ?_) fun _ => bind startsCall fun _ => pure
  rw [Token.not_isSymbol_of_isSign (by decide) is, Token.not_isSymbol_of_isSign (by decide) is',
    Token.not_spells_of_isSign is, Token.not_spells_of_isSign is']

omit hd in
theorem Termless.startsConstraint : Termless Reader.startsConstraint :=
  bind next fun _ => bind nextTwo fun _ => pure

theorem Meets.constraint? : Meets signs (fun role => SomeLike (Expression.Flipped role)) (Reader.constraint? depth) :=
  either .startsConstraint .startsConstraint (found (constraint hd)) pure

theorem Meets.orderKey? : Meets signs (fun role => SomeLike (OrderKey.Flipped role)) (Reader.orderKey? depth) := by
  refine orElse Token.not_spells_of_isSign (fun direction => require nofun fun _ => ?_)
    (orElse (Token.not_isKind_of_isSign (by decide)) (fun _ => pure) (either .startsConstraint .startsConstraint ?_ pure))
  · exact before (expression hd) (fun _ => .bind (.require nofun) fun _ => .pure) fun related =>
      .bind fun _ => .pure (.some (.mk _ related))
  · exact map (constraint hd) fun related => .some (.mk false related)

omit hd in
theorem startsConstraint_sign {sign : Token} (is : sign.isSign = true) :
    Reader.startsConstraint.read [sign] = .done false [sign] := by
  have none_ : (sign.isSymbol ["("] || sign.spells ["EXISTS", "NOT"]) = false := by
    rw [Token.not_isSymbol_of_isSign (by decide) is, Token.not_spells_of_isSign is, Bool.or_self]
  have call : Reader.startsCall.read [sign] = .done false [sign] := congrArg (Reading.done · _) (Bool.and_false _)
  refine bind_done.mpr ⟨false, [sign], next_done.mpr ⟨none_, rfl⟩, ?_⟩
  exact bind_done.mpr ⟨false, [sign], call, rfl⟩

/-! ## Modifiers -/

omit hd in
theorem TermBehind.groupCondition? : TermBehind (Reader.groupCondition? depth) :=
  .orElse (Token.not_isKind_of_isSign (by decide))
    (.ifAccept (Token.not_isSymbol_of_isSign (by decide)) (.ifNextTwo (.of_termless .pure)))

omit hd in
theorem TermBehind.constraint? : TermBehind (Reader.constraint? depth) :=
  .choice startsConstraint_sign (.of_termless .pure)

omit hd in
theorem TermBehind.orderKey? : TermBehind (Reader.orderKey? depth) :=
  .orElse Token.not_spells_of_isSign
    (.orElse (Token.not_isKind_of_isSign (by decide)) (.choice startsConstraint_sign (.of_termless .pure)))

omit hd in
/-- The clauses behind a pattern start with a keyword. -/
theorem TermBehind.modifiers : TermBehind (Reader.modifiers depth) :=
  .bind (.clause keywordBy_sign) fun _ =>
    .bind (.clause fun is => accept_false.mpr ⟨rfl, Token.not_spells_of_isSign is⟩) fun _ =>
      .bind (.clause keywordBy_sign) fun _ => .of_termless (.bind .slices fun _ => .pure)

/-- **Modifiers meet the sign** in one of their clauses. -/
theorem Meets.modifiers : Meets signs Modifiers.Flipped (Reader.modifiers depth) := by
  have grouping : Plain .same (Option.Rel (Expression.Like (.within .same .grouping)))
      (Reader.within .grouping (Reader.groupCondition? depth)) (Reader.within .grouping (Reader.groupCondition? depth)) :=
    within_tracks (groupCondition?_tracks hd.tracks)
  have selecting : Plain .same (Option.Rel (Expression.Like (.within .same .having)))
      (Reader.within .having (Reader.constraint? depth)) (Reader.within .having (Reader.constraint? depth)) :=
    within_tracks (constraint?_tracks hd.tracks)
  have ordering : Plain .same (Option.Rel (OrderKey.Like (.within .same .ordering)))
      (Reader.within .ordering (Reader.orderKey? depth)) (Reader.within .ordering (Reader.orderKey? depth)) :=
    within_tracks (orderKey?_tracks hd.tracks)
  have exact_ {region : Region} {expression expression' : Expression} :
      Expression.Like (.within .same region) expression expression' → expression' = expression :=
    Expression.eq_of_like (Likeness.same_exact.within region) _ _
  have exactKey {key key' : OrderKey} : OrderKey.Like (.within .same .ordering) key key' → key' = key :=
    OrderKey.eq_of_like (Likeness.same_exact.within .ordering) _ _
  have spells {keyword : String} : Indifferent (Reader.accept (·.spells [keyword])) := .accept Token.not_spells_of_isSign
  refine bind (.shielded (.clause (keywordBy_tracks _) grouping Progress.groupCondition? exact_) fun _ => ?_)
    (clause nofun (.keywordBy _) (.keywordBy _) Progress.groupCondition? (.of_tracks grouping (Likeness.Exact.option exact_))
      .groupCondition? (within (groupCondition? hd))) (fun groupBy => ?_) fun related => ?_
  · exact .bind (.clause fun is => accept_false.mpr ⟨rfl, Token.not_spells_of_isSign is⟩) fun _ =>
      .bind (.clause keywordBy_sign) fun _ => .of_termless (.bind .slices fun _ => .pure)
  · refine bind (.shielded (.clause (accept_tracks (.spells _)) selecting Progress.constraint? exact_) fun _ => ?_)
      (clause nofun spells .accept Progress.constraint? (.of_tracks selecting (Likeness.Exact.option exact_))
        .constraint? (within (constraint? hd))) (fun having => ?_) fun related => ?_
    · exact .bind (.clause keywordBy_sign) fun _ => .of_termless (.bind .slices fun _ => .pure)
    · refine before (clause nofun (.keywordBy _) (.keywordBy _) Progress.orderKey?
        (.of_tracks ordering (Likeness.Exact.option exactKey)) .orderKey? (within (orderKey? hd)))
        (fun _ => .bind .slices fun _ => .pure) fun related => ?_
      exact .bind fun slices => .pure (.orderBy groupBy having slices.1 slices.2 related)
    · exact .bind fun orderBy => .bind fun slices => .pure (.having groupBy orderBy slices.1 slices.2 related)
  · exact .bind fun having => .bind fun orderBy => .bind fun slices =>
      .pure (.groupBy having orderBy slices.1 slices.2 related)

end Depth

end QuerySignature.Reader
