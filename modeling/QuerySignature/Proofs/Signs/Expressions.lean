import QuerySignature.Proofs.Signs.Triples

/-!
# Proofs/Signs/Expressions — groups inside expressions

An expression takes a sign like any other token; it meets one only inside the group of an `EXISTS` test.  There the
tokens of the expression differ in the sign, and so does its text (`Scanned.Flipped.expression`).
-/

namespace QuerySignature

variable {signs : Signs} {depth : Option Inside} {role : PlusRole} {named : Bool}

/-! ## Texts -/

/-- Texts are joined around one of them. -/
theorem Text.exists_joined (separator : Text) (front behind : List Text) :
    ∃ first last, ∀ text, Text.joined separator (front ++ text :: behind) = first ++ text ++ last := by
  obtain ⟨last, further⟩ : ∃ last, ∀ text, Text.joined separator (text :: behind) = text ++ last := by
    cases behind with
    | nil => exact ⟨[], fun text => by rw [joined_singleton, List.append_nil]⟩
    | cons next behind => exact ⟨_, fun text => (joined_cons_cons ..).trans (List.append_assoc ..)⟩
  cases front with
  | nil => exact ⟨[], last, further⟩
  | cons before front =>
    refine ⟨joined separator (before :: front) ++ separator, last, fun text => ?_⟩
    rw [joined_append _ (List.cons_ne_nil _ _) (List.cons_ne_nil _ _), further]
    exact (List.append_assoc ..).symm

/-- **The expression of tokens that differ in the sign.** -/
theorem Scanned.Flipped.expression {scanned scanned' : Scanned} (h : scanned.Flipped signs role scanned') :
    scanned.expression.Flipped role scanned'.expression := by
  obtain ⟨tokens, patterns⟩ := scanned
  obtain ⟨tokens', patterns'⟩ := scanned'
  obtain ⟨⟨front, behind, rfl, rfl⟩, groups⟩ := h
  obtain ⟨first, last, joined⟩ := Text.exists_joined [' '] (front.map Token.text) (behind.map Token.text)
  have spaced {sign : Token} {c : Char} (is : sign.text = [c]) :
      Token.spaced (front ++ sign :: behind) = first ++ c :: last := by
    rw [Token.spaced, List.map_append, List.map_cons, joined, is, List.append_assoc]
    rfl
  have vars {sign : Token} (is : sign.isSign = true) : Token.vars (front ++ sign :: behind) =
      Token.vars (front ++ behind) := by
    have other : decide (sign.kind = .var) = false := Token.not_isKind_of_isSign (by decide) is
    rw [Token.vars, Token.vars, List.filter_append, List.filter_append, List.filter_cons, other]
    rfl
  unfold Scanned.expression
  dsimp only
  rw [spaced signs.text_minus, spaced signs.text_plus, vars signs.isSign_minus, vars signs.isSign_plus]
  exact .mk first last _ groups

theorem Scanned.eq_of_like {scanned scanned' : Scanned} (h : scanned.Like .same scanned') : scanned' = scanned := by
  obtain ⟨tokens, patterns⟩ := scanned
  obtain ⟨tokens', patterns'⟩ := scanned'
  obtain rfl := Likeness.same_exact.respelled h.tokens
  obtain rfl := Group.eq_of_likeAll Likeness.same_exact patterns patterns' h.patterns
  rfl

/-- Tokens in front and behind. -/
theorem Scanned.Flipped.between {scanned scanned' : Scanned} (h : scanned.Flipped signs role scanned')
    (first last : List Token) (before after : List Group) :
    Scanned.Flipped signs role ⟨first ++ scanned.tokens ++ last, before ++ scanned.patterns ++ after⟩
      ⟨first ++ scanned'.tokens ++ last, before ++ scanned'.patterns ++ after⟩ := by
  obtain ⟨⟨front, behind, whole, whole'⟩, groups⟩ := h
  refine ⟨⟨first ++ front, behind ++ last, ?_, ?_⟩, groups.between before after⟩
  · simp [whole]
  · simp [whole']

theorem Scanned.Flipped.concat {pieces pieces' : List Scanned} (h : OneOf (Scanned.Flipped signs role) pieces pieces') :
    (Scanned.concat pieces).Flipped signs role (Scanned.concat pieces') := by
  obtain ⟨front, piece, piece', behind, rfl, rfl, flipped⟩ := h.exists_parts
  simpa [Scanned.concat] using flipped.between (front.flatMap Scanned.tokens) (behind.flatMap Scanned.tokens)
    (front.flatMap Scanned.patterns) (behind.flatMap Scanned.patterns)

/-- An expression with a sign is not empty. -/
theorem Expression.Flipped.isEmpty {expression expression' : Expression} (h : expression.Flipped role expression') :
    expression.text.isEmpty = false ∧ expression'.text.isEmpty = false := by
  cases h with
  | mk front behind => cases front <;> exact ⟨rfl, rfl⟩

namespace Reader

/-! ## Groups and tests -/

/-- What stands inside a bracket, if one more may be open. -/
theorem Meets.enter {β : Type} {bracket : Token} {N : Inside → Reader β} {W : PlusRole → β → β → Prop}
    (inside : ∀ inner, depth = some inner → Meets signs W (N inner)) :
    Meets signs W (Reader.enter depth bracket >>= N) := by
  intro front
  cases depth with
  | none => exact fun stopped => nomatch stopped
  | some inner => exact inside inner rfl front

theorem TermBehind.group : TermBehind (Reader.group depth) := .require nofun

section Depth

variable (hd : DepthMeets signs depth)
include hd

/-- **A group meets the sign.** -/
theorem Meets.group : Meets signs Group.Flipped (Reader.group depth) := by
  refine require nofun fun brace => enter fun inner deeper => ?_
  refine before (hd.inside inner deeper).content (fun _ => .bind (.shut nofun) fun _ => .pure) fun related => ?_
  exact .bind fun _ => .pure related

theorem Shielded.group : Shielded (Reader.group depth) :=
  .of_tracks (group_tracks hd.tracks) (Group.eq_of_like Likeness.same_exact _ _)

/-- **A test meets the sign** in its group. -/
theorem Meets.existsTest : Meets signs (Scanned.Flipped signs) (Reader.existsTest depth) := by
  have tested : Meets signs Group.Flipped (Reader.existsGroup depth) :=
    andThen (.indifferent (.accept Token.not_spells_of_isSign)) .accept fun _ => require nofun fun _ => group hd
  exact before tested.taking (fun _ => .pure) fun related => .pure ⟨related.1, .here related.2⟩

/-! ## Pieces -/

theorem Meets.piece : Meets signs (Scanned.Flipped signs) (Reader.piece depth) := by
  refine either (.nextTwo Token.not_spells_of_isSign (Token.not_isSymbol_of_isSign (by decide))) .nextTwo
    (existsTest hd) (open? (Token.not_isSymbol_of_isSign (by decide)) (fun opening inner deeper => ?_) ?_)
  · refine before (hd.inside inner deeper).brackets (fun _ => .bind (.shut nofun) fun _ => .pure) fun related => ?_
    refine .bind fun closing => .pure ?_
    simpa using related.between [opening] [closing] [] []
  · exact of_termless (.bind (.require nofun) fun _ => .pure)

theorem Shielded.piece : Shielded (Reader.piece depth) := .of_tracks (piece_tracks hd.tracks) Scanned.eq_of_like

omit hd in
theorem TermBehind.piece : TermBehind (Reader.piece depth) :=
  .ifNextTwo (.open? (Token.not_isSymbol_of_isSign (by decide))
    (.of_termless (.bind (.require nofun) fun _ => .pure)))

/-- **The pieces between brackets meet the sign.** -/
theorem Meets.brackets : Meets signs (Scanned.Flipped signs) (Reader.brackets depth) := by
  have closer {sign : Token} : sign.isSign = true → isCloser sign = false := Token.not_isSymbol_of_isSign (by decide)
  have apart {sign sign' : Token} (is : sign.isSign = true) (is' : sign'.isSign = true) : isCloser sign' = isCloser sign :=
    (closer is').trans (closer is).symm
  refine map (many (.choice (.pure nofun) Progress.piece.of_first) (.items ?_ ?_ ?_) ?_) .concat
  · exact .choice (.pure nofun) Progress.piece.of_first
  · refine Shielded.bind (Indifferent.next apart).shielded (Bool.forall_bool.mpr ⟨?_, Indifferent.pure.shielded⟩)
    exact Shielded.bind (.piece hd) fun _ => Indifferent.pure.shielded
  · exact .ifNext closer (.bind .piece fun _ => .of_termless .pure)
  · exact ifNext apart pure (found (piece hd))

theorem Meets.outerPiece :
    Meets signs (fun role => SomeLike (Scanned.Flipped signs role)) (Reader.outerPiece depth named) := by
  have ends {sign : Token} (is : sign.isSign = true) :
      (sign.isSymbol [")"] || (named && sign.spells ["AS"])) = false := by
    rw [Token.not_isSymbol_of_isSign (by decide) is, Token.not_spells_of_isSign is, Bool.and_false, Bool.or_self]
  refine ifNext (fun is is' => (ends is').trans (ends is).symm) pure (ifNext (fun is is' => ?_) (refuse nofun) ?_)
  · rw [Token.not_isSymbol_of_isSign (by decide) is, Token.not_isSymbol_of_isSign (by decide) is']
  · exact found (piece hd)

theorem Shielded.outerPiece : Shielded (Reader.outerPiece depth named) :=
  .of_tracks (outerPiece_tracks hd.tracks) (Likeness.Exact.option Scanned.eq_of_like)

omit hd in
theorem TermBehind.outerPiece : TermBehind (Reader.outerPiece depth named) := by
  refine .ifNext (fun is => ?_) (.ifNext (Token.not_isSymbol_of_isSign (by decide)) (.bind .piece fun _ => .of_termless .pure))
  rw [Token.not_isSymbol_of_isSign (by decide) is, Token.not_spells_of_isSign is, Bool.and_false, Bool.or_self]

/-! ## Expressions -/

/-- **An expression meets the sign** in the group of a test. -/
theorem Meets.expression : Meets signs Expression.Flipped (Reader.expression depth named) :=
  map (many Progress.outerPiece (.items Progress.outerPiece (.outerPiece hd) .outerPiece) (outerPiece hd))
    fun related => (Scanned.Flipped.concat related).expression

theorem Meets.someExpression : Meets signs Expression.Flipped (Reader.someExpression depth named) := by
  refine before (expression hd) (fun expression => ?_) fun {role expression expression'} related => ?_
  · split
    · exact .refuse nofun
    · exact .pure
  · rw [related.isEmpty.1, related.isEmpty.2]
    exact .pure related

theorem Meets.functionCall : Meets signs Expression.Flipped (Reader.functionCall depth) := by
  refine require nofun fun name => require nofun fun _ => before (expression hd)
    (fun _ => .bind (.require nofun) fun _ => .pure) fun related => .bind fun _ => ?_
  cases related with
  | mk front behind vars groups =>
    refine .pure ?_
    simpa using Expression.Flipped.mk (name.text ++ '(' :: front) (behind ++ [')']) vars groups

omit hd in
theorem Indifferent.startsCall : Indifferent Reader.startsCall :=
  .nextTwo (fun is => not_isCallable_of_endMark (Token.endMark_of_isSign is)) (Token.not_isSymbol_of_isSign (by decide))

/-- **A constraint meets the sign.** -/
theorem Meets.constraint : Meets signs Expression.Flipped (Reader.constraint depth) := by
  refine ifAccept (Token.not_isSymbol_of_isSign (by decide)) ?_ (ifNext (fun is is' => ?_) ?_ ?_)
  · exact before (someExpression hd) (fun _ => .bind (.require nofun) fun _ => .pure) fun related =>
      .bind fun _ => .pure related
  · rw [Token.not_spells_of_isSign is, Token.not_spells_of_isSign is']
  · exact map (existsTest hd) Scanned.Flipped.expression
  · exact either .startsCall .nextTwo (functionCall hd) (refuse nofun)

theorem Meets.namedExpression :
    Meets signs (fun role pair pair' => pair.1.Flipped role pair'.1 ∧ pair.2 = pair'.2)
      (Reader.namedExpression depth) := by
  refine before (someExpression hd) (fun _ => ?_) fun related => .bind fun _ => .bind fun _ => .bind fun _ =>
    .pure ⟨related, rfl⟩
  exact .bind (.require nofun) fun _ => .bind (.bind (.require nofun) fun _ => .pure) fun _ =>
    .bind (.require nofun) fun _ => .pure

end Depth

end Reader

end QuerySignature
