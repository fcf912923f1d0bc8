import QuerySignature.Proofs.Path.Sentences
import QuerySignature.Proofs.Signature.Blocks
import QuerySignature.Proofs.Signs.Rules

/-!
# Proofs/Signs/Terms — numbers behind signs, paths and verbs

A term that is wanted at the minus is the number with its sign, and with the plus it is the number with the other sign.
A verb may end at the plus as it ends at the minus; but a path whose last element is not repeated takes the plus
(`path_plus`), and then it is another verb, behind which the number has no sign.
-/

namespace QuerySignature

variable {signs : Signs} {depth : Option Inside}

theorem Signs.text_minus (signs : Signs) : signs.minus.text = ['-'] :=
  text_of_isSymbol signs.isMinus

theorem Signs.text_plus (signs : Signs) : signs.plus.text = ['+'] :=
  text_of_isSymbol signs.isPlus

namespace Reader

/-! ## Terms -/

theorem Termless.signedNumber? : Termless Reader.signedNumber? :=
  bind .acceptTwo? fun
    | some _ => bind .valued fun _ => .pure
    | none => .pure

theorem Termless.atom (token : Token) : Termless (Reader.atom token) := by
  unfold Reader.atom
  split
  · exact .pure
  · split <;> exact .pure
  · exact bind .valued fun _ => .pure
  · exact .pure

theorem not_isAtom_of_isSign {sign : Token} (is : sign.isSign = true) : isAtom sign = false := by
  have other {kind : Token.Kind} (h : kind ≠ .punctuation) : decide (sign.kind = kind) = false :=
    Token.not_isKind_of_isSign h is
  unfold isAtom
  rw [other (by decide), other (by decide), other (by decide), other (by decide)]
  rfl

/-- A sign and a number, where one is expected. -/
theorem signed_read {sign number : Token} (is : sign.isSign = true) (numeric : number.isNumeric = true)
    {literal : Literal} (value : Literal.read sign.text number.text = .ok literal) (rest : List Token) :
    term.read (sign :: number :: rest) = .done (.literal literal) rest := by
  have none_ : (accept? isAtom).read (sign :: number :: rest) = .done none (sign :: number :: rest) :=
    accept?_none.mpr ⟨rfl, not_isAtom_of_isSign is⟩
  refine bind_done.mpr ⟨none, _, none_, bind_done.mpr ⟨some literal, rest, ?_, rfl⟩⟩
  refine bind_done.mpr ⟨some (sign, number), rest, acceptTwo?_some.mpr ⟨rfl, is, numeric⟩, ?_⟩
  exact bind_done.mpr ⟨literal, rest, valued_done.mpr ⟨value, rfl⟩, rfl⟩

/-- A sign alone is no term. -/
theorem sign_read {sign : Token} (is : sign.isSign = true) :
    term.read [sign] = .stopped (.unexpected .term (some sign)) [sign] := by
  have none_ : (accept? isAtom).read [sign] = .done none [sign] :=
    accept?_none.mpr ⟨rfl, not_isAtom_of_isSign is⟩
  unfold term
  rw [bind_read, none_]
  rfl

/-- **A term that is wanted at the sign** is the number with it. -/
theorem Meets.term : Meets signs Node.Flipped Reader.term := by
  intro front stopped
  -- the sign comes first, for a term in front of it would have been read
  obtain rfl : front = [] := by
    rcases bind_stopped.mp stopped with here | ⟨found, between, accepted, further⟩
    · exact (Termless.accept? here).elim
    cases found with
    | some token => exact (Termless.atom token further).elim
    | none =>
      obtain ⟨rfl, -⟩ := accept?_none.mp accepted
      rcases bind_stopped.mp further with here | ⟨found, between, signed, refused⟩
      · exact (Termless.signedNumber? here).elim
      cases found with
      | some number => cases refused
      | none =>
        obtain rfl := (signedNumber?_done signed).2 rfl
        exact List.append_left_eq_self.mp (Reading.stopped.inj refused).2
  obtain ⟨number, value⟩ := Literal.read_signed signs.isNumber
  have minus : Literal.read signs.minus.text signs.number.text = .ok (number.signed ['-']) :=
    signs.text_minus ▸ value signs.minus.text
  have plus : Literal.read signs.plus.text signs.number.text = .ok (number.signed ['+']) :=
    signs.text_plus ▸ value signs.plus.text
  refine ⟨.sign, sign_read signs.isSign_plus, fun after rest node read => ?_⟩
  cases (signed_read signs.isSign_minus signs.isNumber minus after).symm.trans read
  exact ⟨⟨[], rfl⟩, _, signed_read signs.isSign_plus signs.isNumber plus after, .literal number⟩

/-! ## Paths -/

/-- **A path that ends at the minus** leaves the plus too, or takes it. -/
def MayRepeat (signs : Signs) (R : Reader (List Token)) : Prop :=
  ∀ ⦃front taken : List Token⦄, R.read (front ++ [signs.minus]) = .done taken [signs.minus] →
    (∀ more, R.read (front ++ signs.plus :: more) = .done taken (signs.plus :: more)) ∨
      ∀ more, more.head?.any continuesPath = false →
        R.read (front ++ signs.plus :: more) = .done (taken ++ [signs.plus]) more

/-- **An element takes the plus** unless it is repeated. -/
theorem MayRepeat.pathElement (hd : DepthDetached depth) : MayRepeat signs (Reader.pathElement depth) := by
  intro front taken read
  obtain ⟨inverse, first, behind, rfl, inverseRead, further⟩ := bind_taken read
  obtain ⟨primary, second, behind, rfl, primaryRead, ending⟩ := bind_taken further
  obtain ⟨repetition, third, last, rfl, repetitionRead, gives⟩ := bind_taken ending
  obtain ⟨rfl, whole⟩ := pure_done.mp gives
  obtain rfl := List.append_left_eq_self.mp whole
  obtain ⟨whole, repeats, -⟩ := optionalSymbol_done.mp repetitionRead
  obtain rfl := List.append_cancel_right whole
  rw [List.append_nil, List.append_assoc] at inverseRead
  rw [List.append_nil] at primaryRead
  -- what is in front of the repetition is read the same
  have element {found more rest : List Token}
      (repeated : (optionalSymbol ["*", "+", "?"]).read (third ++ signs.plus :: more) = .done found rest) :
      (Reader.pathElement depth).read (first ++ (second ++ third) ++ signs.plus :: more) =
        .done (inverse ++ primary ++ found) rest := by
    obtain ⟨token, others, rfl⟩ := Progress.pathPrimary.exists_cons primaryRead
    rw [List.append_assoc, List.append_assoc]
    have ended : (do
        let repetition ← optionalSymbol ["*", "+", "?"]
        return inverse ++ primary ++ repetition : Reader (List Token)).read (third ++ signs.plus :: more) =
          .done (inverse ++ primary ++ found) rest := bind_done.mpr ⟨found, rest, repeated, rfl⟩
    refine bind_done.mpr ⟨inverse, token :: others ++ (third ++ signs.plus :: more), ?_,
      bind_done.mpr ⟨primary, third ++ signs.plus :: more, ?_, ended⟩⟩
    · exact Detached.optionalSymbol (fun _ => id) .of_cons inverseRead
    · exact Detached.pathPrimary hd (p := nothing)
        (.inr ⟨by cases third <;> rfl, by cases third <;> rfl⟩) primaryRead
  cases repeats with
  | some is => exact .inl fun more => element (optionalSymbol_done.mpr ⟨rfl, .some is, nofun⟩)
  | none =>
    have is : signs.plus.isSymbol ["*", "+", "?"] = true := Token.isSymbol_mono signs.isPlus (by decide)
    refine .inr fun more _ => ?_
    have taken : (optionalSymbol ["*", "+", "?"]).read ([] ++ signs.plus :: more) = .done [signs.plus] more :=
      optionalSymbol_done.mpr ⟨rfl, .some is, nofun⟩
    rw [List.append_nil (inverse ++ primary)]
    exact element taken

/-- **Of separated phrases the last one may take the plus.** -/
theorem MayRepeat.separated {mark : String} {item : Reader (List Token)} (h : MayRepeat signs item)
    (detached : Detached continuesPath item) (continues : ∀ {token : Token}, token.isSymbol [mark] = true →
      continuesPath token = true) (apart : signs.plus.isSymbol [mark] = false) :
    MayRepeat signs (Reader.separated mark item) := by
  intro front
  -- a separator is taken between two phrases
  induction length : front.length using Nat.strong_induction_on generalizing front with
  | _ n ih =>
  subst length
  intro taken read
  obtain ⟨first, between, firstRead, ⟨rfl, rfl, -⟩ | ⟨token, behind, others, rfl, is, othersRead, rfl⟩⟩ :=
    separated_done.mp read
  · rcases h firstRead with leaves | takes
    · exact .inl fun more => separated_done.mpr ⟨taken, _, leaves more, .inl ⟨rfl, rfl, apart⟩⟩
    · refine .inr fun more free => separated_done.mpr ⟨_, more, takes more free, .inl ⟨rfl, rfl, ?_⟩⟩
      cases more with
      | nil => rfl
      | cons next more =>
        exact Bool.eq_false_iff.mpr fun is => Bool.eq_false_iff.mp free (continues is)
  · obtain ⟨later, rfl⟩ := exists_taken othersRead
    obtain ⟨phrase, whole⟩ := exists_taken firstRead
    rw [← List.cons_append, ← List.append_assoc] at whole
    obtain rfl := List.append_cancel_right whole
    have firstRead' (rest : List Token) :
        item.read (phrase ++ token :: later ++ rest) = .done first (token :: (later ++ rest)) := by
      rw [List.append_assoc] at firstRead ⊢
      exact detached .of_cons firstRead
    have shorter : later.length < (phrase ++ token :: later).length := by
      rw [List.length_append, List.length_cons]
      omega
    rcases ih _ shorter rfl othersRead with leaves | takes
    · exact .inl fun more => separated_done.mpr
        ⟨first, _, firstRead' _, .inr ⟨token, _, others, rfl, is, leaves more, rfl⟩⟩
    · refine .inr fun more free => separated_done.mpr
        ⟨first, _, firstRead' _, .inr ⟨token, _, _, rfl, is, takes more free, ?_⟩⟩
      rw [List.append_assoc, List.cons_append]

/-- **A path takes the plus** unless its last element is repeated. -/
theorem MayRepeat.path (hd : DepthDetached depth) : MayRepeat signs (Reader.path depth) :=
  separated
    (separated (pathElement hd) (.pathElement hd) (fun is => Token.isSymbol_mono is (by decide))
      (Token.isSymbol_apart signs.isPlus (by decide)))
    (.separated (.pathElement hd) fun _ is => Token.isSymbol_mono is (by decide))
    (fun is => Token.isSymbol_mono is (by decide)) (Token.isSymbol_apart signs.isPlus (by decide))

/-- A reader of tokens gives at least one. -/
def Gives (R : Reader (List Token)) : Prop :=
  ∀ ⦃tokens taken rest : List Token⦄, R.read tokens = .done taken rest → taken ≠ []

theorem Gives.pathPrimary : Gives (Reader.pathPrimary depth) := by
  intro tokens taken rest read
  obtain ⟨_ | ⟨opening, inner⟩, between, -, further⟩ := bind_done.mp read
  · obtain ⟨_ | negation, between, -, further⟩ := bind_done.mp further
    · obtain ⟨step, between, -, gives⟩ := bind_done.mp further
      obtain ⟨rfl, -⟩ := pure_done.mp gives
      exact List.cons_ne_nil _ _
    · obtain ⟨set, between, -, gives⟩ := bind_done.mp further
      obtain ⟨rfl, -⟩ := pure_done.mp gives
      exact List.cons_ne_nil _ _
  · obtain ⟨path, between, -, further⟩ := bind_done.mp further
    obtain ⟨closing, between, -, gives⟩ := bind_done.mp further
    obtain ⟨rfl, -⟩ := pure_done.mp gives
    exact List.cons_ne_nil _ _

theorem Gives.pathElement : Gives (Reader.pathElement depth) := by
  intro tokens taken rest read
  obtain ⟨inverse, between, -, further⟩ := bind_done.mp read
  obtain ⟨primary, between, primaryRead, ending⟩ := bind_done.mp further
  obtain ⟨repetition, between, -, gives⟩ := bind_done.mp ending
  obtain ⟨rfl, -⟩ := pure_done.mp gives
  rw [List.append_assoc]
  exact List.append_ne_nil_of_right_ne_nil _ (List.append_ne_nil_of_left_ne_nil (pathPrimary primaryRead) _)

theorem Gives.separated {mark : String} {item : Reader (List Token)} (h : Gives item) :
    Gives (Reader.separated mark item) := by
  intro tokens taken rest read
  obtain ⟨first, between, firstRead, ⟨rfl, -⟩ | ⟨_, _, _, -, -, -, rfl⟩⟩ := separated_done.mp read
  · exact h firstRead
  · exact List.append_ne_nil_of_left_ne_nil (h firstRead) _

theorem Gives.path : Gives (Reader.path depth) :=
  separated (separated pathElement)

/-- The verb that the tokens of a path are. -/
def verbOf : List Token → Verb
  | [token] => .resource (propertyOf token)
  | tokens => .path (tokens.flatMap Token.text)

/-- A plus more, and the verb is repeated. -/
theorem verbOf_repeated {tokens : List Token} (some_ : tokens ≠ []) {plus : Token} (is : plus.text = ['+']) :
    (verbOf tokens).Repeated (verbOf (tokens ++ [plus])) := by
  match tokens with
  | [] => exact absurd rfl some_
  | [token] =>
    change Verb.Repeated _ (.path (token.text ++ (plus.text ++ [])))
    rw [is]
    exact .one token
  | first :: second :: others =>
    change Verb.Repeated _ (.path ((first :: second :: others ++ [plus]).flatMap Token.text))
    rw [List.flatMap_append, List.flatMap_singleton, is]
    exact .path _

/-- A path is read where a verb starts with no variable. -/
theorem verb_of_path {token : Token} {others taken rest : List Token} (starts : startsVerb token = true)
    (notVar : decide (token.kind = .var) = false) (read : (path depth).read (token :: others) = .done taken rest) :
    (verb depth).read (token :: others) = .done (verbOf taken) rest := by
  refine bind_done.mpr ⟨none, _, accept?_none.mpr ⟨rfl, notVar⟩, bind_done.mpr ⟨true, _, next_done.mpr ⟨starts, rfl⟩, ?_⟩⟩
  rw [if_pos rfl]
  refine bind_done.mpr ⟨taken, rest, read, ?_⟩
  rcases taken with _ | ⟨_, _ | _⟩ <;> rfl

/-- **A verb is a variable, or what a path makes it.** -/
theorem verb_done {tokens rest : List Token} {found : Verb} (read : (verb depth).read tokens = .done found rest) :
    (∃ token, tokens = token :: rest ∧ decide (token.kind = .var) = true ∧ found = .var token.name) ∨
      tokens.head?.any (·.kind = .var) = false ∧ tokens.head?.any startsVerb = true ∧
        ∃ taken, (path depth).read tokens = .done taken rest ∧ verbOf taken = found := by
  obtain ⟨_ | token, between, accepted, further⟩ := bind_done.mp read
  case some =>
    obtain ⟨rfl, rfl⟩ := pure_done.mp further
    obtain ⟨rfl, isVar⟩ := accept?_some.mp accepted
    exact .inl ⟨token, rfl, isVar, rfl⟩
  obtain ⟨rfl, notVar⟩ := accept?_none.mp accepted
  obtain ⟨starts, between, ahead, choice⟩ := bind_done.mp further
  obtain ⟨holds, rfl⟩ := next_done.mp ahead
  cases starts with
  | false => exact (refuse_done.mp choice).elim
  | true =>
    obtain ⟨taken, between, pathRead, gives⟩ := bind_done.mp choice
    obtain ⟨same, rfl⟩ : verbOf taken = found ∧ between = rest := by
      rcases taken with _ | ⟨_, _ | _⟩ <;> exact pure_done.mp gives
    exact .inr ⟨notVar, holds, taken, pathRead, same⟩

/-- **A verb that ends at the minus** ends at the plus too, or is a path that takes it. -/
theorem verb_plus (hd : DepthDetached depth) {front : List Token} {found : Verb}
    (read : (verb depth).read (front ++ [signs.minus]) = .done found [signs.minus]) :
    (∀ more, (verb depth).read (front ++ signs.plus :: more) = .done found (signs.plus :: more)) ∨
      ∃ found', found.Repeated found' ∧ ∀ more, more.head?.any continuesPath = false →
        (verb depth).read (front ++ signs.plus :: more) = .done found' more := by
  obtain ⟨token, others, rfl⟩ := Progress.verb.exists_cons read
  rcases verb_done read with ⟨variable_, whole, isVar, rfl⟩ | ⟨notVar, holds, taken, pathRead, rfl⟩
  · obtain ⟨rfl, nothing_⟩ := List.cons.inj whole
    obtain rfl := List.append_left_eq_self.mp nothing_
    exact .inl fun more => bind_done.mpr ⟨some token, _, accept?_some.mpr ⟨rfl, isVar⟩, rfl⟩
  · rcases MayRepeat.path hd pathRead with leaves | takes
    · exact .inl fun more => verb_of_path holds notVar (leaves more)
    · exact .inr ⟨_, verbOf_repeated (Gives.path pathRead) signs.text_plus, fun more free =>
        verb_of_path holds notVar (takes more free)⟩

end Reader

end QuerySignature
