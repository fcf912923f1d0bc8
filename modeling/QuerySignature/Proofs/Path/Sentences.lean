import QuerySignature.Proofs.Outcome.Ceilings
import QuerySignature.Proofs.Paired.Pieces
import QuerySignature.Proofs.Path.Grammar
import QuerySignature.Proofs.Reading.Unrolled

/-!
# Proofs/Path/Sentences — the reader of paths takes the longest path

Where the brackets ahead are few enough, each rule of the reader takes just the phrases of its rule of the grammar
that end where they do (`Exactly`); the recursion is on the brackets that may be open.  Where a path ends no longer
path begins like it, and conversely (`ends_iff`).  So under any limits that are not reached the reader takes the
longest path that stands ahead, and stops where none does (`path_reads`).
-/

namespace QuerySignature

variable {α : Type} {depth : Option Inside} {brackets : Nat} {phrase : List Token → Prop}
  {ends : List Token → List Token → Prop} {marks : List String} {tokens taken rest : List Token}

/-- The round brackets that open. -/
def Token.openings (tokens : List Token) : Nat :=
  tokens.countP (·.isSymbol ["("])

theorem Token.openings_append (first second : List Token) :
    openings (first ++ second) = openings first + openings second :=
  List.countP_append

theorem Token.openings_cons {opening : Token} (opens : opening.isSymbol ["("] = true) (tokens : List Token) :
    openings (opening :: tokens) = openings tokens + 1 :=
  List.countP_cons_of_pos opens

theorem Token.openings_behind (front behind : List Token) : openings behind ≤ openings (front ++ behind) := by
  rw [openings_append]
  exact Nat.le_add_left _ _

namespace Reader

/-- **Where so few brackets open, the reader takes just the phrases** that end where they do. -/
def Exactly (brackets : Nat) (phrase : List Token → Prop) (ends : List Token → List Token → Prop)
    (R : Reader (List Token)) : Prop :=
  ∀ ⦃tokens taken rest : List Token⦄, Token.openings tokens ≤ brackets →
    (R.read tokens = .done taken rest ↔ tokens = taken ++ rest ∧ phrase taken ∧ ends taken rest)

/-- Nothing has to end a phrase. -/
abbrev Anywhere (_taken _rest : List Token) : Prop := True

/-- The symbol does not come next. -/
def NotAhead (mark : String) (rest : List Token) : Prop :=
  rest.head?.any (·.isSymbol [mark]) = false

/-! ## Symbols and steps -/

theorem optionalSymbol_done {symbols : List String} {found : List Token} :
    (optionalSymbol symbols).read tokens = .done found rest ↔
      tokens = found ++ rest ∧ IsOptional symbols found ∧
        (found = [] → rest.head?.any (·.isSymbol symbols) = false) := by
  constructor
  · intro read
    obtain ⟨_ | token, between, accepted, gives⟩ := bind_done.mp read <;> obtain ⟨rfl, rfl⟩ := pure_done.mp gives
    · obtain ⟨rfl, missed⟩ := accept?_none.mp accepted
      exact ⟨rfl, .none, fun _ => missed⟩
    · obtain ⟨rfl, is⟩ := accept?_some.mp accepted
      exact ⟨rfl, .some is, nofun⟩
  · rintro ⟨rfl, _ | is, missed⟩
    · exact bind_done.mpr ⟨none, rest, accept?_none.mpr ⟨rfl, missed rfl⟩, rfl⟩
    · exact bind_done.mpr ⟨some _, rest, accept?_some.mpr ⟨rfl, is⟩, rfl⟩

theorem inverseStep_exactly : Exactly brackets IsInverseStep Anywhere inverseStep := by
  intro tokens taken rest _
  constructor
  · intro read
    obtain ⟨inverse, between, first, stepRead⟩ := bind_done.mp read
    obtain ⟨rfl, optional, -⟩ := optionalSymbol_done.mp first
    obtain ⟨token, behind, required, gives⟩ := bind_done.mp stepRead
    obtain ⟨rfl, step⟩ := require_done.mp required
    obtain ⟨rfl, rfl⟩ := pure_done.mp gives
    exact ⟨by rw [List.append_assoc]; rfl, .step optional step, trivial⟩
  · rintro ⟨rfl, @⟨inverse, token, optional, step⟩, -⟩
    refine bind_done.mpr ⟨inverse, token :: rest, optionalSymbol_done.mpr ⟨?_, optional, fun _ => ?_⟩, ?_⟩
    · rw [List.append_assoc]
      rfl
    · exact isStep_isSymbol step _
    · exact bind_done.mpr ⟨token, rest, require_done.mpr ⟨rfl, step⟩, rfl⟩

/-! ## Separated phrases -/

/-- A phrase behind a separator, if there is one. -/
def phraseBehind (mark : String) (item : Reader (List Token)) : Reader (Option (List Token)) := do
  match ← accept? (·.isSymbol [mark]) with
  | some token => return some (token :: (← item))
  | none => return none

theorem separated_eq (mark : String) (item : Reader (List Token)) :
    separated mark item = (do
      let first ← item
      let others ← many (phraseBehind mark item)
      return first ++ others.flatten) := rfl

theorem phraseBehind_none {mark : String} {item : Reader (List Token)} :
    (phraseBehind mark item).read tokens = .done none rest ↔
      tokens = rest ∧ tokens.head?.any (·.isSymbol [mark]) = false := by
  rw [phraseBehind, bind_done]
  constructor
  · rintro ⟨_ | token, between, accepted, gives⟩
    · obtain ⟨-, rfl⟩ := pure_done.mp gives
      exact accept?_none.mp accepted
    · obtain ⟨_, _, -, gives⟩ := bind_done.mp gives
      cases (pure_done.mp gives).1
  · exact fun missed => ⟨none, rest, accept?_none.mpr missed, rfl⟩

theorem phraseBehind_some {mark : String} {item : Reader (List Token)} {found : List Token} :
    (phraseBehind mark item).read tokens = .done (some found) rest ↔
      ∃ token between phrase, tokens = token :: between ∧ token.isSymbol [mark] = true ∧
        item.read between = .done phrase rest ∧ found = token :: phrase := by
  rw [phraseBehind, bind_done]
  constructor
  · rintro ⟨_ | token, between, accepted, gives⟩
    · cases (pure_done.mp gives).1
    · obtain ⟨rfl, is⟩ := accept?_some.mp accepted
      obtain ⟨phrase, _, read, gives⟩ := bind_done.mp gives
      obtain ⟨same, rfl⟩ := pure_done.mp gives
      exact ⟨token, between, phrase, rfl, is, read, (Option.some.inj same).symm⟩
  · rintro ⟨token, between, phrase, rfl, is, read, rfl⟩
    exact ⟨some token, between, accept?_some.mpr ⟨rfl, is⟩, bind_done.mpr ⟨phrase, rest, read, rfl⟩⟩

/-- **Separated phrases are one phrase, and others behind a separator.** -/
theorem separated_done {mark : String} {item : Reader (List Token)} :
    (separated mark item).read tokens = .done taken rest ↔
      ∃ first between, item.read tokens = .done first between ∧
        ((taken = first ∧ between = rest ∧ between.head?.any (·.isSymbol [mark]) = false) ∨
          ∃ token behind others, between = token :: behind ∧ token.isSymbol [mark] = true ∧
            (separated mark item).read behind = .done others rest ∧ taken = first ++ token :: others) := by
  have progress : Progress Found (phraseBehind mark item) := .orElse (.pure nofun)
  rw [separated_eq, bind_done]
  constructor
  · rintro ⟨first, between, firstRead, further⟩
    obtain ⟨others, _, othersRead, gives⟩ := bind_done.mp further
    obtain ⟨rfl, rfl⟩ := pure_done.mp gives
    refine ⟨first, between, firstRead, ?_⟩
    rcases (many_done progress).mp othersRead with ⟨rfl, none_⟩ | ⟨second, later, behind, rfl, secondRead, laterRead⟩
    · obtain ⟨rfl, missed⟩ := phraseBehind_none.mp none_
      exact .inl ⟨List.append_nil first, rfl, missed⟩
    · obtain ⟨token, inner, phrase, rfl, is, read, rfl⟩ := phraseBehind_some.mp secondRead
      refine .inr ⟨token, inner, phrase ++ later.flatten, rfl, is, ?_, ?_⟩
      · exact bind_done.mpr ⟨phrase, behind, read, bind_done.mpr ⟨later, _, laterRead, rfl⟩⟩
      · rw [List.flatten_cons, List.cons_append]
  · rintro ⟨first, between, firstRead, ⟨rfl, rfl, missed⟩ | ⟨token, behind, others, rfl, is, othersRead, rfl⟩⟩
    · refine ⟨_, between, firstRead, bind_done.mpr ⟨[], between, ?_, ?_⟩⟩
      · exact (many_done progress).mpr (.inl ⟨rfl, phraseBehind_none.mpr ⟨rfl, missed⟩⟩)
      · exact pure_done.mpr ⟨List.append_nil _, rfl⟩
    · obtain ⟨second, between, secondRead, further⟩ := bind_done.mp othersRead
      obtain ⟨later, _, laterRead, gives⟩ := bind_done.mp further
      obtain ⟨rfl, rfl⟩ := pure_done.mp gives
      refine ⟨first, token :: behind, firstRead, bind_done.mpr ⟨(token :: second) :: later, _, ?_, rfl⟩⟩
      have found := phraseBehind_some.mpr ⟨token, behind, second, rfl, is, secondRead, rfl⟩
      exact (many_done progress).mpr (.inr ⟨_, later, between, rfl, found, laterRead⟩)

/-- **Separated phrases are read exactly** if each phrase is, and the separator ends it. -/
theorem separated_exactly {mark : String} {item : Reader (List Token)} (h : Exactly brackets phrase ends item)
    (nonempty : ∀ {tokens}, phrase tokens → tokens ≠ [])
    (last : ∀ {front taken rest}, taken ≠ [] → (ends (front ++ taken) rest ↔ ends taken rest))
    (apart : ∀ {taken rest} {token : Token}, token.isSymbol [mark] = true → ends taken (token :: rest)) :
    Exactly brackets (Separated mark phrase) (fun taken rest => ends taken rest ∧ NotAhead mark rest)
      (separated mark item) := by
  intro tokens
  -- what stands behind a separator is shorter
  induction length : tokens.length using Nat.strong_induction_on generalizing tokens with
  | _ n ih =>
  subst length
  intro taken rest few
  have ends_append {first others : List Token} {token : Token} (further : Separated mark phrase others) :
      ends (first ++ token :: others) rest ↔ ends others rest := by
    rw [List.append_cons, last (further.ne_nil nonempty)]
  have behind_ {first behind : List Token} {token : Token} (whole : tokens = first ++ token :: behind) :
      behind.length < tokens.length ∧ Token.openings behind ≤ brackets := by
    subst whole
    refine ⟨by simp only [List.length_append, List.length_cons]; omega, Nat.le_trans ?_ few⟩
    rw [List.append_cons]
    exact Token.openings_behind _ _
  rw [separated_done]
  constructor
  · rintro ⟨first, between, firstRead, chosen⟩
    obtain ⟨rfl, firstPhrase, ended⟩ := (h few).mp firstRead
    rcases chosen with ⟨rfl, rfl, missed⟩ | ⟨token, behind, others, rfl, is, othersRead, rfl⟩
    · exact ⟨rfl, .one firstPhrase, ended, missed⟩
    · obtain ⟨shorter, fewer⟩ := behind_ rfl
      obtain ⟨rfl, others_, othersEnd, missed⟩ := (ih _ shorter rfl fewer).mp othersRead
      refine ⟨?_, .more firstPhrase is others_, (ends_append others_).mpr othersEnd, missed⟩
      rw [List.append_assoc]
      rfl
  · rintro ⟨rfl, phrases, ended, missed⟩
    cases phrases with
    | one first => exact ⟨taken, rest, (h few).mpr ⟨rfl, first, ended⟩, .inl ⟨rfl, rfl, missed⟩⟩
    | @more first others token firstPhrase is further =>
      have whole : first ++ token :: others ++ rest = first ++ token :: (others ++ rest) := by
        rw [List.append_assoc]
        rfl
      obtain ⟨shorter, fewer⟩ := behind_ whole
      have firstRead := (h few).mpr ⟨whole, firstPhrase, apart is⟩
      have othersRead := (ih _ shorter rfl fewer).mpr ⟨rfl, further, (ends_append further).mp ended, missed⟩
      exact ⟨first, _, firstRead, .inr ⟨token, _, others, rfl, is, othersRead, rfl⟩⟩

/-! ## Elements -/

/-- **What may stand inside the brackets that open** is read exactly. -/
def DepthExactly (brackets : Nat) : Option Inside → Prop
  | some inner => ∃ fewer, brackets = fewer + 1 ∧ Exactly fewer IsPath (Ends ["|", "/"]) inner.path
  | none => brackets = 0

/-- A bracket that opens can be opened. -/
theorem open?_opens (hd : DepthExactly brackets depth) {opening : Token} (opens : opening.isSymbol ["("] = true)
    (few : Token.openings (opening :: rest) ≤ brackets) :
    ∃ inner fewer, depth = some inner ∧ brackets = fewer + 1 ∧ Token.openings rest ≤ fewer ∧
      Exactly fewer IsPath (Ends ["|", "/"]) inner.path ∧
      (open? depth ["("]).read (opening :: rest) = .done (some (opening, inner)) rest := by
  rw [Token.openings_cons opens] at few
  rcases open?_cases depth ["("] (opening :: rest) with ⟨missed, -⟩ | ⟨bracket, others, same, -, opened⟩
  · rcases open?_done missed with ⟨-, -, none_⟩ | ⟨_, _, found, -⟩
    · rw [List.head?_cons, Option.any_some, opens] at none_
      cases none_
    · cases found
  · cases same
    cases depth with
    | none =>
      cases (show brackets = 0 from hd)
      cases few
    | some inner =>
      obtain ⟨fewer, rfl, exactly⟩ := hd
      exact ⟨inner, fewer, rfl, rfl, Nat.le_of_succ_le_succ few, exactly, opened.1⟩

theorem close_done {symbol : String} {closing : Token} :
    (close symbol).read tokens = .done closing rest ↔ tokens = closing :: rest ∧ closing.isSymbol [symbol] = true := by
  refine ⟨shut_done, fun closes => ?_⟩
  exact bind_done.mpr ⟨closing, rest, require_done.mpr closes, rfl⟩

theorem NotAhead.cons {mark : String} {token : Token} (h : token.isSymbol [mark] = false) :
    NotAhead mark (token :: rest) := h

theorem negatedSet_exactly (hd : DepthExactly brackets depth) :
    Exactly brackets IsNegatedSet Anywhere (negatedSet depth) := by
  intro tokens taken rest few
  have steps_exactly {brackets : Nat} : Exactly brackets (Separated "|" IsInverseStep)
      (fun taken rest => Anywhere taken rest ∧ NotAhead "|" rest) (separated "|" inverseStep) :=
    separated_exactly inverseStep_exactly IsInverseStep.ne_nil (fun _ => Iff.rfl) fun _ => trivial
  constructor
  · intro read
    obtain ⟨found, between, opened, chosen⟩ := bind_done.mp read
    rcases open?_done opened with ⟨rfl, rfl, -⟩ | ⟨opening, inner, rfl, rfl, rfl, opens⟩
    · obtain ⟨whole, inverse, -⟩ := (inverseStep_exactly few).mp chosen
      exact ⟨whole, .one inverse, trivial⟩
    · obtain ⟨_ | closing, behind, accepted, further⟩ := bind_done.mp chosen
      · obtain ⟨rfl, -⟩ := accept?_none.mp accepted
        obtain ⟨steps, later, stepsRead, ending⟩ := bind_done.mp further
        obtain ⟨rfl, steps_, -⟩ := (steps_exactly (Nat.le_refl _)).mp stepsRead
        obtain ⟨closing, _, closed, gives⟩ := bind_done.mp ending
        obtain ⟨rfl, closes⟩ := close_done.mp closed
        obtain ⟨rfl, rfl⟩ := pure_done.mp gives
        exact ⟨by simp, .several opens steps_ closes, trivial⟩
      · obtain ⟨rfl, closes⟩ := accept?_some.mp accepted
        obtain ⟨_, _, shifted, gives⟩ := bind_done.mp further
        cases shifted
        obtain ⟨rfl, rfl⟩ := pure_done.mp gives
        exact ⟨rfl, .none opens closes, trivial⟩
  · rintro ⟨rfl, excluded, -⟩
    cases excluded with
    | one inverse =>
      have read := (inverseStep_exactly few).mpr ⟨rfl, inverse, trivial⟩
      refine bind_done.mpr ⟨none, taken ++ rest, open?_none ?_, read⟩
      obtain ⟨first, others, rfl, apart⟩ := inverse.exists_cons
      rw [Token.isSymbol_cons, Bool.or_eq_false_iff] at apart
      exact apart.1
    | @none opening closing opens closes =>
      obtain ⟨inner, _, -, -, -, -, opened⟩ := open?_opens hd opens few
      refine bind_done.mpr ⟨_, _, opened, bind_done.mpr ⟨some closing, rest, accept?_some.mpr ⟨rfl, closes⟩, ?_⟩⟩
      exact bind_done.mpr ⟨(), rest, rfl, rfl⟩
    | @several opening closing steps opens steps_ closes =>
      rw [show opening :: steps ++ [closing] ++ rest = opening :: (steps ++ closing :: rest) by simp] at few ⊢
      obtain ⟨inner, _, -, -, few, -, opened⟩ := open?_opens hd opens few
      have bar : NotAhead "|" (closing :: rest) := .cons (Token.isSymbol_apart closes (by decide))
      refine bind_done.mpr ⟨_, _, opened, bind_done.mpr ⟨none, _, accept?_none.mpr ⟨rfl, ?_⟩, ?_⟩⟩
      · obtain ⟨first, others, rfl, apart⟩ := steps_.exists_cons IsInverseStep.exists_cons
        rw [Token.isSymbol_cons, Bool.or_eq_false_iff] at apart
        exact apart.2
      · refine bind_done.mpr ⟨steps, _, (steps_exactly few).mpr ⟨rfl, steps_, trivial, bar⟩, ?_⟩
        exact bind_done.mpr ⟨closing, rest, close_done.mpr ⟨rfl, closes⟩, rfl⟩

theorem pathPrimary_exactly (hd : DepthExactly brackets depth) :
    Exactly brackets IsPathPrimary Anywhere (pathPrimary depth) := by
  intro tokens taken rest few
  constructor
  · intro read
    obtain ⟨found, between, opened, chosen⟩ := bind_done.mp read
    rcases open?_done opened with ⟨rfl, rfl, -⟩ | ⟨opening, inner, rfl, rfl, rfl, opens⟩
    · obtain ⟨_ | negation, behind, accepted, further⟩ := bind_done.mp chosen
      · obtain ⟨rfl, -⟩ := accept?_none.mp accepted
        obtain ⟨token, _, required, gives⟩ := bind_done.mp further
        obtain ⟨rfl, step⟩ := require_done.mp required
        obtain ⟨rfl, rfl⟩ := pure_done.mp gives
        exact ⟨rfl, .step step, trivial⟩
      · obtain ⟨rfl, negates⟩ := accept?_some.mp accepted
        obtain ⟨set, _, setRead, gives⟩ := bind_done.mp further
        obtain ⟨rfl, rfl⟩ := pure_done.mp gives
        obtain ⟨rfl, excluded, -⟩ := (negatedSet_exactly hd (Nat.le_trans (Token.openings_behind [negation] _) few)).mp setRead
        exact ⟨rfl, .negated negates excluded, trivial⟩
    · obtain ⟨fewer, rfl, exactly⟩ := hd
      rw [Token.openings_cons opens] at few
      obtain ⟨path, _, pathRead, ending⟩ := bind_done.mp chosen
      obtain ⟨rfl, path_, -⟩ := (exactly (Nat.le_of_succ_le_succ few)).mp pathRead
      obtain ⟨closing, _, closed, gives⟩ := bind_done.mp ending
      obtain ⟨rfl, closes⟩ := close_done.mp closed
      obtain ⟨rfl, rfl⟩ := pure_done.mp gives
      exact ⟨by simp, .group opens path_ closes, trivial⟩
  · rintro ⟨rfl, middle, -⟩
    cases middle with
    | @step token step =>
      refine bind_done.mpr ⟨none, _, open?_none (isStep_isSymbol step _), ?_⟩
      refine bind_done.mpr ⟨none, _, accept?_none.mpr ⟨rfl, isStep_isSymbol step _⟩, ?_⟩
      exact bind_done.mpr ⟨token, rest, require_done.mpr ⟨rfl, step⟩, rfl⟩
    | @group opening closing path opens path_ closes =>
      rw [show opening :: path ++ [closing] ++ rest = opening :: (path ++ closing :: rest) by simp] at few ⊢
      obtain ⟨inner, _, -, -, few, exactly, opened⟩ := open?_opens hd opens few
      have ended : Ends ["|", "/"] path (closing :: rest) :=
        .cons (Token.isSymbol_apart closes (by decide)) (not_repetition closes)
      refine bind_done.mpr ⟨_, _, opened, bind_done.mpr ⟨path, _, (exactly few).mpr ⟨rfl, path_, ended⟩, ?_⟩⟩
      exact bind_done.mpr ⟨closing, rest, close_done.mpr ⟨rfl, closes⟩, rfl⟩
    | @negated negation set negates excluded =>
      refine bind_done.mpr ⟨none, _, open?_none (Token.isSymbol_apart negates (by decide)), ?_⟩
      refine bind_done.mpr ⟨some negation, set ++ rest, accept?_some.mpr ⟨rfl, negates⟩, ?_⟩
      have few := Nat.le_trans (Token.openings_behind [negation] (set ++ rest)) few
      exact bind_done.mpr ⟨set, rest, (negatedSet_exactly hd few).mpr ⟨rfl, excluded, trivial⟩, rfl⟩

theorem pathElement_exactly (hd : DepthExactly brackets depth) :
    Exactly brackets IsPathElement (Ends []) (pathElement depth) := by
  intro tokens taken rest few
  constructor
  · intro read
    obtain ⟨inverse, between, inverseRead, further⟩ := bind_done.mp read
    obtain ⟨rfl, inverts, -⟩ := optionalSymbol_done.mp inverseRead
    obtain ⟨primary, behind, primaryRead, ending⟩ := bind_done.mp further
    obtain ⟨rfl, middle, -⟩ := (pathPrimary_exactly hd (Nat.le_trans (Token.openings_behind _ _) few)).mp primaryRead
    obtain ⟨repetition, _, repetitionRead, gives⟩ := bind_done.mp ending
    obtain ⟨rfl, repeats, missed⟩ := optionalSymbol_done.mp repetitionRead
    obtain ⟨rfl, rfl⟩ := pure_done.mp gives
    refine ⟨by simp, .element inverts middle repeats, fun next ahead => ⟨Token.isSymbol_nil next, fun is => ?_⟩⟩
    cases repeats with
    | none =>
      rw [Option.mem_def.mp ahead, Option.any_some] at missed
      exact absurd ((missed rfl).symm.trans is) Bool.false_ne_true
    | some is' => exact repeated_concat.mpr is'
  · rintro ⟨rfl, @⟨inverse, primary, repetition, inverts, middle, repeats⟩, ended⟩
    rw [List.append_assoc, List.append_assoc] at few ⊢
    have notInverse : (primary ++ (repetition ++ rest)).head?.any (·.isSymbol ["^"]) = false := by
      obtain ⟨first, others, rfl, apart⟩ := middle.exists_cons
      exact apart
    have inverseRead := optionalSymbol_done.mpr ⟨rfl, inverts, fun _ => notInverse⟩
    have few := Nat.le_trans (Token.openings_behind inverse (primary ++ (repetition ++ rest))) few
    have primaryRead := (pathPrimary_exactly hd few).mpr ⟨rfl, middle, trivial⟩
    have repetitionRead := optionalSymbol_done.mpr ⟨rfl, repeats, fun none_ => by
      subst none_
      cases ahead : rest.head? with
      | none => rfl
      | some next =>
        refine Bool.eq_false_iff.mpr fun is => middle.not_repeated ?_
        have repeated := (ended next (Option.mem_def.mpr ahead)).2 is
        rwa [List.append_nil, repeated_append middle.ne_nil] at repeated⟩
    exact bind_done.mpr ⟨_, _, inverseRead, bind_done.mpr ⟨_, _, primaryRead,
      bind_done.mpr ⟨_, _, repetitionRead, rfl⟩⟩⟩

/-! ## Paths -/

/-- A separator that is no other ends what stands in front of it. -/
theorem separated_ends {mark : String} {item : Reader (List Token)} (h : Exactly brackets phrase (Ends marks) item)
    (nonempty : ∀ {tokens}, phrase tokens → tokens ≠ [])
    (apart : ∀ text ∈ [mark].map String.toList, text ∉ marks.map String.toList)
    (apart' : ∀ text ∈ [mark].map String.toList, text ∉ repetitions.map String.toList) :
    Exactly brackets (Separated mark phrase) (Ends (mark :: marks)) (separated mark item) := by
  intro tokens taken rest few
  rw [Ends.mark]
  refine separated_exactly h nonempty Ends.append (fun is => ?_) few
  exact .cons (Token.isSymbol_apart is apart) (Token.isSymbol_apart is apart')

theorem path_exactly_of_depth (hd : DepthExactly brackets depth) :
    Exactly brackets IsPath (Ends ["|", "/"]) (path depth) :=
  separated_ends
    (separated_ends (pathElement_exactly hd) IsPathElement.ne_nil (by decide) (by decide))
    (Separated.ne_nil IsPathElement.ne_nil) (by decide) (by decide)

/-- **Paths are read exactly**, by induction on the brackets that may be open. -/
theorem path_exactly (brackets : Nat) : Exactly brackets IsPath (Ends ["|", "/"]) (path (inside brackets)) := by
  induction brackets with
  | zero => exact @path_exactly_of_depth none 0 rfl
  | succ brackets ih => exact path_exactly_of_depth ⟨brackets, rfl, ih⟩

end Reader

/-! ## The longest path -/

/-- The word that names the type property. -/
def Token.typeWord : Token := ⟨.keyword, ['a'], .start⟩

theorem isPathSequence_typeWord : IsPathSequence [Token.typeWord] :=
  .one (.element .none (.step rfl) .none)

theorem Ends.of_head {rest' : List Token} (h : Ends marks taken rest) (same : rest'.head? = rest.head?) :
    Ends marks taken rest' := by
  unfold Ends
  rw [same]
  exact h

/-- **A path ends where no longer path begins like it.** -/
theorem ends_iff (h : IsPath taken) :
    Ends ["|", "/"] taken rest ↔ ∀ next ∈ rest.head?, ∀ further, ¬IsPath (taken ++ next :: further) := by
  constructor
  · intro ended next ahead further longer
    -- the longer path is read whole, and as the shorter one
    have whole := (Reader.path_exactly _ (Nat.le_refl _)).mpr ⟨(List.append_nil _).symm, longer, Ends.nil⟩
    have ended' : Ends ["|", "/"] taken (next :: further) := ended.of_head (Option.mem_def.mp ahead).symm
    have short := (Reader.path_exactly _ (Nat.le_refl _)).mpr ⟨rfl, h, ended'⟩
    cases (Reading.done.inj (short.symm.trans whole)).2
  · intro longest next ahead
    obtain ⟨front, sequence, rfl, sequence_, exchange⟩ := h.exists_last
    obtain ⟨front', element, rfl, element_, exchange'⟩ := sequence_.exists_last
    refine ⟨Bool.eq_false_iff.mpr fun mark => ?_, fun repetition => ?_⟩
    · rw [Token.isSymbol_cons, Bool.or_eq_true] at mark
      refine longest next ahead [Token.typeWord] ?_
      rcases mark with bar | slash
      · exact h.append bar (.one isPathSequence_typeWord)
      · rw [List.append_assoc]
        exact exchange (sequence_.append slash isPathSequence_typeWord)
    · by_contra last
      rw [← List.append_assoc, repeated_append element_.ne_nil] at last
      refine longest next ahead [] ?_
      rw [List.append_assoc, List.append_assoc]
      exact exchange (exchange' (element_.repeat last repetition))

/-- **The longest path ahead**: no path begins with it and the next token. -/
def IsLongestPath (taken rest : List Token) : Prop :=
  IsPath taken ∧ ∀ next ∈ rest.head?, ∀ further, ¬IsPath (taken ++ next :: further)

theorem eq_of_twins {tokens tokens' : List Token} (h : Reader.Twins .forgiving tokens tokens') : tokens' = tokens := by
  induction h with
  | nil => rfl
  | cons twin _ ih => rw [ih, show _ = _ from twin.like]

/-- **The reader takes the longest path ahead**, unless the limits are reached: it comes to a value just where there
is one, which is the tokens of that path, and stops where there is none. -/
theorem path_reads (brackets : Nat) (tokens : List Token)
    (free : ∀ bracket rest, (Reader.path (Reader.inside brackets)).read tokens ≠ .stopped (.tooDeep bracket) rest) :
    (∀ taken rest, (Reader.path (Reader.inside brackets)).read tokens = .done taken rest ↔
      tokens = taken ++ rest ∧ IsLongestPath taken rest) ∧
    ((∃ fault rest, (Reader.path (Reader.inside brackets)).read tokens = .stopped fault rest) ↔
      ∀ taken rest, tokens = taken ++ rest → ¬IsLongestPath taken rest) := by
  have deeper : (Reader.path (Reader.inside (max brackets (Token.openings tokens)))).read tokens =
      (Reader.path (Reader.inside brackets)).read tokens :=
    Reader.Tracks.read_deeper
      (Reader.path_tracks (Reader.inside_tracks (.inr ⟨trivial, Nat.le_max_left _ _⟩))) eq_of_twins free
  have done (taken rest : List Token) : (Reader.path (Reader.inside brackets)).read tokens = .done taken rest ↔
      tokens = taken ++ rest ∧ IsLongestPath taken rest := by
    rw [← deeper, Reader.path_exactly _ (Nat.le_max_right _ _)]
    exact and_congr_right fun _ => and_congr_right fun path => ends_iff path
  refine ⟨done, ?_⟩
  constructor
  · rintro ⟨fault, left, stopped⟩ taken rest whole longest
    cases stopped.symm.trans ((done taken rest).mpr ⟨whole, longest⟩)
  · intro none_
    cases read : (Reader.path (Reader.inside brackets)).read tokens with
    | done taken rest =>
      obtain ⟨whole, longest⟩ := (done taken rest).mp read
      exact absurd longest (none_ taken rest whole)
    | stopped fault rest => exact ⟨fault, rest, rfl⟩

/-- Behind a resource that is repeated a second mark of repetition does not belong to the path. -/
theorem path_reads_repeated :
    let name : Token := ⟨.prefixedName, "ex:p".toList, .start⟩
    let plus : Token := ⟨.punctuation, ['+'], .start⟩
    (Reader.path (Reader.inside 1)).read [name, plus, plus] = .done [name, plus] [plus] ∧
      IsLongestPath [name, plus] [plus] := by
  intro name plus
  have read : (Reader.path (Reader.inside 1)).read [name, plus, plus] = .done [name, plus] [plus] := rfl
  refine ⟨read, ((path_reads 1 _ fun bracket rest deep => ?_).1 _ _).mp read |>.2⟩
  cases read.symm.trans deep

end QuerySignature
