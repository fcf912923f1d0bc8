import QuerySignature.Proofs.Outcome.Run
import QuerySignature.Proofs.Triples.Detached

/-!
# Proofs/Groups/Detached — groups and constraints end by themselves

No reader looks past two tokens, and none past a closing bracket, so what is read in front of them does not depend on
what is behind them (`Screened`).  A part that a closing bracket ends is therefore detached from anything: a group, a
constraint, an inline data block.  Only a pattern that may be the first of a union looks at the token behind it, and
triples look at what may continue their property list.  An item that may be missing is detached where it is found
(`DetachedTo`).
-/

namespace QuerySignature.Reader

variable {α β : Type} {P : β → Prop} {p q : Token → Bool} {R : Reader α} {N : α → Reader β}
  {tokens taken rest rest' : List Token} {depth : Option Inside}

/-! ## In front of a closing bracket -/

/-- **No reader looks past the tokens**: there are two of them, or the first is looked at alone. -/
def Screens (tokens : List Token) : Prop :=
  ∃ token others, tokens = token :: others ∧ (token.isAlone = true ∨ others ≠ [])

/-- What the reader comes to in front of such tokens does not depend on what is behind them. -/
def Screened (R : Reader α) : Prop :=
  ∀ ⦃taken front rest rest' : List Token⦄ ⦃a : α⦄, Screens front →
    R.read (taken ++ (front ++ rest)) = .done a (front ++ rest) →
    R.read (taken ++ (front ++ rest')) = .done a (front ++ rest')

/-- More tokens behind do not open a bracket that was screened. -/
theorem Screens.append (h : Screens taken) : Screens (taken ++ rest) := by
  obtain ⟨token, others, rfl, screens⟩ := h
  exact ⟨token, others ++ rest, rfl, screens.imp_right (List.append_ne_nil_of_left_ne_nil · _)⟩

/-- **A reader that tracks itself is screened.** -/
theorem Screened.of_tracks {blocks : α → List Values} {V : α → α → Prop} (tracks : Tracks .same [] blocks V R R)
    (exact_ : ∀ {a a'}, V a a' → a' = a) : Screened R := by
  intro taken front rest rest' a screens read
  have taken_ := conserves_done read
  have ahead : Ahead .same (front ++ rest) (front ++ rest') := by
    obtain ⟨token, _ | ⟨second, others⟩, rfl, alone | two⟩ := screens
    · exact ⟨rfl, .inl alone⟩
    · exact absurd rfl two
    · exact ⟨rfl, .inl alone⟩
    · exact ⟨rfl, .inr (.ahead (.some rfl))⟩
  obtain ⟨a', read', related, -⟩ := tracks.done read (respells_same (R.sound _)) ahead
  rw [List.append_cancel_right taken_] at read'
  rw [read', exact_ related]

/-- The reader takes tokens that no reader looks past. -/
def Closes (R : Reader α) : Prop :=
  ∀ ⦃taken rest : List Token⦄ ⦃a : α⦄, R.read (taken ++ rest) = .done a rest → Screens taken

namespace Closes

/-- A token that is looked at alone. -/
theorem require {expected : Expected} (alone : ∀ token, p token = true → token.isAlone = true) :
    Closes (Reader.require expected p) := by
  intro taken rest token read
  obtain ⟨whole, holds⟩ := require_done.mp read
  obtain rfl := List.append_cancel_right (show taken ++ rest = [token] ++ rest from whole)
  exact ⟨token, [], rfl, .inl (alone token holds)⟩

theorem of_first (first : Closes R) : Closes (R >>= N) := by
  intro taken rest b read
  obtain ⟨a, front, behind, rfl, firstRead, -⟩ := bind_taken read
  exact (first firstRead).append

/-- Two readers that take a token each. -/
theorem of_both (first : Advances R) (next : ∀ a, Advances (N a)) : Closes (R >>= N) := by
  intro taken rest b read
  obtain ⟨a, front, behind, rfl, firstRead, nextRead⟩ := bind_taken read
  obtain ⟨token, others, rfl⟩ := first.exists_cons firstRead
  obtain ⟨second, others', rfl⟩ := (next a).exists_cons nextRead
  exact ⟨token, others ++ second :: others', rfl, .inr (List.append_ne_nil_of_right_ne_nil _ (List.cons_ne_nil _ _))⟩

/-- A token and another one, or else such a reader. -/
theorem either {M : Bool → Reader β} (yes : Advances (M true)) (no : Closes (M false)) :
    Closes (Reader.accept p >>= M) := by
  intro taken rest b read
  obtain ⟨found, front, behind, rfl, accepted, nextRead⟩ := bind_taken read
  cases found with
  | true =>
    obtain ⟨token, whole, -⟩ := accept_true.mp accepted
    obtain rfl := List.append_cancel_right (show front ++ _ = [token] ++ _ from whole)
    obtain ⟨second, others, rfl⟩ := yes.exists_cons nextRead
    exact ⟨token, second :: others, rfl, .inr (List.cons_ne_nil _ _)⟩
  | false =>
    obtain ⟨whole, -⟩ := accept_false.mp accepted
    obtain rfl := List.append_left_eq_self.mp whole
    exact no nextRead

end Closes

/-! ## Up to a value -/

/-- **Behind what the reader takes for such a value anything may stand** that the predicate cannot tell from what stood
there. -/
def DetachedTo (P : α → Prop) (p : Token → Bool) (R : Reader α) : Prop :=
  ∀ ⦃taken rest rest' : List Token⦄ ⦃a : α⦄, P a → SameAhead p rest rest' → R.read (taken ++ rest) = .done a rest →
    R.read (taken ++ rest') = .done a rest'

/-- The reader takes two tokens for such a value. -/
def TakesTwo (P : α → Prop) (R : Reader α) : Prop :=
  ∀ ⦃tokens rest : List Token⦄ ⦃a : α⦄, R.read tokens = .done a rest → P a → rest.length + 2 ≤ tokens.length

/-- **The reader only looks**, and at two tokens at most. -/
def Looks (R : Reader α) : Prop :=
  ∀ (first second : Token) (others others' : List Token), ∃ a,
    R.read (first :: second :: others) = .done a (first :: second :: others) ∧
      R.read (first :: second :: others') = .done a (first :: second :: others')

namespace Looks

theorem pure {a : α} : Looks (Pure.pure a) := fun _ _ _ _ => ⟨a, rfl, rfl⟩

theorem next : Looks (Reader.next p) := fun first _ _ _ => ⟨p first, rfl, rfl⟩

theorem nextTwo : Looks (Reader.nextTwo p q) := fun first second _ _ => ⟨p first && q second, rfl, rfl⟩

/-- A chain of look-aheads looks no further. -/
theorem bind (first : Looks R) (next : ∀ a, Looks (N a)) : Looks (R >>= N) := by
  intro t u others others'
  obtain ⟨a, read, read'⟩ := first t u others others'
  obtain ⟨b, behind, behind'⟩ := next a t u others others'
  exact ⟨b, bind_done.mpr ⟨a, _, read, behind⟩, bind_done.mpr ⟨a, _, read', behind'⟩⟩

theorem startsCall : Looks Reader.startsCall := nextTwo

theorem startsConstraint : Looks Reader.startsConstraint :=
  bind next fun _ => bind startsCall fun _ => pure

end Looks

namespace TakesTwo

/-- Two readers that take a token each. -/
theorem of_both (first : Advances R) (next : ∀ a, Progress P (N a)) : TakesTwo P (R >>= N) := by
  intro tokens rest b read holds
  obtain ⟨a, between, firstRead, nextRead⟩ := bind_done.mp read
  have less := first firstRead trivial
  have less' := next a nextRead holds
  omega

theorem of_first (first : TakesTwo (fun _ => True) R) : TakesTwo P (R >>= N) := by
  intro tokens rest b read _
  obtain ⟨a, between, firstRead, nextRead⟩ := bind_done.mp read
  exact Nat.le_trans (Nat.add_le_add_right (rest_le nextRead) 2) (first firstRead trivial)

theorem of_second (next : ∀ a, TakesTwo P (N a)) : TakesTwo P (R >>= N) := by
  intro tokens rest b read holds
  obtain ⟨a, between, firstRead, nextRead⟩ := bind_done.mp read
  exact Nat.le_trans (next a nextRead holds) (rest_le firstRead)

theorem pure {b : β} (h : ¬P b) : TakesTwo P (Pure.pure b) := by
  intro tokens rest found read holds
  obtain ⟨rfl, -⟩ := pure_done.mp read
  exact absurd holds h

theorem refuse {expected : Expected} : TakesTwo P (Reader.refuse expected) :=
  fun _ _ _ read => (refuse_done.mp read).elim

/-- A choice takes two tokens if both its ways do. -/
theorem choice {R : Reader Bool} {M : Bool → Reader β} (yes : TakesTwo P (M true)) (no : TakesTwo P (M false)) :
    TakesTwo P (R >>= M) :=
  of_second (Bool.forall_bool.mpr ⟨no, yes⟩)

/-- A token that is accepted and a reader that takes one more, or else a reader that takes two. -/
theorem either {M : Bool → Reader β} (yes : Progress P (M true)) (no : TakesTwo P (M false)) :
    TakesTwo P (Reader.accept p >>= M) := by
  intro tokens rest b read holds
  obtain ⟨found, between, accepted, nextRead⟩ := bind_done.mp read
  cases found with
  | true =>
    obtain ⟨token, rfl, -⟩ := accept_true.mp accepted
    exact Nat.succ_le_succ (yes nextRead holds)
  | false =>
    obtain ⟨rfl, -⟩ := accept_false.mp accepted
    exact no nextRead holds

/-- A call has a name and an opening bracket. -/
theorem functionCall : TakesTwo (fun _ => True) (Reader.functionCall depth) :=
  of_both Progress.require fun _ => Progress.require.of_first

/-- A test has its keyword and an opening bracket. -/
theorem existsTest : TakesTwo (fun _ => True) (Reader.existsTest depth) := by
  have group : TakesTwo (fun _ => True) (Reader.existsGroup depth) :=
    of_second fun _ => of_both Progress.require fun _ => .group
  refine of_first fun tokens rest found read _ => ?_
  unfold Reader.taking at read
  dsimp only at read
  split at read
  · next a between groupRead =>
    obtain ⟨-, rfl⟩ := Reading.done.inj read
    exact group groupRead trivial
  · cases read

theorem constraint : TakesTwo (fun _ => True) (Reader.constraint depth) :=
  either (.of_second fun _ => Progress.require.of_first) (choice existsTest.of_first (choice functionCall refuse))

end TakesTwo

/-- What is detached is so for each outcome. -/
theorem Detached.to (h : Detached p R) {P : α → Prop} : DetachedTo P p R := fun _ _ _ _ _ same read => h same read

/-- What is detached for every outcome is detached. -/
theorem DetachedTo.all (h : DetachedTo (fun _ => True) p R) : Detached p R := fun _ _ _ _ same read => h trivial same read

namespace DetachedTo

theorem pure {b : β} (h : ¬P b) : DetachedTo P p (Pure.pure b) := by
  intro taken rest rest' found holds _ read
  obtain ⟨rfl, -⟩ := pure_done.mp read
  exact absurd holds h

/-- **A reader in front of tokens that no reader looks past.** -/
theorem upTo (first : Screened R) (closes : ∀ a, Closes (N a)) (next : ∀ a, DetachedTo P p (N a)) :
    DetachedTo P p (R >>= N) := by
  intro taken rest rest' b holds same read
  obtain ⟨a, front, behind, rfl, firstRead, nextRead⟩ := bind_taken read
  rw [List.append_assoc]
  exact bind_done.mpr ⟨a, _, first (closes a nextRead) firstRead, next a holds same nextRead⟩

/-- **A choice by the next two tokens** between readers that take them. -/
theorem look (looks : Looks R) (next : ∀ a, DetachedTo P p (N a)) (two : ∀ a, TakesTwo P (N a)) :
    DetachedTo P p (R >>= N) := by
  intro taken rest rest' b holds same read
  have long := TakesTwo.of_second (R := R) two read holds
  rw [List.length_append] at long
  obtain ⟨first, second, others, rfl⟩ : ∃ first second others, taken = first :: second :: others := by
    rcases taken with _ | ⟨first, _ | ⟨second, others⟩⟩
    · rw [List.length_nil] at long
      omega
    · rw [List.length_singleton] at long
      omega
    · exact ⟨first, second, others, rfl⟩
  obtain ⟨a, here, here'⟩ := looks first second (others ++ rest) (others ++ rest')
  obtain ⟨a', between, firstRead, nextRead⟩ := bind_done.mp read
  obtain ⟨rfl, rfl⟩ := Reading.done.inj (here.symm.trans firstRead)
  have nextRead' : (N a).read (first :: second :: others ++ rest') = .done b rest' := next a holds same nextRead
  exact bind_done.mpr ⟨a, _, here', nextRead'⟩

/-- **A token that is accepted, or else a reader that takes one** for such a value. -/
theorem orElse {N : Option Token → Reader β} (some : ∀ token, DetachedTo P p (N (some token)))
    (none : DetachedTo P p (N none)) (progress : Progress P (N .none)) : DetachedTo P p (Reader.accept? q >>= N) := by
  intro taken rest rest' b holds same read
  obtain ⟨found, front, behind, rfl, firstRead, nextRead⟩ := bind_taken read
  rw [List.append_assoc]
  cases found with
  | some token =>
    obtain ⟨whole, is⟩ := accept?_some.mp firstRead
    obtain rfl := List.append_cancel_right (show front ++ _ = [token] ++ _ from whole)
    exact bind_done.mpr ⟨_, _, accept?_some.mpr ⟨rfl, is⟩, some token holds same nextRead⟩
  | none =>
    obtain ⟨whole, missed⟩ := accept?_none.mp firstRead
    obtain rfl := List.append_left_eq_self.mp whole
    have less := progress nextRead holds
    cases behind with
    | nil => exact absurd less (Nat.lt_irrefl _)
    | cons token others => exact bind_done.mpr ⟨_, _, accept?_none.mpr ⟨rfl, missed⟩, none holds same nextRead⟩

/-- A token that is accepted or not, where only that is told. -/
theorem either {M : Bool → Reader β} (yes : DetachedTo P p (M true)) (no : DetachedTo P p (M false))
    (progress : Progress P (M false)) : DetachedTo P p (Reader.accept q >>= M) := by
  have same (tokens : List Token) :
      (Reader.accept q >>= M).read tokens = (Reader.accept? q >>= fun found => M found.isSome).read tokens := by
    rw [bind_read, bind_read]
    unfold Reader.accept
    rw [bind_read]
    cases (Reader.accept? q).read tokens <;> rfl
  intro taken rest rest' b holds ahead read
  rw [same] at read ⊢
  exact orElse (N := fun found => M found.isSome) (fun _ => yes) no progress holds ahead read

end DetachedTo

/-! ## Groups and expressions -/

namespace Detached

theorem taking (h : Detached p R) : Detached p (Reader.taking R) := by
  intro taken rest rest' found same read
  unfold Reader.taking at read ⊢
  dsimp only at read ⊢
  split at read
  · next a between aRead =>
    obtain ⟨rfl, rfl⟩ := Reading.done.inj read
    rw [h same aRead]
    dsimp only
    rw [gone_append, gone_append]
  · cases read

/-- What stands inside a bracket, if one more may be open. -/
theorem enter {bracket : Token} {N : Inside → Reader β} (inside : ∀ inner, depth = some inner → Detached p (N inner)) :
    Detached p (Reader.enter depth bracket >>= N) := by
  intro taken rest rest' b same read
  cases depth with
  | none => cases read
  | some inner => exact inside inner rfl same read

end Detached

section Depth

variable (hd : DepthTracks Likeness.same.lenient depth depth)
include hd

theorem Screened.someExpression (named : Bool) : Screened (Reader.someExpression depth named) :=
  .of_tracks (someExpression_tracks hd) (Expression.eq_of_like Likeness.same_exact _ _)

theorem Screened.expression (named : Bool) : Screened (Reader.expression depth named) :=
  .of_tracks (expression_tracks hd) (Expression.eq_of_like Likeness.same_exact _ _)

end Depth

/-- A closing bracket is looked at alone. -/
theorem isAlone_of_closes {token : Token} (closes : token.isSymbol [")", "\x7d"] = true) : token.isAlone = true :=
  (Bool.or_eq_true _ _).mpr (.inr closes)

/-- A closing bracket is taken as a symbol. -/
theorem Closes.symbol {text : String} (closes : text ∈ [")", "\x7d"]) : Closes (Reader.symbol text) :=
  .require fun _ is => isAlone_of_closes (Token.isSymbol_mono is (List.cons_subset.mpr ⟨closes, List.nil_subset _⟩))

/-- A closing bracket leaves its level. -/
theorem Closes.close {text : String} (closes : text ∈ [")", "\x7d"]) : Closes (Reader.close text) :=
  (Closes.symbol closes).of_first

namespace Detached

theorem target : Detached p Reader.target :=
  orElse (fun _ => .pure) (bind (bind require fun _ => .pure) fun _ => .pure) Progress.require.of_first.of_first

theorem values : Detached p Reader.values := by
  intro taken rest rest' block _ read
  obtain ⟨written, whole, writes⟩ := valuesContent_writes read
  obtain rfl := List.append_cancel_right whole
  exact valuesContent_back writes

/-- What stands in brackets ends with them. -/
theorem inBrackets {R : Reader α} {N : α → Token → Reader β} (first : Screened R)
    (next : ∀ a token, Detached p (N a token)) : Detached p (do
      let a ← R
      let closing ← symbol ")"
      N a closing) :=
  (DetachedTo.upTo first (fun _ => (Closes.symbol (by decide)).of_first) fun a => (bind require (next a)).to).all

variable (hd : DepthTracks Likeness.same.lenient depth depth)
include hd

/-- **A group ends by itself.** -/
theorem group : Detached p (Reader.group depth) :=
  bind require fun brace => enter fun inner opens => by
    subst opens
    have inside := (hd .same rfl : InsideTracks .same inner inner)
    have content : Screened inner.content := .of_tracks inside.content (Group.eq_of_like Likeness.same_exact _ _)
    exact (DetachedTo.upTo content (fun _ => (Closes.close (by decide)).of_first)
      fun _ => (bind shut fun _ => .pure).to).all

theorem existsTest : Detached p (Reader.existsTest depth) :=
  bind (taking (before (accept fun _ => id) (fun _ => bind require fun _ => group hd) fun _ => Progress.require.of_first))
    fun _ => .pure

theorem functionCall : Detached p (Reader.functionCall depth) :=
  bind require fun _ => bind require fun _ => inBrackets (Screened.expression hd false) fun _ _ => .pure

/-- **A constraint ends by itself.** -/
theorem constraint : Detached p (Reader.constraint depth) := by
  have call : Detached p (do if ← startsCall then Reader.functionCall depth else Reader.refuse .constraint) :=
    (DetachedTo.look .startsCall (Bool.forall_bool.mpr ⟨refuse.to, (functionCall hd).to⟩)
      (Bool.forall_bool.mpr ⟨.refuse, .functionCall⟩)).all
  have test : Detached p (do return (← Reader.existsTest depth).expression) := bind (existsTest hd) fun _ => .pure
  have bracketed : Detached p (do
      let expression ← Reader.someExpression depth false
      let _ ← symbol ")"
      return expression) := inBrackets (Screened.someExpression hd false) fun _ _ => .pure
  refine (DetachedTo.either bracketed.to (ifNext test call ?_).to ?_).all
  · exact Bool.forall_bool.mpr ⟨.choice .functionCall (.refuse _), Progress.existsTest.of_first⟩
  · exact .choice Progress.existsTest.of_first (.choice .functionCall (.refuse _))

/-- An expression with its name, up to the bracket behind it. -/
theorem namedExpression : Detached p (Reader.namedExpression depth) :=
  (DetachedTo.upTo (Screened.someExpression hd true)
    (fun _ => .of_both Progress.require fun _ => Progress.require.of_first.of_first)
    fun _ => (bind require fun _ => bind (bind require fun _ => .pure) fun _ => bind require fun _ => .pure).to).all

/-! ## Patterns and triples -/

/-- After the last alternative only another UNION is looked for. -/
theorem alternatives : Detached (·.spells ["UNION"]) (Reader.alternatives depth) := by
  refine bind (group hd) fun first => bind (many (bind (accept fun _ => id) ?_) (.orElse' (.pure nofun))) fun others => ?_
  · exact Bool.forall_bool.mpr ⟨.pure, bind (group hd) fun _ => .pure⟩
  · cases others <;> exact .pure

/-- **A pattern ends where no further alternative follows.** -/
theorem pattern : Detached (·.spells ["UNION"]) (Reader.pattern depth) := by
  let Ends (R : Reader Element) : Prop := Detached (·.spells ["UNION"]) R ∧ Advances R
  have orElse {words : List String} {M : Bool → Reader Element} (yes : Detached (·.spells ["UNION"]) (M true))
      (no : Ends (M false)) : Ends (Reader.accept (·.spells words) >>= M) :=
    ⟨(DetachedTo.either yes.to no.1.to no.2).all, .orElse' no.2⟩
  have service : Detached (·.spells ["UNION"]) (do
      let silent ← Reader.accept (·.spells ["SILENT"])
      let endpoint ← Reader.target
      return Element.service silent endpoint (← Reader.group depth)) :=
    before (accept fun _ => id) (fun _ => bind target fun _ => bind (group hd) fun _ => .pure)
      fun _ => .of_second fun _ => Progress.group.of_first
  have braced {f : Group → Element} : Detached (·.spells ["UNION"]) (do return f (← Reader.group depth)) :=
    bind (group hd) fun _ => .pure
  refine ifNext (alternatives hd) ?_ (Bool.forall_bool.mpr ⟨?_, Progress.group.of_first⟩)
  · refine (orElse braced (orElse braced (orElse ?_ (orElse service (orElse ?_ (orElse ?_ ?_)))))).1
    · exact bind target fun _ => braced
    · exact bind (constraint hd) fun _ => .pure
    · exact bind require fun _ => bind (namedExpression hd) fun _ => .pure
    · exact ⟨bind values fun _ => .pure, Progress.values.of_first⟩
  · exact .orElse' (.orElse' (.orElse' (.orElse' (.orElse' (.orElse' Progress.values.of_first)))))

end Detached

/-- A node that starts with a square bracket takes another token. -/
theorem node_bracket {token : Token} {found : Node} (opens : token.isSymbol ["["] = true)
    (read : (node depth).read (token :: tokens) = .done found rest) : rest.length < tokens.length := by
  obtain ⟨_ | pair, between, accepted, others⟩ := bind_done.mp read
  · obtain rfl := acceptTwo?_none accepted
    exact open?_lt opens (fun _ => .of_second fun _ => Detached.advances_shut.of_first) others
  · obtain ⟨whole, -, -⟩ := acceptTwo?_some.mp accepted
    cases whole
    obtain ⟨-, rfl⟩ := pure_done.mp others
    exact Nat.lt_succ_self _

/-- **A look at two tokens**, in front of a reader that takes one, and both where the first is as it looks for. -/
theorem Detached.looking {looked : Token → Bool} {N : Bool → Bool → Reader β} (advances : ∀ a b, Advances (N a b))
    (both : ∀ {a b token others rest found}, looked token = true →
      (N a b).read (token :: others) = .done found rest → rest.length < others.length)
    (further : ∀ a b, Detached p (N a b)) : Detached p (do
      let first ← Reader.next looked
      let second ← Reader.nextTwo looked q
      N first second) := by
  have whole (tokens : List Token) : Reader.read (do
      let first ← Reader.next looked
      let second ← Reader.nextTwo looked q
      N first second) tokens =
    (N (tokens.head?.any looked) (tokens.head?.any looked && tokens.tail.head?.any q)).read tokens := rfl
  intro taken rest rest' found same read
  rw [whole] at read ⊢
  obtain ⟨token, others, rfl⟩ := (advances _ _).exists_cons read
  by_cases found : looked token = true
  · -- the second token is one that the reader takes
    have less := both found read
    cases others with
    | nil => exact absurd less (Nat.lt_irrefl _)
    | cons second others => exact further _ _ same read
  · have missed (tokens : List Token) :
        ((token :: tokens).head?.any looked && (token :: tokens).tail.head?.any q) = false := by
      rw [List.head?_cons, Option.any_some, Bool.eq_false_iff.mpr found, Bool.false_and]
    rw [List.cons_append, missed] at read ⊢
    exact further _ _ same (show (N _ _).read (token :: others ++ rest) = _ from read)

/-- **Triples end where nothing continues their property list.** -/
theorem Detached.triples (hd : DepthDetached depth) : Detached continuesList (Reader.triples depth) := by
  refine looking (fun _ _ => Progress.node.of_first) ?_ fun bracket closed => ?_
  · intro bracket closed token others rest list opens read
    obtain ⟨subject, between, nodeRead, further⟩ := bind_done.mp read
    exact Nat.lt_of_le_of_lt (rest_le further) (node_bracket opens nodeRead)
  · refine bind (node hd) fun subject =>
      bind (next fun token starts => (Bool.or_eq_true _ _).mpr (.inr starts)) fun verb => ?_
    have listed (subject : Node) :
        Detached continuesList (do return Triple.ofSubject subject (← Reader.properties depth)) :=
      bind (properties hd) fun _ => .pure
    cases subject with
    | properties list => cases bracket <;> cases closed <;> cases verb <;> first | exact listed _ | exact .pure
    | _ => exact listed _

end QuerySignature.Reader
