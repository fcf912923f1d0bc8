import QuerySignature.Proofs.Query.Flipped
import QuerySignature.Proofs.Signs.Shielded

/-!
# Proofs/Signs/Rules — a plus in the place of a minus

A sign stands where a term is expected if the reading of the tokens up to the minus, and no further, stops at it for
want of a term.  Three runs are compared with this one: the tokens up to the plus, and the tokens with the number and
more behind it, once with each sign.  A reader `Meets` the sign if the plus there has a role (`PlusRole`), and if what
the run with the minus comes to is what the run with the plus comes to, but for that role.

Of two readers one after the other either may meet the sign.  Where it is the second, the first must have passed it by
unseen (`Unseen`): because it looks for no sign, or because it leaves a token in front of it, which is so where the
second does not start with a term.
-/

namespace QuerySignature

/-- **A minus, a plus for its place, and the number behind.** -/
structure Signs where
  minus : Token
  plus : Token
  number : Token
  isMinus : minus.isSymbol ["-"] = true
  isPlus : plus.isSymbol ["+"] = true
  isNumber : number.isNumeric = true

/-- What a reading comes to whose tokens end with the plus. -/
def PlusRole.stopped {α : Type} (plus : Token) : PlusRole → Reading α
  | .sign => .stopped (.unexpected .term (some plus)) [plus]
  | .repetition => .stopped (.unexpected .term none) []

namespace Signs

variable (signs : Signs)

theorem isSign_minus : signs.minus.isSign = true := Token.isSymbol_mono signs.isMinus (by decide)

theorem isSign_plus : signs.plus.isSign = true := Token.isSymbol_mono signs.isPlus (by decide)

/-- **A term is expected at the minus.** -/
def wanted {α : Type} : Reading α :=
  .stopped (.unexpected .term (some signs.minus)) [signs.minus]

end Signs

namespace Reader

variable {α β : Type} {signs : Signs} {R R' : Reader α} {N N' : α → Reader β} {p q : Token → Bool}
  {V : PlusRole → α → α → Prop} {W : PlusRole → β → β → Prop} {tokens front behind : List Token}

/-! ## Readers that meet the sign -/

/-- **The first of two readers passes the sign by unseen** where the second meets it. -/
def Unseen (signs : Signs) (R : Reader α) (N : α → Reader β) : Prop :=
  ∀ ⦃front behind : List Token⦄ ⦃a : α⦄, R.read (front ++ [signs.minus]) = .done a (behind ++ [signs.minus]) →
    (N a).read (behind ++ [signs.minus]) = signs.wanted → ∀ ⦃sign⦄ (more : List Token), sign.isSign = true →
    R.read (front ++ sign :: more) = .done a (behind ++ sign :: more)

namespace Unseen

theorem indifferent (h : Indifferent R) : Unseen signs R N :=
  fun _ _ _ read _ _ more is => h [] more signs.isSign_minus is read

theorem shielded (h : Shielded R) (later : ∀ a, TermBehind (N a)) : Unseen signs R N := by
  intro front behind a read stopped sign more is
  have some_ : behind ≠ [] := by
    rintro rfl
    exact later a signs.isSign_minus stopped
  exact h [] more signs.isSign_minus is some_ read

/-- The second reader looks for no term. -/
theorem termless (later : ∀ a, Termless (N a)) : Unseen signs R N :=
  fun _ _ a _ stopped => (later a stopped).elim

end Unseen

/-! ### Turns -/

/-- The turns of a loop in front of one that meets the sign. -/
theorem Unseen.turns {turn : Reader (Turn α)} (progress : Progress Turn.GoesOn turn) (shielded : Shielded turn)
    (later : TermBehind turn) : Unseen signs turn (afterTurn turn) := by
  refine .shielded shielded fun turned => ?_
  cases turned with
  | stop => exact .of_termless .pure
  | last item => exact .of_termless .pure
  | more item => exact .bind (.loop progress later) fun _ => .of_termless .pure

theorem Unseen.items {item : Reader (Option α)} (progress : Progress Found item) (shielded : Shielded item)
    (later : TermBehind item) : Unseen signs (itemTurn item) (afterTurn (itemTurn item)) :=
  .turns (goesOn_itemTurn progress)
    (shielded.bind fun found => by cases found <;> exact Indifferent.pure.shielded)
    (later.bind fun found => by cases found <;> exact .of_termless .pure)

/-- **What a reader comes to, another does but for a difference.** -/
def Follows (r : β → β → Prop) (R R' : Reader β) : Prop :=
  ∀ ⦃tokens rest : List Token⦄ ⦃b : β⦄, R.read tokens = .done b rest →
    ∃ b', R'.read tokens = .done b' rest ∧ r b b'

namespace Follows

variable {r : β → β → Prop}

theorem pure {b b' : β} (h : r b b') : Follows r (Pure.pure b) (Pure.pure b') := by
  intro tokens rest found read
  obtain ⟨rfl, rfl⟩ := pure_done.mp read
  exact ⟨b', rfl, h⟩

/-- A reader and itself. -/
theorem same {R : Reader β} (refl : ∀ b, r b b) : Follows r R R := fun _ _ b read => ⟨b, read, refl b⟩

/-- Behind one reader. -/
theorem bind (h : ∀ a, Follows r (N a) (N' a)) : Follows r (R >>= N) (R >>= N') := by
  intro tokens rest b read
  obtain ⟨a, between, firstRead, nextRead⟩ := bind_done.mp read
  obtain ⟨b', nextRead', related⟩ := h a nextRead
  exact ⟨b', bind_done.mpr ⟨a, between, firstRead, nextRead'⟩, related⟩

end Follows

/-- The reader meets the sign behind the tokens, if it stops there for want of a term. -/
def MeetsAt (signs : Signs) (V : PlusRole → α → α → Prop) (R : Reader α) (front : List Token) : Prop :=
  R.read (front ++ [signs.minus]) = signs.wanted →
    ∃ role : PlusRole, R.read (front ++ [signs.plus]) = role.stopped signs.plus ∧
      ∀ ⦃after rest : List Token⦄ ⦃a : α⦄, R.read (front ++ signs.minus :: signs.number :: after) = .done a rest →
        (∃ taken, after = taken ++ rest) ∧
          ∃ a', R.read (front ++ signs.plus :: signs.number :: after) = .done a' rest ∧ V role a a'

/-- **The reader meets the sign**, wherever it stops at it for want of a term. -/
def Meets (signs : Signs) (V : PlusRole → α → α → Prop) (R : Reader α) : Prop :=
  ∀ front, MeetsAt signs V R front

/-- What leaves the sign, leaves it behind other tokens. -/
theorem exists_behind {sign : Token} {fault : Fault} (stopped : R.read tokens = .stopped fault [sign]) :
    ∃ behind, tokens = behind ++ [sign] := by
  have left := R.conserves tokens
  rw [stopped] at left
  exact ⟨_, left.symm⟩

/-- **The second of two readers meets the sign**, which the first passes by. -/
theorem MeetsAt.passed {a : α}
    (minus : ∀ more, R.read (front ++ signs.minus :: more) = .done a (behind ++ signs.minus :: more))
    (plus : ∀ more, R.read (front ++ signs.plus :: more) = .done a (behind ++ signs.plus :: more))
    (next : MeetsAt signs W (N a) behind) : MeetsAt signs W (R >>= N) front := by
  intro stopped
  rw [bind_read, minus []] at stopped
  obtain ⟨role, plusRead, further⟩ := next stopped
  refine ⟨role, ?_, fun after rest b read => ?_⟩
  · rw [bind_read, plus []]
    exact plusRead
  · obtain ⟨a', between, firstRead, nextRead⟩ := bind_done.mp read
    cases (minus (signs.number :: after)).symm.trans firstRead
    obtain ⟨suffix, b', nextRead', related⟩ := further nextRead
    exact ⟨suffix, b', bind_done.mpr ⟨a, _, plus (signs.number :: after), nextRead'⟩, related⟩

/-- **One of two readers meets the sign.** -/
theorem MeetsAt.bind (unseen : Unseen signs R N) (met : MeetsAt signs V R front)
    (next : ∀ {a behind}, R.read (front ++ [signs.minus]) = .done a (behind ++ [signs.minus]) →
      MeetsAt signs W (N a) behind)
    (follows : ∀ {role a a'}, V role a a' → Follows (W role) (N a) (N a')) : MeetsAt signs W (R >>= N) front := by
  intro stopped
  rcases bind_stopped.mp stopped with here | ⟨a, between, read, there⟩
  · obtain ⟨role, plusRead, further⟩ := met here
    refine ⟨role, ?_, fun after rest b read => ?_⟩
    · rw [bind_read, plusRead]
      cases role <;> rfl
    · obtain ⟨a, between, firstRead, nextRead⟩ := bind_done.mp read
      obtain ⟨⟨taken, rfl⟩, a', firstRead', related⟩ := further firstRead
      obtain ⟨others, rfl⟩ := exists_taken nextRead
      obtain ⟨b', nextRead', related'⟩ := follows related nextRead
      exact ⟨⟨taken ++ others, (List.append_assoc ..).symm⟩, b', bind_done.mpr ⟨a', _, firstRead', nextRead'⟩, related'⟩
  · obtain ⟨behind, rfl⟩ := exists_behind there
    have passes := unseen read there
    exact passed (passes · signs.isSign_minus) (passes · signs.isSign_plus) (next read) stopped

namespace Meets

theorem of_termless (h : Termless R) : Meets signs V R := fun _ stopped => (h stopped).elim

theorem mono {V' : PlusRole → α → α → Prop} (h : Meets signs V R) (imp : ∀ {role a a'}, V role a a' → V' role a a') :
    Meets signs V' R := by
  intro front stopped
  obtain ⟨role, plusRead, further⟩ := h front stopped
  refine ⟨role, plusRead, fun after rest a read => ?_⟩
  obtain ⟨suffix, a', read', related⟩ := further read
  exact ⟨suffix, a', read', imp related⟩

/-- **One of two readers meets the sign.** -/
theorem bind (unseen : Unseen signs R N) (met : Meets signs V R) (next : ∀ a, Meets signs W (N a))
    (follows : ∀ {role a a'}, V role a a' → Follows (W role) (N a) (N a')) : Meets signs W (R >>= N) :=
  fun front => .bind unseen (met front) (fun _ => next _ _) follows

/-- A reader that looks for no term, and one that meets the sign. -/
theorem andThen (unseen : Unseen signs R N) (termless : Termless R) (next : ∀ a, Meets signs W (N a)) :
    Meets signs W (R >>= N) :=
  @bind _ _ signs R N (fun _ _ _ => False) W unseen (of_termless termless) next fun impossible => impossible.elim

/-- **A reader that meets the sign, and one that looks for no term.** -/
theorem before (met : Meets signs V R) (termless : ∀ a, Termless (N a))
    (follows : ∀ {role a a'}, V role a a' → Follows (W role) (N a) (N a')) : Meets signs W (R >>= N) :=
  bind (.termless termless) met (fun a => of_termless (termless a)) follows

theorem pure {a : α} : Meets signs V (Pure.pure a) := of_termless .pure

theorem refuse {expected : Expected} (other : expected ≠ .term) : Meets signs V (Reader.refuse expected : Reader α) :=
  of_termless (.refuse other)

/-- A value made of what is read. -/
theorem map {f : α → β} (met : Meets signs V R) (imp : ∀ {role a a'}, V role a a' → W role (f a) (f a')) :
    Meets signs W (do return f (← R)) :=
  before met (fun _ => .pure) fun related => .pure (imp related)

theorem within {region : Region} (h : Meets signs V R) : Meets signs V (within region R) := h

/-- A choice between two ways to go on. -/
theorem either {R : Reader Bool} {M : Bool → Reader β} (first : Indifferent R) (termless : Termless R)
    (yes : Meets signs W (M true)) (no : Meets signs W (M false)) : Meets signs W (R >>= M) :=
  andThen (.indifferent first) termless (Bool.forall_bool.mpr ⟨no, yes⟩)

/-- A token that is accepted, or not, and is no sign. -/
theorem ifAccept {M : Bool → Reader β} (missed : ∀ {sign}, sign.isSign = true → p sign = false)
    (yes : Meets signs W (M true)) (no : Meets signs W (M false)) : Meets signs W (Reader.accept p >>= M) :=
  either (.accept missed) .accept yes no

/-- A choice by the next token. -/
theorem ifNext {M : Bool → Reader β}
    (apart : ∀ {sign sign'}, sign.isSign = true → sign'.isSign = true → p sign' = p sign)
    (yes : Meets signs W (M true)) (no : Meets signs W (M false)) : Meets signs W (Reader.next p >>= M) :=
  either (.next apart) .next yes no

/-- An accepted token or none, which is no sign. -/
theorem orElse {N : Option Token → Reader β} (missed : ∀ {sign}, sign.isSign = true → p sign = false)
    (some : ∀ token, Meets signs W (N (.some token))) (none : Meets signs W (N .none)) :
    Meets signs W (Reader.accept? p >>= N) :=
  andThen (.indifferent (.accept? missed)) .accept? fun
    | .some token => some token
    | .none => none

/-- A bracket that is opened, or not. -/
theorem open? {depth : Option Inside} {brackets : List String} {N : Option (Token × Inside) → Reader β}
    (missed : ∀ {sign : Token}, sign.isSign = true → sign.isSymbol brackets = false)
    (some : ∀ opening inner, depth = .some inner → Meets signs W (N (.some (opening, inner))))
    (none : Meets signs W (N .none)) : Meets signs W (Reader.open? depth brackets >>= N) := by
  intro front
  refine .bind (.indifferent (.open? missed)) (V := fun _ _ _ => False) (of_termless .open? front) ?_ nofun
  intro found behind read
  rcases open?_done read with ⟨rfl, -⟩ | ⟨opening, inner, rfl, deeper, -⟩
  · exact none behind
  · exact some opening inner deeper behind

/-- A token that is required. -/
theorem require {expected : Expected} {N : Token → Reader β} (other : expected ≠ .term)
    (next : ∀ token, Meets signs W (N token)) : Meets signs W (Reader.require expected p >>= N) :=
  andThen (.indifferent .require) (.require other) next

/-! ### Loops -/

/-- Items that are there, and related. -/
inductive SomeLike (r : α → α → Prop) : Option α → Option α → Prop where
  | some {a a' : α} : r a a' → SomeLike r (.some a) (.some a')

/-- Turns that bring related items, and go on alike. -/
inductive TurnLike (r : α → α → Prop) : Turn α → Turn α → Prop where
  | last {a a' : α} : r a a' → TurnLike r (.last a) (.last a')
  | more {a a' : α} : r a a' → TurnLike r (.more a) (.more a')

/-- **A loop in which one turn meets the sign.** -/
theorem loop {turn : Reader (Turn α)} (progress : Progress Turn.GoesOn turn)
    (unseen : Unseen signs turn (afterTurn turn)) (met : Meets signs (fun role => TurnLike (V role)) turn) :
    Meets signs (fun role => OneOf (V role)) (loop turn) := by
  intro front
  -- a turn that goes on leaves less
  induction length : front.length using Nat.strong_induction_on generalizing front with
  | _ n ih =>
  subst length
  have unrolled : MeetsAt signs (fun role => OneOf (V role)) (turn >>= afterTurn turn) front := by
    refine .bind unseen (met front) (fun {turned behind} read => ?_) fun related => ?_
    · cases turned with
      | stop => exact pure behind
      | last item => exact pure behind
      | more item =>
        have less := progress read trivial
        rw [List.length_append, List.length_append] at less
        exact .bind (.termless fun _ => .pure) (ih _ (Nat.lt_of_add_lt_add_right less) behind rfl)
          (fun _ => pure _) fun related => .pure (.there related)
    · cases related with
      | last related => exact .pure (.here related)
      | more related => exact .bind fun others => .pure (.here related)
  intro stopped
  rw [loop_unroll progress] at stopped ⊢
  obtain ⟨role, plusRead, further⟩ := unrolled stopped
  refine ⟨role, plusRead, fun after rest list read => ?_⟩
  rw [loop_unroll progress] at read ⊢
  exact further read

/-- **Items of which one meets the sign.** -/
theorem many {item : Reader (Option α)} (progress : Progress Found item)
    (unseen : Unseen signs (itemTurn item) (afterTurn (itemTurn item)))
    (met : Meets signs (fun role => SomeLike (V role)) item) : Meets signs (fun role => OneOf (V role)) (many item) := by
  refine loop (goesOn_itemTurn progress) unseen (before met (fun found => ?_) fun related => ?_)
  · cases found <;> exact .pure
  · cases related with
    | some related => exact .pure (.more related)

/-- A reader whose value is an item. -/
theorem found (h : Meets signs V R) : Meets signs (fun role => SomeLike (V role)) (do return some (← R)) :=
  map h .some

/-- Items that look for no sign, up to a token that is none. -/
theorem manyWhile {item : Reader α} (advances : Advances item)
    (apart : ∀ {sign sign'}, sign.isSign = true → sign'.isSign = true → p sign' = p sign)
    (indifferent : Indifferent item) (h : Meets signs V item) :
    Meets signs (fun role => OneOf (V role)) (Reader.manyWhile p item) := by
  refine many (.choice advances.of_first (.pure nofun)) (.indifferent (.itemTurn ?_)) (ifNext apart (found h) pure)
  exact .bind (.next apart) (Bool.forall_bool.mpr ⟨.pure, .bind indifferent fun _ => .pure⟩)

/-- **The tokens that are taken** differ in the sign. -/
theorem taking (h : Meets signs V R) :
    Meets signs (fun role taken taken' => (∃ front behind, taken.1 = front ++ signs.minus :: behind ∧
      taken'.1 = front ++ signs.plus :: behind) ∧ V role taken.2 taken'.2) (taking R) := by
  intro front stopped
  obtain ⟨role, plusRead, further⟩ := h front (taking_stopped.mp stopped)
  refine ⟨role, ?_, fun after rest pair read => ?_⟩
  · cases role <;> exact taking_stopped.mpr plusRead
  · obtain ⟨innerRead, whole⟩ := taking_done read
    obtain ⟨⟨taken, rfl⟩, a', innerRead', related⟩ := further innerRead
    have gone_ (sign : Token) :
        gone (front ++ sign :: signs.number :: (taken ++ rest)) rest = front ++ sign :: signs.number :: taken := by
      rw [← List.cons_append, ← List.cons_append, ← List.append_assoc, gone_append]
    refine ⟨⟨taken, rfl⟩, _, done_taking innerRead', ⟨front, signs.number :: taken, ?_, gone_ _⟩, related⟩
    rw [whole, gone_]

end Meets

end Reader

end QuerySignature
