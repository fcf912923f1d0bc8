import QuerySignature.Proofs.Bounded.Readers
import QuerySignature.Proofs.Triples.Detached

/-!
# Proofs/Signs/Shielded — readers to which a sign makes no difference

Which sign stands behind the tokens that a reader takes, and what is behind the sign, makes no difference to a reader
that looks for no sign (`Indifferent`).  To others it makes none as long as they leave a token in front of the sign,
for no reader looks for a sign behind another token (`Shielded`).  A reader may start with a term, or with a token that
is no sign (`TermBehind`), or look for no term at all (`Termless`).
-/

namespace QuerySignature

/-- The signs of numbers. -/
def Token.isSign (token : Token) : Bool :=
  token.isSymbol ["+", "-"]

namespace Token

variable {sign : Token}

/-- A sign is one of the marks that end a run. -/
theorem endMark_of_isSign (is : sign.isSign = true) : sign.isSymbol endMarks = true :=
  isSymbol_mono is (by decide)

/-- A sign is no keyword. -/
theorem not_spells_of_isSign {words : List String} (is : sign.isSign = true) : sign.spells words = false :=
  not_spells_of_endMark (endMark_of_isSign is) words

/-- A sign is of no other kind than a symbol. -/
theorem not_isKind_of_isSign {kind : Kind} (other : kind ≠ .punctuation) (is : sign.isSign = true) :
    decide (sign.kind = kind) = false :=
  not_isKind_of_endMark (endMark_of_isSign is) other

/-- A sign is no other symbol. -/
theorem not_isSymbol_of_isSign {symbols : List String}
    (apart : ∀ text ∈ ["+", "-"].map String.toList, text ∉ symbols.map String.toList) (is : sign.isSign = true) :
    sign.isSymbol symbols = false :=
  isSymbol_apart is apart

end Token

namespace Reader

variable {α β : Type} {R : Reader α} {N : α → Reader β} {p q : Token → Bool} {tokens rest : List Token}

/-- A reader that keeps its tokens stops where it stops by itself. -/
theorem taking_stopped {fault : Fault} :
    (taking R).read tokens = .stopped fault rest ↔ R.read tokens = .stopped fault rest := by
  unfold taking
  dsimp only
  cases R.read tokens with
  | done a rest => exact iff_of_false nofun nofun
  | stopped fault rest => rw [Reading.stopped.injEq, Reading.stopped.injEq]

/-! ## Signs that are not seen -/

/-- **What the reader takes does not depend on the sign behind it.** -/
def Indifferent (R : Reader α) : Prop :=
  ∀ ⦃tokens rest : List Token⦄ ⦃a : α⦄ ⦃sign sign' : Token⦄ (more more' : List Token), sign.isSign = true →
    sign'.isSign = true → R.read (tokens ++ sign :: more) = .done a (rest ++ sign :: more) →
    R.read (tokens ++ sign' :: more') = .done a (rest ++ sign' :: more')

/-- **What the reader takes does not depend on the sign** behind a token that it leaves. -/
def Shielded (R : Reader α) : Prop :=
  ∀ ⦃tokens rest : List Token⦄ ⦃a : α⦄ ⦃sign sign' : Token⦄ (more more' : List Token), sign.isSign = true →
    sign'.isSign = true → rest ≠ [] → R.read (tokens ++ sign :: more) = .done a (rest ++ sign :: more) →
    R.read (tokens ++ sign' :: more') = .done a (rest ++ sign' :: more')

/-- **The reader never stops for want of a term.** -/
def Termless (R : Reader α) : Prop :=
  ∀ ⦃tokens rest : List Token⦄ ⦃token : Token⦄, R.read tokens ≠ .stopped (.unexpected .term (some token)) rest

/-- The reader does not stop for want of a term at its first token. -/
def TermBehind (R : Reader α) : Prop :=
  ∀ ⦃sign : Token⦄, sign.isSign = true → R.read [sign] ≠ .stopped (.unexpected .term (some sign)) [sign]

/-- **A reader that tracks itself is shielded.** -/
theorem Shielded.of_tracks {blocks : α → List Values} {V : α → α → Prop} (tracks : Tracks .same [] blocks V R R)
    (exact_ : ∀ {a a'}, V a a' → a' = a) : Shielded R := by
  intro tokens rest a sign sign' more more' is is' some_ read
  have taken := conserves_done read
  rw [← List.append_assoc] at taken
  have ahead : Ahead .same (rest ++ sign :: more) (rest ++ sign' :: more') := by
    rcases rest with _ | ⟨first, _ | ⟨second, others⟩⟩
    · exact absurd rfl some_
    · exact ⟨rfl, .inr (.marks (Token.endMark_of_isSign is) (Token.endMark_of_isSign is'))⟩
    · exact ⟨rfl, .inr (.ahead (.some rfl))⟩
  obtain ⟨a', read', related, -⟩ := tracks.done read (respells_same (R.sound _)) ahead
  rw [← List.append_assoc, List.append_cancel_right taken] at read'
  rw [read', exact_ related]

/-- Readers one behind the other are shielded, for the second has a token in front of the sign left. -/
theorem Shielded.bind (first : Shielded R) (next : ∀ a, Shielded (N a)) : Shielded (R >>= N) := by
  intro tokens rest b sign sign' more more' is is' some_ read
  obtain ⟨a, between, firstRead, nextRead⟩ := bind_done.mp read
  obtain ⟨taken, whole⟩ := exists_taken nextRead
  rw [← List.append_assoc] at whole
  rw [whole] at firstRead nextRead
  exact bind_done.mpr ⟨a, _, first more more' is is' (List.append_ne_nil_of_right_ne_nil _ some_) firstRead,
    next a more more' is is' some_ nextRead⟩

namespace Indifferent

/-- Who looks for no sign is shielded from it. -/
theorem shielded (h : Indifferent R) : Shielded R :=
  fun _ _ _ _ _ more more' is is' _ read => h more more' is is' read

/-- A reader that does not depend on what follows looks for no sign. -/
theorem of_detached (h : Detached nothing R) : Indifferent R := by
  intro tokens rest a sign sign' more more' _ _ read
  obtain ⟨taken, whole⟩ := exists_taken read
  rw [← List.append_assoc] at whole
  obtain rfl := List.append_cancel_right whole
  rw [List.append_assoc] at read ⊢
  exact h (.inr ⟨by cases rest <;> rfl, by cases rest <;> rfl⟩) read

theorem pure {a : α} : Indifferent (Pure.pure a) := .of_detached .pure

/-- A token that must be there is taken in front of the sign. -/
theorem require {expected : Expected} : Indifferent (Reader.require expected p) := .of_detached .require

/-- Readers one behind the other look for no sign if neither does. -/
theorem bind (first : Indifferent R) (next : ∀ a, Indifferent (N a)) : Indifferent (R >>= N) := by
  intro tokens rest b sign sign' more more' is is' read
  obtain ⟨a, between, firstRead, nextRead⟩ := bind_done.mp read
  obtain ⟨taken, whole⟩ := exists_taken nextRead
  rw [← List.append_assoc] at whole
  rw [whole] at firstRead nextRead
  exact bind_done.mpr ⟨a, _, first more more' is is' firstRead, next a more more' is is' nextRead⟩

/-- A predicate that tells signs from nothing and from each other by none of them. -/
theorem head?_any (apart : ∀ {sign sign'}, sign.isSign = true → sign'.isSign = true → p sign' = p sign)
    {sign sign' : Token} (is : sign.isSign = true) (is' : sign'.isSign = true) (rest more more' : List Token) :
    (rest ++ sign' :: more').head?.any p = (rest ++ sign :: more).head?.any p := by
  cases rest with
  | nil => exact apart is is'
  | cons token rest => rfl

/-- A look-ahead may meet the sign, if it says the same of both. -/
theorem next (apart : ∀ {sign sign'}, sign.isSign = true → sign'.isSign = true → p sign' = p sign) :
    Indifferent (Reader.next p) := by
  intro tokens rest b sign sign' more more' is is' read
  obtain ⟨holds, whole⟩ := next_done.mp read
  obtain rfl := List.append_cancel_right whole
  exact next_done.mpr ⟨(head?_any apart is is' ..).trans holds, rfl⟩

/-- A token that is no sign is accepted in front of it, and the sign is not. -/
theorem accept? (missed : ∀ {sign}, sign.isSign = true → p sign = false) : Indifferent (Reader.accept? p) := by
  intro tokens rest found sign sign' more more' is is' read
  cases found with
  | none =>
    obtain ⟨whole, none_⟩ := accept?_none.mp read
    obtain rfl := List.append_cancel_right whole
    have apart {sign sign' : Token} (is : sign.isSign = true) (is' : sign'.isSign = true) : p sign' = p sign :=
      (missed is').trans (missed is).symm
    exact accept?_none.mpr ⟨rfl, (head?_any apart is is' ..).trans none_⟩
  | some token =>
    obtain ⟨whole, holds⟩ := accept?_some.mp read
    obtain rfl := List.append_cancel_right (show tokens ++ _ = (token :: rest) ++ _ from whole)
    exact accept?_some.mpr ⟨rfl, holds⟩

/-- Whether a token is accepted is settled in front of the sign. -/
theorem accept (missed : ∀ {sign}, sign.isSign = true → p sign = false) : Indifferent (Reader.accept p) :=
  bind (accept? missed) fun _ => .pure

/-- A turn of a loop does what its item does. -/
theorem itemTurn {item : Reader (Option α)} (h : Indifferent item) : Indifferent (Reader.itemTurn item) :=
  bind h fun found => by cases found <;> exact .pure

/-- Two tokens are accepted in front of the sign or not at all. -/
theorem acceptTwo? (missed : ∀ {sign}, sign.isSign = true → p sign = false)
    (missed' : ∀ {sign}, sign.isSign = true → q sign = false) : Indifferent (Reader.acceptTwo? p q) := by
  intro tokens rest found sign sign' more more' is is' read
  cases found with
  | some pair =>
    obtain ⟨whole, first, second⟩ := acceptTwo?_some.mp read
    obtain rfl := List.append_cancel_right (show tokens ++ _ = (pair.1 :: pair.2 :: rest) ++ _ from whole)
    exact acceptTwo?_some.mpr ⟨rfl, first, second⟩
  | none =>
    obtain rfl := List.append_cancel_right (acceptTwo?_none read)
    refine (acceptTwo?_missed fun both => ?_).1
    rcases tokens with _ | ⟨first, _ | ⟨second, others⟩⟩
    · exact absurd ((Bool.and_eq_true _ _).mp both).1 (Bool.eq_false_iff.mp (missed is'))
    · exact absurd ((Bool.and_eq_true _ _).mp both).2 (Bool.eq_false_iff.mp (missed' is'))
    · cases (acceptTwo?_found both).1.symm.trans read

/-- A look at two tokens does not reach behind the sign. -/
theorem nextTwo (missed : ∀ {sign}, sign.isSign = true → p sign = false)
    (missed' : ∀ {sign}, sign.isSign = true → q sign = false) : Indifferent (Reader.nextTwo p q) := by
  intro tokens rest b sign sign' more more' is is' read
  obtain ⟨holds, whole⟩ := Reading.done.inj read
  obtain rfl := List.append_cancel_right whole
  refine congrArg (Reading.done · (tokens ++ sign' :: more')) (Eq.trans ?_ holds)
  rcases tokens with _ | ⟨first, _ | ⟨second, others⟩⟩
  · change (p sign' && _) = (p sign && _)
    rw [missed is', missed is]
    rfl
  · change (p first && q sign') = (p first && q sign)
    rw [missed' is', missed' is]
  · rfl

/-- A bracket is no sign. -/
theorem open? {depth : Option Inside} {brackets : List String}
    (missed : ∀ {sign : Token}, sign.isSign = true → sign.isSymbol brackets = false) :
    Indifferent (Reader.open? depth brackets) := by
  intro tokens rest found sign sign' more more' is is' read
  rcases open?_done read with ⟨rfl, whole, none_⟩ | ⟨opening, inner, rfl, deeper, whole, opens⟩
  · obtain rfl := List.append_cancel_right whole
    have apart {sign sign' : Token} (is : sign.isSign = true) (is' : sign'.isSign = true) :
        sign'.isSymbol brackets = sign.isSymbol brackets := (missed is').trans (missed is).symm
    exact open?_none ((head?_any apart is is' ..).trans none_)
  · obtain rfl := List.append_cancel_right (show tokens ++ _ = (opening :: rest) ++ _ from whole)
    exact open?_some deeper opens

end Indifferent

/-! ## Terms that are not looked for -/

namespace Termless

theorem pure {a : α} : Termless (Pure.pure a) := fun _ _ _ stopped => nomatch stopped

/-- The reader stops for another reason. -/
theorem stop {fault : Fault} (other : ∀ found, fault ≠ .unexpected .term found) :
    Termless (Reader.stop fault : Reader α) :=
  fun _ _ _ stopped => other _ (Reading.stopped.inj stopped).1

/-- What is missing is no term. -/
theorem refuse {expected : Expected} (other : expected ≠ .term) : Termless (Reader.refuse expected : Reader α) :=
  fun _ _ _ stopped => other (Fault.unexpected.inj (Reading.stopped.inj stopped).1).1

/-- A term without a value is there. -/
theorem valued {term : Except Unreadable α} : Termless (Reader.valued term) := by
  cases term with
  | ok a => exact .pure
  | error fault => exact .stop fun _ same => nomatch same

theorem shift {change : Shift} : Termless (Reader.shift change) := fun _ _ _ stopped => nomatch stopped

theorem peek : Termless Reader.peek := fun _ _ _ stopped => nomatch stopped

theorem next : Termless (Reader.next p) := fun _ _ _ stopped => nomatch stopped

theorem nextTwo : Termless (Reader.nextTwo p q) := fun _ _ _ stopped => nomatch stopped

/-- Neither of two readers stops for want of a term. -/
theorem bind (first : Termless R) (next : ∀ a, Termless (N a)) : Termless (R >>= N) := by
  intro tokens rest token stopped
  rcases bind_stopped.mp stopped with here | ⟨a, between, -, there⟩
  · exact first here
  · exact next a there

theorem accept? : Termless (Reader.accept? p) := fun _ _ _ => accept?_stopped

theorem acceptTwo? : Termless (Reader.acceptTwo? p q) := fun _ _ _ => acceptTwo?_stopped

theorem accept : Termless (Reader.accept p) := bind accept? fun _ => .pure

/-- What is required is no term. -/
theorem require {expected : Expected} (other : expected ≠ .term) : Termless (Reader.require expected p) :=
  bind accept? fun
    | some _ => .pure
    | none => .refuse other

theorem enter {depth : Option Inside} {bracket : Token} : Termless (Reader.enter depth bracket) := by
  cases depth with
  | none => exact .stop fun _ same => nomatch same
  | some inner => exact bind .shift fun _ => .pure

theorem open? {depth : Option Inside} {brackets : List String} : Termless (Reader.open? depth brackets) := by
  refine bind .peek fun found => ?_
  cases found.filter (·.isSymbol brackets) with
  | none => exact .pure
  | some bracket => exact bind .enter fun _ => bind .accept? fun _ => .pure

/-- A bracket that is opened, or not. -/
theorem ifOpen {depth : Option Inside} {brackets : List String} {N : Option (Token × Inside) → Reader β}
    (some : ∀ opening inner, depth = .some inner → Termless (N (.some (opening, inner)))) (none : Termless (N .none)) :
    Termless (Reader.open? depth brackets >>= N) := by
  intro tokens rest token stopped
  rcases bind_stopped.mp stopped with here | ⟨found, between, opened, further⟩
  · exact open? here
  · rcases open?_done opened with ⟨rfl, -⟩ | ⟨opening, inner, rfl, deeper, -⟩
    · exact none further
    · exact some opening inner deeper further

/-- What is missing is a closing token. -/
theorem shut {expected : Expected} (other : expected ≠ .term) : Termless (Reader.shut expected p) :=
  bind (.require other) fun _ => bind .shift fun _ => .pure

/-- No turn of a loop stops for want of a term. -/
theorem loop {turn : Reader (Turn α)} (progress : Progress Turn.GoesOn turn) (h : Termless turn) :
    Termless (loop turn) := by
  intro tokens
  -- a turn that goes on leaves less
  induction length : tokens.length using Nat.strong_induction_on generalizing tokens with
  | _ n ih =>
  subst length
  intro rest token stopped
  rw [loop_unroll progress] at stopped
  rcases bind_stopped.mp stopped with here | ⟨turned, between, turnRead, further⟩
  · exact h here
  · cases turned with
    | stop => cases further
    | last item => cases further
    | more item =>
      rcases bind_stopped.mp further with there | ⟨_, _, -, gives⟩
      · exact ih _ (progress turnRead trivial) rfl there
      · cases gives

/-- No item of a loop stops for want of a term. -/
theorem many {item : Reader (Option α)} (progress : Progress Found item) (h : Termless item) : Termless (many item) :=
  loop (goesOn_itemTurn progress) (bind h fun
    | some _ => .pure
    | none => .pure)

end Termless

namespace TermBehind

/-- A reader that looks for no term does not start with one. -/
theorem of_termless (h : Termless R) : TermBehind R := fun _ _ stopped => h stopped

/-- At its first token a reader is its first part, if this takes nothing, and else it is past the sign. -/
theorem bind (first : TermBehind R) (next : ∀ a, TermBehind (N a)) : TermBehind (R >>= N) := by
  intro sign is stopped
  rcases bind_stopped.mp stopped with here | ⟨a, between, read, there⟩
  · exact first is here
  · obtain ⟨taken, whole⟩ := exists_taken read
    have left := (N a).conserves between
    rw [there] at left
    -- what is taken between the two readings is nothing
    have lengths := congrArg List.length whole
    rw [← left, List.length_append, List.length_append, Reading.rest, List.length_singleton] at lengths
    obtain rfl := List.length_eq_zero_iff.mp (show taken.length = 0 by omega)
    obtain rfl : [sign] = between := whole
    exact next a is there

/-- **A reader that takes a token** leaves no sign to the next one. -/
theorem of_first (advances : Advances R) (first : TermBehind R) : TermBehind (R >>= N) := by
  intro sign is stopped
  rcases bind_stopped.mp stopped with here | ⟨a, between, read, there⟩
  · exact first is here
  · have less := advances read trivial
    have left := congrArg List.length ((N a).conserves between)
    rw [there, List.length_append, Reading.rest, List.length_singleton] at left
    rw [List.length_singleton] at less
    omega

/-- A sign is not what is required, and what is missing is no term. -/
theorem require {expected : Expected} {N : Token → Reader β} (other : expected ≠ .term) :
    TermBehind (Reader.require expected p >>= N) :=
  of_first Progress.require (of_termless (.require other))

/-- Behind a choice that a sign decides. -/
theorem choice {a : α} (first : ∀ {sign}, sign.isSign = true → R.read [sign] = .done a [sign])
    (next : TermBehind (N a)) : TermBehind (R >>= N) := by
  intro sign is stopped
  rw [bind_read, first is] at stopped
  exact next is stopped

/-- No sign is accepted, so the other choice must not start with a term. -/
theorem orElse {N : Option Token → Reader β} (missed : ∀ {sign}, sign.isSign = true → p sign = false)
    (none : TermBehind (N .none)) : TermBehind (Reader.accept? p >>= N) :=
  choice (fun is => accept?_none.mpr ⟨rfl, missed is⟩) none

/-- The same of a choice that gives up its token. -/
theorem ifAccept {M : Bool → Reader β} (missed : ∀ {sign}, sign.isSign = true → p sign = false)
    (no : TermBehind (M false)) : TermBehind (Reader.accept p >>= M) :=
  choice (fun is => accept_false.mpr ⟨rfl, missed is⟩) no

/-- The same of a look-ahead. -/
theorem ifNext {M : Bool → Reader β} (missed : ∀ {sign}, sign.isSign = true → p sign = false)
    (no : TermBehind (M false)) : TermBehind (Reader.next p >>= M) :=
  choice (fun is => next_done.mpr ⟨missed is, rfl⟩) no

/-- A sign alone is not two tokens. -/
theorem ifNextTwo {M : Bool → Reader β} (no : TermBehind (M false)) : TermBehind (Reader.nextTwo p q >>= M) :=
  choice (fun _ => congrArg (Reading.done · _) (Bool.and_false _)) no

/-- A sign opens no bracket. -/
theorem open? {depth : Option Inside} {brackets : List String} {N : Option (Token × Inside) → Reader β}
    (missed : ∀ {sign : Token}, sign.isSign = true → sign.isSymbol brackets = false) (none : TermBehind (N .none)) :
    TermBehind (Reader.open? depth brackets >>= N) :=
  choice (fun is => open?_none (missed is)) none

/-- The first turn of a loop starts with no term. -/
theorem loop {turn : Reader (Turn α)} (progress : Progress Turn.GoesOn turn) (h : TermBehind turn) :
    TermBehind (loop turn) := by
  intro sign is stopped
  rw [loop_unroll progress] at stopped
  rcases bind_stopped.mp stopped with here | ⟨turned, between, read, there⟩
  · exact h is here
  · have left := (afterTurn turn turned).conserves between
    rw [there] at left
    cases turned with
    | stop => cases there
    | last item => cases there
    | more item =>
      -- a turn that goes on has taken the sign
      have less := progress read trivial
      rw [← left, List.length_append, Reading.rest, List.length_singleton] at less
      omega

end TermBehind

end Reader

end QuerySignature
