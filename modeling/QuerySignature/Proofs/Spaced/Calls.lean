import QuerySignature.Proofs.Spaced.Terms

/-!
# Proofs/Spaced/Calls — function calls between spaces

A bare word may name a function, and a literal may not; so a call by a truth value is none between spaces.  A function is
called behind a keyword, a variable or a symbol only (`Fair`), and there no truth value is called: clauses start with a
keyword, and their conditions end with a variable or a symbol (`Ends`).
-/

namespace QuerySignature.Reader

variable {tail : Tail} {α β : Type} {P : α → Prop} {Q : β → Prop} {R : Reader α} {N N' : α → Reader β} {f : α → α}
  {g : β → β} {p q : Token → Bool} {depth : Option Inside} {front back : List Token}

/-! ## What a reader ends with -/

/-- **The reader takes a token**, and the last one it takes is a keyword, a variable or a symbol. -/
def Ends (P : α → Prop) (R : Reader α) : Prop :=
  ∀ ⦃tokens rest : List Token⦄ ⦃a : α⦄, R.read tokens = .done a rest → P a →
    ∃ front last, tokens = front ++ last :: rest ∧ last.isPlain = true

/-- The reader takes no token. -/
def Still (R : Reader α) : Prop :=
  ∀ ⦃tokens rest : List Token⦄ ⦃a : α⦄, R.read tokens = .done a rest → tokens = rest

namespace Still

theorem pure {a : α} : Still (Pure.pure a) := fun _ _ _ read => (pure_done.mp read).2

theorem shift {change : Shift} : Still (Reader.shift change) := fun _ _ _ read => (Reading.done.inj read).2

theorem next : Still (Reader.next p) := fun _ _ _ read => (next_done.mp read).2

theorem nextTwo : Still (Reader.nextTwo p q) := fun _ _ _ read => (Reading.done.inj read).2

theorem bind (first : Still R) (next : ∀ a, Still (N a)) : Still (R >>= N) := by
  intro tokens rest b read
  obtain ⟨a, between, firstRead, nextRead⟩ := bind_done.mp read
  exact (first firstRead).trans (next a nextRead)

end Still

namespace Ends

theorem pure {a : α} (h : ¬P a) : Ends P (Pure.pure a) := by
  intro tokens rest b read holds
  obtain ⟨rfl, -⟩ := pure_done.mp read
  exact absurd holds h

theorem refuse {expected : Expected} : Ends P (Reader.refuse expected) := fun _ _ _ read => (refuse_done.mp read).elim

/-- The second of two readers ends so. -/
theorem bind (next : ∀ a, Ends Q (N a)) : Ends Q (R >>= N) := by
  intro tokens rest b read holds
  obtain ⟨a, between, firstRead, nextRead⟩ := bind_done.mp read
  obtain ⟨taken, rfl⟩ := exists_taken firstRead
  obtain ⟨front, last, rfl, plain⟩ := next a nextRead holds
  exact ⟨taken ++ front, last, (List.append_assoc ..).symm, plain⟩

/-- The first of two readers ends so, and the second takes no token. -/
theorem before (first : Ends (fun _ => True) R) (next : ∀ a, Still (N a)) : Ends Q (R >>= N) := by
  intro tokens rest b read _
  obtain ⟨a, between, firstRead, nextRead⟩ := bind_done.mp read
  obtain rfl := next a nextRead
  exact first firstRead trivial

theorem require {P : Token → Prop} {expected : Expected} (plain : ∀ token, p token = true → token.isPlain = true) :
    Ends P (Reader.require expected p) := by
  intro tokens rest token read _
  obtain ⟨rfl, holds⟩ := require_done.mp read
  exact ⟨[], token, rfl, plain token holds⟩

/-- A token that is accepted at the end, or not. -/
theorem orElse {N : Option Token → Reader β} (plain : ∀ token, p token = true → token.isPlain = true)
    (some : ∀ token, Still (N (.some token))) (none : Ends Q (N .none)) : Ends Q (Reader.accept? p >>= N) := by
  intro tokens rest b read holds
  obtain ⟨_ | token, between, accepted, further⟩ := bind_done.mp read
  · obtain ⟨rfl, -⟩ := accept?_none.mp accepted
    exact none further holds
  · obtain ⟨rfl, is⟩ := accept?_some.mp accepted
    obtain rfl := some token further
    exact ⟨[], token, rfl, plain token is⟩

theorem taking (h : Ends (fun _ => True) R) : Ends (fun _ => True) (taking R) :=
  fun _ _ _ read _ => h (taking_done read).1 trivial

end Ends

theorem isPlain_of_isSymbol {symbols : List String} (token : Token) (is : token.isSymbol symbols = true) :
    token.isPlain = true := by
  unfold Token.isPlain
  rw [kind_of_isSymbol is]
  rfl

theorem isPlain_of_spells {words : List String} (token : Token) (spells : token.spells words = true) :
    token.isPlain = true := by
  by_contra other
  have kind : token.kind ≠ .keyword := by
    intro kind
    rw [Token.isPlain, kind] at other
    exact other rfl
  rw [not_spells kind] at spells
  cases spells

theorem isPlain_of_var (token : Token) (is : decide (token.kind = .var) = true) : token.isPlain = true := by
  unfold Token.isPlain
  rw [of_decide_eq_true is]
  rfl

theorem Ends.symbol {P : Token → Prop} (text : String) : Ends P (Reader.symbol text) := .require isPlain_of_isSymbol

theorem Ends.word {P : Token → Prop} (words : List String) : Ends P (Reader.word words) := .require isPlain_of_spells

theorem Ends.close {P : Token → Prop} (text : String) : Ends P (Reader.close text) :=
  .before (.require isPlain_of_isSymbol) fun _ => .bind .shift fun _ => .pure

/-! ## Places where a function may be called -/

/-- **No truth value is called** at the front of the tokens. -/
def Fair (tokens : List Token) : Prop :=
  (tokens.head?.any Token.isTruth && tokens.tail.head?.any (·.isSymbol ["("])) = false

/-- **Behind what ends so**, no truth value is called. -/
theorem fair_of_ends {a : α} (ends : Ends P R) (calls : Calls front)
    (read : R.read (tail.source front) = .done a (tail.source back)) (holds : P a) : Fair back := by
  obtain ⟨taken, last, whole, plain⟩ := ends read holds
  have whole : tail.source front = taken ++ [last] ++ tail.source back := by
    rw [whole, List.append_assoc]
    rfl
  obtain rfl := Tail.front_eq whole
  unfold Fair
  rcases back with _ | ⟨t, _ | ⟨v, back⟩⟩
  · rfl
  · exact Bool.and_false _
  · rw [Bool.and_eq_false_iff, or_iff_not_imp_left, Bool.not_eq_false]
    intro truth
    exact calls ⟨taken, back, by simp⟩ plain truth

/-- The second reader keeps what the first comes to, where no truth value is called at the front. -/
def KeepsFair (tail : Tail) (f : α → α) (R R' : Reader α) : Prop :=
  ∀ ⦃front : List Token⦄, Calls front → Fair front → KeptAt tail f R R' front

/-- The reader keeps what it comes to, where no truth value is called at the front. -/
abbrev KeptFair (tail : Tail) (R : Reader α) : Prop := KeepsFair tail id R R

theorem Keeps.fair {R' : Reader α} (h : Keeps tail f R R') : KeepsFair tail f R R' := fun _ calls _ => h calls

namespace KeepsFair

/-- Behind what ends with a keyword, a variable or a symbol. -/
theorem behind (ends : Ends P R) (first : Kept tail R) (next : ∀ a, P a → KeepsFair tail g (N a) (N' a))
    (others : ∀ a, ¬P a → Keeps tail g (N a) (N' a)) : Keeps tail g (R >>= N) (R >>= N') := by
  intro front calls
  refine .bind (first calls) fun {a back} read => ?_
  by_cases holds : P a
  · exact next a holds (calls_behind calls read) (fair_of_ends ends calls read holds)
  · exact others a holds (calls_behind calls read)

theorem bind (first : KeptFair tail R) (next : ∀ a, Keeps tail g (N a) (N' a)) : KeepsFair tail g (R >>= N) (R >>= N') :=
  fun _ calls fair => .bind (first calls fair) fun read => next _ (calls_behind calls read)

/-- Behind a reader that takes no token. -/
theorem still (first : KeptFair tail R) (still : Still R) (next : ∀ a, KeepsFair tail g (N a) (N' a)) :
    KeepsFair tail g (R >>= N) (R >>= N') := by
  intro front calls fair
  refine .bind (first calls fair) fun {a back} read => ?_
  obtain rfl := Tail.front_inj (still read)
  exact next a calls fair

/-- A choice by a token that is accepted, or not. -/
theorem orElse {N N' : Option Token → Reader β} (blind : Blind p)
    (some : ∀ token, Keeps tail g (N (.some token)) (N' (.some token))) (none : KeepsFair tail g (N .none) (N' .none)) :
    KeepsFair tail g (Reader.accept? p >>= N) (Reader.accept? p >>= N') := by
  intro front calls fair
  refine .bind (Kept.accept? blind calls) fun {found back} read => ?_
  cases found with
  | none =>
    obtain rfl := Tail.front_inj (accept?_none.mp read).1
    exact none calls fair
  | some token => exact some token (calls_behind calls read)

theorem ifAccept {M M' : Bool → Reader β} (blind : Blind p) (yes : Keeps tail g (M true) (M' true))
    (no : KeepsFair tail g (M false) (M' false)) :
    KeepsFair tail g (Reader.accept p >>= M) (Reader.accept p >>= M') := by
  intro front calls fair
  refine .bind (Kept.accept blind calls) fun {took back} read => ?_
  cases took with
  | false =>
    obtain rfl := Tail.front_inj (accept_false.mp read).1
    exact no calls fair
  | true => exact yes (calls_behind calls read)

theorem ifNext {M M' : Bool → Reader β} (same : ∀ token, p token.apart = p token)
    (yes : KeepsFair tail g (M true) (M' true)) (no : KeepsFair tail g (M false) (M' false)) :
    KeepsFair tail g (Reader.next p >>= M) (Reader.next p >>= M') :=
  still (Kept.next same).fair .next (Bool.forall_bool.mpr ⟨no, yes⟩)

end KeepsFair

/-! ## Calls -/

theorem notClosing_isCallable : NotClosing isCallable := by
  intro token closes
  unfold isCallable Token.isResource Token.isPrefixedName
  rw [kind_of_isSymbol closes]
  rfl

theorem KeptFair.startsCall : KeptFair tail Reader.startsCall := by
  intro front calls fair back b read
  obtain ⟨holds, whole⟩ := Reading.done.inj read
  rw [Tail.front_inj whole] at holds fair ⊢
  refine congrArg (Reading.done · (tail.spaced back)) (Eq.trans ?_ holds)
  rcases back with _ | ⟨first, _ | ⟨second, back⟩⟩
  · change (isCallable tail.closing && _) = (isCallable tail.closing && _)
    rw [notClosing_isCallable tail.closes, Bool.false_and, Bool.false_and]
  · change (_ && tail.closing.isSymbol ["("]) = (_ && tail.closing.isSymbol ["("])
    rw [tail.not_opening, Bool.and_false, Bool.and_false]
  · change (isCallable first.apart && second.apart.isSymbol ["("]) = (isCallable first && second.isSymbol ["("])
    rw [(Blind.isSymbol _).same second]
    rcases (Bool.and_eq_false_iff (x := first.isTruth)).mp fair with other | none_
    · rw [Token.apart_of_not other]
    · rw [show second.isSymbol ["("] = false from none_, Bool.and_false, Bool.and_false]

end QuerySignature.Reader
