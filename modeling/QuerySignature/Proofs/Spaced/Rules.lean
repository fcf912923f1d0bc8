import QuerySignature.Proofs.Paired.Pieces
import QuerySignature.Proofs.Spaced.Cut
import QuerySignature.Proofs.Text.Upper
import QuerySignature.Proofs.Triples.Detached

/-!
# Proofs/Spaced/Rules — readers that read the same between spaces

Two runs are compared: one over the tokens of a text up to a closing bracket, and one over the same tokens as they are
between spaces (`Token.apart`), with anything behind the bracket in either (`Tail`).  A reader `Keeps` what it comes to if
whatever it comes to in the first run it comes to in the second.  Tokens that differ are keywords in the first run and
literals in the second, and no reader looks for a keyword that is a truth value (`Blind`).  Where the second run would
take the literal, the first one stops at the keyword.
-/

namespace QuerySignature

open Lexeme

/-! ## What is seen of a truth value -/

namespace Text

/-- A character that counts as an ASCII letter of a word has that letter as its upper case. -/
theorem upperChar_of_counts {c w : Char} (counts : (c.toUpper == w || (c == 'ſ' && w == 'S')) = true)
    (ascii : w.toNat < 128) : upperChar c = [w] := by
  rcases (Bool.or_eq_true _ _).mp counts with same | long
  · obtain rfl := beq_iff_eq.mp same
    refine upperChar_of_ascii ?_
    by_cases lower : 'a'.val ≤ c.val ∧ c.val ≤ 'z'.val
    · have high : c.val.toNat ≤ 122 := lower.2
      change c.val.toNat < 128
      omega
    · rwa [show c.toUpper = c from dif_neg lower] at ascii
  · obtain ⟨first, second⟩ := (Bool.and_eq_true _ _).mp long
    rw [beq_iff_eq.mp first, beq_iff_eq.mp second]
    rfl

/-- A text that is a word has it as its upper case. -/
theorem upper_of_startsWith {word text : Text} (starts : startsWith word text = true)
    (length : text.length = word.length) (ascii : word.all (·.toNat < 128) = true) : upper text = word := by
  induction word generalizing text with
  | nil => rw [List.eq_nil_of_length_eq_zero length, upper_nil]
  | cons w word ih =>
    obtain ⟨c, text, rfl⟩ := List.exists_cons_of_length_eq_add_one length
    obtain ⟨first, others⟩ := (Bool.and_eq_true _ _).mp starts
    obtain ⟨here, behind⟩ := (Bool.and_eq_true _ _).mp ascii
    rw [upper_cons, upperChar_of_counts first (of_decide_eq_true here), ih others (Nat.succ.inj length) behind]
    rfl

end Text

namespace Token

variable {token : Token}

/-- A truth value is its word, in any case. -/
theorem startsWith_of_isTruth (truth : token.isTruth = true) :
    ∃ word ∈ ["TRUE".toList, "FALSE".toList], startsWith word token.text = true ∧ token.text.length = word.length := by
  obtain ⟨word, member, found⟩ := List.exists_of_findSome?_eq_some (isTruth_text truth)
  split at found
  · next holds =>
    have starts := (Bool.and_eq_true _ _).mp ((Bool.and_eq_true _ _).mp holds).1
    exact ⟨word, member, starts.1, (Option.some.inj found).symm⟩
  · cases found

/-- **A truth value spells its word.** -/
theorem word_of_isTruth (truth : token.isTruth = true) :
    ∃ word ∈ ["TRUE".toList, "FALSE".toList], token.word? = some word := by
  obtain ⟨word, member, starts, length⟩ := startsWith_of_isTruth truth
  have ascii : word.all (·.toNat < 128) = true := by
    obtain rfl | rfl := List.mem_pair.mp member <;> rfl
  have longer : token.text ≠ ['a'] := by
    intro short
    rw [short] at length
    obtain rfl | rfl := List.mem_pair.mp member <;> cases length
  refine ⟨word, member, ?_⟩
  rw [word?, if_pos (isTruth_kind truth), if_neg longer, Text.upper_of_startsWith starts length ascii]

/-- It starts with a letter. -/
theorem head_of_isTruth (truth : token.isTruth = true) :
    ∃ c rest, token.text = c :: rest ∧ (c.toUpper = 'T' ∨ c.toUpper = 'F') := by
  have found := isTruth_text truth
  obtain ⟨c, rest, text⟩ := List.exists_cons_of_length_pos (truthValue_extent found).1
  refine ⟨c, rest, text, ?_⟩
  by_contra other
  rw [not_or] at other
  rw [text, truthValue_of_ne other.1 other.2] at found
  cases found

end Token

/-- **The predicate holds of no truth value**, as a keyword or as a literal. -/
def Blind (p : Token → Bool) : Prop :=
  ∀ ⦃token : Token⦄, token.isTruth = true → p token = false ∧ p token.apart = false

namespace Blind

variable {p q : Token → Bool}

/-- What holds of no truth value holds of a token between spaces as before. -/
theorem same (h : Blind p) (token : Token) : p token.apart = p token := by
  by_cases truth : token.isTruth = true
  · rw [(h truth).1, (h truth).2]
  · rw [Token.apart_of_not ((Bool.not_eq_true _).mp truth)]

/-- A token of which it holds is the same between spaces. -/
theorem apart (h : Blind p) {token : Token} (holds : p token = true) : token.apart = token :=
  Token.apart_of_not (Bool.eq_false_iff.mpr fun truth => Bool.eq_false_iff.mp (h truth).1 holds)

/-- Two predicates hold of no truth value together. -/
theorem or (hp : Blind p) (hq : Blind q) : Blind fun token => p token || q token := fun token truth => by
  beta_reduce
  rw [(hp truth).1, (hp truth).2, (hq truth).1, (hq truth).2]
  exact ⟨rfl, rfl⟩

/-- One of two predicates is enough. -/
theorem and (hp : Blind p) : Blind fun token => p token && q token := fun token truth => by
  beta_reduce
  rw [(hp truth).1, (hp truth).2]
  exact ⟨rfl, rfl⟩

/-- A property of the tokens of some other kind. -/
theorem isKind {kind : Token.Kind} (keyword : kind ≠ .keyword) (literal : kind ≠ .literal) :
    Blind fun token => decide (token.kind = kind) := fun token truth => by
  beta_reduce
  rw [Token.apart_of_isTruth truth, Token.isTruth_kind truth]
  exact ⟨decide_eq_false keyword.symm, decide_eq_false literal.symm⟩

/-- A truth value is no symbol. -/
theorem isSymbol (symbols : List String) : Blind (·.isSymbol symbols) := fun token truth => by
  have other {kind : Token.Kind} (text : Text) (position : Position) (plain : kind ≠ .punctuation) :
      Token.isSymbol ⟨kind, text, position⟩ symbols = false := by
    unfold Token.isSymbol Token.isPunctuation Token.symbol?
    rw [if_neg plain]
    rfl
  obtain ⟨kind, text, position⟩ := token
  obtain rfl : kind = .keyword := Token.isTruth_kind truth
  rw [Token.apart_of_isTruth truth]
  exact ⟨other _ _ (by decide), other _ _ (by decide)⟩

/-- A truth value is none of the keywords that readers look for. -/
theorem spells {words : List String} (free : ∀ word ∈ ["TRUE", "FALSE"], word.toList ∉ words.map String.toList) :
    Blind (·.spells words) := fun token truth => by
  obtain ⟨word, member, spelt⟩ := Token.word_of_isTruth truth
  rw [Token.apart_of_isTruth truth]
  refine ⟨?_, rfl⟩
  unfold Token.spells Token.isKeyword
  beta_reduce
  rw [spelt, Option.any_some, Bool.eq_false_iff]
  intro inside
  obtain rfl | rfl := List.mem_pair.mp member
  · exact free _ (.head _) (List.contains_iff_mem.mp inside)
  · exact free _ (.tail _ (.head _)) (List.contains_iff_mem.mp inside)

/-- A truth value names no resource. -/
theorem isResource : Blind Token.isResource := (isKind (by decide) (by decide)).or (isKind (by decide) (by decide)).and

/-- A literal that starts with a digit is no truth value. -/
theorem isLiteral {q : Token → Bool} (digit : ∀ token : Token, q token = true → ∀ c rest, token.text = c :: rest →
    c.toUpper = c ∧ c ≠ 'T' ∧ c ≠ 'F') : Blind fun token => decide (token.kind = .literal) && q token :=
  fun token truth => by
    obtain ⟨c, rest, text, letter⟩ := Token.head_of_isTruth truth
    beta_reduce
    rw [Token.isTruth_kind truth]
    refine ⟨rfl, ?_⟩
    rw [Bool.and_eq_false_iff, Bool.eq_false_iff (b := q _)]
    refine .inr fun holds => ?_
    obtain ⟨same, noT, noF⟩ := digit _ holds c rest ((Token.apart_text token).trans text)
    rw [same] at letter
    exact letter.elim noT noF

/-- A truth value is no number. -/
theorem isNumeric : Blind Token.isNumeric := isLiteral fun token holds c rest text => by
  rw [text] at holds
  have member : c ∈ "0123456789.".toList := List.contains_iff_mem.mp holds
  have plain : "0123456789.".toList.all fun c => c.toUpper = c ∧ c ≠ 'T' ∧ c ≠ 'F' := rfl
  exact of_decide_eq_true (List.all_eq_true.mp plain c member)

/-- A truth value has no digits. -/
theorem isDigits : Blind Reader.isDigits := isLiteral fun token holds c rest text => by
  rw [text] at holds
  have digit : Text.isDigit c = true := ((Bool.and_eq_true _ _).mp ((Bool.and_eq_true _ _).mp holds).2).1
  refine ⟨toUpper_of_isDigit digit, ?_, ?_⟩ <;> rintro rfl <;> revert digit <;> decide

end Blind

/-! ## Two runs -/

/-- **How the tokens of two runs end**: with a closing bracket, and anything behind it in each. -/
structure Tail where
  closing : Token
  closes : closing.isSymbol [")"] = true
  behind : List Token
  behind' : List Token

namespace Tail

variable (tail : Tail)

/-- The tokens of the first run. -/
def source (front : List Token) : List Token :=
  front ++ tail.closing :: tail.behind

/-- **The tokens of the second run**, as they are between spaces. -/
def spaced (front : List Token) : List Token :=
  front.map Token.apart ++ tail.closing :: tail.behind'

variable {tail} {front back taken : List Token} {token : Token} {p q : Token → Bool}

/-- The first run takes its tokens as they are. -/
theorem source_append (taken back : List Token) : tail.source (taken ++ back) = taken ++ tail.source back :=
  List.append_assoc ..

/-- The second run takes them as they are between spaces. -/
theorem spaced_append (taken back : List Token) :
    tail.spaced (taken ++ back) = taken.map Token.apart ++ tail.spaced back := by
  rw [spaced, List.map_append, List.append_assoc]
  rfl

/-- What is taken in the first run is in front of its end. -/
theorem front_eq (whole : tail.source front = taken ++ tail.source back) : front = taken ++ back := by
  rw [← source_append] at whole
  exact List.append_cancel_right whole

/-- The tokens in front of the end stand there one by one. -/
theorem front_cons (whole : tail.source front = token :: tail.source back) : front = token :: back :=
  front_eq (show _ = [token] ++ _ from whole)

/-- They are determined by the run. -/
theorem front_inj (whole : tail.source front = tail.source back) : front = back :=
  List.append_cancel_right whole

/-- The predicate holds ahead of both runs or of neither. -/
theorem any (same : ∀ token, p token.apart = p token) (front : List Token) :
    (tail.spaced front).head?.any p = (tail.source front).head?.any p := by
  cases front with
  | nil => rfl
  | cons token front => exact same token

end Tail

/-- The predicate does not hold of a closing bracket. -/
def NotClosing (p : Token → Bool) : Prop :=
  ∀ ⦃token : Token⦄, token.isSymbol [")"] = true → p token = false

namespace Reader

variable {tail : Tail} {α β : Type} {f : α → α} {g : β → β} {R R' : Reader α} {N N' : α → Reader β}
  {S : List Token → Prop} {p q : Token → Bool} {front back : List Token}

/-- What the first reader comes to in the first run, the second comes to in the second run, but for the function. -/
def KeptAt (tail : Tail) (f : α → α) (R R' : Reader α) (front : List Token) : Prop :=
  ∀ ⦃back : List Token⦄ ⦃a : α⦄, R.read (tail.source front) = .done a (tail.source back) →
    R'.read (tail.spaced front) = .done (f a) (tail.spaced back)

/-- **The second reader keeps what the first comes to**, where the tokens in front of the end call no truth value behind a
keyword, a variable or a symbol. -/
def Keeps (tail : Tail) (f : α → α) (R R' : Reader α) : Prop :=
  ∀ ⦃front : List Token⦄, Calls front → KeptAt tail f R R' front

/-- The reader keeps what it comes to. -/
abbrev Kept (tail : Tail) (R : Reader α) : Prop := Keeps tail id R R

/-- The tokens behind what a reader takes call no truth value either. -/
theorem calls_behind {a : α} (calls : Calls front) (read : R.read (tail.source front) = .done a (tail.source back)) :
    Calls back := by
  obtain ⟨taken, whole⟩ := exists_taken read
  exact calls.mono (Tail.front_eq whole ▸ List.suffix_append _ _).isInfix

/-- One reader after the other. -/
theorem KeptAt.bind (first : KeptAt tail f R R' front)
    (next : ∀ {a back}, R.read (tail.source front) = .done a (tail.source back) →
      KeptAt tail g (N a) (N' (f a)) back) : KeptAt tail g (R >>= N) (R' >>= N') front := by
  intro back b read
  obtain ⟨a, between, firstRead, nextRead⟩ := bind_done.mp read
  obtain ⟨taken, rfl⟩ := exists_taken nextRead
  rw [← Tail.source_append] at firstRead nextRead
  exact bind_done.mpr ⟨f a, _, first firstRead, next firstRead nextRead⟩

/-- A value is kept where the second is made of it. -/
theorem KeptAt.pure {a a' : α} (same : a' = f a) : KeptAt tail f (Pure.pure a) (Pure.pure a') front := by
  intro back b read
  obtain ⟨rfl, whole⟩ := pure_done.mp read
  rw [same, Tail.front_inj whole]
  rfl

namespace Keeps

/-- **One reader after the other.** -/
theorem bind (first : Keeps tail f R R') (next : ∀ a, Keeps tail g (N a) (N' (f a))) :
    Keeps tail g (R >>= N) (R' >>= N') :=
  fun _ calls => (first calls).bind fun read => next _ (calls_behind calls read)

/-- A value is kept. -/
theorem pure {a a' : α} (same : a' = f a) : Keeps tail f (Pure.pure a) (Pure.pure a') := fun _ _ => .pure same

/-- A reader that stops keeps anything. -/
theorem stop {fault : Fault} {R : Reader α} : Keeps tail f (Reader.stop fault) R := fun _ _ _ _ read => nomatch read

/-- So does one that refuses. -/
theorem refuse {expected : Expected} {R : Reader α} : Keeps tail f (Reader.refuse expected) R :=
  fun _ _ _ _ read => nomatch read

/-- A value made of what is read. -/
theorem map {h : α → β} (kept : Keeps tail f R R') (same : ∀ a, h (f a) = g (h a)) :
    Keeps tail g (do return h (← R)) (do return h (← R')) :=
  bind kept fun a => pure (same a)

end Keeps

namespace Kept

theorem bind (first : Kept tail R) (next : ∀ a, Keeps tail g (N a) (N' a)) : Keeps tail g (R >>= N) (R >>= N') :=
  Keeps.bind first next

theorem pure {a : α} : Kept tail (Pure.pure a) := Keeps.pure rfl

theorem valued {term : Except Unreadable α} : Kept tail (Reader.valued term) := by
  cases term with
  | ok a => exact pure
  | error fault => exact Keeps.stop

theorem shift {change : Shift} : Kept tail (Reader.shift change) := by
  intro front _ back a read
  obtain ⟨-, whole⟩ := Reading.done.inj read
  rw [Tail.front_inj whole]
  rfl

/-- A region changes nothing. -/
theorem within {region : Region} (h : Kept tail R) : Kept tail (within region R) := h

/-! ### Single tokens -/

/-- A look-ahead is kept if the predicate does not tell a truth value. -/
theorem next (same : ∀ token, p token.apart = p token) : Kept tail (Reader.next p) := by
  intro front _ back a read
  obtain ⟨holds, whole⟩ := next_done.mp read
  rw [Tail.front_inj whole] at holds ⊢
  exact next_done.mpr ⟨(Tail.any same back).trans holds, rfl⟩

/-- The next two tokens satisfy the predicates in both runs or in neither. -/
theorem any_two (blind : Blind p) (blind' : Blind q) (open_ : NotClosing p) (front : List Token) :
    ((tail.spaced front).head?.any p && (tail.spaced front).tail.head?.any q) =
      ((tail.source front).head?.any p && (tail.source front).tail.head?.any q) := by
  rcases front with _ | ⟨first, _ | ⟨second, front⟩⟩
  · change (p tail.closing && _) = (p tail.closing && _)
    rw [open_ tail.closes, Bool.false_and, Bool.false_and]
  · exact congrArg (· && q tail.closing) (blind.same first)
  · exact congrArg₂ Bool.and (blind.same first) (blind'.same second)

/-- A look at two tokens does not reach behind the closing bracket. -/
theorem nextTwo (blind : Blind p) (blind' : Blind q) (open_ : NotClosing p) : Kept tail (Reader.nextTwo p q) := by
  intro front _ back a read
  obtain ⟨holds, whole⟩ := Reading.done.inj read
  rw [Tail.front_inj whole] at holds ⊢
  exact congrArg (Reading.done · (tail.spaced back)) ((any_two blind blind' open_ back).trans holds)

end Kept

/-- A token that is accepted or not, where the predicate sees the same ahead. -/
theorem KeptAt.accept? (fixed : ∀ token, front.head? = some token → p token = true → token.apart = token)
    (seen : (tail.spaced front).head?.any p = (tail.source front).head?.any p) :
    KeptAt tail id (Reader.accept? p) (Reader.accept? p) front := by
  intro back found read
  cases found with
  | none =>
    obtain ⟨whole, none_⟩ := accept?_none.mp read
    rw [Tail.front_inj whole] at seen none_ ⊢
    exact accept?_none.mpr ⟨rfl, seen.trans none_⟩
  | some token =>
    obtain ⟨whole, holds⟩ := accept?_some.mp read
    obtain rfl := Tail.front_cons whole
    exact accept?_some.mpr ⟨congrArg (· :: tail.spaced back) (fixed token rfl holds), holds⟩

/-- A token that is required and is the same between spaces. -/
theorem KeptAt.require {expected : Expected}
    (fixed : ∀ token, front.head? = some token → p token = true → token.apart = token) :
    KeptAt tail id (Reader.require expected p) (Reader.require expected p) front := by
  intro back token read
  obtain ⟨whole, holds⟩ := require_done.mp read
  obtain rfl := Tail.front_cons whole
  exact require_done.mpr ⟨congrArg (· :: tail.spaced back) (fixed token rfl holds), holds⟩

namespace Kept

/-- No truth value is accepted in either run. -/
theorem accept? (blind : Blind p) : Kept tail (Reader.accept? p) :=
  fun front _ => .accept? (fun _ _ => blind.apart) (Tail.any blind.same front)

/-- Whether a token is accepted is kept. -/
theorem accept (blind : Blind p) : Kept tail (Reader.accept p) := bind (accept? blind) fun _ => pure

/-- What is required is no truth value. -/
theorem require {expected : Expected} (blind : Blind p) : Kept tail (Reader.require expected p) :=
  fun _ _ => .require fun _ _ => blind.apart

/-- A symbol is the same between spaces. -/
theorem symbol (text : String) : Kept tail (Reader.symbol text) := require (.isSymbol _)

/-- Two tokens are accepted in both runs or in neither. -/
theorem acceptTwo? (blind : Blind p) (blind' : Blind q) (open_ : NotClosing p) :
    Kept tail (Reader.acceptTwo? p q) := by
  intro front _ back found read
  cases found with
  | none =>
    have whole := acceptTwo?_none read
    rw [Tail.front_inj whole] at read ⊢
    refine (acceptTwo?_missed fun both => ?_).1
    rw [any_two blind blind' open_] at both
    obtain ⟨first, second, others, same, holds⟩ := exists_two both
    rw [same, (acceptTwo?_found holds).1] at read
    cases read
  | some pair =>
    obtain ⟨whole, first, second⟩ := acceptTwo?_some.mp read
    obtain rfl := Tail.front_eq (show _ = [pair.1, pair.2] ++ _ from whole)
    refine acceptTwo?_some.mpr ⟨?_, first, second⟩
    exact congrArg₂ (· :: · :: tail.spaced back) (blind.apart first) (blind'.apart second)

/-- The bracket that closes a level. -/
theorem shut {expected : Expected} (blind : Blind p) : Kept tail (Reader.shut expected p) :=
  bind (require blind) fun _ => bind shift fun _ => pure

/-- A bracket that closes is the same between spaces. -/
theorem close (text : String) : Kept tail (Reader.close text) := shut (.isSymbol _)

end Kept

/-- A token that is required, as it is between spaces. -/
theorem Keeps.require {expected : Expected} (same : ∀ token, p token.apart = p token) :
    Keeps tail Token.apart (Reader.require expected p) (Reader.require expected p) := by
  intro front _ back token read
  obtain ⟨whole, holds⟩ := require_done.mp read
  obtain rfl := Tail.front_cons whole
  exact require_done.mpr ⟨rfl, (same token).trans holds⟩

/-! ### Choices -/

section Choices

variable {depth : Option Inside}

/-- **A reader that takes no truth value where another one stands**: it stops there. -/
def Refuses (R : Reader α) : Prop :=
  ∀ ⦃token : Token⦄ ⦃rest left : List Token⦄ ⦃a : α⦄, token.isTruth = true → R.read (token :: rest) ≠ .done a left

namespace Keeps

/-- A token that is accepted, or else what stops at truth values. -/
theorem orRefuse {N N' : Option Token → Reader β} (missed : ∀ token : Token, token.isTruth = true → p token = false)
    (refuses : Refuses (N none)) (some : ∀ token, Keeps tail g (N (.some token)) (N' (.some token)))
    (none : Keeps tail g (N .none) (N' .none)) : Keeps tail g (Reader.accept? p >>= N) (Reader.accept? p >>= N') := by
  intro front calls
  by_cases seen : (tail.spaced front).head?.any p = (tail.source front).head?.any p
  · have fixed (token : Token) (_ : front.head? = .some token) (holds : p token = true) : token.apart = token :=
      Token.apart_of_not (Bool.eq_false_iff.mpr fun truth => Bool.eq_false_iff.mp (missed token truth) holds)
    refine .bind (.accept? fixed seen) fun {found _} read => ?_
    cases found with
    | none => exact none (calls_behind calls read)
    | some token => exact some token (calls_behind calls read)
  · -- only a truth value is seen as another token
    rcases front with _ | ⟨token, front⟩
    · exact absurd rfl seen
    have truth : token.isTruth = true := by
      by_contra other
      exact seen (congrArg p (Token.apart_of_not ((Bool.not_eq_true _).mp other)))
    intro back b read
    obtain ⟨found, between, accepted, nextRead⟩ := bind_done.mp read
    obtain rfl | ⟨_, rfl⟩ := found.eq_none_or_eq_some
    · obtain ⟨rfl, -⟩ := accept?_none.mp accepted
      exact absurd nextRead (refuses truth)
    · obtain ⟨same, holds⟩ := accept?_some.mp accepted
      obtain ⟨rfl, -⟩ := List.cons.inj same
      rw [missed token truth] at holds
      cases holds

/-- A token that is accepted, or not. -/
theorem orElse {N N' : Option Token → Reader β} (blind : Blind p)
    (some : ∀ token, Keeps tail g (N (.some token)) (N' (.some token))) (none : Keeps tail g (N .none) (N' .none)) :
    Keeps tail g (Reader.accept? p >>= N) (Reader.accept? p >>= N') :=
  Kept.bind (.accept? blind) fun
    | .some token => some token
    | .none => none

/-- A choice between two ways to go on. -/
theorem either {R : Reader Bool} {M M' : Bool → Reader β} (first : Kept tail R)
    (yes : Keeps tail g (M true) (M' true)) (no : Keeps tail g (M false) (M' false)) :
    Keeps tail g (R >>= M) (R >>= M') :=
  Kept.bind first (Bool.forall_bool.mpr ⟨no, yes⟩)

/-- A choice by a token that is accepted is the same in both runs. -/
theorem ifAccept {M M' : Bool → Reader β} (blind : Blind p) (yes : Keeps tail g (M true) (M' true))
    (no : Keeps tail g (M false) (M' false)) : Keeps tail g (Reader.accept p >>= M) (Reader.accept p >>= M') :=
  either (.accept blind) yes no

/-- So is a choice by the next token. -/
theorem ifNext {M M' : Bool → Reader β} (same : ∀ token, p token.apart = p token)
    (yes : Keeps tail g (M true) (M' true)) (no : Keeps tail g (M false) (M' false)) :
    Keeps tail g (Reader.next p >>= M) (Reader.next p >>= M') :=
  either (.next same) yes no

/-- A bracket that is opened, or not. -/
theorem ifOpen {brackets : List String} {N N' : Option (Token × Inside) → Reader β}
    (some : ∀ opening inner, depth = .some inner → opening.isSymbol brackets = true →
      Keeps tail g (N (.some (opening, inner))) (N' (.some (opening, inner))))
    (none : Keeps tail g (N .none) (N' .none)) :
    Keeps tail g (Reader.open? depth brackets >>= N) (Reader.open? depth brackets >>= N') := by
  intro front calls
  have kept : KeptAt tail id (Reader.open? depth brackets) (Reader.open? depth brackets) front := by
    intro back found read
    rcases open?_done read with ⟨rfl, whole, none_⟩ | ⟨opening, inner, rfl, deeper, whole, opens⟩
    · rw [Tail.front_inj whole] at none_ ⊢
      exact open?_none ((Tail.any (Blind.isSymbol brackets).same back).trans none_)
    · obtain rfl := Tail.front_cons whole
      have same : opening.apart = opening := (Blind.isSymbol brackets).apart opens
      change (Reader.open? depth brackets).read (opening.apart :: tail.spaced back) = _
      rw [same]
      exact open?_some deeper opens
  refine .bind kept fun {found _} read => ?_
  rcases open?_done read with ⟨rfl, -⟩ | ⟨opening, inner, rfl, deeper, -, opens⟩
  · exact none (calls_behind calls read)
  · exact some opening inner deeper opens (calls_behind calls read)

/-- Inside a bracket, if one more may be open. -/
theorem ifEnter {bracket : Token} {N N' : Inside → Reader β}
    (inside : ∀ inner, depth = .some inner → Keeps tail g (N inner) (N' inner)) :
    Keeps tail g (Reader.enter depth bracket >>= N) (Reader.enter depth bracket >>= N') := by
  intro front calls
  have kept : KeptAt tail id (Reader.enter depth bracket) (Reader.enter depth bracket) front := by
    intro back inner read
    obtain ⟨rfl, whole⟩ := enter_done read
    rw [Tail.front_inj whole]
    rfl
  exact .bind kept fun read => inside _ (enter_done read).1 (calls_behind calls read)

end Keeps

end Choices

/-! ### The tokens that are taken -/

/-- **The tokens that a reader takes** are the same ones between spaces. -/
theorem Keeps.taking (h : Keeps tail f R R') :
    Keeps tail (fun taken => (taken.1.map Token.apart, f taken.2)) (taking R) (taking R') := by
  rintro front calls back ⟨taken, a⟩ read
  obtain ⟨innerRead, rfl⟩ := taking_done read
  obtain ⟨taken, whole⟩ := exists_taken innerRead
  obtain rfl := Tail.front_eq whole
  rw [done_taking (h calls innerRead), whole, Tail.spaced_append, gone_append, gone_append]

/-! ### Loops -/

/-- What a turn brings, changed by a function. -/
def Turn.map (f : α → β) : Turn α → Turn β
  | .stop => .stop
  | .last item => .last (f item)
  | .more item => .more (f item)

/-- **A loop keeps what its turns keep**, where what holds of the tokens in front of a turn holds behind it. -/
theorem KeptAt.loop {turn : Reader (Turn α)} (progress : Progress Turn.GoesOn turn)
    (h : ∀ {front}, S front → KeptAt tail (Turn.map f) turn turn front)
    (stays : ∀ {front back item}, S front → turn.read (tail.source front) = .done (.more item) (tail.source back) → S back)
    (start : S front) : KeptAt tail (List.map f) (loop turn) (loop turn) front := by
  -- a turn that goes on leaves less
  induction length : front.length using Nat.strong_induction_on generalizing front with
  | _ n ih =>
  subst length
  intro back list read
  rw [loop_unroll progress] at read ⊢
  refine (KeptAt.bind (h start) fun {turned behind} turnRead => ?_ : KeptAt _ _ _ (turn >>= afterTurn turn) _) read
  cases turned with
  | stop => exact .pure rfl
  | last item => exact .pure rfl
  | more item =>
    have less := progress turnRead trivial
    rw [Tail.source, Tail.source, List.length_append, List.length_append] at less
    have others := ih _ (Nat.lt_of_add_lt_add_right less) (stays start turnRead) rfl
    exact .bind others fun _ => .pure rfl

/-- **A loop keeps its items**, as long as what holds of its tokens stays. -/
theorem KeptAt.many {item : Reader (Option α)} (progress : Progress Found item)
    (h : ∀ {front}, S front → KeptAt tail (Option.map f) item item front)
    (stays : ∀ {front back a}, S front → item.read (tail.source front) = .done (some a) (tail.source back) → S back)
    (start : S front) : KeptAt tail (List.map f) (many item) (many item) front := by
  refine .loop (goesOn_itemTurn progress) (fun start => .bind (h start) fun {found _} _ => ?_) ?_ start
  · cases found <;> exact .pure rfl
  · intro front back a start read
    obtain ⟨found, between, itemRead, gives⟩ := bind_done.mp read
    cases found with
    | none => cases (pure_done.mp gives).1
    | some a =>
      obtain ⟨-, rfl⟩ := pure_done.mp gives
      exact stays start itemRead

namespace Keeps

/-- A loop keeps what its turns come to. -/
theorem loop {turn : Reader (Turn α)} (progress : Progress Turn.GoesOn turn) (h : Keeps tail (Turn.map f) turn turn) :
    Keeps tail (List.map f) (Reader.loop turn) (Reader.loop turn) :=
  fun _ calls => .loop progress (fun calls => h calls) calls_behind calls

/-- A loop keeps its items. -/
theorem many {item : Reader (Option α)} (progress : Progress Found item) (h : Keeps tail (Option.map f) item item) :
    Keeps tail (List.map f) (Reader.many item) (Reader.many item) :=
  fun _ calls => .many progress (fun calls => h calls) calls_behind calls

/-- Items up to a token. -/
theorem manyUntil {item : Reader α} (advances : Advances item) (same : ∀ token, p token.apart = p token)
    (h : Keeps tail f item item) : Keeps tail (List.map f) (Reader.manyUntil p item) (Reader.manyUntil p item) :=
  many (.choice (.pure nofun) advances.of_first) (ifNext same (pure rfl) (map h fun _ => rfl))

end Keeps

namespace Kept

theorem loop {turn : Reader (Turn α)} (progress : Progress Turn.GoesOn turn) (h : Kept tail turn) :
    Kept tail (Reader.loop turn) := by
  have same : (Turn.map id : Turn α → Turn α) = id := funext fun turned => by cases turned <;> rfl
  have kept : Keeps tail (List.map id) (Reader.loop turn) (Reader.loop turn) := .loop progress (by rwa [same])
  rwa [List.map_id_fun] at kept

theorem many {item : Reader (Option α)} (progress : Progress Found item) (h : Kept tail item) :
    Kept tail (Reader.many item) := by
  have kept : Keeps tail (List.map id) (Reader.many item) (Reader.many item) := .many progress (by rwa [Option.map_id_fun])
  rwa [List.map_id_fun] at kept

theorem manyUntil {item : Reader α} (advances : Advances item) (same : ∀ token, p token.apart = p token)
    (h : Kept tail item) : Kept tail (Reader.manyUntil p item) :=
  many (.choice (.pure nofun) advances.of_first) (Keeps.ifNext same pure (bind h fun _ => pure))

theorem manyWhile {item : Reader α} (advances : Advances item) (same : ∀ token, p token.apart = p token)
    (h : Kept tail item) : Kept tail (Reader.manyWhile p item) :=
  many (.choice advances.of_first (.pure nofun)) (Keeps.ifNext same (bind h fun _ => pure) pure)

end Kept

end Reader

end QuerySignature
