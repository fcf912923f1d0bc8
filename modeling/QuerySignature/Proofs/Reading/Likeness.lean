import Mathlib.Data.List.Forall2
import QuerySignature.Proofs.Text.Upper
import QuerySignature.Reading.Basic

/-!
# Proofs/Reading/Likeness — two runs over like tokens

Readers see a token through its kind, the word it spells, and its text where that is kept, so tokens that
agree there are `Token.Alike`, and the predicates of the readers respect it (`Respects`).  A `Likeness` says
which tokens one run may take for those of another, and which blocks may stand for which.  `Respells` relates
the steps of the first run to the tokens of the second; `Ahead` relates the tokens that both leave.
-/

namespace QuerySignature

/-! ## Tokens that readers do not tell apart -/

/-- **Tokens that readers do not tell apart**: keywords by the word they spell, variables by their name, other
tokens by their text. -/
structure Token.Alike (t t' : Token) : Prop where
  kind : t'.kind = t.kind
  word : t'.word? = t.word?
  text : t.kind ≠ .keyword → t.kind ≠ .var → t'.text = t.text
  name : t.kind = .var → t'.name = t.name
  blank : t'.text.isEmpty = t.text.isEmpty

theorem Token.Alike.refl (t : Token) : t.Alike t := ⟨rfl, rfl, fun _ _ => rfl, fun _ => rfl, rfl⟩

/-- The predicate does not tell tokens apart that readers do not. -/
def Respects (p : Token → α) : Prop :=
  ∀ ⦃t t' : Token⦄, t.Alike t' → p t' = p t

namespace Respects

theorem const (a : α) : Respects fun _ => a := fun _ _ _ => rfl

theorem kind : Respects Token.kind := fun _ _ like => like.kind

theorem map {p : Token → α} (f : α → β) (h : Respects p) : Respects fun token => f (p token) :=
  fun _ _ like => congrArg f (h like)

theorem or {p q : Token → Bool} (hp : Respects p) (hq : Respects q) : Respects fun token => p token || q token :=
  fun _ _ like => congrArg₂ Bool.or (hp like) (hq like)

theorem and {p q : Token → Bool} (hp : Respects p) (hq : Respects q) : Respects fun token => p token && q token :=
  fun _ _ like => congrArg₂ Bool.and (hp like) (hq like)

theorem isKind (kind : Token.Kind) : Respects fun token => decide (token.kind = kind) :=
  Respects.kind.map fun k => decide (k = kind)

theorem spells (words : List String) : Respects (·.spells words) :=
  fun _ _ like => congrArg (Option.any (words.map String.toList).contains) like.word

/-- A property of the text of tokens of one kind. -/
theorem isText {kind : Token.Kind} (keyword : kind ≠ .keyword) (var : kind ≠ .var) (q : Token → Bool)
    (same : ∀ {t t' : Token}, t'.text = t.text → q t' = q t) :
    Respects fun token => decide (token.kind = kind) && q token := by
  intro t t' like
  beta_reduce
  by_cases is : t.kind = kind
  · have text := like.text (is ▸ keyword) (is ▸ var)
    rw [like.kind, same text]
  · rw [like.kind, decide_eq_false is]
    rfl

theorem isSymbol (symbols : List String) : Respects (·.isSymbol symbols) := by
  intro t t' like
  unfold Token.isSymbol Token.isPunctuation Token.symbol?
  beta_reduce
  rw [like.kind]
  split
  · next is => rw [like.text (by rw [is]; decide) (by rw [is]; decide)]
  · rfl

theorem isPrefixedName : Respects Token.isPrefixedName :=
  isText (by decide) (by decide) (!·.hasBlankMark) fun same => by
    unfold Token.hasBlankMark
    rw [same]

theorem isResource : Respects Token.isResource :=
  (isKind .iri).or isPrefixedName

theorem isNumeric : Respects Token.isNumeric :=
  isText (by decide) (by decide) (fun token => token.text.head?.all "0123456789.".toList.contains) fun same => by
    rw [same]

end Respects

namespace Token.Alike

variable {t t' : Token}

/-- Keywords that are alike have one upper case. -/
theorem upper (like : t.Alike t') (is : t.kind = .keyword) : Text.upper t'.text = Text.upper t.text := by
  have word := like.word
  unfold Token.word? at word
  rw [like.kind, is, if_pos rfl, if_pos rfl, Option.some.injEq] at word
  split at word <;> split at word
  · next first second => rw [first, second]
  · exact absurd word.symm (Text.upper_ne_a _)
  · exact absurd word (Text.upper_ne_a _)
  · exact word

/-- Resources that are alike are one. -/
theorem resource (like : t.Alike t') (is : t.isResource = true) : t'.resource = t.resource := by
  have kinds : t.kind = .iri ∨ t.kind = .prefixedName := by
    rcases (Bool.or_eq_true _ _).mp is with iri | name
    · exact .inl (of_decide_eq_true iri)
    · exact .inr (of_decide_eq_true ((Bool.and_eq_true _ _).mp name).1)
  unfold Token.resource
  rcases kinds with kind | kind <;> rw [like.kind, like.text (by rw [kind]; decide) (by rw [kind]; decide)]

end Token.Alike

/-! ## Likenesses -/

/-- **What one run may take for what another takes**: a token for a token (`like`), a block for a block in a
region or in none (`block`).  The tokens that the runs leave need only be `ahead` of each other.  A lenient
likeness says nothing of a run that goes too deep. -/
structure Likeness where
  like : Token → Token → Prop
  ahead : Token → Token → Prop
  block : Option Region → Values → List Token → Values → List Token → Prop
  lenient : Prop
  ahead_of_like : ∀ {t t'}, like t t' → ahead t t'
  alike : ∀ {t t'}, ahead t t' → t.Alike t'
  reads : ∀ {region b tokens b' tokens'}, block region b tokens b' tokens' → IsBlock tokens b
  writes : ∀ {region b tokens b' tokens'}, block region b tokens b' tokens' → IsBlock tokens' b'
  vars : ∀ {region b tokens b' tokens'}, block region b tokens b' tokens' → b'.vars = b.vars
  begins : ∀ {region b tokens b' tokens'}, block region b tokens b' tokens' →
    Option.Rel ahead tokens.head? tokens'.head?

namespace Likeness

variable (L : Likeness)

/-- The likeness of runs inside a region. -/
def within (region : Region) : Likeness where
  like := L.like
  ahead := L.ahead
  block _ := L.block (some region)
  lenient := L.lenient
  ahead_of_like := L.ahead_of_like
  alike := L.alike
  reads := L.reads
  writes := L.writes
  vars := L.vars
  begins := L.begins

/-- One block stands for another outside all regions. -/
def Stands (b b' : Values) : Prop :=
  ∃ tokens tokens', L.block none b tokens b' tokens'

end Likeness

variable {L : Likeness}

/-- **The second run takes the tokens for the steps of the first.** -/
inductive Respells (L : Likeness) : List Step → List Token → Prop where
  | nil : Respells L [] []
  | token {t t' : Token} {steps : List Step} {out : List Token} : L.like t t' → Respells L steps out →
      Respells L (.token t :: steps) (t' :: out)
  | block {region : Option Region} {b b' : Values} {tokens tokens' : List Token} {steps : List Step}
      {out : List Token} : L.block region b tokens b' tokens' → Respells L steps out →
      Respells L (.block b tokens region :: steps) (tokens' ++ out)

namespace Respells

variable {first second steps : List Step} {out out' : List Token}

theorem append (h : Respells L first out) (h' : Respells L second out') :
    Respells L (first ++ second) (out ++ out') := by
  induction h with
  | nil => exact h'
  | token like _ ih => exact .token like ih
  | block stands _ ih =>
    rw [List.append_assoc]
    exact .block stands ih

theorem of_append (h : Respells L (first ++ second) out) :
    ∃ taken later, out = taken ++ later ∧ Respells L first taken ∧ Respells L second later := by
  induction first generalizing out with
  | nil => exact ⟨[], out, rfl, .nil, h⟩
  | cons step first ih =>
    cases h with
    | token like others =>
      obtain ⟨taken, later, rfl, firsts, seconds⟩ := ih others
      exact ⟨_ :: taken, later, rfl, .token like firsts, seconds⟩
    | block stands others =>
      obtain ⟨taken, later, rfl, firsts, seconds⟩ := ih others
      exact ⟨_ ++ taken, later, (List.append_assoc ..).symm, .block stands firsts, seconds⟩

theorem of_token {t : Token} (h : Respells L (.token t :: steps) out) :
    ∃ t' later, out = t' :: later ∧ L.like t t' ∧ Respells L steps later := by
  cases h with
  | token like others => exact ⟨_, _, rfl, like, others⟩

theorem of_block {b : Values} {tokens : List Token} {region : Option Region}
    (h : Respells L [.block b tokens region] out) : ∃ b', L.block region b tokens b' out := by
  cases h with
  | block stands others =>
    cases others
    rw [List.append_nil]
    exact ⟨_, stands⟩

/-- Inside a region every block is in it. -/
theorem of_hide {region : Region} (h : Respells L (steps.map (Step.hide region)) out) :
    Respells (L.within region) steps out := by
  induction steps generalizing out with
  | nil =>
    cases h
    exact .nil
  | cons step steps ih =>
    cases step with
    | token t =>
      obtain ⟨t', later, rfl, like, others⟩ := of_token h
      exact .token like (ih others)
    | block b tokens outer =>
      cases h with
      | block stands others => exact .block stands (ih others)

end Respells

/-- **One run takes tokens for tokens of another**, along some steps. -/
def Respelled (L : Likeness) (tokens tokens' : List Token) : Prop :=
  ∃ steps, tokens = steps.flatMap Step.tokens ∧ Respells L steps tokens'

theorem Respelled.nil : Respelled L [] [] := ⟨[], rfl, .nil⟩

theorem Respelled.append {first second first' second' : List Token} (h : Respelled L first first')
    (h' : Respelled L second second') : Respelled L (first ++ second) (first' ++ second') := by
  obtain ⟨steps, rfl, respells⟩ := h
  obtain ⟨others, rfl, further⟩ := h'
  exact ⟨steps ++ others, List.flatMap_append.symm, respells.append further⟩

theorem Respelled.singleton {t t' : Token} (h : L.like t t') : Respelled L [t] [t'] :=
  ⟨[.token t], rfl, .token h .nil⟩

/-! ## The tokens ahead -/

/-- The symbols that are never looked for behind another token: those that end a part of a query, an operation or a
group, and the signs of numbers. -/
def endMarks : List String := [";", "\x7d", "+", "-"]

/-- **What the runs see behind the next token**: tokens ahead of each other, or in the second run an end mark where the
first has no token left, or an end mark of its own. -/
inductive Behind (ahead : Token → Token → Prop) : Option Token → Option Token → Prop where
  | ahead {found found' : Option Token} : Option.Rel ahead found found' → Behind ahead found found'
  | ended {t' : Token} : t'.isSymbol endMarks = true → Behind ahead none (some t')
  | marks {t t' : Token} : t.isSymbol endMarks = true → t'.isSymbol endMarks = true → Behind ahead (some t) (some t')

/-- **The token is looked at alone**: it opens a block or closes a bracket, and no reader looks for two tokens of which
it is the first. -/
def Token.isAlone (token : Token) : Bool :=
  token.spells ["VALUES"] || token.isSymbol [")", "\x7d"]

/-- **What the runs leave**: the next tokens are ahead of each other, and what is seen behind them fits too unless
the next token is looked at alone. -/
def Ahead (L : Likeness) : List Token → List Token → Prop
  | [], [] => True
  | t :: rest, t' :: rest' =>
    L.ahead t t' ∧ (t.isAlone = true ∨ Behind L.ahead rest.head? rest'.head?)
  | _, _ => False

namespace Ahead

variable {rest rest' : List Token}

theorem head (h : Ahead L rest rest') : Option.Rel L.ahead rest.head? rest'.head? := by
  match rest, rest' with
  | [], [] => exact .none
  | t :: _, t' :: _ => exact .some h.1

theorem nil : Ahead L [] [] := trivial

theorem of_nil (h : Ahead L [] rest') : rest' = [] := by
  cases rest' with
  | nil => rfl
  | cons => exact h.elim

theorem of_cons {t : Token} (h : Ahead L (t :: rest) rest') :
    ∃ t' later, rest' = t' :: later ∧ L.ahead t t' ∧
      (t.isAlone = true ∨ Behind L.ahead rest.head? later.head?) := by
  cases rest' with
  | nil => exact h.elim
  | cons t' later => exact ⟨t', later, rfl, h.1, h.2⟩

/-- A predicate that respects likeness holds ahead of both runs or of neither. -/
theorem any {p : Token → Bool} (hp : Respects p) (h : Ahead L rest rest') :
    rest'.head?.any p = rest.head?.any p := by
  match rest, rest' with
  | [], [] => rfl
  | _ :: _, _ :: _ => exact hp (L.alike h.1)

/-- The steps of a run lie ahead of it. -/
theorem append {steps : List Step} {out : List Token} (h : Respells L steps out) (ahead : Ahead L rest rest') :
    Ahead L (steps.flatMap Step.tokens ++ rest) (out ++ rest') := by
  induction h with
  | nil => exact ahead
  | token like _ ih => exact ⟨L.ahead_of_like like, .inr (.ahead ih.head)⟩
  | @block region b b' tokens tokens' steps out stands _ ih =>
    have reads := L.reads stands
    have begins := L.begins stands
    have writes := L.writes stands
    have alone {token : Token} (keyword : token.spells ["VALUES"] = true) : token.isAlone = true :=
      (Bool.or_eq_true _ _).mpr (.inl keyword)
    cases reads with
    | short keyword =>
      cases writes <;> exact ⟨by cases begins; assumption, .inl (alone keyword)⟩
    | long keyword =>
      cases writes <;> exact ⟨by cases begins; assumption, .inl (alone keyword)⟩

end Ahead

/-! ## Faults -/

/-- **Faults at the same tokens.** -/
inductive Fault.Like (L : Likeness) : Fault → Fault → Prop where
  | unexpected (expected : Expected) {found found' : Option Token} : Option.Rel L.ahead found found' →
      Fault.Like L (.unexpected expected found) (.unexpected expected found')
  | tooDeep {bracket bracket' : Token} : L.ahead bracket bracket' →
      Fault.Like L (.tooDeep bracket) (.tooDeep bracket')
  | rowLength (width count : Nat) {row row' : Token} : L.ahead row row' →
      Fault.Like L (.rowLength width count row) (.rowLength width count row')
  | unreadable (term : Unreadable) : Fault.Like L (.unreadable term) (.unreadable term)

theorem Fault.Like.of_within {region : Region} {fault fault' : Fault} (h : fault.Like (L.within region) fault') :
    fault.Like L fault' := by
  cases h with
  | unexpected expected found => exact .unexpected expected found
  | tooDeep bracket => exact .tooDeep bracket
  | rowLength width count row => exact .rowLength width count row
  | unreadable term => exact .unreadable term

/-- The likeness speaks of a run that ends in the fault. -/
def Likeness.Minds (L : Likeness) (fault : Fault) : Prop :=
  ∀ bracket, fault = .tooDeep bracket → ¬L.lenient

end QuerySignature
