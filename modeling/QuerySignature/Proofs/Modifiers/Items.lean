import QuerySignature.Proofs.Groups.Sentences
import QuerySignature.Proofs.Outcome.Sequence

/-!
# Proofs/Modifiers/Items — items next to each other

Conditions, constraints and sort keys stand next to each other, with no mark between them.  Each is detached from
what is behind it, so it is read in front of anything exactly if it is read whole (`item_iff`).  A list of them ends
where no item starts: in front of a closing brace, of a word that opens a clause, or of nothing (`FollowsList`), for
no such word is a name or a function.
-/

namespace QuerySignature.Reader

variable {α : Type} {depth : Option Inside} {tokens rest taken : List Token}

/-! ## Items end by themselves -/

/-- The reader takes the tokens as an item. -/
abbrev IsItem (item : Reader (Option α)) (tokens : List Token) (a : α) : Prop :=
  item.read tokens = .done (some a) []

/-- **An item is read in front of anything** as it is read whole. -/
theorem item_iff {item : Reader (Option α)} {a : α} (detached : DetachedTo Found nothing item) :
    item.read (taken ++ rest) = .done (some a) rest ↔ IsItem item taken a := by
  have same (rest rest' : List Token) : SameAhead nothing rest rest' :=
    .inr ⟨by cases rest <;> rfl, by cases rest' <;> rfl⟩
  constructor
  · intro read
    have whole := detached rfl (same rest []) read
    rwa [List.append_nil] at whole
  · intro whole
    refine detached rfl (same [] rest) ?_
    rwa [List.append_nil]

/-- An item takes a token. -/
theorem item_ne_nil {item : Reader (Option α)} {a : α} (progress : Progress Found item)
    (whole : IsItem item taken a) : taken ≠ [] := by
  rintro rfl
  exact absurd (progress whole rfl) (Nat.lt_irrefl _)

section Depth

variable (hd : DepthTracks Likeness.same.lenient depth depth)
include hd

theorem DetachedTo.groupCondition? : DetachedTo Found nothing (Reader.groupCondition? depth) := by
  have call : DetachedTo Found nothing (do
      if ← startsCall then return some (← Reader.functionCall depth) else return none) :=
    look .startsCall (Bool.forall_bool.mpr ⟨pure nofun, (Detached.bind (.functionCall hd) fun _ => .pure).to⟩)
      (Bool.forall_bool.mpr ⟨.pure nofun, TakesTwo.functionCall.of_first⟩)
  refine orElse (fun _ => Detached.pure.to) (either ?_ call (.choice Progress.functionCall.of_first (.pure nofun)))
    (.orElse' (.choice Progress.functionCall.of_first (.pure nofun)))
  -- behind the expression stands its bracket, or a name and the bracket
  refine upTo (Screened.expression hd true)
    (fun _ => .either Progress.require.of_first (Closes.symbol (by decide)).of_first) fun inner => ?_
  exact either (Detached.bind .require fun _ => .bind .require fun _ => .pure).to
    (Detached.bind .require fun _ => .pure).to Progress.require.of_first

/-- A constraint, if one comes next, and a value made of it. -/
theorem DetachedTo.ifConstraint (f : Expression → α) : DetachedTo Found nothing (do
    if ← Reader.startsConstraint then return some (f (← Reader.constraint depth)) else return none) :=
  look .startsConstraint (Bool.forall_bool.mpr ⟨pure nofun, (Detached.bind (.constraint hd) fun _ => .pure).to⟩)
    (Bool.forall_bool.mpr ⟨.pure nofun, TakesTwo.constraint.of_first⟩)

theorem DetachedTo.constraint? : DetachedTo Found nothing (Reader.constraint? depth) := ifConstraint hd fun item => item

theorem DetachedTo.orderKey? : DetachedTo Found nothing (Reader.orderKey? depth) := by
  have key := ifConstraint hd fun item => (⟨item, false⟩ : OrderKey)
  refine orElse (fun token => ?_)
    (orElse (fun _ => Detached.pure.to) key (.choice Progress.constraint.of_first (.pure nofun)))
    (.orElse (.choice Progress.constraint.of_first (.pure nofun)))
  exact (Detached.bind .require fun _ => .inBrackets (Screened.expression hd false) fun _ _ => .pure).to

end Depth

/-- Where a constraint is read, one can start. -/
theorem startsConstraint_of_read {found : Expression} (read : (constraint depth).read tokens = .done found rest) :
    startsConstraint.read tokens = .done true tokens := by
  have starts : startsConstraint.read tokens = .done (tokens.head?.any (fun token =>
      token.isSymbol ["("] || token.spells ["EXISTS", "NOT"]) ||
        (tokens.head?.any isCallable && tokens.tail.head?.any (·.isSymbol ["("]))) tokens := rfl
  rw [starts]
  refine congrArg (Reading.done · tokens) ((Bool.or_eq_true _ _).mpr ?_)
  obtain ⟨_ | _, between, accepted, further⟩ := bind_done.mp read
  case true =>
    obtain ⟨token, rfl, opens⟩ := accept_true.mp accepted
    exact .inl ((Bool.or_eq_true _ _).mpr (.inl opens))
  obtain ⟨rfl, -⟩ := accept_false.mp accepted
  obtain ⟨_ | _, _, ahead, further⟩ := bind_done.mp further
  case true =>
    obtain ⟨spells, rfl⟩ := next_done.mp ahead
    cases tokens with
    | nil => cases spells
    | cons token tokens => exact .inl ((Bool.or_eq_true _ _).mpr (.inr (Token.spells_mono spells (by decide))))
  obtain ⟨-, rfl⟩ := next_done.mp ahead
  obtain ⟨calls, _, looked, further⟩ := bind_done.mp further
  cases calls with
  | true => exact .inr (Reading.done.inj looked).1
  | false => exact (refuse_done.mp further).elim

/-- **A constraint is an item** where one is read. -/
theorem constraint?_some {found : Expression} : (constraint? depth).read tokens = .done (some found) rest ↔
    (constraint depth).read tokens = .done found rest := by
  constructor
  · intro read
    obtain ⟨_ | _, _, looked, further⟩ := bind_done.mp read
    · cases (pure_done.mp further).1
    · obtain rfl := (Reading.done.inj looked).2
      obtain ⟨_, _, constraintRead, gives⟩ := bind_done.mp further
      obtain ⟨same, rfl⟩ := pure_done.mp gives
      exact Option.some.inj same ▸ constraintRead
  · intro read
    exact bind_done.mpr ⟨true, tokens, startsConstraint_of_read read, bind_done.mpr ⟨found, rest, read, rfl⟩⟩

/-! ## Where there is no item -/

/-- **Where the reader finds nothing it takes no token.** -/
def Idle (R : Reader (Option α)) : Prop :=
  ∀ ⦃tokens rest : List Token⦄, R.read tokens = .done none rest → tokens = rest

namespace Idle

variable {p : Token → Bool}

/-- A token that is accepted, or else. -/
theorem orElse {N : Option Token → Reader (Option α)} (some : ∀ token, Yields Found (N (some token)))
    (none : Idle (N none)) : Idle (Reader.accept? p >>= N) := by
  intro tokens rest read
  obtain ⟨_ | token, _, accepted, further⟩ := bind_done.mp read
  · obtain ⟨rfl, -⟩ := accept?_none.mp accepted
    exact none further
  · cases some token further

/-- A token that is accepted, or else. -/
theorem either {M : Bool → Reader (Option α)} (yes : Yields Found (M true)) (no : Idle (M false)) :
    Idle (Reader.accept p >>= M) := by
  intro tokens rest read
  obtain ⟨_ | _, _, accepted, further⟩ := bind_done.mp read
  · obtain ⟨rfl, -⟩ := accept_false.mp accepted
    exact no further
  · cases yes further

/-- An item where a look finds one. -/
theorem look {R : Reader Bool} {M : Bool → Reader (Option α)}
    (looks : ∀ {tokens rest b}, R.read tokens = .done b rest → tokens = rest) (yes : Yields Found (M true))
    (no : M false = Pure.pure none) : Idle (R >>= M) := by
  intro tokens rest read
  obtain ⟨_ | _, _, looked, further⟩ := bind_done.mp read
  · rw [no] at further
    exact (looks looked).trans (pure_done.mp further).2
  · cases yes further

theorem within {R : Reader (Option α)} (h : Idle R) (region : Region) : Idle (Reader.within region R) := h

end Idle

theorem Idle.ifConstraint (f : Expression → α) : Idle (do
    if ← Reader.startsConstraint then return some (f (← Reader.constraint depth)) else return none) :=
  look (fun looked => (Reading.done.inj looked).2) (.andThen fun _ => .pure rfl) rfl

theorem Idle.constraint? : Idle (Reader.constraint? depth) := ifConstraint fun item => item

theorem Idle.groupCondition? : Idle (Reader.groupCondition? depth) := by
  refine orElse (fun _ => .pure rfl) (either (.andThen fun inner => ?_)
    (look (fun looked => (Reading.done.inj looked).2) (.andThen fun _ => .pure rfl) rfl))
  exact .either (.andThen fun _ => .andThen fun _ => .pure rfl) (.andThen fun _ => .pure rfl)

theorem Idle.orderKey? : Idle (Reader.orderKey? depth) := by
  refine orElse (fun _ => .andThen fun _ => .andThen fun _ => .andThen fun _ => .pure rfl)
    (orElse (fun _ => .pure rfl) ?_)
  exact ifConstraint fun item => (⟨item, false⟩ : OrderKey)

/-! ## What follows a list of items -/

/-- **A closing brace, one of the words, or nothing comes next.** -/
def FollowsList (words : List String) (tokens : List Token) : Prop :=
  ∀ token ∈ tokens.head?, token.isSymbol ["\x7d"] = true ∨ token.spells words = true

/-- The words that may follow a list of items. -/
abbrev laterWords : List String := ["HAVING", "ORDER", "LIMIT", "OFFSET", "VALUES"]

namespace FollowsList

variable {words : List String}

theorem mono {more : List String} (h : FollowsList words tokens) (sub : words ⊆ more) : FollowsList more tokens :=
  fun token ahead => (h token ahead).imp_right fun spells => Token.spells_mono spells sub

theorem of_spells {keyword : String} {token : Token} (spells : token.spells [keyword] = true) (among : keyword ∈ words) :
    FollowsList words (token :: tokens) := by
  intro first ahead
  obtain rfl := Option.some.inj ahead
  exact .inr (Token.spells_mono spells (List.cons_subset.mpr ⟨among, List.nil_subset _⟩))

/-- What neither a closing brace nor one of the words satisfies does not come next. -/
theorem apart {p : Token → Bool} (h : FollowsList words tokens)
    (closing : ∀ {token : Token}, token.isSymbol ["\x7d"] = true → p token = false)
    (word : ∀ {token : Token}, token.spells words = true → p token = false) : tokens.head?.any p = false := by
  cases tokens with
  | nil => rfl
  | cons token tokens =>
    rcases h token rfl with closes | spells
    · exact closing closes
    · exact word spells

/-- No other word comes next. -/
theorem not_spells {others : List String} (h : FollowsList words tokens)
    (other : ∀ word ∈ words.map String.toList, word ∉ others.map String.toList) :
    tokens.head?.any (·.spells others) = false :=
  h.apart (fun closes => not_spells_of_isSymbol closes _) fun spells => not_spells_of_spells spells other

end FollowsList

/-- No function has the name of a clause. -/
theorem isCallable_of_spells {token : Token} {words : List String} (spells : token.spells words = true)
    (clauses : ∀ word ∈ words.map String.toList, word ∈ clauseWords) : isCallable token = false := by
  obtain ⟨word, is, member⟩ := (Option.any_eq_true _ _).mp spells
  have among := clauses word (List.contains_iff_mem.mp member)
  unfold Token.word? at is
  rw [if_pos (kind_of_spells spells), Option.some.injEq] at is
  have upper : Text.upper token.text = word := by
    split at is
    · subst is
      exact absurd among (by decide)
    · exact is
  unfold isCallable
  rw [upper, isResource_of_spells spells, List.contains_iff_mem.mpr among, Bool.not_true, Bool.and_false, Bool.or_false]

namespace FollowsList

variable (h : FollowsList laterWords tokens)
include h

/-! ### No item starts with what follows a list -/

theorem not_var : tokens.head?.any (·.kind = .var) = false :=
  h.apart (fun closes => decide_eq_false (by rw [kind_of_isSymbol closes]; decide))
    fun spells => decide_eq_false (by rw [kind_of_spells spells]; decide)

theorem not_opening : tokens.head?.any (·.isSymbol ["("]) = false :=
  h.apart (fun closes => Token.isSymbol_apart closes (by decide)) fun spells => isSymbol_of_spells spells _

theorem startsCall : Reader.startsCall.read tokens = .done false tokens := by
  have callable : tokens.head?.any isCallable = false :=
    h.apart (fun closes => not_isCallable_of_endMark (Token.isSymbol_mono closes (by decide)))
      fun spells => isCallable_of_spells spells (by decide)
  have call : Reader.startsCall.read tokens =
    .done (tokens.head?.any isCallable && tokens.tail.head?.any (·.isSymbol ["("])) tokens := rfl
  rwa [callable] at call

theorem startsConstraint : Reader.startsConstraint.read tokens = .done false tokens := by
  have other : tokens.head?.any (fun token => token.isSymbol ["("] || token.spells ["EXISTS", "NOT"]) = false :=
    h.apart (fun closes => Bool.or_eq_false_iff.mpr
        ⟨Token.isSymbol_apart closes (by decide), not_spells_of_isSymbol closes _⟩)
      fun spells => Bool.or_eq_false_iff.mpr ⟨isSymbol_of_spells spells _, not_spells_of_spells spells (by decide)⟩
  exact bind_done.mpr ⟨false, tokens, next_done.mpr ⟨other, rfl⟩, bind_done.mpr ⟨false, tokens, h.startsCall, rfl⟩⟩

theorem groupCondition? : (Reader.groupCondition? depth).read tokens = .done none tokens := by
  refine bind_done.mpr ⟨none, tokens, accept?_none.mpr ⟨rfl, h.not_var⟩, ?_⟩
  refine bind_done.mpr ⟨false, tokens, accept_false.mpr ⟨rfl, h.not_opening⟩, ?_⟩
  exact bind_done.mpr ⟨false, tokens, h.startsCall, rfl⟩

theorem constraint? : (Reader.constraint? depth).read tokens = .done none tokens :=
  bind_done.mpr ⟨false, tokens, h.startsConstraint, rfl⟩

theorem orderKey? : (Reader.orderKey? depth).read tokens = .done none tokens := by
  refine bind_done.mpr ⟨none, tokens, accept?_none.mpr ⟨rfl, h.not_spells (by decide)⟩, ?_⟩
  refine bind_done.mpr ⟨none, tokens, accept?_none.mpr ⟨rfl, h.not_var⟩, ?_⟩
  exact bind_done.mpr ⟨false, tokens, h.startsConstraint, rfl⟩

end FollowsList

end QuerySignature.Reader
