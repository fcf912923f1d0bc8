import QuerySignature.Proofs.Orderly.Brackets
import QuerySignature.Proofs.Signature.Blocks

/-!
# Proofs/Paired/Brackets — brackets among tokens, by number and by kind

`Token.climb` counts the brackets that tokens open and close, as the scan of an expression does, and `Token.nest` keeps
for each open bracket the one that is due.  Tokens that nest by kind climb back (`climb_of_nest`).  The tests among tokens
are where `EXISTS` stands directly in front of a brace and in no group of another test (`Token.tests`).  A brace that stands
directly inside a round bracket, other than the one of a test, is loose (`Token.loose`).
-/

namespace QuerySignature.Token

open Reader (isCloser)

variable {token next : Token} {tokens first second others : List Token} {level reached : Nat} {due due' : List Text}

/-- An opening bracket of an expression. -/
def isOpener (token : Token) : Bool :=
  token.isSymbol ["(", "\x7b"]

/-- A bracket of an expression. -/
def isBracket (token : Token) : Bool :=
  token.isOpener || isCloser token

/-- A token is one symbol. -/
theorem isSymbol_apart {symbols others : List String} (h : token.isSymbol symbols = true)
    (apart : ∀ text ∈ symbols.map String.toList, text ∉ others.map String.toList) : token.isSymbol others = false := by
  obtain ⟨text, is, member⟩ := (Option.any_eq_true _ _).mp h
  unfold isSymbol isPunctuation
  rw [is, Bool.eq_false_iff]
  exact fun holds => apart text (List.contains_iff_mem.mp member) (List.contains_iff_mem.mp holds)

/-- A symbol is the first of some, or one of the others. -/
theorem isSymbol_cons (symbol : String) (others : List String) :
    token.isSymbol (symbol :: others) = (token.isSymbol [symbol] || token.isSymbol others) := by
  unfold isSymbol isPunctuation
  cases token.symbol? with
  | none => rfl
  | some text => simp

/-- Only symbols are brackets. -/
theorem isBracket_of_kind (h : token.kind ≠ .punctuation) : token.isBracket = false := by
  refine Bool.eq_false_iff.mpr fun bracket => ?_
  rcases (Bool.or_eq_true _ _).mp bracket with opener | closer
  · exact h (Reader.kind_of_isSymbol opener)
  · exact h (Reader.kind_of_isSymbol closer)

/-- A symbol that is none of the brackets is no bracket. -/
theorem isBracket_of_symbol {symbols : List String} (h : token.isSymbol symbols = true)
    (apart : ∀ text ∈ symbols.map String.toList, text ∉ ["(", "\x7b", ")", "\x7d"].map String.toList) :
    token.isBracket = false := by
  have none_ := isSymbol_apart h apart
  refine Bool.or_eq_false_iff.mpr ⟨Bool.eq_false_iff.mpr fun opener => ?_, Bool.eq_false_iff.mpr fun closer => ?_⟩
  · rw [isSymbol_mono opener (by decide)] at none_
    cases none_
  · rw [isSymbol_mono closer (by decide)] at none_
    cases none_

/-- A keyword is no bracket. -/
theorem isBracket_of_spells {words : List String} (h : token.spells words = true) : token.isBracket = false := by
  refine isBracket_of_kind fun kind => ?_
  rw [Reader.not_spells (by rw [kind]; decide)] at h
  cases h

/-! ## By number -/

/-- **The number of open brackets behind a token**, if that many are open in front of it; none if it closes a bracket
that is not open. -/
def climb? (level : Nat) (token : Token) : Option Nat :=
  if token.isOpener then some (level + 1)
  else if isCloser token then
    match level with
    | 0 => none
    | level + 1 => some level
  else some level

/-- The number of open brackets behind tokens. -/
def climb (level : Nat) (tokens : List Token) : Option Nat :=
  tokens.foldlM climb? level

/-- **Brackets pair up**, of whichever kind. -/
def Balanced (tokens : List Token) : Prop :=
  climb 0 tokens = some 0

/-- The first token climbs, and the others from there. -/
theorem climb_cons (level : Nat) (token : Token) (tokens : List Token) :
    climb level (token :: tokens) = (climb? level token).bind (climb · tokens) := rfl

/-- **Runs climb one after the other.** -/
theorem climb_append (level : Nat) (first second : List Token) :
    climb level (first ++ second) = (climb level first).bind (climb · second) :=
  List.foldlM_append

/-- An opening bracket climbs one level. -/
theorem climb?_opener (h : token.isOpener = true) : climb? level token = some (level + 1) := if_pos h

/-- A token that closes a bracket opens none. -/
theorem not_isOpener (h : isCloser token = true) : token.isOpener = false :=
  isSymbol_apart h (by decide)

/-- A closing bracket goes down one level. -/
theorem climb?_closer (h : isCloser token = true) : climb? (level + 1) token = some level := by
  unfold climb?
  rw [not_isOpener h, if_neg Bool.false_ne_true, if_pos h]

/-- There is nothing to close at the bottom. -/
theorem climb?_zero (h : isCloser token = true) : climb? 0 token = none := by
  unfold climb?
  rw [not_isOpener h, if_neg Bool.false_ne_true, if_pos h]

/-- Other tokens stay on their level. -/
theorem climb?_plain (h : token.isBracket = false) : climb? level token = some level := by
  obtain ⟨opener, closer⟩ := Bool.or_eq_false_iff.mp h
  unfold climb?
  rw [opener, closer, if_neg Bool.false_ne_true, if_neg Bool.false_ne_true]

/-- **What a token does to the number of open brackets**: it opens one more, or closes one, or is none. -/
theorem climb?_cases (h : climb? level token = some reached) :
    (token.isOpener = true ∧ reached = level + 1) ∨ (isCloser token = true ∧ level = reached + 1) ∨
      (token.isBracket = false ∧ reached = level) := by
  unfold climb? at h
  split at h
  · next opener => exact .inl ⟨opener, (Option.some.inj h).symm⟩
  next other =>
  split at h
  · next closer =>
    cases level with
    | zero => cases h
    | succ level => exact .inr (.inl ⟨closer, congrArg Nat.succ (Option.some.inj h)⟩)
  · next plain =>
    have none_ := Bool.or_eq_false_iff.mpr ⟨Bool.eq_false_iff.mpr other, Bool.eq_false_iff.mpr plain⟩
    exact .inr (.inr ⟨none_, (Option.some.inj h).symm⟩)

/-- **More brackets may be open** all the way. -/
theorem climb?_add (h : climb? level token = some reached) (more : Nat) :
    climb? (level + more) token = some (reached + more) := by
  rcases climb?_cases h with ⟨opener, rfl⟩ | ⟨closer, rfl⟩ | ⟨plain, rfl⟩
  · rw [climb?_opener opener, Nat.add_right_comm]
  · rw [Nat.add_right_comm, climb?_closer closer]
  · exact climb?_plain plain

/-- A run that climbs does so from any level above. -/
theorem climb_add (h : climb level tokens = some reached) (more : Nat) :
    climb (level + more) tokens = some (reached + more) := by
  induction tokens generalizing level with
  | nil =>
    obtain rfl := Option.some.inj h
    rfl
  | cons token tokens ih =>
    obtain ⟨between, step, further⟩ := Option.bind_eq_some_iff.mp h
    exact Option.bind_eq_some_iff.mpr ⟨_, climb?_add step more, ih further⟩

/-- Balanced tokens come back to where they start. -/
theorem Balanced.climb (h : Balanced tokens) (level : Nat) : climb level tokens = some level := by
  have more := climb_add h level
  rwa [Nat.zero_add] at more

instance : Decidable (Balanced tokens) := inferInstanceAs (Decidable (climb 0 tokens = some 0))

theorem balanced_nil : Balanced [] := rfl

/-- Balanced runs are balanced together. -/
theorem Balanced.append (h : Balanced first) (h' : Balanced second) : Balanced (first ++ second) := by
  rw [Balanced, climb_append, h]
  exact h'

/-- A token that is no bracket is balanced. -/
theorem balanced_singleton (h : token.isBracket = false) : Balanced [token] := by
  rw [Balanced, climb_cons, climb?_plain h]
  rfl

/-- **A pair of brackets** with balanced tokens between them. -/
theorem Balanced.pair {opening closing : Token} (opens : opening.isOpener = true) (h : Balanced tokens)
    (closes : isCloser closing = true) : Balanced (opening :: (tokens ++ [closing])) := by
  rw [Balanced, climb_cons, climb?_opener opens, Option.bind_some, climb_append, h.climb, Option.bind_some, climb_cons,
    climb?_closer closes]
  rfl

/-! ## By kind -/

/-- The text of the bracket that closes what the token opens. -/
def closing (token : Token) : Text :=
  if token.isSymbol ["("] then [')'] else ['\x7d']

/-- **The brackets that are due behind a token**, the next one first; none if it closes another than the next one. -/
def nest? (due : List Text) (token : Token) : Option (List Text) :=
  if token.isOpener then some (token.closing :: due)
  else if isCloser token then
    match due with
    | [] => none
    | first :: due => if token.text = first then some due else none
  else some due

/-- The brackets that are due behind tokens. -/
def nest (due : List Text) (tokens : List Token) : Option (List Text) :=
  tokens.foldlM nest? due

/-- **Brackets nest by kind**: each is closed by the bracket of its kind. -/
def Nested (tokens : List Token) : Prop :=
  nest [] tokens = some []

/-- The first token says what is due for the others. -/
theorem nest_cons (due : List Text) (token : Token) (tokens : List Token) :
    nest due (token :: tokens) = (nest? due token).bind (nest · tokens) := rfl

/-- **Runs nest one after the other.** -/
theorem nest_append (due : List Text) (first second : List Token) :
    nest due (first ++ second) = (nest due first).bind (nest · second) :=
  List.foldlM_append

/-- An opening bracket makes its own closing one due. -/
theorem nest?_opener (h : token.isOpener = true) (due : List Text) : nest? due token = some (token.closing :: due) :=
  if_pos h

/-- The bracket that is due closes. -/
theorem nest?_closer (h : isCloser token = true) (due : List Text) : nest? (token.text :: due) token = some due := by
  unfold nest?
  rw [not_isOpener h, if_neg Bool.false_ne_true, if_pos h]
  exact if_pos rfl

/-- Other tokens change nothing that is due. -/
theorem nest?_plain (h : token.isBracket = false) (due : List Text) : nest? due token = some due := by
  obtain ⟨opener, closer⟩ := Bool.or_eq_false_iff.mp h
  unfold nest?
  rw [opener, closer, if_neg Bool.false_ne_true, if_neg Bool.false_ne_true]

/-- **What a token does to the brackets that are due**: it opens one more, or closes the next one, or is none. -/
theorem nest?_cases (h : nest? due token = some due') :
    (token.isOpener = true ∧ due' = token.closing :: due) ∨ (isCloser token = true ∧ due = token.text :: due') ∨
      (token.isBracket = false ∧ due' = due) := by
  unfold nest? at h
  split at h
  · next opener => exact .inl ⟨opener, (Option.some.inj h).symm⟩
  next other =>
  split at h
  · next closer =>
    cases due with
    | nil => cases h
    | cons first due =>
      dsimp only at h
      split at h
      · next same => exact .inr (.inl ⟨closer, by rw [same, Option.some.inj h]⟩)
      · cases h
  · next plain =>
    have none_ := Bool.or_eq_false_iff.mpr ⟨Bool.eq_false_iff.mpr other, Bool.eq_false_iff.mpr plain⟩
    exact .inr (.inr ⟨none_, (Option.some.inj h).symm⟩)

/-- Other brackets may be due behind. -/
theorem nest?_frame (h : nest? due token = some due') (more : List Text) :
    nest? (due ++ more) token = some (due' ++ more) := by
  rcases nest?_cases h with ⟨opener, rfl⟩ | ⟨closer, rfl⟩ | ⟨plain, rfl⟩
  · exact nest?_opener opener _
  · exact nest?_closer closer _
  · exact nest?_plain plain _

/-- What is due further out stays due. -/
theorem nest_frame (h : nest due tokens = some due') (more : List Text) :
    nest (due ++ more) tokens = some (due' ++ more) := by
  induction tokens generalizing due with
  | nil =>
    obtain rfl := Option.some.inj h
    rfl
  | cons token tokens ih =>
    obtain ⟨between, step, further⟩ := Option.bind_eq_some_iff.mp h
    exact Option.bind_eq_some_iff.mpr ⟨_, nest?_frame step more, ih further⟩

/-- Where a token nests it climbs, to as many brackets as are due. -/
theorem climb?_of_nest? (h : nest? due token = some due') : climb? due.length token = some due'.length := by
  rcases nest?_cases h with ⟨opener, rfl⟩ | ⟨closer, rfl⟩ | ⟨plain, rfl⟩
  · exact climb?_opener opener
  · exact climb?_closer closer
  · exact climb?_plain plain

/-- **What nests by kind climbs** by as many brackets as are due. -/
theorem climb_of_nest (h : nest due tokens = some due') : climb due.length tokens = some due'.length := by
  induction tokens generalizing due with
  | nil =>
    obtain rfl := Option.some.inj h
    rfl
  | cons token tokens ih =>
    obtain ⟨between, step, further⟩ := Option.bind_eq_some_iff.mp h
    exact Option.bind_eq_some_iff.mpr ⟨_, climb?_of_nest? step, ih further⟩

/-- A token that closes none of the brackets further out nests without them. -/
theorem nest?_of_frame {more : List Text} (h : climb? due.length token = some reached)
    (whole : nest? (due ++ more) token = some due') : ∃ own, nest? due token = some own ∧ due' = own ++ more := by
  rcases nest?_cases whole with ⟨opener, rfl⟩ | ⟨closer, same⟩ | ⟨plain, rfl⟩
  · exact ⟨_, nest?_opener opener _, rfl⟩
  · cases due with
    | nil =>
      rw [List.length_nil, climb?_zero closer] at h
      cases h
    | cons first due =>
      obtain ⟨rfl, rfl⟩ := List.cons.inj same
      exact ⟨due, nest?_closer closer _, rfl⟩
  · exact ⟨due, nest?_plain plain _, rfl⟩

/-- **Tokens that close no bracket from before** nest by themselves wherever they nest at all. -/
theorem nest_of_frame {more : List Text} (h : climb due.length tokens = some reached)
    (whole : nest (due ++ more) tokens = some due') : ∃ own, nest due tokens = some own ∧ due' = own ++ more := by
  induction tokens generalizing due with
  | nil => exact ⟨due, rfl, (Option.some.inj whole).symm⟩
  | cons token tokens ih =>
    obtain ⟨between, step, further⟩ := Option.bind_eq_some_iff.mp h
    obtain ⟨_, step', further'⟩ := Option.bind_eq_some_iff.mp whole
    obtain ⟨own, first, rfl⟩ := nest?_of_frame step step'
    obtain rfl : own.length = between := Option.some.inj ((climb?_of_nest? first).symm.trans step)
    obtain ⟨own', others, same⟩ := ih further further'
    exact ⟨own', Option.bind_eq_some_iff.mpr ⟨own, first, others⟩, same⟩

/-- Balanced tokens nest by themselves if they nest inside another bracket. -/
theorem Balanced.nested (h : Balanced tokens) {more : List Text} (whole : nest more tokens = some more) :
    Nested tokens := by
  have level : Token.climb ([] : List Text).length tokens = some 0 := h
  obtain ⟨own, nested, same⟩ := nest_of_frame level whole
  rw [List.self_eq_append_left.mp same] at nested
  exact nested

instance : Decidable (Nested tokens) := inferInstanceAs (Decidable (nest [] tokens = some []))

theorem nested_nil : Nested [] := rfl

/-- A token that is no bracket nests. -/
theorem nested_singleton (h : token.isBracket = false) : Nested [token] := by
  rw [Nested, nest_cons, nest?_plain h]
  rfl

/-- Nested runs nest together. -/
theorem Nested.append (h : Nested first) (h' : Nested second) : Nested (first ++ second) := by
  rw [Nested, nest_append, h]
  exact h'

/-- A round bracket makes a round one due. -/
theorem nest?_round (h : token.isSymbol ["("] = true) (due : List Text) : nest? due token = some ([')'] :: due) := by
  have opener : token.isOpener = true := isSymbol_mono h (by decide)
  rw [nest?_opener opener, closing, if_pos h]

/-- A brace makes a brace due. -/
theorem nest?_brace (h : token.isSymbol ["\x7b"] = true) (due : List Text) :
    nest? due token = some (['\x7d'] :: due) := by
  have opener : token.isOpener = true := isSymbol_mono h (by decide)
  rw [nest?_opener opener, closing, isSymbol_apart h (by decide), if_neg Bool.false_ne_true]

/-- The closing symbol that is due. -/
theorem nest?_due {symbol : String} (h : token.isSymbol [symbol] = true) (closes : symbol ∈ [")", "\x7d"])
    (due : List Text) : nest? (symbol.toList :: due) token = some due :=
  text_of_isSymbol h ▸ nest?_closer (isSymbol_mono h (List.cons_subset.mpr ⟨closes, List.nil_subset _⟩)) due

/-- A round bracket closes one that is due. -/
theorem nest?_unround (h : token.isSymbol [")"] = true) (due : List Text) : nest? ([')'] :: due) token = some due :=
  nest?_due h (by decide) due

/-- A brace closes one that is due. -/
theorem nest?_unbrace (h : token.isSymbol ["\x7d"] = true) (due : List Text) :
    nest? (['\x7d'] :: due) token = some due :=
  nest?_due h (by decide) due

/-- A pair of brackets, by what is due behind each of them. -/
theorem Nested.pair {opening closing : Token} {text : Text} (opens : nest? [] opening = some [text]) (h : Nested tokens)
    (closes : nest? [text] closing = some []) : Nested (opening :: (tokens ++ [closing])) := by
  have inner : nest [text] tokens = some [text] := nest_frame h [text]
  rw [Nested, nest_cons, opens, Option.bind_some, nest_append, inner, Option.bind_some, nest_cons, closes]
  rfl

/-! ## Loose braces -/

/-- A brace, of either kind. -/
def isBrace (token : Token) : Bool :=
  token.isSymbol ["\x7b", "\x7d"]

/-- **A brace stands loose**: directly inside a round bracket, and it is not the opening brace behind `EXISTS`. -/
def loose (due : List Text) (tested : Bool) (token : Token) : Bool :=
  due.head? == some [')'] && token.isBrace && !(tested && token.isSymbol ["\x7b"])

/-- **No brace stands loose** among tokens, as far as they nest by kind.  Some brackets are due in front of them, and the
token before them may be `EXISTS`. -/
def tidy : (due : List Text) → (tested : Bool) → List Token → Bool
  | _, _, [] => true
  | due, tested, token :: others =>
    !loose due tested token &&
      match nest? due token with
      | some due => tidy due (token.spells ["EXISTS"]) others
      | none => true

/-- The token before the ones that follow is `EXISTS`. -/
def endsTested (tested : Bool) (tokens : List Token) : Bool :=
  tokens.foldl (fun _ token => token.spells ["EXISTS"]) tested

variable {tested fresh : Bool}

/-- Whether a run ends in `EXISTS` is settled by its last token. -/
theorem endsTested_append (tested : Bool) (first second : List Token) :
    endsTested tested (first ++ second) = endsTested (endsTested tested first) second :=
  List.foldl_append

/-- Behind no tokens the token before is the one before them. -/
theorem endsTested_cases (h : endsTested tested tokens = true) :
    (tokens = [] ∧ tested = true) ∨ endsTested false tokens = true := by
  cases tokens with
  | nil => exact .inl ⟨rfl, h⟩
  | cons token tokens => exact .inr h

/-- The first of tidy tokens is not loose. -/
theorem not_loose (h : tidy due tested (token :: tokens) = true) : loose due tested token = false :=
  (Bool.not_eq_true' _).mp ((Bool.and_eq_true _ _).mp h).1

/-- Tidy tokens are tidy behind their first. -/
theorem tidy_tail (h : tidy due tested (token :: tokens) = true) (step : nest? due token = some due') :
    tidy due' (token.spells ["EXISTS"]) tokens = true := by
  have further := ((Bool.and_eq_true _ _).mp h).2
  rwa [step] at further

/-- The front of a tidy run is tidy. -/
theorem tidy_left (h : tidy due tested (first ++ second) = true) : tidy due tested first = true := by
  induction first generalizing due tested with
  | nil => rfl
  | cons token first ih =>
    refine (Bool.and_eq_true _ _).mpr ⟨((Bool.and_eq_true _ _).mp h).1, ?_⟩
    cases step : nest? due token with
    | none => rfl
    | some due' => exact ih (tidy_tail h step)

/-- The back of a tidy run is tidy, with what the front leaves due. -/
theorem tidy_right (h : tidy due tested (first ++ second) = true) (nested : nest due first = some due') :
    tidy due' (endsTested tested first) second = true := by
  induction first generalizing due tested with
  | nil =>
    obtain rfl := Option.some.inj nested
    exact h
  | cons token first ih =>
    obtain ⟨_, step, further⟩ := Option.bind_eq_some_iff.mp nested
    exact ih (tidy_tail h step) further

/-- Inside a round bracket, a brace that is not loose is the one of a test. -/
theorem tested_of_brace (h : tidy ([')'] :: due) tested (token :: tokens) = true) (brace : token.isBrace = true) :
    tested = true ∧ token.isSymbol ["\x7b"] = true := by
  have kept := not_loose h
  unfold loose at kept
  rw [brace, List.head?_cons, beq_self_eq_true, Bool.true_and, Bool.true_and] at kept
  exact (Bool.and_eq_true _ _).mp ((Bool.not_eq_false' _).mp kept)

/-! ## What tokens lead to -/

/-- **Tokens lead** from the brackets that are due before them to the ones that are due behind them: by number, and by kind
if no brace stands loose.  Where they start afresh the token before them is not `EXISTS`. -/
structure Leads (fresh : Bool) (due due' : List Text) (tokens : List Token) : Prop where
  number : climb due.length tokens = some due'.length
  kind {tested : Bool} : (fresh = true → tested = false) → tidy due tested tokens = true → nest due tokens = some due'

namespace Leads

variable {between : List Text} {more : Bool}

/-- No tokens leave everything as it is. -/
theorem nil : Leads fresh due due [] := ⟨rfl, fun _ _ => rfl⟩

/-- **A token in front of a run**: where the run starts afresh the token is not `EXISTS`. -/
theorem cons (step : nest? due token = some between) (h : Leads more between due' tokens)
    (other : more = true → token.spells ["EXISTS"] = false) : Leads fresh due due' (token :: tokens) where
  number := Option.bind_eq_some_iff.mpr ⟨_, climb?_of_nest? step, h.number⟩
  kind _ tidy := Option.bind_eq_some_iff.mpr ⟨_, step, h.kind other (tidy_tail tidy step)⟩

/-- Runs lead on to each other. -/
theorem append (h : Leads fresh due between first) (h' : Leads false between due' second) :
    Leads fresh due due' (first ++ second) where
  number := by
    rw [climb_append, h.number]
    exact h'.number
  kind before tidy := by
    have nested := h.kind before (tidy_left tidy)
    rw [nest_append, nested]
    exact h'.kind nofun (tidy_right tidy nested)

/-- One token leads where it nests. -/
theorem single (step : nest? due token = some due') : Leads fresh due due' [token] :=
  have none_ : Leads false due' due' [] := nil
  none_.cons step nofun

/-- What stands behind a round bracket starts afresh. -/
theorem round (is : token.isSymbol ["("] = true) (h : Leads true ([')'] :: due) due' tokens) :
    Leads fresh due due' (token :: tokens) :=
  h.cons (nest?_round is due) fun _ => Reader.not_spells (by rw [Reader.kind_of_isSymbol is]; decide) _

/-- What stands in braces. -/
theorem braced {opening closing : Token} (opens : opening.isSymbol ["\x7b"] = true)
    (h : Leads false (['\x7d'] :: due) (['\x7d'] :: due) tokens) (closes : closing.isSymbol ["\x7d"] = true) :
    Leads fresh due due (opening :: (tokens ++ [closing])) :=
  (h.append (.single (nest?_unbrace closes due))).cons (nest?_brace opens due) nofun

/-- Nested tokens lead back to where they start. -/
theorem of_nested (h : Nested tokens) : Leads fresh due due tokens :=
  have nested : nest due tokens = some due := nest_frame h due
  ⟨climb_of_nest nested, fun _ _ => nested⟩

end Leads

/-! ## Tests -/

/-- `EXISTS` with a brace directly behind it. -/
def startsTest (token next : Token) : Bool :=
  token.spells ["EXISTS"] && next.isSymbol ["\x7b"]

/-- The tests among tokens, from inside a group in which so many brackets are open, or from outside. -/
def testsFrom : (level : Nat) → List Token → List (List Token)
  | _, [] => []
  | 0, [_] => []
  | 0, token :: next :: others =>
    if startsTest token next then (next :: others) :: testsFrom 1 others else testsFrom 0 (next :: others)
  | level + 1, token :: others => testsFrom ((climb? (level + 1) token).getD 0) others

/-- **The tests among tokens that are in no group of another test**, each as the tokens from its brace on. -/
def tests (tokens : List Token) : List (List Token) :=
  testsFrom 0 tokens

/-- A test starts with its brace, and the others are looked for behind its group. -/
theorem tests_test (h : startsTest token next = true) (others : List Token) :
    tests (token :: next :: others) = (next :: others) :: testsFrom 1 others := if_pos h

/-- Without a test the first token is passed. -/
theorem tests_skip (h : startsTest token next = false) (others : List Token) :
    tests (token :: next :: others) = tests (next :: others) :=
  if_neg (h ▸ Bool.false_ne_true)

/-- A token that starts no test is passed over. -/
theorem tests_cons (h : (token.spells ["EXISTS"] && others.head?.any (·.isSymbol ["\x7b"])) = false) :
    tests (token :: others) = tests others := by
  cases others with
  | nil => rfl
  | cons next others => exact tests_skip h others

/-- Inside a group the tests are passed over. -/
theorem testsFrom_append (h : climb level tokens = some reached) (others : List Token) :
    testsFrom (level + 1) (tokens ++ others) = testsFrom (reached + 1) others := by
  induction tokens generalizing level with
  | nil =>
    obtain rfl := Option.some.inj h
    rfl
  | cons token tokens ih =>
    obtain ⟨between, step, further⟩ := Option.bind_eq_some_iff.mp h
    rw [List.cons_append, testsFrom, climb?_add step 1]
    exact ih further

/-- **Behind a group the tests go on.** -/
theorem testsFrom_group {closing : Token} (h : Balanced tokens) (closes : isCloser closing = true)
    (others : List Token) : testsFrom 1 (tokens ++ closing :: others) = tests others := by
  rw [testsFrom_append h, testsFrom, climb?_closer closes]
  rfl

end QuerySignature.Token
