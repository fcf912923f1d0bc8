import QuerySignature.Proofs.Paired.Brackets

/-!
# Proofs/Paired/Rules — the brackets that a reader opens and closes

The tokens that a reader takes lead from the brackets that are due before them to others (`Rises`): by number, and by kind
if no brace stands loose among them.  What a single token does is said of the predicate by which it is taken (`Moves`), and
there is one rule for each way to build a reader.  A loop ends where it starts if each turn does.
-/

namespace QuerySignature.Reader

open Token (nest? Leads)

variable {α β : Type} {due between due' : List Text} {fresh : Bool} {p q : Token → Bool} {R : Reader α}
  {N : α → Reader β} {depth : Option Inside}

/-! ## Single tokens -/

/-- **A token that satisfies the predicate** leads from the brackets that are due to others. -/
def Moves (due due' : List Text) (p : Token → Bool) : Prop :=
  ∀ ⦃token⦄, p token = true → nest? due token = some due'

namespace Moves

theorem plain (h : ∀ ⦃token⦄, p token = true → token.isBracket = false) : Moves due due p :=
  fun _ holds => Token.nest?_plain (h holds) due

theorem kind (h : ∀ ⦃token⦄, p token = true → token.kind ≠ .punctuation) : Moves due due p :=
  plain fun _ holds => Token.isBracket_of_kind (h holds)

theorem isKind {kind : Token.Kind} (h : kind ≠ .punctuation) : Moves due due (·.kind = kind) :=
  Moves.kind fun _ is => of_decide_eq_true is ▸ h

theorem spells (words : List String) : Moves due due (·.spells words) :=
  plain fun _ => Token.isBracket_of_spells

/-- A symbol that is no bracket. -/
theorem isSymbol {symbols : List String}
    (apart : ∀ text ∈ symbols.map String.toList, text ∉ ["(", "\x7b", ")", "\x7d"].map String.toList) :
    Moves due due (·.isSymbol symbols) :=
  plain fun _ is => Token.isBracket_of_symbol is apart

theorem round : Moves due ([')'] :: due) (·.isSymbol ["("]) :=
  fun _ is => Token.nest?_round is due

theorem unround : Moves ([')'] :: due) due (·.isSymbol [")"]) :=
  fun _ is => Token.nest?_unround is due

theorem isResource : Moves due due Token.isResource :=
  kind fun _ is => by rcases kind_of_isResource is with kind | kind <;> rw [kind] <;> decide

theorem isNumeric : Moves due due Token.isNumeric :=
  kind fun _ is => by rw [kind_of_isNumeric is]; decide

theorem isAtom : Moves due due isAtom :=
  kind fun _ is => by rcases kind_of_isAtom is with kind | kind | kind | kind <;> rw [kind] <;> decide

end Moves

/-- A reader that tells which tokens it takes. -/
theorem taking_done {tokens rest taken : List Token} {a : α} (read : (taking R).read tokens = .done (taken, a) rest) :
    R.read tokens = .done a rest ∧ taken = gone tokens rest := by
  unfold taking at read
  dsimp only at read
  cases inner : R.read tokens with
  | stopped fault rest' =>
    rw [inner] at read
    cases read
  | done b rest' =>
    rw [inner] at read
    obtain ⟨same, rfl⟩ := Reading.done.inj read
    obtain ⟨rfl, rfl⟩ := Prod.mk.inj same
    exact ⟨rfl, rfl⟩

theorem done_taking {tokens rest : List Token} {a : α} (read : R.read tokens = .done a rest) :
    (taking R).read tokens = .done (gone tokens rest, a) rest := by
  unfold taking
  dsimp only
  rw [read]

/-! ## The judgment -/

/-- **The tokens that the reader takes** lead from the brackets that are due to others, whatever it comes to. -/
def Rises (fresh : Bool) (due due' : List Text) (R : Reader α) : Prop :=
  ∀ ⦃tokens rest : List Token⦄ ⦃a : α⦄, R.read tokens = .done a rest →
    ∃ taken, tokens = taken ++ rest ∧ Leads fresh due due' taken

namespace Rises

variable {M : Bool → Reader β} {O : Option Token → Reader β} {T : Token → Reader β}

/-- A reader that takes nothing. -/
theorem nothing (h : ∀ {tokens rest a}, R.read tokens = .done a rest → tokens = rest) : Rises fresh due due R :=
  fun _ _ _ read => ⟨[], h read, .nil⟩

theorem pure {a : α} : Rises fresh due due (Pure.pure a) :=
  nothing fun read => (pure_done.mp read).2

theorem stop {fault : Fault} : Rises fresh due due' (Reader.stop fault : Reader α) :=
  fun _ _ _ read => (stop_done.mp read).elim

theorem refuse {expected : Expected} : Rises fresh due due' (Reader.refuse expected : Reader α) :=
  fun _ _ _ read => (refuse_done.mp read).elim

theorem shift {change : Shift} : Rises fresh due due (Reader.shift change) :=
  nothing fun read => (Reading.done.inj read).2

theorem next : Rises fresh due due (Reader.next p) :=
  nothing fun read => (next_done.mp read).2

theorem nextTwo : Rises fresh due due (Reader.nextTwo p q) :=
  nothing fun read => (Reading.done.inj read).2

theorem peek : Rises fresh due due Reader.peek :=
  nothing fun read => (Reading.done.inj read).2

theorem valued {term : Except Unreadable α} : Rises fresh due due (Reader.valued term) :=
  nothing fun read => (valued_done.mp read).2

/-- **One reader after the other.** -/
theorem bind (first : Rises fresh due between R) (next : ∀ a, Rises false between due' (N a)) :
    Rises fresh due due' (R >>= N) := by
  intro tokens rest b read
  obtain ⟨a, _, firstRead, nextRead⟩ := bind_done.mp read
  obtain ⟨taken, rfl, leads⟩ := first firstRead
  obtain ⟨taken', rfl, leads'⟩ := next a nextRead
  exact ⟨taken ++ taken', (List.append_assoc _ _ _).symm, leads.append leads'⟩

/-- A reader, and a value made from its own. -/
theorem map {f : α → β} (h : Rises fresh due due' R) : Rises fresh due due' (do return f (← R)) :=
  bind h fun _ => pure

/-- A choice between two ways to go on. -/
theorem either {R : Reader Bool} (chosen : Rises fresh due between R) (yes : Rises false between due' (M true))
    (no : Rises false between due' (M false)) : Rises fresh due due' (R >>= M) :=
  bind chosen fun
    | true => yes
    | false => no

/-- A choice by the next token. -/
theorem ifNext (yes : Rises false due due' (M true)) (no : Rises false due due' (M false)) :
    Rises fresh due due' (Reader.next p >>= M) :=
  either next yes no

/-- What leads back to whatever is due takes the same tokens. -/
theorem always (h : ∀ due, Rises fresh due due R) {tokens rest : List Token} {a : α}
    (read : R.read tokens = .done a rest) : ∃ taken, tokens = taken ++ rest ∧ ∀ due, Leads fresh due due taken := by
  obtain ⟨taken, whole, -⟩ := h [] read
  refine ⟨taken, whole, fun due => ?_⟩
  obtain ⟨taken', same, leads⟩ := h due read
  rwa [List.append_cancel_right (same.symm.trans whole)] at leads

/-! ## Tokens -/

/-- A token that may come next. -/
theorem optional (moves : Moves due due p) : Rises fresh due due (Reader.accept? p) := by
  intro tokens rest found read
  cases found with
  | none => exact ⟨[], (accept?_none.mp read).1, .nil⟩
  | some token =>
    obtain ⟨rfl, holds⟩ := accept?_some.mp read
    exact ⟨[token], rfl, .single (moves holds)⟩

theorem accept (moves : Moves due due p) : Rises fresh due due (Reader.accept p) :=
  map (optional moves)

/-- A token that is accepted, or not. -/
theorem accept? (moves : Moves due between p) (some : ∀ token, Rises false between due' (O (some token)))
    (none : Rises fresh due due' (O none)) : Rises fresh due due' (Reader.accept? p >>= O) := by
  intro tokens rest b read
  obtain ⟨_ | token, _, accepted, further⟩ := bind_done.mp read
  · obtain ⟨rfl, -⟩ := accept?_none.mp accepted
    exact none further
  · obtain ⟨rfl, holds⟩ := accept?_some.mp accepted
    obtain ⟨taken, rfl, leads⟩ := some token further
    exact ⟨token :: taken, rfl, leads.cons (moves holds) nofun⟩

/-- A choice by a token that is accepted, or not. -/
theorem ifAccept (moves : Moves due between p) (yes : Rises false between due' (M true))
    (no : Rises fresh due due' (M false)) : Rises fresh due due' (Reader.accept p >>= M) := by
  intro tokens rest b read
  obtain ⟨_ | _, _, accepted, further⟩ := bind_done.mp read
  · obtain ⟨rfl, -⟩ := accept_false.mp accepted
    exact no further
  · obtain ⟨token, rfl, holds⟩ := accept_true.mp accepted
    obtain ⟨taken, rfl, leads⟩ := yes further
    exact ⟨token :: taken, rfl, leads.cons (moves holds) nofun⟩

/-- Two tokens that are accepted, or not. -/
theorem acceptTwo? {N : Option (Token × Token) → Reader β} (moves : Moves due due p) (moves' : Moves due due q)
    (next : ∀ found, Rises false due due' (N found)) : Rises fresh due due' (Reader.acceptTwo? p q >>= N) := by
  refine bind (fun tokens rest found read => ?_) next
  rcases found with _ | ⟨first, second⟩
  · exact ⟨[], acceptTwo?_none read, .nil⟩
  · obtain ⟨rfl, holds, holds'⟩ := acceptTwo?_some.mp read
    have behind : Leads false due due [second] := .single (moves' holds')
    exact ⟨[first, second], rfl, behind.cons (moves holds) nofun⟩

/-- A token that must come next. -/
theorem require {expected : Expected} (moves : Moves due between p) (next : ∀ token, Rises false between due' (T token)) :
    Rises fresh due due' (Reader.require expected p >>= T) := by
  refine bind (fun tokens rest token read => ?_) next
  obtain ⟨rfl, holds⟩ := require_done.mp read
  exact ⟨[token], rfl, .single (moves holds)⟩

/-- A word that must come next. -/
theorem word {words : List String} (next : ∀ token, Rises false due due' (T token)) :
    Rises fresh due due' (Reader.word words >>= T) :=
  require (.spells words) next

/-- A symbol that must come next. -/
theorem symbol {text : String} (moves : Moves due between (·.isSymbol [text]))
    (next : ∀ token, Rises false between due' (T token)) : Rises fresh due due' (Reader.symbol text >>= T) :=
  require moves next

/-- The symbol that closes a level. -/
theorem close {text : String} (moves : Moves due between (·.isSymbol [text]))
    (next : ∀ token, Rises false between due' (T token)) : Rises fresh due due' (Reader.close text >>= T) :=
  bind (require moves fun _ => bind shift fun _ => pure) next

/-! ## Behind a round bracket -/

theorem ifRound (yes : Rises true ([')'] :: due) due' (M true)) (no : Rises fresh due due' (M false)) :
    Rises fresh due due' (Reader.accept (·.isSymbol ["("]) >>= M) := by
  intro tokens rest b read
  obtain ⟨_ | _, _, accepted, further⟩ := bind_done.mp read
  · obtain ⟨rfl, -⟩ := accept_false.mp accepted
    exact no further
  · obtain ⟨token, rfl, is⟩ := accept_true.mp accepted
    obtain ⟨taken, rfl, leads⟩ := yes further
    exact ⟨token :: taken, rfl, leads.round is⟩

theorem round (next : ∀ token, Rises true ([')'] :: due) due' (T token)) :
    Rises fresh due due' (Reader.symbol "(" >>= T) := by
  intro tokens rest b read
  obtain ⟨token, _, required, further⟩ := bind_done.mp read
  obtain ⟨rfl, is⟩ := require_done.mp required
  obtain ⟨taken, rfl, leads⟩ := next token further
  exact ⟨token :: taken, rfl, leads.round is⟩

/-! ## Marks on the way -/

theorem taking (h : Rises fresh due due' R) : Rises fresh due due' (Reader.taking R) :=
  fun _ _ _ read => h (taking_done read).1

theorem within {region : Region} (h : Rises fresh due due' R) : Rises fresh due due' (Reader.within region R) := h

/-! ## Loops -/

/-- The turns from one on. -/
theorem loopFrom {turn : Reader (Turn α)} (h : Rises false due due turn) (bound : List Token) (found : List α) :
    Rises false due due (Reader.loopFrom turn bound found) := by
  induction bound generalizing found with
  | nil =>
    rw [loopFrom_eq]
    refine bind h fun turned => ?_
    cases turned <;> exact pure
  | cons token bound ih =>
    rw [loopFrom_eq]
    refine bind h fun turned => ?_
    cases turned with
    | stop => exact pure
    | last item => exact pure
    | more item => exact ih _

/-- **A loop ends where it starts** if its turns do. -/
theorem loop {turn : Reader (Turn α)} (h : Rises false due due turn) : Rises false due due (Reader.loop turn) :=
  fun tokens _ _ read => loopFrom h tokens [] read

section Items

variable {item : Reader (Option α)} {each : Reader α}

theorem many (h : Rises false due due item) : Rises false due due (Reader.many item) :=
  loop (bind h fun found => by cases found <;> exact pure)

theorem manyWhile (h : Rises false due due each) : Rises false due due (Reader.manyWhile p each) :=
  many (ifNext (map h) pure)

end Items

end Rises

/-- A loop over items ends at the first turn that finds none, or goes on behind one that is found. -/
theorem loopFrom_items {item : Reader (Option α)} {bound tokens rest : List Token} {found list : List α}
    (read : (loopFrom (itemTurn item) bound found).read tokens = .done list rest) :
    (item.read tokens = .done none rest ∧ list = found.reverse) ∨
      ∃ a between, item.read tokens = .done (some a) between ∧
        (loopAfter (itemTurn item) bound found (.more a)).read between = .done list rest := by
  rw [loopFrom_eq] at read
  obtain ⟨turned, between, turn, further⟩ := bind_done.mp read
  obtain ⟨_ | a, between, itemRead, turn⟩ := bind_done.mp turn
  · obtain ⟨rfl, rfl⟩ := pure_done.mp turn
    obtain ⟨rfl, rfl⟩ := pure_done.mp further
    exact .inl ⟨itemRead, rfl⟩
  · obtain ⟨rfl, rfl⟩ := pure_done.mp turn
    exact .inr ⟨a, _, itemRead, further⟩

/-- **What holds of items one after the other** holds of a loop that reads them, if it holds of no items. -/
theorem many_induction {item : Reader (Option α)} {motive : List Token → List α → List Token → Prop}
    (empty : ∀ tokens, motive tokens [] tokens)
    (ends : ∀ {tokens rest}, item.read tokens = .done none rest → tokens = rest)
    (more : ∀ {tokens between rest a list}, item.read tokens = .done (some a) between → motive between list rest →
      motive tokens (a :: list) rest) {tokens rest : List Token} {list : List α}
    (read : (many item).read tokens = .done list rest) : motive tokens list rest := by
  -- the items found so far are in reverse
  suffices further : ∀ (bound : List Token) (found : List α) (tokens : List Token),
      (loopFrom (itemTurn item) bound found).read tokens = .done list rest →
        ∃ later, list = found.reverse ++ later ∧ motive tokens later rest by
    obtain ⟨later, rfl, holds⟩ := further tokens [] tokens read
    exact holds
  intro bound
  induction bound with
  | nil =>
    intro found tokens read
    rcases loopFrom_items read with ⟨ended, rfl⟩ | ⟨a, between, itemRead, done⟩
    · exact ⟨[], (List.append_nil _).symm, ends ended ▸ empty _⟩
    · obtain ⟨rfl, rfl⟩ := pure_done.mp done
      exact ⟨[a], List.reverse_cons, more itemRead (empty _)⟩
  | cons token bound ih =>
    intro found tokens read
    rcases loopFrom_items read with ⟨ended, rfl⟩ | ⟨a, between, itemRead, turns⟩
    · exact ⟨[], (List.append_nil _).symm, ends ended ▸ empty _⟩
    · obtain ⟨later, rfl, holds⟩ := ih (a :: found) between turns
      refine ⟨a :: later, ?_, more itemRead holds⟩
      rw [List.reverse_cons, List.append_assoc]
      rfl

end QuerySignature.Reader
