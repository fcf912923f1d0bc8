import QuerySignature.Proofs.Advancing.Procedures
import QuerySignature.Proofs.Groups.Sentences
import QuerySignature.Proofs.Lookahead.Procedures
import QuerySignature.Proofs.Query.Reread

/-!
# Proofs/Lookahead/Loops — loops behind a look-ahead

Five loops look ahead: over the constraints of `HAVING`, over sort keys, over the verbs of a property list, and over the
patterns and triples of a group.  A turn that is entered on its look-ahead takes a token (`GuardedLoop.turn_heeds`).  A loop
that returns is left by its last turn (`Reader.loop_left`), and each kind of turn ends only where its look-ahead says no,
except for the separators that a list of verbs and the triples of a group need to go on (`GuardedLoop.starts_left`).

A list of verbs that ends behind a semicolon has looked for another verb, because objects never end with a semicolon
(`objects_endsApart`).
-/

namespace QuerySignature

namespace Reader

variable {α : Type} {turn : Reader (Turn α)} {depth : Option Inside} {tokens rest : List Token} {full : Prop}
  {brackets : List String}

/-! ## Where a loop is left -/

/-- **A loop that returns is left by its last turn**, somewhere behind where it was entered. -/
theorem loop_left (progress : Progress Turn.GoesOn turn) {list : List α}
    (read : (loop turn).read tokens = .done list rest) :
    ∃ front last ending, tokens = front ++ last ∧ turn.read last = .done ending rest ∧ ¬ending.GoesOn := by
  -- by induction on the tokens at hand: a turn that goes on has taken one
  induction length : tokens.length using Nat.strong_induction_on generalizing tokens list with
  | _ n ih =>
  subst length
  rw [loop_unroll progress] at read
  obtain ⟨ending, between, turnRead, further⟩ := bind_done.mp read
  cases ending with
  | stop =>
    obtain ⟨-, rfl⟩ := pure_done.mp further
    exact ⟨[], tokens, .stop, rfl, turnRead, id⟩
  | last item =>
    obtain ⟨-, rfl⟩ := pure_done.mp further
    exact ⟨[], tokens, .last item, rfl, turnRead, id⟩
  | more item =>
    obtain ⟨others, _, othersRead, gives⟩ := bind_done.mp further
    obtain ⟨-, rfl⟩ := pure_done.mp gives
    obtain ⟨taken, rfl⟩ := exists_taken turnRead
    obtain ⟨front, last, ending, rfl, left⟩ := ih _ (progress turnRead trivial) othersRead rfl
    exact ⟨taken ++ front, last, ending, (List.append_assoc ..).symm, left⟩

theorem itemTurn_left {item : Reader (Option α)} {ending : Turn α}
    (read : (itemTurn item).read tokens = .done ending rest) (ends : ¬ending.GoesOn) : item.read tokens = .done none rest := by
  obtain ⟨_ | a, between, found, gives⟩ := bind_done.mp read
  · obtain ⟨-, rfl⟩ := pure_done.mp gives
    exact found
  · obtain ⟨rfl, -⟩ := pure_done.mp gives
    exact absurd trivial ends

/-- Where a constraint is looked for and none is found, none comes next. -/
theorem unconstrained {make : Expression → α} (read : (do
    if ← startsConstraint then return some (make (← constraint depth)) else return none).read tokens = .done none rest) :
    startsConstraint.read rest = .done false rest := by
  obtain ⟨starts, _, looked, further⟩ := bind_done.mp read
  obtain ⟨-, rfl⟩ := Reading.done.inj ((startsConstraint_read _).symm.trans looked)
  cases starts with
  | true =>
    obtain ⟨_, _, -, gives⟩ := bind_done.mp further
    cases (pure_done.mp gives).1
  | false =>
    obtain ⟨-, rfl⟩ := pure_done.mp further
    exact looked

/-- Where no sort key is found, no constraint comes next. -/
theorem orderKey?_none (read : (orderKey? depth).read tokens = .done none rest) :
    startsConstraint.read rest = .done false rest := by
  obtain ⟨_ | direction, _, accepted, further⟩ := bind_done.mp read
  case some =>
    obtain ⟨_, _, -, further⟩ := bind_done.mp further
    obtain ⟨_, _, -, further⟩ := bind_done.mp further
    obtain ⟨_, _, -, gives⟩ := bind_done.mp further
    cases (pure_done.mp gives).1
  obtain ⟨_ | var, _, accepted, further⟩ := bind_done.mp further
  case some => cases (pure_done.mp further).1
  exact unconstrained further

/-! ### Groups -/

/-- No pattern starts with a closing brace. -/
theorem startsPattern_closing (brace : tokens.head?.any (·.isSymbol ["\x7d"]) = true) :
    tokens.head?.any startsPattern = false :=
  next_apart brace fun closes =>
    Bool.or_eq_false_iff.mpr ⟨Token.isSymbol_apart closes (by decide), not_spells_of_isSymbol closes _⟩

/-- Behind triples after which none follow no pattern comes next. -/
theorem afterTriples_left {list : List Element} {ending : Turn (List Element)}
    (read : (afterTriples list).read tokens = .done ending rest) (ends : ¬ending.GoesOn) :
    rest.head?.any startsPattern = false := by
  obtain ⟨_ | _, _, -, further⟩ := bind_done.mp read
  · obtain ⟨_ | _, _, looked, gives⟩ := bind_done.mp further
    · obtain ⟨ahead, rfl⟩ := next_done.mp looked
      obtain ⟨-, rfl⟩ := pure_done.mp gives
      exact ahead
    · obtain ⟨rfl, -⟩ := pure_done.mp gives
      exact absurd trivial ends
  · obtain ⟨rfl, -⟩ := pure_done.mp further
    exact absurd trivial ends

/-- **Behind the last elements of a group no pattern comes next.** -/
theorem elements_left {ending : Turn (List Element)} (read : (elements depth).read tokens = .done ending rest)
    (ends : ¬ending.GoesOn) : rest.head?.any startsPattern = false := by
  obtain ⟨closes, _, looked, further⟩ := bind_done.mp read
  obtain ⟨brace, rfl⟩ := next_done.mp looked
  cases closes with
  | true =>
    obtain ⟨-, rfl⟩ := pure_done.mp further
    exact startsPattern_closing brace
  | false =>
    obtain ⟨_ | _, _, -, further⟩ := bind_done.mp further
    · obtain ⟨_ | _, _, -, further⟩ := bind_done.mp further
      · obtain ⟨_, _, -, refused⟩ := bind_done.mp further
        exact (refuse_done.mp refused).elim
      · obtain ⟨_, _, -, behind⟩ := bind_done.mp further
        exact afterTriples_left behind ends
    · obtain ⟨_, _, -, further⟩ := bind_done.mp further
      obtain ⟨_, _, -, gives⟩ := bind_done.mp further
      obtain ⟨rfl, -⟩ := pure_done.mp gives
      exact absurd trivial ends

/-- No node starts with a closing brace. -/
theorem startsNode_closing (brace : tokens.head?.any (·.isSymbol ["\x7d"]) = true) :
    startsNode.read tokens = .done false tokens := by
  have other {symbols : List String} (apart : ∀ text ∈ ["\x7d"].map String.toList, text ∉ symbols.map String.toList) :
      tokens.head?.any (·.isSymbol symbols) = false := next_apart brace fun closes => Token.isSymbol_apart closes apart
  have notAtom : tokens.head?.any isAtom = false := next_apart brace fun closes => Bool.eq_false_iff.mpr fun atom => by
    rw [isAtom_isSymbol atom] at closes
    cases closes
  rw [startsNode_read, notAtom, other (by decide), other (by decide), other (by decide)]
  rfl

/-- Elements that start like a pattern are one. -/
theorem elements_of_pattern (starts : tokens.head?.any startsPattern = true) :
    Heeds full brackets (elements depth) tokens true := by
  refine .ifNext (fun brace => ?_) fun _ => .ifNext (fun isPattern => ?_) fun notPattern => ?_
  · cases starts.symm.trans (startsPattern_closing brace)
  · exact .bind (isPattern ▸ pattern_heeds)
  · cases starts.symm.trans notPattern

/-- Elements that start like a node are triples. -/
theorem elements_of_node (ceiling : depth = none → full) (starts : startsNode.read tokens = .done true tokens) :
    Heeds full ["[", "("] (elements depth) tokens true := by
  refine .ifNext (fun brace => ?_) fun _ => .ifNext (fun isPattern => ?_) fun _ => ?_
  · cases starts.symm.trans (startsNode_closing brace)
  · exact .bind (isPattern ▸ pattern_heeds)
  · exact .behind starts (.bind (.behind rfl (.behind rfl (.bind (node_heeds ceiling starts)))))

/-! ### Property lists -/

/-- **The last token that was taken is no semicolon.** -/
def EndsApart (tokens rest : List Token) : Prop :=
  ∃ front last, tokens = front ++ last :: rest ∧ last.isSymbol [";"] = false

theorem EndsApart.behind (taken : List Token) (h : EndsApart tokens rest) : EndsApart (taken ++ tokens) rest := by
  obtain ⟨front, last, rfl, apart⟩ := h
  exact ⟨taken ++ front, last, (List.append_assoc ..).symm, apart⟩

theorem EndsApart.not_semicolon (h : EndsApart tokens rest) :
    ¬∃ front semicolon, tokens = front ++ semicolon :: rest ∧ semicolon.isSymbol [";"] = true := by
  rintro ⟨front, semicolon, rfl, is⟩
  obtain ⟨front', last, same, apart⟩ := h
  have whole : front ++ [semicolon] ++ rest = front' ++ [last] ++ rest := by
    rw [List.append_assoc, List.append_assoc]
    exact same
  cases List.append_inj_right' (List.append_cancel_right whole) rfl
  cases is.symm.trans apart

theorem close_endsApart {text : String} {bracket : Token} (read : (close text).read tokens = .done bracket rest)
    (apart : ∀ symbol ∈ [text].map String.toList, symbol ∉ [";"].map String.toList) : EndsApart tokens rest := by
  obtain ⟨rfl, is⟩ := close_done.mp read
  exact ⟨[], bracket, rfl, Token.isSymbol_apart is apart⟩

theorem term_endsApart {found : Node} (read : term.read tokens = .done found rest) : EndsApart tokens rest := by
  obtain ⟨_ | token, between, accepted, others⟩ := bind_done.mp read
  case some =>
    obtain ⟨rfl, atom⟩ := accept?_some.mp accepted
    obtain ⟨rfl, -⟩ := atom_writes atom others
    exact ⟨[], token, rfl, isAtom_isSymbol atom _⟩
  obtain ⟨rfl, -⟩ := accept?_none.mp accepted
  obtain ⟨_ | number, between, signed, gives⟩ := bind_done.mp others
  case none => exact (refuse_done.mp gives).elim
  obtain ⟨sign, digits, rfl, -, isNumber, -⟩ := (signedNumber?_done signed).1 number rfl
  obtain ⟨-, rfl⟩ := pure_done.mp gives
  refine ⟨[sign], digits, rfl, Bool.eq_false_iff.mpr fun semicolon => ?_⟩
  cases (kind_of_isSymbol semicolon).symm.trans (kind_of_isNumeric isNumber)

/-- **Nodes end with no semicolon**: with a term or with the bracket that closes them. -/
theorem node_endsApart {found : Node} (read : (node depth).read tokens = .done found rest) : EndsApart tokens rest := by
  obtain ⟨_ | pair, _, accepted, notEmpty⟩ := bind_done.mp read
  case some =>
    obtain ⟨rfl, -, closes⟩ := acceptTwo?_some.mp accepted
    obtain ⟨-, rfl⟩ := pure_done.mp notEmpty
    exact ⟨[pair.1], pair.2, rfl, Token.isSymbol_apart closes (by decide)⟩
  obtain rfl := acceptTwo?_none accepted
  obtain ⟨square, between, opened, notSquare⟩ := bind_done.mp notEmpty
  rcases open?_done opened with ⟨rfl, rfl, -⟩ | ⟨opening, inner, rfl, -, rfl, -⟩
  case inr =>
    obtain ⟨_, _, listRead, behind⟩ := bind_done.mp notSquare
    obtain ⟨_, _, closes, gives⟩ := bind_done.mp behind
    obtain ⟨-, rfl⟩ := pure_done.mp gives
    obtain ⟨taken, rfl⟩ := exists_taken listRead
    exact (close_endsApart closes (by decide)).behind (opening :: taken)
  obtain ⟨round, between, opened, notRound⟩ := bind_done.mp notSquare
  rcases open?_done opened with ⟨rfl, rfl, -⟩ | ⟨opening, inner, rfl, -, rfl, -⟩
  case inr =>
    obtain ⟨_, _, itemsRead, behind⟩ := bind_done.mp notRound
    obtain ⟨_, _, closes, gives⟩ := bind_done.mp behind
    obtain ⟨-, rfl⟩ := pure_done.mp gives
    obtain ⟨taken, rfl⟩ := exists_taken itemsRead
    exact (close_endsApart closes (by decide)).behind (opening :: taken)
  exact term_endsApart notRound

/-- An object behind a comma, or nothing. -/
theorem objectBehind_done {found : Option Node} (read : (objectBehind depth).read tokens = .done found rest) :
    (found = none ∧ tokens = rest) ∨ ∃ comma object between, found = some object ∧ tokens = comma :: between ∧
      (node depth).read between = .done object rest := by
  obtain ⟨comma, _, accepted, further⟩ := bind_done.mp read
  cases comma with
  | false =>
    obtain ⟨rfl, -⟩ := accept_false.mp accepted
    obtain ⟨rfl, rfl⟩ := pure_done.mp further
    exact .inl ⟨rfl, rfl⟩
  | true =>
    obtain ⟨comma, rfl, -⟩ := accept_true.mp accepted
    obtain ⟨object, _, objectRead, gives⟩ := bind_done.mp further
    obtain ⟨rfl, rfl⟩ := pure_done.mp gives
    exact .inr ⟨comma, object, _, rfl, rfl, objectRead⟩

/-- Objects end like their last node. -/
theorem objects_endsApart {list : List Node} (read : (objects depth).read tokens = .done list rest) :
    EndsApart tokens rest := by
  rw [objects_eq] at read
  obtain ⟨first, between, firstRead, further⟩ := bind_done.mp read
  obtain ⟨others, _, othersRead, gives⟩ := bind_done.mp further
  obtain ⟨-, rfl⟩ := pure_done.mp gives
  clear read further gives
  -- by induction on the objects behind commas: behind the first comma there are objects again
  induction others generalizing first tokens between with
  | nil =>
    rcases (many_done Progress.objectBehind).mp othersRead with ⟨-, none_⟩ | ⟨_, _, _, more, -⟩
    · rcases objectBehind_done none_ with ⟨-, rfl⟩ | ⟨_, _, _, found, -⟩
      · exact node_endsApart firstRead
      · cases found
    · cases more
  | cons second others ih =>
    rcases (many_done Progress.objectBehind).mp othersRead with ⟨none_, -⟩ | ⟨_, _, behind, same, item, laterRead⟩
    · cases none_
    · cases same
      rcases objectBehind_done item with ⟨none_, -⟩ | ⟨comma, _, between, same, rfl, secondRead⟩
      · cases none_
      · cases same
        obtain ⟨taken, rfl⟩ := exists_taken firstRead
        exact ((ih second behind secondRead laterRead).behind [comma]).behind taken

/-- **Behind the last verb of a list no verb comes next**, if a semicolon stands there. -/
theorem property_left {ending : Turn (List (Verb × Node))} (read : (property depth).read tokens = .done ending rest)
    (ends : ¬ending.GoesOn) : rest.head?.any startsVerb = false ∨ EndsApart tokens rest := by
  obtain ⟨_, _, verbRead, further⟩ := bind_done.mp read
  obtain ⟨_, _, objectsRead, further⟩ := bind_done.mp further
  obtain ⟨semicolon, _, accepted, further⟩ := bind_done.mp further
  cases semicolon with
  | false =>
    obtain ⟨rfl, -⟩ := accept_false.mp accepted
    obtain ⟨-, rfl⟩ := pure_done.mp further
    obtain ⟨taken, rfl⟩ := exists_taken verbRead
    exact .inr ((objects_endsApart objectsRead).behind taken)
  | true =>
    obtain ⟨_, _, -, further⟩ := bind_done.mp further
    obtain ⟨starts, _, looked, gives⟩ := bind_done.mp further
    obtain ⟨ahead, rfl⟩ := next_done.mp looked
    cases starts with
    | true =>
      obtain ⟨rfl, -⟩ := pure_done.mp gives
      exact absurd trivial ends
    | false =>
      obtain ⟨-, rfl⟩ := pure_done.mp gives
      exact .inl ahead

end Reader

/-! ## Look-aheads and the loops they guard -/

/-- **What a look-ahead looks for.** -/
inductive Construct where
  | node
  | verb
  | constraint
  | pattern
  deriving DecidableEq, Repr

namespace Construct

variable {depth : Option Inside} {tokens : List Token} {full : Prop}

/-- What is read. -/
def Value : Construct → Type
  | node => Node
  | verb => Verb
  | constraint => Expression
  | pattern => Element

/-- **The look-ahead.** -/
def starts : Construct → Reader Bool
  | node => Reader.startsNode
  | verb => Reader.next Reader.startsVerb
  | constraint => Reader.startsConstraint
  | pattern => Reader.next Reader.startsPattern

/-- **The procedure behind the look-ahead.** -/
def procedure (depth : Option Inside) : (construct : Construct) → Reader construct.Value
  | node => Reader.node depth
  | verb => Reader.verb depth
  | constraint => Reader.constraint depth
  | pattern => Reader.pattern depth

/-- The brackets in front of which the procedure looks whether they may open. -/
def brackets : Construct → List String
  | node => ["[", "("]
  | verb => ["("]
  | constraint => []
  | pattern => []

/-- A look-ahead takes nothing. -/
theorem starts_read (construct : Construct) (tokens : List Token) :
    ∃ b, construct.starts.read tokens = .done b tokens := by
  cases construct with
  | node => exact ⟨_, Reader.startsNode_read tokens⟩
  | verb => exact ⟨_, Reader.next_read _ _⟩
  | constraint => exact ⟨_, Reader.startsConstraint_read tokens⟩
  | pattern => exact ⟨_, Reader.next_read _ _⟩

/-- **Each procedure does what its look-ahead says.** -/
theorem heeds (ceiling : depth = none → full) (construct : Construct) {b : Bool}
    (read : construct.starts.read tokens = .done b tokens) :
    Reader.Heeds full construct.brackets (construct.procedure depth) tokens b := by
  cases construct with
  | node => exact Reader.node_heeds ceiling read
  | verb =>
    obtain ⟨rfl, -⟩ := Reader.next_done.mp read
    exact Reader.verb_heeds ceiling
  | constraint => exact Reader.constraint_heeds read
  | pattern =>
    obtain ⟨rfl, -⟩ := Reader.next_done.mp read
    exact Reader.pattern_heeds

end Construct

/-- **A loop that a look-ahead guards.**  The elements of a group are guarded twice. -/
inductive GuardedLoop where
  | having
  | ordering
  | properties
  | patterns
  | triples
  deriving DecidableEq, Repr

namespace GuardedLoop

variable {depth : Option Inside} {tokens rest : List Token} {full : Prop}

/-- What the look-ahead looks for. -/
def construct : GuardedLoop → Construct
  | having => .constraint
  | ordering => .constraint
  | properties => .verb
  | patterns => .pattern
  | triples => .node

/-- What a turn brings. -/
def Item : GuardedLoop → Type
  | having => Expression
  | ordering => OrderKey
  | properties => List (Verb × Node)
  | patterns => List Element
  | triples => List Element

/-- **A turn of the loop.** -/
def turn (depth : Option Inside) : (loop : GuardedLoop) → Reader (Reader.Turn loop.Item)
  | having => Reader.itemTurn (Reader.within .having (Reader.constraint? depth))
  | ordering => Reader.itemTurn (Reader.within .ordering (Reader.orderKey? depth))
  | properties => Reader.property depth
  | patterns => Reader.elements depth
  | triples => Reader.elements depth

/-- **The loop is left on its look-ahead**: a list of verbs behind a semicolon, and the triples of a group unless the last
of them stand without a point.  Without a semicolon no verb is looked for, and without a point no node is. -/
def LeftOn (depth : Option Inside) (tokens rest : List Token) : GuardedLoop → Prop
  | properties => ∃ front semicolon, tokens = front ++ semicolon :: rest ∧ semicolon.isSymbol [";"] = true
  | triples => ∀ front last list, tokens = front ++ last → (Reader.elements depth).read last ≠ .done (.last list) rest
  | _ => True

theorem iteration (loop : GuardedLoop) : Reader.Iteration depth (loop.turn depth) := by
  cases loop with
  | having => exact .having
  | ordering => exact .order
  | properties => exact .properties
  | patterns => exact .elements
  | triples => exact .elements

/-- **A turn is entered on the look-ahead.** -/
theorem turn_heeds (ceiling : depth = none → full) (loop : GuardedLoop)
    (read : loop.construct.starts.read tokens = .done true tokens) :
    Reader.Heeds full loop.construct.brackets (loop.turn depth) tokens true := by
  cases loop with
  | having => exact .bind (.within (.behind read (.bind (Reader.constraint_heeds read))))
  | ordering =>
    exact .bind (.within (.orElse (fun _ => rfl) fun _ => .orElse (fun _ => rfl) fun _ =>
      .behind read (.bind (Reader.constraint_heeds read))))
  | properties => exact .bind ((Reader.next_done.mp read).1 ▸ Reader.verb_heeds ceiling)
  | patterns => exact Reader.elements_of_pattern (Reader.next_done.mp read).1
  | triples => exact Reader.elements_of_node ceiling read

/-- **A loop that is left on its look-ahead leaves nothing behind** that the procedure would have read. -/
theorem starts_left (loop : GuardedLoop) {list : List loop.Item}
    (read : (Reader.loop (loop.turn depth)).read tokens = .done list rest)
    (left : loop.LeftOn depth tokens rest) (hd : Reader.DepthAdvancing depth) :
    loop.construct.starts.read rest = .done false rest := by
  obtain ⟨front, last, ending, rfl, turnRead, ends⟩ := Reader.loop_left (loop.iteration.progress hd) read
  cases loop with
  | having => exact Reader.unconstrained (Reader.itemTurn_left turnRead ends)
  | ordering => exact Reader.orderKey?_none (Reader.itemTurn_left turnRead ends)
  | properties =>
    rcases Reader.property_left turnRead ends with none_ | apart
    · exact Reader.next_done.mpr ⟨none_, rfl⟩
    · exact ((apart.behind front).not_semicolon left).elim
  | patterns => exact Reader.next_done.mpr ⟨Reader.elements_left turnRead ends, rfl⟩
  | triples =>
    cases ending with
    | stop =>
      cases Reader.isTurn_of_read turnRead with
      | stop brace => exact Reader.startsNode_closing brace
    | last list => exact absurd turnRead (left front last list rfl)
    | more => exact absurd trivial ends

end GuardedLoop

/-- Only where no bracket may open is there nothing inside one. -/
theorem Reader.eq_zero_of_inside {brackets : Nat} (closed : Reader.inside brackets = none) : brackets = 0 := by
  cases brackets with
  | zero => rfl
  | succ brackets => cases closed

/-- **The look-aheads agree with the procedures that they guard.**  Wherever the cursor is, a look-ahead says no exactly
where its procedure stops in front of the next token with a violation of the grammar.  Therefore a turn that is entered on
a look-ahead takes the next token, unless that is a bracket with the depth at its ceiling; and where a loop is left on its
look-ahead, or declines to go on, the procedure would have read nothing. -/
theorem lookahead_agrees (limits : Limits) (cursor : Token.Cursor) :
    let depth := Reader.inside (limits.maxDepth - cursor.depth)
    let full := limits.maxDepth ≤ cursor.depth
    (∀ construct : Construct, ∃ starts, construct.starts.read cursor.ahead = .done starts cursor.ahead ∧
      (starts = false ↔ (construct.procedure depth).Declines cursor.ahead) ∧
      (starts = true → (construct.procedure depth).Enters full construct.brackets cursor.ahead)) ∧
    ∀ loop : GuardedLoop,
      (loop.construct.starts.read cursor.ahead = .done true cursor.ahead →
        (loop.turn depth).Enters full loop.construct.brackets cursor.ahead) ∧
      ((loop.turn depth).Declines cursor.ahead → (loop.construct.procedure depth).Declines cursor.ahead) ∧
      ∀ list rest, (Reader.loop (loop.turn depth)).read cursor.ahead = .done list rest →
        loop.LeftOn depth cursor.ahead rest → (loop.construct.procedure depth).Declines rest := by
  intro depth full
  have ceiling (closed : depth = none) : full := Nat.sub_eq_zero_iff_le.mp (Reader.eq_zero_of_inside closed)
  refine ⟨fun construct => ?_, fun loop => ⟨fun read => (loop.turn_heeds ceiling read).entered, fun declined => ?_,
    fun list rest read left => ?_⟩⟩
  · obtain ⟨starts, read⟩ := construct.starts_read cursor.ahead
    have heeds := construct.heeds ceiling read
    exact ⟨starts, read, heeds.eq_false_iff, fun yes => (yes ▸ heeds).entered⟩
  · obtain ⟨_ | _, read⟩ := loop.construct.starts_read cursor.ahead
    · exact (loop.construct.heeds ceiling read).declined
    · exact absurd declined (loop.turn_heeds ceiling read).entered.not_declines
  · exact (loop.construct.heeds ceiling (loop.starts_left read left (Reader.Advancing.inside _))).declined

/-- A list of verbs that is left behind a semicolon, in front of a bracket with which no elements start. -/
theorem lookahead_agrees_semicolon :
    let word (kind : Token.Kind) (text : String) : Token := ⟨kind, text.toList, .start⟩
    let tokens := [word .var "?s", word .var "?p", word .var "?o", word .punctuation ";", word .punctuation ")",
      word .eof ""]
    let entering : Token.Cursor := ⟨tokens, rfl, 1, by decide, 1⟩
    let declining : Token.Cursor := ⟨tokens, rfl, 4, by decide, 1⟩
    let depth := Reader.inside 199
    (Reader.verb depth).Enters (200 ≤ 1) ["("] entering.ahead ∧
      (Reader.property depth).Enters (200 ≤ 1) ["("] entering.ahead ∧
      (Reader.verb depth).Declines [word .punctuation ")"] ∧ (Reader.node depth).Declines declining.ahead := by
  intro word tokens entering declining depth
  obtain ⟨procedures, loops⟩ := lookahead_agrees .standard entering
  obtain ⟨-, atBracket⟩ := lookahead_agrees .standard declining
  obtain ⟨starts, read, -, entered⟩ := procedures .verb
  obtain ⟨rfl, -⟩ := Reading.done.inj read
  obtain ⟨turn, -, left⟩ := loops .properties
  obtain ⟨-, declined, -⟩ := atBracket .triples
  have semicolon : GuardedLoop.properties.LeftOn depth entering.ahead [word .punctuation ")"] :=
    ⟨[word .var "?p", word .var "?o"], word .punctuation ";", rfl, rfl⟩
  exact ⟨entered rfl, turn rfl, left [[(.var ['p'], .var ['o'])]] [word .punctuation ")"] rfl semicolon,
    declined ⟨_, Fault.isViolation_unexpected .patternElement (some (word .punctuation ")")), rfl⟩⟩

/-- **A turn is entered and takes nothing**: where no further level may open, triples stop in front of a bracket with which
they could start. -/
theorem not_taken_at_ceiling :
    let limits : Limits := ⟨1, 1000000, 250000, by decide, by decide, by decide, by decide⟩
    let opening : Token := ⟨.punctuation, ['('], ⟨1, 7, 6⟩⟩
    let tokens := [⟨.keyword, "ASK".toList, .start⟩, ⟨.punctuation, ['\x7b'], ⟨1, 5, 4⟩⟩, opening, ⟨.eof, [], ⟨1, 8, 7⟩⟩]
    let cursor : Token.Cursor := ⟨tokens, rfl, 2, by decide, 1⟩
    let turn := GuardedLoop.triples.turn (Reader.inside (limits.maxDepth - cursor.depth))
    GuardedLoop.triples.construct.starts.read cursor.ahead = .done true cursor.ahead ∧
      turn.read cursor.ahead = .stopped (.tooDeep opening) cursor.ahead ∧ ¬0 < (turn.taken cursor.ahead).length ∧
      tokenize limits "ASK \x7b (".toList = .ok tokens ∧
      parse limits "ASK \x7b (".toList = .error (.rejected (.ceiling .nestingDepth 2 1 (some opening.position))) := by
  intro limits opening tokens cursor turn
  have tokenized : tokenize limits "ASK \x7b (".toList = .ok tokens := by decide +kernel
  refine ⟨rfl, rfl, Nat.lt_irrefl 0, tokenized, ?_⟩
  rw [parse, tokenized]
  rfl

end QuerySignature
