import QuerySignature.Proofs.Bounded.Readers
import QuerySignature.Proofs.Outcome.Causal
import QuerySignature.Proofs.WellFormed.Rules

/-!
# Proofs/Outcome/Sequence — update requests one behind the other

An update request is declarations and a sequence of operations, each but the last with a semicolon and further
declarations behind it (`Requested`).  An operation ends in front of a semicolon as at the end of the tokens, so
sequences compose: a request, a semicolon and another request are a request with the operations of both
(`parseTokens_sequence`).
-/

namespace QuerySignature

namespace Reader

variable {depth : Option Inside} {tokens rest : List Token}

/-! ## The form of a body -/

/-- Bodies of one form. -/
abbrev HasForm (form : String) (body : Query.Body) : Prop :=
  ∀ prologue, Query.form ⟨prologue, body⟩ = form.toList

theorem selectBody_form : Yields (HasForm "SELECT") (selectBody depth) :=
  .andThen fun _ => .andThen fun _ => .andThen fun _ => .andThen fun _ => .andThen fun _ => .pure fun _ => rfl

theorem askBody_form : Yields (HasForm "ASK") (askBody depth) :=
  .andThen fun _ => .andThen fun _ => .andThen fun _ => .andThen fun _ => .andThen fun _ => .pure fun _ => rfl

theorem constructBody_form : Yields (HasForm "CONSTRUCT") (constructBody depth) :=
  .andThen fun _ => .andThen fun _ => .andThen fun _ => .andThen fun _ => .pure fun _ => rfl

theorem describeBody_form : Yields (HasForm "DESCRIBE") (describeBody depth) := by
  refine .andThen fun _ => .andThen fun _ => .andThen fun _ => .andThen fun _ => .andThen fun _ => ?_
  have behind (found : Option Group) : Yields (HasForm "DESCRIBE")
      (do
        let modifiers ← modifiers depth
        return .describe found modifiers (← values?)) :=
    .andThen fun _ => .andThen fun _ => .pure fun _ => rfl
  split
  · exact .andThen fun group => behind group
  · exact behind none

/-- **What a body is**: one of four forms without declarations, or operations with theirs. -/
theorem body_done {pair : Query.Body × Prologue} (read : (body depth).read tokens = .done pair rest) :
    (∃ found, (selectBody depth).read tokens = .done found rest ∧ pair = (found, [])) ∨
      (∃ found, (askBody depth).read tokens = .done found rest ∧ pair = (found, [])) ∨
      (∃ found, (constructBody depth).read tokens = .done found rest ∧ pair = (found, [])) ∨
      (∃ found, (describeBody depth).read tokens = .done found rest ∧ pair = (found, [])) ∨
      ∃ operations, (loop (operationTurn depth)).read tokens = .done operations rest ∧
        pair = (.update (operations.map (·.1)), operations.flatMap (·.2)) := by
  have alone {R : Reader Query.Body} {between : List Token}
      (read : Reader.read (do return (← R, [])) between = .done pair rest) :
      ∃ found, R.read between = .done found rest ∧ pair = (found, []) := by
    obtain ⟨found, _, bodyRead, gives⟩ := bind_done.mp read
    obtain ⟨rfl, rfl⟩ := pure_done.mp gives
    exact ⟨found, bodyRead, rfl⟩
  obtain ⟨select, _, ahead, chosen⟩ := bind_done.mp read
  obtain ⟨-, rfl⟩ := next_done.mp ahead
  cases select
  case true => exact .inl (alone chosen)
  obtain ⟨ask, _, ahead, chosen⟩ := bind_done.mp chosen
  obtain ⟨-, rfl⟩ := next_done.mp ahead
  cases ask
  case true => exact .inr (.inl (alone chosen))
  obtain ⟨construct, _, ahead, chosen⟩ := bind_done.mp chosen
  obtain ⟨-, rfl⟩ := next_done.mp ahead
  cases construct
  case true => exact .inr (.inr (.inl (alone chosen)))
  obtain ⟨describe, _, ahead, chosen⟩ := bind_done.mp chosen
  obtain ⟨-, rfl⟩ := next_done.mp ahead
  cases describe
  case true => exact .inr (.inr (.inr (.inl (alone chosen))))
  obtain ⟨starts, _, ahead, chosen⟩ := bind_done.mp chosen
  obtain ⟨-, rfl⟩ := next_done.mp ahead
  cases starts
  case false => exact (refuse_done.mp chosen).elim
  obtain ⟨operations, _, operationsRead, gives⟩ := bind_done.mp chosen
  obtain ⟨same, rfl⟩ := pure_done.mp gives
  exact .inr (.inr (.inr (.inr ⟨operations, operationsRead, same.symm⟩)))

/-- A body of one form is not of another. -/
theorem Yields.not_form {form other : String} {R : Reader Query.Body} {found : Query.Body}
    (h : Yields (HasForm form) R) (read : R.read tokens = .done found rest) (is : HasForm other found)
    (differs : form.toList ≠ other.toList) : False :=
  differs ((h read []).symm.trans (is []))

/-- **A body that is an update** is read operation by operation. -/
theorem body_update {pair : Query.Body × Prologue} (read : (body depth).read tokens = .done pair rest)
    (update : HasForm "UPDATE" pair.1) :
    ∃ operations, (loop (operationTurn depth)).read tokens = .done operations rest ∧
      pair = (.update (operations.map (·.1)), operations.flatMap (·.2)) := by
  rcases body_done read with ⟨_, found, rfl⟩ | ⟨_, found, rfl⟩ | ⟨_, found, rfl⟩ | ⟨_, found, rfl⟩ | operations
  · exact (selectBody_form.not_form found update (by decide)).elim
  · exact (askBody_form.not_form found update (by decide)).elim
  · exact (constructBody_form.not_form found update (by decide)).elim
  · exact (describeBody_form.not_form found update (by decide)).elim
  · exact operations

/-- **A body that is a selection** has no declarations. -/
theorem body_select {pair : Query.Body × Prologue} (read : (body depth).read tokens = .done pair rest)
    (select : HasForm "SELECT" pair.1) :
    ∃ found, (selectBody depth).read tokens = .done found rest ∧ pair = (found, []) := by
  rcases body_done read with selection | ⟨_, found, rfl⟩ | ⟨_, found, rfl⟩ | ⟨_, found, rfl⟩ | ⟨_, -, rfl⟩
  · exact selection
  · exact (askBody_form.not_form found select (by decide)).elim
  · exact (constructBody_form.not_form found select (by decide)).elim
  · exact (describeBody_form.not_form found select (by decide)).elim
  · have update : "UPDATE".toList = "SELECT".toList := select []
    exact absurd update (by decide)

/-! ## Operations by their first word -/

/-- A token spells one word. -/
theorem not_spells_of_spells {token : Token} {words others : List String} (h : token.spells words = true)
    (apart : ∀ word ∈ words.map String.toList, word ∉ others.map String.toList) : token.spells others = false := by
  obtain ⟨word, is, member⟩ := (Option.any_eq_true _ _).mp h
  unfold Token.spells Token.isKeyword
  rw [is, Bool.eq_false_iff]
  exact fun holds => apart word (List.contains_iff_mem.mp member) (List.contains_iff_mem.mp holds)

theorem spells_of_spells {token : Token} {words others : List String} (h : token.spells words = true)
    (among : ∀ word ∈ words.map String.toList, word ∈ others.map String.toList) : token.spells others = true := by
  obtain ⟨word, is, member⟩ := (Option.any_eq_true _ _).mp h
  unfold Token.spells Token.isKeyword
  rw [is]
  exact List.contains_iff_mem.mpr (among word (List.contains_iff_mem.mp member))

/-- An operation starts with one of the words that do. -/
theorem operation_starts {found : Operation} (read : (operation depth).read tokens = .done found rest) :
    tokens.head?.any (·.spells updateWords) = true := by
  obtain ⟨_ | token, between, accepted, chosen⟩ := bind_done.mp read
  case some =>
    obtain ⟨rfl, named⟩ := accept?_some.mp accepted
    obtain ⟨management, is⟩ := Option.isSome_iff_exists.mp named
    have spells := List.find?_some is
    refine spells_of_spells spells ?_
    cases management <;> decide
  obtain ⟨rfl, -⟩ := accept?_none.mp accepted
  have first {word : String} {between : List Token} (among : word.toList ∈ updateWords.map String.toList)
      (accepted : (accept (·.spells [word])).read tokens = .done true between) :
      tokens.head?.any (·.spells updateWords) = true := by
    obtain ⟨token, rfl, spells⟩ := accept_true.mp accepted
    exact spells_of_spells spells fun _ member => List.mem_singleton.mp member ▸ among
  obtain ⟨insert, _, accepted, chosen⟩ := bind_done.mp chosen
  cases insert
  case true => exact first (by decide) accepted
  obtain ⟨rfl, -⟩ := accept_false.mp accepted
  obtain ⟨delete, _, accepted, chosen⟩ := bind_done.mp chosen
  cases delete
  case true => exact first (by decide) accepted
  obtain ⟨rfl, -⟩ := accept_false.mp accepted
  obtain ⟨with_, _, accepted, chosen⟩ := bind_done.mp chosen
  cases with_
  case true => exact first (by decide) accepted
  exact (refuse_done.mp chosen).elim

/-! ## Operations one behind the other -/

/-- **Operations, each with the declarations behind its semicolon.**  Only the last may have no semicolon, and then
the sequence is `closed`. -/
inductive Sequence (depth : Option Inside) : (closed : Bool) → List Token → List (Operation × Prologue) → Prop where
  | last {tokens : List Token} {found : Operation} : (operation depth).read tokens = .done found [] →
      Sequence depth true tokens [(found, [])]
  | separated {tokens between : List Token} {semicolon : Token} {found : Operation} {declarations : Prologue} :
      (operation depth).read tokens = .done found (semicolon :: between) → semicolon.isSymbol [";"] = true →
      prologue.read between = .done declarations [] → Sequence depth false tokens [(found, declarations)]
  | further {closed : Bool} {tokens between rest : List Token} {semicolon : Token} {found : Operation}
      {declarations : Prologue} {others : List (Operation × Prologue)} :
      (operation depth).read tokens = .done found (semicolon :: between) → semicolon.isSymbol [";"] = true →
      prologue.read between = .done declarations rest → Sequence depth closed rest others →
      Sequence depth closed tokens ((found, declarations) :: others)

namespace Sequence

variable {closed : Bool} {found : Operation} {between : List Token} {semicolon : Token} {declarations : Prologue}
  {operations : List (Operation × Prologue)}

theorem starts (h : Sequence depth closed tokens operations) : tokens.head?.any (·.spells updateWords) = true := by
  cases h with
  | last read => exact operation_starts read
  | separated read => exact operation_starts read
  | further read => exact operation_starts read

theorem ne_nil (h : Sequence depth closed tokens operations) : tokens ≠ [] := by
  rintro rfl
  cases h.starts

/-! ### The turns of the loop -/

/-- The turn of an operation without a semicolon. -/
theorem turn_last (read : (operation depth).read tokens = .done found []) :
    (operationTurn depth).read tokens = .done (.last (found, [])) [] :=
  bind_done.mpr ⟨found, [], read, bind_done.mpr ⟨false, [], accept_false.mpr ⟨rfl, rfl⟩, rfl⟩⟩

/-- The turn of an operation with a semicolon. -/
theorem turn_separated (read : (operation depth).read tokens = .done found (semicolon :: between))
    (separates : semicolon.isSymbol [";"] = true) (declared : prologue.read between = .done declarations rest) :
    (operationTurn depth).read tokens =
      .done (if rest = [] then .last (found, declarations) else .more (found, declarations)) rest := by
  refine bind_done.mpr ⟨found, _, read, bind_done.mpr ⟨true, between, accept_true.mpr ⟨_, rfl, separates⟩, ?_⟩⟩
  refine bind_done.mpr ⟨declarations, rest, declared, ?_⟩
  cases rest <;> rfl

/-- What the loop reads from a sequence. -/
theorem loopFrom_read (h : Sequence depth closed tokens operations) :
    ∀ {bound : List Token} (done : List (Operation × Prologue)), tokens.length ≤ bound.length →
      (loopFrom (operationTurn depth) bound done).read tokens = .done (done.reverse ++ operations) [] := by
  induction h with
  | last read =>
    intro bound done _
    rw [loopFrom_eq, ← List.reverse_cons]
    exact bind_done.mpr ⟨_, _, turn_last read, rfl⟩
  | separated read separates declared =>
    intro bound done _
    rw [loopFrom_eq, ← List.reverse_cons]
    exact bind_done.mpr ⟨_, _, turn_separated read separates declared, rfl⟩
  | @further _ _ _ rest _ found declarations others read separates declared behind ih =>
    intro bound done enough
    have turned := turn_separated read separates declared
    rw [if_neg behind.ne_nil] at turned
    obtain ⟨token, bound, rfl, less⟩ := tail_enough Progress.operation.of_first enough turned
    rw [loopFrom_eq, List.append_cons, ← List.reverse_cons]
    exact bind_done.mpr ⟨_, _, turned, ih _ less⟩

/-- A turn that brings an item reads an operation, and declarations if a semicolon is behind it. -/
theorem turn_done {turn : Turn (Operation × Prologue)} (read : (operationTurn depth).read tokens = .done turn rest) :
    (∃ found, (operation depth).read tokens = .done found rest ∧ turn = .last (found, [])) ∨
      ∃ found semicolon between declarations, (operation depth).read tokens = .done found (semicolon :: between) ∧
        semicolon.isSymbol [";"] = true ∧ prologue.read between = .done declarations rest ∧
        turn = if rest = [] then .last (found, declarations) else .more (found, declarations) := by
  obtain ⟨found, _, operationRead, behind⟩ := bind_done.mp read
  obtain ⟨separated, between, accepted, further⟩ := bind_done.mp behind
  cases separated with
  | false =>
    obtain ⟨rfl, -⟩ := accept_false.mp accepted
    obtain ⟨rfl, rfl⟩ := pure_done.mp further
    exact .inl ⟨found, operationRead, rfl⟩
  | true =>
    obtain ⟨semicolon, rfl, separates⟩ := accept_true.mp accepted
    rw [if_pos rfl] at further
    obtain ⟨declarations, later, declared, ahead⟩ := bind_done.mp further
    refine .inr ⟨found, semicolon, between, declarations, operationRead, separates, ?_⟩
    cases later <;> cases ahead <;> exact ⟨declared, rfl⟩

/-- **What the loop reads to the end of the tokens is a sequence.** -/
theorem of_loopFrom {bound : List Token} : ∀ {tokens : List Token} {done list : List (Operation × Prologue)},
    tokens.length ≤ bound.length → (loopFrom (operationTurn depth) bound done).read tokens = .done list [] →
    ∃ closed operations, list = done.reverse ++ operations ∧ Sequence depth closed tokens operations := by
  induction bound with
  | nil =>
    intro tokens done list enough read
    obtain rfl := List.length_eq_zero_iff.mp (Nat.le_zero.mp enough)
    rw [loopFrom_eq] at read
    obtain ⟨turn, between, turnRead, -⟩ := bind_done.mp read
    obtain ⟨found, operationRead, -⟩ | ⟨found, _, _, _, operationRead, -⟩ := turn_done turnRead <;>
      cases operation_starts operationRead
  | cons token bound ih =>
    intro tokens done list enough read
    rw [loopFrom_eq] at read
    obtain ⟨turn, between, turnRead, behind⟩ := bind_done.mp read
    obtain ⟨found, operationRead, rfl⟩ | ⟨found, semicolon, after, declarations, operationRead, separates, declared, rfl⟩ :=
      turn_done turnRead
    · obtain ⟨rfl, rfl⟩ := pure_done.mp behind
      exact ⟨true, _, List.reverse_cons, .last operationRead⟩
    · by_cases ended : between = []
      · rw [if_pos ended] at behind
        obtain ⟨rfl, -⟩ := pure_done.mp behind
        exact ⟨false, _, List.reverse_cons, .separated operationRead separates (ended ▸ declared)⟩
      · rw [if_neg ended] at turnRead behind
        obtain ⟨_, _, same, less⟩ := tail_enough Progress.operation.of_first enough turnRead
        cases same
        obtain ⟨closed, operations, rfl, sequence⟩ := ih less behind
        refine ⟨closed, _, ?_, .further operationRead separates declared sequence⟩
        rw [List.reverse_cons, List.append_assoc]
        rfl

/-! ### Composition -/

variable {rest' : List Token} {others : List (Operation × Prologue)}

/-- A semicolon behind a closed sequence changes nothing. -/
theorem append_semicolon (hd : DepthTracks Likeness.same.lenient depth depth)
    (h : Sequence depth true tokens operations) (separates : semicolon.isSymbol [";"] = true) :
    Sequence depth false (tokens ++ [semicolon]) operations := by
  have ends : semicolon.isSymbol endMarks = true := Token.isSymbol_endMarks (by decide) separates
  generalize is : true = closed at h
  induction h with
  | last read => exact .separated (Bounded.operation ends hd [] read) separates rfl
  | separated => cases is
  | further read separates' declared behind ih =>
    exact .further (Bounded.operation ends hd [] read) separates'
      (Limited.prologue ends [] declared behind.ne_nil) (ih is)

/-- **Sequences compose**: behind a closed one, a semicolon, and declarations, another may follow. -/
theorem append (hd : DepthTracks Likeness.same.lenient depth depth) (h : Sequence depth true tokens operations)
    (separates : semicolon.isSymbol [";"] = true) (declared : prologue.read between = .done declarations rest')
    (h' : Sequence depth closed rest' others) :
    ∃ all, Sequence depth closed (tokens ++ semicolon :: between) all ∧
      all.map (·.1) = operations.map (·.1) ++ others.map (·.1) ∧
      all.flatMap (·.2) = operations.flatMap (·.2) ++ declarations ++ others.flatMap (·.2) := by
  have ends : semicolon.isSymbol endMarks = true := Token.isSymbol_endMarks (by decide) separates
  generalize is : true = last at h
  induction h with
  | @last _ found read =>
    exact ⟨(found, declarations) :: others, .further (Bounded.operation ends hd _ read) separates declared h', rfl, rfl⟩
  | separated => cases is
  | @further _ _ _ _ _ found declarations' _ read separates' declared' behind ih =>
    obtain ⟨all, sequence, operations, declarations⟩ := ih is
    refine ⟨(found, declarations') :: all, .further (Bounded.operation ends hd _ read) separates'
      (Limited.prologue ends _ declared' behind.ne_nil) sequence, congrArg (found :: ·) operations, ?_⟩
    rw [List.flatMap_cons, List.flatMap_cons, declarations]
    simp only [List.append_assoc]

end Sequence

end Reader

/-! ## Requests -/

variable {limits : Limits} {tokens : List Token} {request : Query}

/-- **The tokens write the update request**: declarations, and a sequence of operations. -/
def Requested (limits : Limits) (closed : Bool) (tokens : List Token) (request : Query) : Prop :=
  ∃ declarations rest operations, Reader.prologue.read tokens = .done declarations rest ∧
    Reader.Sequence (Reader.inside limits.maxDepth) closed rest operations ∧
    request = ⟨declarations ++ operations.flatMap (·.2), .update (operations.map (·.1))⟩

/-- **No semicolon is behind the last operation** of the update request that the tokens write. -/
def Token.EndsWithOperation (limits : Limits) (tokens : List Token) : Prop :=
  ∃ request, Requested limits true tokens request

/-- **A query that is read is an update if and only if its tokens write a request.** -/
theorem requested_iff :
    (limits.reader.read tokens = .done request [] ∧ request.form = "UPDATE".toList) ↔
      ∃ closed, Requested limits closed tokens request := by
  constructor
  · rintro ⟨read, update⟩
    obtain ⟨-, declarations, rest, pair, declared, bodyRead, rfl⟩ := query_done read
    obtain ⟨list, loopRead, rfl⟩ := Reader.body_update bodyRead fun _ => update
    obtain ⟨closed, operations, rfl, sequence⟩ := Reader.Sequence.of_loopFrom (Nat.le_refl _) loopRead
    exact ⟨closed, declarations, rest, _, declared, sequence, rfl⟩
  · rintro ⟨closed, declarations, rest, operations, declared, sequence, rfl⟩
    refine ⟨Reader.bind_done.mpr ⟨declarations, rest, declared, ?_⟩, rfl⟩
    refine Reader.bind_done.mpr ⟨(.update (operations.map (·.1)), operations.flatMap (·.2)), [], ?_, rfl⟩
    have other {words : List String} (apart : ∀ word ∈ Reader.updateWords.map String.toList,
        word ∉ words.map String.toList) : rest.head?.any (·.spells words) = false := by
      obtain ⟨token, here, spells⟩ := (Option.any_eq_true _ _).mp sequence.starts
      rw [here]
      exact Reader.not_spells_of_spells spells apart
    refine Reader.bind_done.mpr ⟨false, rest, Reader.next_done.mpr ⟨other (by decide), rfl⟩, ?_⟩
    refine Reader.bind_done.mpr ⟨false, rest, Reader.next_done.mpr ⟨other (by decide), rfl⟩, ?_⟩
    refine Reader.bind_done.mpr ⟨false, rest, Reader.next_done.mpr ⟨other (by decide), rfl⟩, ?_⟩
    refine Reader.bind_done.mpr ⟨false, rest, Reader.next_done.mpr ⟨other (by decide), rfl⟩, ?_⟩
    refine Reader.bind_done.mpr ⟨true, rest, Reader.next_done.mpr ⟨sequence.starts, rfl⟩, ?_⟩
    exact Reader.bind_done.mpr ⟨operations, [], sequence.loopFrom_read [] (Nat.le_refl _), rfl⟩

namespace Requested

variable {semicolon : Token}

/-- The depth to which the limits admit nesting tracks itself. -/
theorem tracks (limits : Limits) : Reader.DepthTracks Likeness.same.lenient (Reader.inside limits.maxDepth)
    (Reader.inside limits.maxDepth) := Reader.inside_tracks (.inl rfl)

theorem append_semicolon (h : Requested limits true tokens request) (separates : semicolon.isSymbol [";"] = true) :
    Requested limits false (tokens ++ [semicolon]) request := by
  have ends := Token.isSymbol_endMarks (by decide) separates
  obtain ⟨declarations, rest, operations, declared, sequence, rfl⟩ := h
  exact ⟨declarations, rest ++ [semicolon], operations, Reader.Limited.prologue ends [] declared sequence.ne_nil,
    sequence.append_semicolon (tracks limits) separates, rfl⟩

/-- **Requests compose**: the declarations of both and the operations of both. -/
theorem append {closed : Bool} {tokens' : List Token} {request' : Query} (h : Requested limits true tokens request)
    (separates : semicolon.isSymbol [";"] = true) (h' : Requested limits closed tokens' request') :
    Requested limits closed (tokens ++ semicolon :: tokens')
      ⟨request.prologue ++ request'.prologue, .update (request.operations ++ request'.operations)⟩ := by
  have ends := Token.isSymbol_endMarks (by decide) separates
  obtain ⟨declarations, rest, operations, declared, sequence, rfl⟩ := h
  obtain ⟨declarations', rest', operations', declared', sequence', rfl⟩ := h'
  obtain ⟨all, composed, named, behind⟩ := sequence.append (tracks limits) separates declared' sequence'
  refine ⟨declarations, rest ++ semicolon :: tokens', all, Reader.Limited.prologue ends _ declared sequence.ne_nil,
    composed, ?_⟩
  rw [named, behind]
  simp only [List.append_assoc]
  rfl

end Requested

/-! ## Signatures of requests -/

theorem Prologue.base?_append (first second : Prologue) :
    Prologue.base? (first ++ second) = (Prologue.base? second).or (Prologue.base? first) := by
  unfold Prologue.base?
  rw [List.reverse_append, List.findSome?_append]

theorem Prologue.namespaces_append (first second : Prologue) :
    Prologue.namespaces (first ++ second) = Prologue.namespaces first ++ Prologue.namespaces second :=
  List.filterMap_append

/-- The variable groups of an update are those of its operations. -/
theorem Query.variableGroups_update (request : Query) (update : request.form = "UPDATE".toList) :
    request.variableGroups =
      request.operations.flatMap fun operation => ((operation.group?.map Group.blocks).getD []).map Values.group := by
  obtain ⟨prologue, body⟩ := request
  cases body with
  | update operations => exact List.map_flatMap
  | select => exact absurd (show "SELECT".toList = "UPDATE".toList from update) (by decide)
  | ask => exact absurd (show "ASK".toList = "UPDATE".toList from update) (by decide)
  | construct => exact absurd (show "CONSTRUCT".toList = "UPDATE".toList from update) (by decide)
  | describe => exact absurd (show "DESCRIBE".toList = "UPDATE".toList from update) (by decide)

/-! ## Lists of tokens -/

/-- A list that is read as an update writes a request up to its first end. -/
theorem requested_of_parseTokens (h : parseTokens limits tokens = .ok request)
    (update : request.form = "UPDATE".toList) :
    ∃ words stop more closed, tokens = words ++ stop :: more ∧ (∀ token ∈ words, token.kind ≠ .eof) ∧
      stop.kind = .eof ∧ Requested limits closed words request := by
  have readable := readable_of_parseTokens h
  obtain ⟨words, stop, more, rfl, free, ends⟩ := exists_end readable.exists_eof
  obtain ⟨closed, requested⟩ := requested_iff.mp ⟨(parseTokens_eq_ok free ends readable).mp h, update⟩
  exact ⟨words, stop, more, closed, rfl, free, ends, requested⟩

/-- The words of a request in front of an end are read as it. -/
theorem parseTokens_of_requested {closed : Bool} {words more : List Token} {stop : Token}
    (h : Requested limits closed words request) (free : ∀ token ∈ words, token.kind ≠ .eof) (ends : stop.kind = .eof)
    (readable : Token.Readable limits (words ++ stop :: more)) :
    parseTokens limits (words ++ stop :: more) = .ok request :=
  (parseTokens_eq_ok free ends readable).mpr (requested_iff.mpr ⟨closed, h⟩).1

/-- **Update requests compose.**  Behind a request whose last operation no semicolon follows, a semicolon alone
changes nothing; a semicolon and another request make one request with the operations of both. -/
theorem parseTokens_sequence {limits : Limits} {first : List Token} {semicolon stop : Token} {a : Query}
    (free : ∀ token ∈ first, token.kind ≠ .eof) (separates : semicolon.isSymbol [";"] = true)
    (accepted : parseTokens limits (first ++ [stop]) = .ok a) (update : a.form = "UPDATE".toList)
    (closed : Token.EndsWithOperation limits first) :
    (first.length + 1 ≤ limits.maxTokens → parseTokens limits (first ++ [semicolon, stop]) = .ok a) ∧
      ∀ {second : List Token} {stop' : Token} {b : Query}, parseTokens limits (second ++ [stop']) = .ok b →
        b.form = "UPDATE".toList → (first ++ semicolon :: second).length ≤ limits.maxTokens →
        ∃ query, parseTokens limits (first ++ semicolon :: second ++ [stop']) = .ok query ∧
          query.form = "UPDATE".toList ∧ query.operations = a.operations ++ b.operations ∧
          query.prologue.namespaces = a.prologue.namespaces ++ b.prologue.namespaces ∧
          query.prologue.base? = b.prologue.base?.or a.prologue.base? ∧
          query.variableGroups = a.variableGroups ++ b.variableGroups := by
  have ends : stop.kind = .eof := by
    have := (readable_of_parseTokens accepted).ended
    rw [List.getLast?_append, List.getLast?_singleton] at this
    exact of_decide_eq_true this
  have separator : semicolon.kind ≠ .eof := by
    rw [Reader.kind_of_isSymbol separates]
    decide
  -- the words before the first end are those of the first list
  obtain ⟨request, requested⟩ := closed
  obtain rfl : a = request := by
    have read := parseTokens_of_requested requested free ends (readable_of_parseTokens accepted)
    exact Except.ok.inj (accepted.symm.trans read)
  constructor
  · intro few
    rw [List.append_cons]
    refine parseTokens_of_requested (requested.append_semicolon separates) ?_ ends ⟨?_, ?_⟩
    · exact List.forall_mem_append.mpr ⟨free, List.forall_mem_singleton.mpr separator⟩
    · rw [List.getLast?_append, List.getLast?_singleton]
      exact decide_eq_true ends
    · simpa using few
  · intro second stop' b accepted' update' few
    obtain ⟨words, stop'', more, closed', whole, free', ends'', requested'⟩ := requested_of_parseTokens accepted' update'
    have composed := requested.append separates requested'
    have list : first ++ semicolon :: second ++ [stop'] = (first ++ semicolon :: words) ++ stop'' :: more := by
      rw [List.append_assoc, List.cons_append, whole, List.append_assoc, List.cons_append]
    have readable : Token.Readable limits (first ++ semicolon :: second ++ [stop']) := by
      refine ⟨?_, by simpa using few⟩
      have := (readable_of_parseTokens accepted').ended
      rw [List.getLast?_append, List.getLast?_singleton] at this ⊢
      exact this
    rw [list] at readable ⊢
    refine ⟨_, parseTokens_of_requested composed ?_ ends'' readable, rfl, rfl, Prologue.namespaces_append _ _,
      Prologue.base?_append _ _, ?_⟩
    · exact List.forall_mem_append.mpr ⟨free, List.forall_mem_cons.mpr ⟨separator, free'⟩⟩
    · rw [Query.variableGroups_update _ rfl, Query.variableGroups_update a update, Query.variableGroups_update b update']
      exact List.flatMap_append

/-- A request that clears all graphs, and one with a base that deletes what a block selects. -/
theorem parseTokens_sequence_clear :
    let word (kind : Token.Kind) (text : String) : Token := ⟨kind, text.toList, .start⟩
    let first := [word .keyword "CLEAR", word .keyword "ALL"]
    let second := [word .keyword "BASE", word .iri "<b>", word .keyword "DELETE", word .keyword "WHERE",
      word .punctuation "\x7b", word .keyword "VALUES", word .var "?x", word .punctuation "\x7b",
      word .keyword "UNDEF", word .punctuation "\x7d", word .punctuation "\x7d"]
    let semicolon := word .punctuation ";"
    let stop := word .eof ""
    parseTokens .standard (first ++ [semicolon, stop]) = parseTokens .standard (first ++ [stop]) ∧
      ∃ query, parseTokens .standard (first ++ semicolon :: second ++ [stop]) = .ok query ∧
        query.operations.map Operation.name = ["CLEAR".toList, "DELETE WHERE".toList] ∧
        query.prologue.base? = some ['b'] ∧ query.variableGroups = [[['x']]] := by
  intro word first second semicolon stop
  have accepted : parseTokens .standard (first ++ [stop]) = .ok ⟨[], .update [.manage .clear]⟩ := rfl
  have closed : Token.EndsWithOperation .standard first :=
    ⟨_, [], first, [(.manage .clear, [])], rfl, .last rfl, rfl⟩
  obtain ⟨same, composes⟩ := parseTokens_sequence (by decide) (show semicolon.isSymbol [";"] = true by decide)
    accepted rfl closed
  refine ⟨(same (by decide)).trans accepted.symm, ?_⟩
  obtain ⟨query, read, -, operations, -, base, groups⟩ :=
    composes (show parseTokens .standard (second ++ [stop]) = .ok _ from rfl) rfl (by decide)
  exact ⟨query, read, operations ▸ rfl, base ▸ rfl, groups ▸ rfl⟩

end QuerySignature
