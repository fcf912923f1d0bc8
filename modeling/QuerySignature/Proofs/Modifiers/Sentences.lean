import QuerySignature.Proofs.Modifiers.Items

/-!
# Proofs/Modifiers/Sentences — where solution modifiers split

    [GROUP BY item+] [HAVING item+] [ORDER BY item+] [LIMIT n] [OFFSET m]      the last two in either order

Where items end by themselves and none starts with what follows a list, the clauses are read as they are written, in
front of a closing brace, an inline data block or the end, and nothing else is read (`modifiers_written`,
`modifiers_writes`).  Each slice is read at most once: the keyword of another one is left where the query, or the group
around an inner selection, has to end.  So a query with a pattern is a prologue, a header, modifiers and perhaps a
block (`query_iff`).
-/

namespace QuerySignature

open Reader

variable {α : Type} {depth : Option Inside} {tokens rest : List Token}

/-! ## Sentences -/

/-- The tokens are the keywords. -/
abbrev AreKeywords (words : List Token) (keywords : List String) : Prop :=
  List.Forall₂ (fun word keyword => word.spells [keyword] = true) words keywords

/-- **One or more items behind their keywords**, or nothing. -/
inductive IsClause (keywords : List String) (item : List Token → α → Prop) : List Token → List α → Prop where
  | none : IsClause keywords item [] []
  | some {words tokens : List Token} {list : List α} :
      AreKeywords words keywords → IsSequence item tokens list → list ≠ [] →
      IsClause keywords item (words ++ tokens) list

/-- A keyword and digits that have a value. -/
inductive IsSlice (keyword : String) : List Token → Slice → Prop where
  | slice {word number : Token} {value : Nat} : word.spells [keyword] = true → isDigits number = true →
      Text.natural? number.text = some value → IsSlice keyword [word, number] ⟨word.text, number.text, value⟩

/-- **A limit and an offset**, each at most once, in either order. -/
inductive IsSlices : List Token → Option Slice → Option Slice → Prop where
  | none : IsSlices [] none none
  | limit {tokens : List Token} {limit : Slice} : IsSlice "LIMIT" tokens limit → IsSlices tokens (some limit) none
  | offset {tokens : List Token} {offset : Slice} : IsSlice "OFFSET" tokens offset → IsSlices tokens none (some offset)
  | limitOffset {first second : List Token} {limit offset : Slice} : IsSlice "LIMIT" first limit →
      IsSlice "OFFSET" second offset → IsSlices (first ++ second) (some limit) (some offset)
  | offsetLimit {first second : List Token} {limit offset : Slice} : IsSlice "OFFSET" first offset →
      IsSlice "LIMIT" second limit → IsSlices (first ++ second) (some limit) (some offset)

/-- **The clauses in front of the slices**, whose items are each read whole. -/
inductive IsClauses (depth : Option Inside) : List Token → List Expression → List Expression → List OrderKey → Prop where
  | clauses {groups havings orders : List Token} {groupBy having : List Expression} {orderBy : List OrderKey} :
      IsClause ["GROUP", "BY"] (IsItem (groupCondition? depth)) groups groupBy →
      IsClause ["HAVING"] (fun tokens item => (constraint depth).read tokens = .done item []) havings having →
      IsClause ["ORDER", "BY"] (IsItem (orderKey? depth)) orders orderBy →
      IsClauses depth (groups ++ (havings ++ orders)) groupBy having orderBy

/-- **Solution modifiers.** -/
inductive IsModifiers (depth : Option Inside) : List Token → Modifiers → Prop where
  | modifiers {clauses slices : List Token} {groupBy having : List Expression} {orderBy : List OrderKey}
      {limit offset : Option Slice} : IsClauses depth clauses groupBy having orderBy → IsSlices slices limit offset →
      IsModifiers depth (clauses ++ slices) ⟨groupBy, having, orderBy, limit, offset⟩

/-- The token is the keyword of a slice that is already there. -/
def Modifiers.Repeats (modifiers : Modifiers) (token : Token) : Prop :=
  token.spells ["LIMIT"] = true ∧ modifiers.limit.isSome = true ∨
    token.spells ["OFFSET"] = true ∧ modifiers.offset.isSome = true

/-- **Nothing goes on with the modifiers**: the end, a closing brace, a block, or a slice that is already there comes
next. -/
def Modifiers.EndAt (modifiers : Modifiers) (rest : List Token) : Prop :=
  ∀ token ∈ rest.head?, token.isSymbol ["\x7d"] = true ∨ token.spells ["VALUES"] = true ∨ modifiers.Repeats token

/-- An inline data block, or nothing. -/
inductive IsOptionalValues : List Token → Option Values → Prop where
  | none : IsOptionalValues [] none
  | some {tokens : List Token} {block : Values} : IsBlock tokens block → IsOptionalValues tokens (some block)

namespace Reader

/-- **What stands in front of the modifiers** of a query with a pattern, and the body that they make of it. -/
def header (depth : Option Inside) : Reader (Modifiers → Option Values → Query.Body) := do
  if ← next (·.spells ["SELECT"]) then
    let selection ← selection depth
    datasets
    return .select selection (← whereGroup depth)
  else if ← next (·.spells ["ASK"]) then
    let _ ← word ["ASK"]
    datasets
    return .ask (← whereGroup depth)
  else if ← next (·.spells ["CONSTRUCT"]) then
    let _ ← word ["CONSTRUCT"]
    return .construct (← constructGroup depth)
  else if ← next (·.spells ["DESCRIBE"]) then
    let _ ← word ["DESCRIBE"]
    described
    datasets
    let pattern ←
      if (← accept (·.spells ["WHERE"])) || (← next (·.isSymbol ["\x7b"])) then
        some <$> group depth
      else pure none
    return .describe pattern
  else refuse .queryForm

/-! ## Clauses -/

section Clause

variable {keywords : List String} {keyword : Reader Bool} {missing : Expected} {written : List Token → α → Prop}
  {item : Reader (Option α)} {list : List α}

/-- **A clause is read** up to where no further item starts, and nothing where its keyword does not stand. -/
theorem clause_reads (h : IsClause keywords written tokens list)
    (present : ∀ {tokens rest}, (∃ words, tokens = words ++ rest ∧ AreKeywords words keywords) →
      keyword.read tokens = .done true rest)
    (absent : keyword.read rest = .done false rest)
    (back : ∀ {taken a rest}, written taken a → item.read (taken ++ rest) = .done (some a) rest)
    (heads : ∀ {taken a}, written taken a → taken ≠ []) (stops : item.read rest = .done none rest) :
    (clause keyword missing item).read (tokens ++ rest) = .done list rest := by
  cases h with
  | none => exact bind_done.mpr ⟨false, rest, absent, rfl⟩
  | @some words items list spelt sequence nonempty =>
    rw [List.append_assoc]
    refine bind_done.mpr ⟨true, items ++ rest, present ⟨words, rfl, spelt⟩, ?_⟩
    refine bind_done.mpr ⟨list, rest, many_back back heads sequence stops, ?_⟩
    cases list with
    | nil => exact absurd rfl nonempty
    | cons first others => rfl

/-- **A clause that is read is one**, behind its keyword or empty. -/
theorem clause_writes
    (present : ∀ {tokens rest}, keyword.read tokens = .done true rest →
      ∃ words, tokens = words ++ rest ∧ AreKeywords words keywords)
    (absent : ∀ {tokens rest}, keyword.read tokens = .done false rest → tokens = rest)
    (idle : Idle item) (writes : ∀ {taken rest a}, item.read (taken ++ rest) = .done (some a) rest → written taken a) :
    Writes (IsClause keywords written) (clause keyword missing item) := by
  intro tokens list rest read
  obtain ⟨_ | _, between, keywordRead, further⟩ := bind_done.mp read
  · obtain rfl := absent keywordRead
    obtain ⟨rfl, rfl⟩ := pure_done.mp further
    exact ⟨[], rfl, .none⟩
  · obtain ⟨words, rfl, spelt⟩ := present keywordRead
    obtain ⟨found, between, items, gives⟩ := bind_done.mp further
    have items_ : Writes (IsSequence written) (many item) := by
      refine many_writes (fun {tokens a rest} read => ?_) fun read => idle read
      obtain ⟨taken, rfl⟩ := exists_taken read
      refine ⟨taken, rfl, ?_⟩
      rintro a rfl
      exact writes read
    obtain ⟨taken, rfl, sequence⟩ := items_ items
    cases found with
    | nil => exact (refuse_done.mp gives).elim
    | cons first others =>
      obtain ⟨rfl, rfl⟩ := pure_done.mp gives
      exact ⟨words ++ taken, (List.append_assoc ..).symm, .some spelt sequence (List.cons_ne_nil _ _)⟩

/-- A clause starts with its keyword, or what follows it does. -/
theorem clause_follows {first : String} {words : List String} (h : IsClause (first :: keywords) written tokens list)
    (among : first ∈ words) (behind : FollowsList words rest) : FollowsList words (tokens ++ rest) := by
  cases h with
  | none => exact behind
  | some spelt =>
    cases spelt with
    | cons spells => exact .of_spells spells among

end Clause

/-- The keyword alone. -/
theorem accept_iff {keyword : String} : (accept (·.spells [keyword])).read tokens = .done true rest ↔
    ∃ words, tokens = words ++ rest ∧ AreKeywords words [keyword] := by
  rw [accept_true]
  constructor
  · rintro ⟨word, rfl, spells⟩
    exact ⟨[word], rfl, .cons spells .nil⟩
  · rintro ⟨words, rfl, spelt⟩
    obtain ⟨word, _, spells, others, rfl⟩ := List.forall₂_cons_right_iff.mp spelt
    obtain rfl := List.forall₂_nil_right_iff.mp others
    exact ⟨word, rfl, spells⟩

/-- The keyword with `BY` behind it. -/
theorem keywordBy_iff {keyword : String} : (keywordBy keyword).read tokens = .done true rest ↔
    ∃ words, tokens = words ++ rest ∧ AreKeywords words [keyword, "BY"] := by
  constructor
  · intro read
    obtain ⟨_ | _, _, accepted, further⟩ := bind_done.mp read
    · cases (pure_done.mp further).1
    · obtain ⟨word, rfl, spells⟩ := accept_true.mp accepted
      obtain ⟨by_, _, required, gives⟩ := bind_done.mp further
      obtain ⟨rfl, isBy⟩ := require_done.mp required
      obtain ⟨-, rfl⟩ := pure_done.mp gives
      exact ⟨[word, by_], rfl, .cons spells (.cons isBy .nil)⟩
  · rintro ⟨words, rfl, spelt⟩
    obtain ⟨word, _, spells, further, rfl⟩ := List.forall₂_cons_right_iff.mp spelt
    obtain ⟨by_, _, isBy, others, rfl⟩ := List.forall₂_cons_right_iff.mp further
    obtain rfl := List.forall₂_nil_right_iff.mp others
    refine bind_done.mpr ⟨true, by_ :: rest, accept_true.mpr ⟨word, rfl, spells⟩, ?_⟩
    exact bind_done.mpr ⟨by_, rest, require_done.mpr ⟨rfl, isBy⟩, rfl⟩

theorem keywordBy_false {keyword : String} : (keywordBy keyword).read tokens = .done false rest ↔
    tokens = rest ∧ tokens.head?.any (·.spells [keyword]) = false := by
  constructor
  · intro read
    obtain ⟨_ | _, _, accepted, further⟩ := bind_done.mp read
    · obtain ⟨-, rfl⟩ := pure_done.mp further
      exact accept_false.mp accepted
    · obtain ⟨_, _, -, gives⟩ := bind_done.mp further
      cases (pure_done.mp gives).1
  · intro missed
    exact bind_done.mpr ⟨false, rest, accept_false.mpr missed, rfl⟩

/-! ## Slices -/

/-- **A slice is read exactly** from its keyword and digits. -/
theorem slice?_some {keyword : String} {found : Slice} : (slice? keyword).read tokens = .done (some found) rest ↔
    ∃ taken, tokens = taken ++ rest ∧ IsSlice keyword taken found := by
  constructor
  · intro read
    obtain ⟨_ | word, _, accepted, further⟩ := bind_done.mp read
    · cases (pure_done.mp further).1
    · obtain ⟨rfl, spells⟩ := accept?_some.mp accepted
      obtain ⟨number, between, required, gives⟩ := bind_done.mp further
      obtain ⟨rfl, digits⟩ := require_done.mp required
      cases is : Text.natural? number.text with
      | none =>
        rw [is] at gives
        cases gives
      | some value =>
        rw [is] at gives
        obtain ⟨same, rfl⟩ := pure_done.mp gives
        exact ⟨[word, number], rfl, Option.some.inj same ▸ .slice spells digits is⟩
  · rintro ⟨_, rfl, @⟨word, number, value, spells, digits, is⟩⟩
    refine bind_done.mpr ⟨some word, number :: rest, accept?_some.mpr ⟨rfl, spells⟩, ?_⟩
    refine bind_done.mpr ⟨number, rest, require_done.mpr ⟨rfl, digits⟩, ?_⟩
    rw [is]
    rfl

theorem slice?_none {keyword : String} : (slice? keyword).read tokens = .done none rest ↔
    tokens = rest ∧ tokens.head?.any (·.spells [keyword]) = false := by
  constructor
  · intro read
    obtain ⟨_ | word, _, accepted, further⟩ := bind_done.mp read
    · obtain ⟨-, rfl⟩ := pure_done.mp further
      exact accept?_none.mp accepted
    · obtain ⟨number, _, -, gives⟩ := bind_done.mp further
      cases is : Text.natural? number.text <;> rw [is] at gives <;> cases gives
  · intro missed
    exact bind_done.mpr ⟨none, rest, accept?_none.mpr missed, rfl⟩

/-- A slice starts with its keyword. -/
theorem slice_apart {keyword other : String} {found : Slice} (h : IsSlice keyword tokens found)
    (apart : keyword.toList ≠ other.toList) (rest : List Token) :
    (tokens ++ rest).head?.any (·.spells [other]) = false := by
  cases h with
  | slice spells =>
    refine not_spells_of_spells spells fun word member other => ?_
    rw [List.map_singleton, List.mem_singleton] at member other
    exact apart (member.symm.trans other)

theorem slice_follows {keyword : String} {words : List String} {found : Slice} (h : IsSlice keyword tokens found)
    (among : keyword ∈ words) (rest : List Token) : FollowsList words (tokens ++ rest) := by
  cases h with
  | slice spells => exact .of_spells spells among

/-- Both slices are read in either order, whatever follows. -/
theorem slices_both {first second : List Token} {limit offset : Slice} (isLimit : IsSlice "LIMIT" first limit)
    (isOffset : IsSlice "OFFSET" second offset) (rest : List Token) :
    slices.read (first ++ (second ++ rest)) = .done (some limit, some offset) rest ∧
      slices.read (second ++ (first ++ rest)) = .done (some limit, some offset) rest := by
  constructor
  · refine bind_done.mpr ⟨some limit, _, slice?_some.mpr ⟨_, rfl, isLimit⟩, ?_⟩
    exact bind_done.mpr ⟨some offset, rest, slice?_some.mpr ⟨_, rfl, isOffset⟩, rfl⟩
  · refine bind_done.mpr ⟨none, _, slice?_none.mpr ⟨rfl, slice_apart isOffset (by decide) _⟩, ?_⟩
    refine bind_done.mpr ⟨some offset, _, slice?_some.mpr ⟨_, rfl, isOffset⟩, ?_⟩
    exact bind_done.mpr ⟨some limit, rest, slice?_some.mpr ⟨_, rfl, isLimit⟩, rfl⟩

/-- **The slices are read** where nothing goes on with them. -/
theorem slices_reads {limit offset : Option Slice} (h : IsSlices tokens limit offset)
    (noLimit : limit = none → rest.head?.any (·.spells ["LIMIT"]) = false)
    (noOffset : offset = none → rest.head?.any (·.spells ["OFFSET"]) = false) :
    slices.read (tokens ++ rest) = .done (limit, offset) rest := by
  cases h with
  | none =>
    refine bind_done.mpr ⟨none, rest, slice?_none.mpr ⟨rfl, noLimit rfl⟩, ?_⟩
    exact bind_done.mpr ⟨none, rest, slice?_none.mpr ⟨rfl, noOffset rfl⟩, rfl⟩
  | limit isLimit =>
    refine bind_done.mpr ⟨some _, rest, slice?_some.mpr ⟨_, rfl, isLimit⟩, ?_⟩
    exact bind_done.mpr ⟨none, rest, slice?_none.mpr ⟨rfl, noOffset rfl⟩, rfl⟩
  | offset isOffset =>
    refine bind_done.mpr ⟨none, _, slice?_none.mpr ⟨rfl, slice_apart isOffset (by decide) _⟩, ?_⟩
    refine bind_done.mpr ⟨some _, rest, slice?_some.mpr ⟨_, rfl, isOffset⟩, ?_⟩
    exact bind_done.mpr ⟨none, rest, slice?_none.mpr ⟨rfl, noLimit rfl⟩, rfl⟩
  | limitOffset isLimit isOffset =>
    rw [List.append_assoc]
    exact (slices_both isLimit isOffset rest).1
  | offsetLimit isOffset isLimit =>
    rw [List.append_assoc]
    exact (slices_both isLimit isOffset rest).2

/-- **Slices that are read are slices.** -/
theorem slices_writes : Writes (fun tokens pair => IsSlices tokens pair.1 pair.2) slices := by
  intro tokens pair rest read
  obtain ⟨_ | limit, _, first, further⟩ := bind_done.mp read
  · obtain ⟨rfl, -⟩ := slice?_none.mp first
    obtain ⟨_ | offset, _, second, chosen⟩ := bind_done.mp further
    · obtain ⟨rfl, -⟩ := slice?_none.mp second
      obtain ⟨rfl, rfl⟩ := pure_done.mp chosen
      exact ⟨[], rfl, .none⟩
    · obtain ⟨taken, rfl, isOffset⟩ := slice?_some.mp second
      obtain ⟨_ | limit, _, third, gives⟩ := bind_done.mp chosen
      · obtain ⟨rfl, -⟩ := slice?_none.mp third
        obtain ⟨rfl, rfl⟩ := pure_done.mp gives
        exact ⟨taken, rfl, .offset isOffset⟩
      · obtain ⟨behind, rfl, isLimit⟩ := slice?_some.mp third
        obtain ⟨rfl, rfl⟩ := pure_done.mp gives
        exact ⟨taken ++ behind, (List.append_assoc ..).symm, .offsetLimit isOffset isLimit⟩
  · obtain ⟨taken, rfl, isLimit⟩ := slice?_some.mp first
    obtain ⟨_ | offset, _, second, gives⟩ := bind_done.mp further
    · obtain ⟨rfl, -⟩ := slice?_none.mp second
      obtain ⟨rfl, rfl⟩ := pure_done.mp gives
      exact ⟨taken, rfl, .limit isLimit⟩
    · obtain ⟨behind, rfl, isOffset⟩ := slice?_some.mp second
      obtain ⟨rfl, rfl⟩ := pure_done.mp gives
      exact ⟨taken ++ behind, (List.append_assoc ..).symm, .limitOffset isLimit isOffset⟩

/-- Slices start with a keyword, or what follows them does. -/
theorem slices_follow {limit offset : Option Slice} (h : IsSlices tokens limit offset)
    (behind : FollowsList ["LIMIT", "OFFSET", "VALUES"] rest) :
    FollowsList ["LIMIT", "OFFSET", "VALUES"] (tokens ++ rest) := by
  cases h with
  | none => exact behind
  | limit isLimit => exact slice_follows isLimit (by decide) _
  | offset isOffset => exact slice_follows isOffset (by decide) _
  | limitOffset isLimit =>
    rw [List.append_assoc]
    exact slice_follows isLimit (by decide) _
  | offsetLimit isOffset =>
    rw [List.append_assoc]
    exact slice_follows isOffset (by decide) _

/-! ## Modifiers -/

section Tracked

variable (ht : DepthTracks Likeness.same.lenient depth depth)
include ht

/-- **The clauses are read** up to the slices. -/
theorem modifiers_reads {between : List Token} {groupBy having : List Expression} {orderBy : List OrderKey}
    {limit offset : Option Slice} (h : IsClauses depth tokens groupBy having orderBy)
    (behind : FollowsList ["LIMIT", "OFFSET", "VALUES"] between)
    (read : slices.read between = .done (limit, offset) rest) :
    (modifiers depth).read (tokens ++ between) = .done ⟨groupBy, having, orderBy, limit, offset⟩ rest := by
  cases h with
  | @clauses groups havings orders _ _ _ isGroups isHavings isOrders =>
    have ordering : FollowsList ["ORDER", "LIMIT", "OFFSET", "VALUES"] (orders ++ between) :=
      clause_follows isOrders (by decide) (behind.mono (by decide))
    have selecting : FollowsList laterWords (havings ++ (orders ++ between)) :=
      clause_follows isHavings (by decide) (ordering.mono (by decide))
    rw [List.append_assoc, List.append_assoc]
    refine bind_done.mpr ⟨groupBy, havings ++ (orders ++ between), ?_, bind_done.mpr ⟨having, orders ++ between, ?_,
      bind_done.mpr ⟨orderBy, between, ?_, bind_done.mpr ⟨(limit, offset), rest, read, rfl⟩⟩⟩⟩
    · exact clause_reads isGroups keywordBy_iff.mpr (keywordBy_false.mpr ⟨rfl, selecting.not_spells (by decide)⟩)
        (item_iff (.groupCondition? ht)).mpr (item_ne_nil Progress.groupCondition?) selecting.groupCondition?
    · exact clause_reads isHavings accept_iff.mpr (accept_false.mpr ⟨rfl, ordering.not_spells (by decide)⟩)
        (fun whole => (item_iff (.constraint? ht)).mpr (constraint?_some.mpr whole))
        (fun whole => item_ne_nil Progress.constraint? (constraint?_some.mpr whole))
        (ordering.mono (by decide)).constraint?
    · exact clause_reads isOrders keywordBy_iff.mpr (keywordBy_false.mpr ⟨rfl, behind.not_spells (by decide)⟩)
        (item_iff (.orderKey? ht)).mpr (item_ne_nil Progress.orderKey?) (behind.mono (by decide)).orderKey?

/-- **Modifiers are read as they are written** where nothing goes on with them. -/
theorem modifiers_written {found : Modifiers} (h : IsModifiers depth tokens found) (ends : found.EndAt rest) :
    (modifiers depth).read (tokens ++ rest) = .done found rest := by
  cases h with
  | @modifiers clauses slices groupBy having orderBy limit offset isClauses isSlices =>
    have behind : FollowsList ["LIMIT", "OFFSET", "VALUES"] rest := by
      intro token ahead
      rcases ends token ahead with closes | block | ⟨again, -⟩ | ⟨again, -⟩
      · exact .inl closes
      all_goals exact .inr (Token.spells_mono ‹_› (by decide))
    -- a missing slice does not come next
    have missed {keyword : String} (apart : keyword.toList ≠ "VALUES".toList)
        (present : ∀ {token}, Modifiers.Repeats ⟨groupBy, having, orderBy, limit, offset⟩ token →
          token.spells [keyword] = false) : rest.head?.any (·.spells [keyword]) = false := by
      cases rest with
      | nil => rfl
      | cons token rest =>
        rcases ends token rfl with closes | block | again
        · exact not_spells_of_isSymbol closes _
        · refine not_spells_of_spells block fun word member other => apart ?_
          rw [List.map_singleton, List.mem_singleton] at member other
          exact other.symm.trans member
        · exact present again
    rw [List.append_assoc]
    refine modifiers_reads ht isClauses (slices_follow isSlices behind) (slices_reads isSlices ?_ ?_)
    · rintro rfl
      refine missed (by decide) ?_
      rintro token (⟨-, present⟩ | ⟨spells, -⟩)
      · cases present
      · exact not_spells_of_spells spells (by decide)
    · rintro rfl
      refine missed (by decide) ?_
      rintro token (⟨spells, -⟩ | ⟨-, present⟩)
      · exact not_spells_of_spells spells (by decide)
      · cases present

/-- **Modifiers that are read are modifiers.** -/
theorem modifiers_writes : Writes (IsModifiers depth) (modifiers depth) := by
  intro tokens found rest read
  obtain ⟨groupBy, _, grouped, further⟩ := bind_done.mp read
  obtain ⟨having, _, selected, further⟩ := bind_done.mp further
  obtain ⟨orderBy, between, ordered, further⟩ := bind_done.mp further
  obtain ⟨⟨limit, offset⟩, _, slicesRead, gives⟩ := bind_done.mp further
  obtain ⟨rfl, rfl⟩ := pure_done.mp gives
  obtain ⟨groups, rfl, isGroups⟩ := clause_writes keywordBy_iff.mp (fun read => (keywordBy_false.mp read).1)
    (Idle.groupCondition?.within _) (item_iff (.groupCondition? ht)).mp grouped
  obtain ⟨havings, rfl, isHavings⟩ := clause_writes accept_iff.mp (fun read => (accept_false.mp read).1)
    (Idle.constraint?.within _) (fun read => constraint?_some.mp ((item_iff (.constraint? ht)).mp read)) selected
  obtain ⟨orders, rfl, isOrders⟩ := clause_writes keywordBy_iff.mp (fun read => (keywordBy_false.mp read).1)
    (Idle.orderKey?.within _) (item_iff (.orderKey? ht)).mp ordered
  obtain ⟨taken, rfl, isSlices⟩ := slices_writes slicesRead
  refine ⟨_, ?_, .modifiers (.clauses isGroups isHavings isOrders) isSlices⟩
  simp only [List.append_assoc]

end Tracked

/-! ## Queries and inner selections -/

/-- A block that comes next is read, or there is none. -/
theorem values?_iff {found : Option Values} : values?.read tokens = .done found rest ↔
    ∃ block, tokens = block ++ rest ∧ IsOptionalValues block found ∧
      (found = none → rest.head?.any (·.spells ["VALUES"]) = false) := by
  constructor
  · intro read
    obtain ⟨_ | _, _, ahead, further⟩ := bind_done.mp read
    · obtain ⟨missed, rfl⟩ := next_done.mp ahead
      obtain ⟨rfl, rfl⟩ := pure_done.mp further
      exact ⟨[], rfl, .none, fun _ => missed⟩
    · obtain ⟨-, rfl⟩ := next_done.mp ahead
      obtain ⟨block, _, blockRead, gives⟩ := bind_done.mp further
      obtain ⟨rfl, rfl⟩ := pure_done.mp gives
      obtain ⟨taken, rfl, isBlock⟩ := valuesContent_writes (show valuesContent.read _ = _ from blockRead)
      exact ⟨taken, rfl, .some isBlock, nofun⟩
  · rintro ⟨_, rfl, _ | isBlock, missed⟩
    · exact bind_done.mpr ⟨false, rest, next_done.mpr ⟨missed rfl, rfl⟩, rfl⟩
    · obtain ⟨first, inner, last, rfl, spells, -, -⟩ := isBlock.ends
      refine bind_done.mpr ⟨true, _, next_done.mpr ⟨spells, rfl⟩, ?_⟩
      exact bind_done.mpr ⟨_, rest, (valuesContent_back isBlock : values.read _ = _), rfl⟩

/-- **The second reader goes on** where the first one ends. -/
def Continues {β γ : Type} (behind : γ → Reader β) (R : Reader γ) (R' : Reader β) : Prop :=
  ∀ ⦃tokens rest : List Token⦄ ⦃form : γ⦄, R.read tokens = .done form rest → R'.read tokens = (behind form).read rest

namespace Continues

variable {β γ : Type} {behind : γ → Reader β} {R : Reader α} {N : α → Reader γ} {N' : α → Reader β}

theorem pure (form : γ) : Continues behind (Pure.pure form) (behind form) := by
  intro tokens rest form' read
  obtain ⟨rfl, rfl⟩ := pure_done.mp read
  rfl

theorem bind (h : ∀ a, Continues behind (N a) (N' a)) : Continues behind (R >>= N) (R >>= N') := by
  intro tokens rest form read
  obtain ⟨a, between, first, further⟩ := bind_done.mp read
  rw [bind_read, first]
  exact h a further

theorem either {R : Reader Bool} {M : Bool → Reader γ} {M' : Bool → Reader β} (yes : Continues behind (M true) (M' true))
    (no : Continues behind (M false) (M' false)) : Continues behind (R >>= M) (R >>= M') :=
  bind (Bool.forall_bool.mpr ⟨no, yes⟩)

theorem alone {R : Reader γ} {R' : Reader β} (h : Continues behind R R') :
    Continues (fun form => do return (← behind form, ([] : Prologue))) R (do return (← R', [])) := by
  intro tokens rest form read
  rw [bind_read, bind_read, h read]

end Continues

/-- Modifiers and a block, and what is made of them. -/
def completed {β : Type} (depth : Option Inside) (form : Modifiers → Option Values → β) : Reader β := do
  let modifiers ← modifiers depth
  return form modifiers (← values?)

/-- **A body goes on behind its header** with modifiers and a block. -/
theorem body_continues :
    Continues (fun form => do return (← completed depth form, ([] : Prologue))) (header depth) (body depth) := by
  have ends (form : Modifiers → Option Values → Query.Body) :
      Continues (completed depth) (pure form) (completed depth form) := .pure form
  refine .either ?_ (.either ?_ (.either ?_ (.either ?_ ?_)))
  · exact (Continues.bind fun _ => .bind fun _ => .bind fun _ => ends _).alone
  · exact (Continues.bind fun _ => .bind fun _ => .bind fun _ => ends _).alone
  · exact (Continues.bind fun _ => .bind fun _ => ends _).alone
  · refine (Continues.bind fun _ => .bind fun _ => .bind fun _ => .bind fun _ => .bind fun _ => ?_).alone
    split <;> exact .bind fun _ => ends _
  · exact fun _ _ _ read => (refuse_done.mp read).elim

section Ends

variable {written block : List Token} {found : Modifiers} {values : Option Values}

/-- In front of a block, too, nothing goes on with the modifiers. -/
theorem endAt_of_block (isBlock : IsOptionalValues block values) (ends : found.EndAt rest) :
    found.EndAt (block ++ rest) := by
  cases isBlock with
  | none => exact ends
  | some isBlock =>
    obtain ⟨first, inner, last, rfl, spells, -⟩ := isBlock.ends
    intro token ahead
    obtain rfl := Option.some.inj ahead
    exact .inr (.inl spells)

variable (ht : DepthTracks Likeness.same.lenient depth depth)
include ht

/-- **Modifiers and a block are read** where nothing goes on with either. -/
theorem completed_reads {β : Type} {form : Modifiers → Option Values → β} (isModifiers : IsModifiers depth written found)
    (isBlock : IsOptionalValues block values) (ends : found.EndAt rest)
    (noBlock : rest.head?.any (·.spells ["VALUES"]) = false) :
    (completed depth form).read (written ++ (block ++ rest)) = .done (form found values) rest :=
  bind_done.mpr ⟨found, _, modifiers_written ht isModifiers (endAt_of_block isBlock ends),
    bind_done.mpr ⟨values, _, values?_iff.mpr ⟨block, rfl, isBlock, fun _ => noBlock⟩, rfl⟩⟩

/-- **What is made of modifiers and a block** stands in front of what is left. -/
theorem completed_writes {β : Type} {form : Modifiers → Option Values → β} {made : β}
    (read : (completed depth form).read tokens = .done made rest) :
    ∃ written block modifiers values, tokens = written ++ (block ++ rest) ∧ IsModifiers depth written modifiers ∧
      IsOptionalValues block values ∧ made = form modifiers values := by
  obtain ⟨modifiers, between, modifiersRead, further⟩ := bind_done.mp read
  obtain ⟨values, _, blockRead, gives⟩ := bind_done.mp further
  obtain ⟨rfl, rfl⟩ := pure_done.mp gives
  obtain ⟨written, rfl, isModifiers⟩ := modifiers_writes ht modifiersRead
  obtain ⟨block, rfl, isBlock, -⟩ := values?_iff.mp blockRead
  exact ⟨written, block, modifiers, values, rfl, isModifiers, isBlock, rfl⟩

variable {declarations : Prologue} {form : Modifiers → Option Values → Query.Body} {between behind : List Token}

/-- **Behind its header a query is accepted exactly** with modifiers and a block, up to its end. -/
theorem query_iff (declared : prologue.read tokens = .done declarations between)
    (head : (header depth).read between = .done form behind) {found : Query} :
    (query depth).read tokens = .done found rest ↔ ∃ written block modifiers values, behind = written ++ block ∧
      IsModifiers depth written modifiers ∧ IsOptionalValues block values ∧
      found = ⟨declarations, form modifiers values⟩ ∧ rest = [] := by
  constructor
  · intro read
    obtain ⟨_, _, declared', further⟩ := bind_done.mp read
    obtain ⟨rfl, rfl⟩ := Reading.done.inj (declared.symm.trans declared')
    obtain ⟨_, later, bodyRead, ends⟩ := bind_done.mp further
    obtain ⟨_, _, peeked, gives⟩ := bind_done.mp ends
    cases peeked
    cases later with
    | cons token later => exact (refuse_done.mp gives).elim
    | nil =>
      obtain ⟨rfl, rfl⟩ := pure_done.mp gives
      rw [body_continues head] at bodyRead
      obtain ⟨_, _, completedRead, gives⟩ := bind_done.mp bodyRead
      obtain ⟨rfl, rfl⟩ := pure_done.mp gives
      obtain ⟨written, block, modifiers, values, rfl, isModifiers, isBlock, rfl⟩ := completed_writes ht completedRead
      rw [List.append_nil, List.append_nil]
      exact ⟨written, block, modifiers, values, rfl, isModifiers, isBlock, rfl, rfl⟩
  · rintro ⟨written, block, modifiers, values, rfl, isModifiers, isBlock, rfl, rfl⟩
    have completedRead : (completed depth form).read (written ++ (block ++ [])) = .done (form modifiers values) [] :=
      completed_reads ht isModifiers isBlock nofun rfl
    refine bind_done.mpr ⟨declarations, between, declared, bind_done.mpr ⟨(form modifiers values, []), [], ?_, ?_⟩⟩
    · rw [body_continues head]
      rw [List.append_nil] at completedRead
      exact bind_done.mpr ⟨_, [], completedRead, rfl⟩
    · exact bind_done.mpr ⟨none, [], rfl, pure_done.mpr ⟨by rw [List.append_nil], rfl⟩⟩

end Ends

section Repeated

variable {again : Token} {written block : List Token} {found : Modifiers} {values : Option Values}

/-- A slice that is already there is no block. -/
theorem repeats_not_values (h : found.Repeats again) : again.spells ["VALUES"] = false := by
  rcases h with ⟨spells, -⟩ | ⟨spells, -⟩ <;> exact not_spells_of_spells spells (by decide)

theorem repeats_not_closing (h : found.Repeats again) : again.isSymbol ["\x7d"] = false := by
  rcases h with ⟨spells, -⟩ | ⟨spells, -⟩ <;> exact isSymbol_of_spells spells _

theorem repeats_endAt (h : found.Repeats again) : found.EndAt (again :: rest) := by
  intro token ahead
  obtain rfl := Option.some.inj ahead
  exact .inr (.inr h)

variable (ht : DepthTracks Likeness.same.lenient depth depth) (isModifiers : IsModifiers depth written found)
  (isBlock : IsOptionalValues block values) (repeats : found.Repeats again)
include ht isModifiers isBlock repeats

/-- **A slice that is already there is left** where the query has to end. -/
theorem query_repeats {declarations : Prologue} {form : Modifiers → Option Values → Query.Body} {between : List Token}
    (declared : prologue.read tokens = .done declarations between)
    (head : (header depth).read between = .done form (written ++ (block ++ again :: rest))) :
    (query depth).read tokens = .stopped (.unexpected .endOfInput (some again)) (again :: rest) := by
  have bodyRead : (body depth).read between = .done (form found values, []) (again :: rest) := by
    rw [body_continues head]
    exact bind_done.mpr ⟨_, _, completed_reads ht isModifiers isBlock (repeats_endAt repeats)
      (repeats_not_values repeats), rfl⟩
  refine bind_stopped.mpr (.inr ⟨declarations, between, declared, bind_stopped.mpr (.inr ⟨_, _, bodyRead, ?_⟩)⟩)
  exact bind_stopped.mpr (.inr ⟨_, _, rfl, rfl⟩)

/-- It is left where the group around an inner selection has to end. -/
theorem content_repeats {selection : Selection} {pattern : Group} {between : List Token}
    (selectionRead : (Reader.selection depth).read tokens = .done selection between)
    (patternRead : (whereGroup depth).read between = .done pattern (written ++ (block ++ again :: rest))) :
    (content depth).read tokens = .done (.selection ⟨selection, pattern, found, values⟩) (again :: rest) := by
  have completedRead : (completed depth (SubSelect.mk selection pattern)).read (written ++ (block ++ again :: rest)) =
      .done ⟨selection, pattern, found, values⟩ (again :: rest) :=
    completed_reads ht isModifiers isBlock (repeats_endAt repeats) (repeats_not_values repeats)
  have starts : tokens.head?.any (·.spells ["SELECT"]) = true := by
    obtain ⟨keyword, _, required, -⟩ := bind_done.mp selectionRead
    obtain ⟨rfl, spells⟩ := require_done.mp required
    exact spells
  refine bind_done.mpr ⟨true, tokens, next_done.mpr ⟨starts, rfl⟩, bind_done.mpr ⟨_, again :: rest, ?_, rfl⟩⟩
  exact bind_done.mpr ⟨_, _, selectionRead, bind_done.mpr ⟨_, _, patternRead, completedRead⟩⟩

end Repeated

/-- A group stops where its content does not end with a closing brace. -/
theorem group_stopped {inner : Inside} {opening next : Token} {found : Group} (opens : opening.isSymbol ["\x7b"] = true)
    (read : inner.content.read tokens = .done found (next :: rest)) (other : next.isSymbol ["\x7d"] = false) :
    (group (some inner)).read (opening :: tokens) =
      .stopped (.unexpected (.symbol "\x7d") (some next)) (next :: rest) := by
  refine bind_stopped.mpr (.inr ⟨opening, tokens, require_done.mpr ⟨rfl, opens⟩, bind_stopped.mpr (.inr ?_)⟩)
  refine ⟨inner, tokens, rfl, bind_stopped.mpr (.inr ⟨found, _, read, bind_stopped.mpr (.inl ?_)⟩)⟩
  exact bind_stopped.mpr (.inl (bind_stopped.mpr (.inr ⟨none, _, accept?_none.mpr ⟨rfl, other⟩, rfl⟩)))

end Reader

/-- **Where solution modifiers split.** What is read as modifiers is written as such, and modifiers are read as they are
written in front of the end, a closing brace, a block or a slice that is already there; a limit and an offset give the
same in either order.  So behind its header a query is accepted exactly with modifiers and a block; where a slice stands
a second time the query, or the group around an inner selection, is not read to its end. -/
theorem modifiers_sentences (brackets : Nat) :
    (∀ {tokens rest : List Token} {found : Modifiers}, (modifiers (inside brackets)).read tokens = .done found rest →
      ∃ written, tokens = written ++ rest ∧ IsModifiers (inside brackets) written found) ∧
    (∀ {written rest : List Token} {found : Modifiers}, IsModifiers (inside brackets) written found → found.EndAt rest →
      (modifiers (inside brackets)).read (written ++ rest) = .done found rest) ∧
    (∀ {clauses first second : List Token} {groupBy having : List Expression} {orderBy : List OrderKey}
        {limit offset : Slice} (rest : List Token), IsClauses (inside brackets) clauses groupBy having orderBy →
      IsSlice "LIMIT" first limit → IsSlice "OFFSET" second offset →
      (modifiers (inside brackets)).read (clauses ++ (first ++ (second ++ rest))) =
          .done ⟨groupBy, having, orderBy, limit, offset⟩ rest ∧
        (modifiers (inside brackets)).read (clauses ++ (second ++ (first ++ rest))) =
          .done ⟨groupBy, having, orderBy, limit, offset⟩ rest) ∧
    (∀ {tokens between behind : List Token} {declarations : Prologue} {form : Modifiers → Option Values → Query.Body},
      prologue.read tokens = .done declarations between → (header (inside brackets)).read between = .done form behind →
      ∀ (found : Query) (rest : List Token), (query (inside brackets)).read tokens = .done found rest ↔
        ∃ written block modifiers values, behind = written ++ block ∧ IsModifiers (inside brackets) written modifiers ∧
          IsOptionalValues block values ∧ found = ⟨declarations, form modifiers values⟩ ∧ rest = []) ∧
    ∀ {written block rest : List Token} {found : Modifiers} {values : Option Values} {again : Token},
      IsModifiers (inside brackets) written found → IsOptionalValues block values → found.Repeats again →
      (∀ {tokens between : List Token} {declarations : Prologue} {form : Modifiers → Option Values → Query.Body},
        prologue.read tokens = .done declarations between →
        (header (inside brackets)).read between = .done form (written ++ (block ++ again :: rest)) →
        (query (inside brackets)).read tokens = .stopped (.unexpected .endOfInput (some again)) (again :: rest)) ∧
      ∀ {tokens between : List Token} {opening : Token} {selection : Selection} {pattern : Group},
        opening.isSymbol ["\x7b"] = true → (Reader.selection (inside brackets)).read tokens = .done selection between →
        (whereGroup (inside brackets)).read between = .done pattern (written ++ (block ++ again :: rest)) →
        (group (inside (brackets + 1))).read (opening :: tokens) =
          .stopped (.unexpected (.symbol "\x7d") (some again)) (again :: rest) := by
  have ht : DepthTracks Likeness.same.lenient (inside brackets) (inside brackets) := inside_tracks (.inl rfl)
  refine ⟨modifiers_writes ht, modifiers_written ht, ?_, fun declared head _ _ => query_iff ht declared head, ?_⟩
  · intro clauses first second groupBy having orderBy limit offset rest isClauses isLimit isOffset
    obtain ⟨limitFirst, offsetFirst⟩ := slices_both isLimit isOffset rest
    exact ⟨modifiers_reads ht isClauses (slice_follows isLimit (by decide) _) limitFirst,
      modifiers_reads ht isClauses (slice_follows isOffset (by decide) _) offsetFirst⟩
  · intro written block rest found values again isModifiers isBlock repeats
    refine ⟨query_repeats ht isModifiers isBlock repeats, fun opens selectionRead patternRead => ?_⟩
    have contentRead := content_repeats ht isModifiers isBlock repeats selectionRead patternRead
    exact group_stopped opens contentRead (repeats_not_closing repeats)

/-- Three clauses and two slices, a limit alone, and a second limit in a query and in an inner selection. -/
theorem modifiers_sentences_limit :
    let keyword (word : String) : Token := ⟨.keyword, word.toList, .start⟩
    let mark (symbol : Char) : Token := ⟨.punctuation, [symbol], .start⟩
    let var (name : Char) : Token := ⟨.var, ['?', name], .start⟩
    let number (digit : Char) : Token := ⟨.literal, [digit], .start⟩
    let single (name : Char) : Expression := ⟨['?', name], [[name]], []⟩
    let groups := [keyword "GROUP", keyword "BY"] ++ ([var 'x'] ++ [])
    let havings := [keyword "HAVING"] ++ ([mark '(', var 'y', mark ')'] ++ [])
    let orders := [keyword "ORDER", keyword "BY"] ++ ([keyword "DESC", mark '(', var 'z', mark ')'] ++ [])
    let limit := [keyword "LIMIT", number '5']
    let offset := [keyword "OFFSET", number '3']
    let everything := [keyword "SELECT", mark '*', mark '\x7b', mark '\x7d']
    let found : Modifiers := ⟨[single 'x'], [single 'y'], [⟨single 'z', true⟩], some ⟨"LIMIT".toList, ['5'], 5⟩,
      some ⟨"OFFSET".toList, ['3'], 3⟩⟩
    let five : Modifiers := ⟨[], [], [], some ⟨"LIMIT".toList, ['5'], 5⟩, none⟩
    (modifiers (inside 1)).read (groups ++ (havings ++ orders) ++ (limit ++ offset) ++ [mark '\x7d']) =
        .done found [mark '\x7d'] ∧
      (modifiers (inside 1)).read (groups ++ (havings ++ orders) ++ (offset ++ (limit ++ []))) = .done found [] ∧
      (∃ written, limit = written ++ [] ∧ IsModifiers (inside 1) written five) ∧
      (query (inside 1)).read (everything ++ limit) =
        .done ⟨[], .select ⟨.everything, .kept⟩ (.pattern []) five none⟩ [] ∧
      (query (inside 1)).read (everything ++ (limit ++ limit)) =
        .stopped (.unexpected .endOfInput (some (keyword "LIMIT"))) limit ∧
      (group (inside 2)).read (mark '\x7b' :: (everything ++ (limit ++ limit))) =
        .stopped (.unexpected (.symbol "\x7d") (some (keyword "LIMIT"))) limit := by
  intro keyword mark var number single groups havings orders limit offset everything found five
  have isGroups : IsClause ["GROUP", "BY"] (IsItem (groupCondition? (inside 1))) groups [single 'x'] :=
    .some (.cons rfl (.cons rfl .nil)) (.cons rfl .nil) (List.cons_ne_nil _ _)
  have isHavings : IsClause ["HAVING"] (fun tokens item => (constraint (inside 1)).read tokens = .done item []) havings
      [single 'y'] := .some (.cons rfl .nil) (.cons rfl .nil) (List.cons_ne_nil _ _)
  have isOrders : IsClause ["ORDER", "BY"] (IsItem (orderKey? (inside 1))) orders [⟨single 'z', true⟩] :=
    .some (.cons rfl (.cons rfl .nil)) (.cons rfl .nil) (List.cons_ne_nil _ _)
  have isLimit : IsSlice "LIMIT" limit ⟨"LIMIT".toList, ['5'], 5⟩ := .slice rfl rfl rfl
  have isOffset : IsSlice "OFFSET" offset ⟨"OFFSET".toList, ['3'], 3⟩ := .slice rfl rfl rfl
  have clauses := IsClauses.clauses isGroups isHavings isOrders
  have limited : IsModifiers (inside 1) limit five := .modifiers (.clauses .none .none .none) (.limit isLimit)
  have again : five.Repeats (keyword "LIMIT") := .inl ⟨rfl, rfl⟩
  have closed : found.EndAt [mark '\x7d'] := by
    intro token ahead
    obtain rfl := Option.some.inj ahead
    exact .inl rfl
  have head (behind : List Token) : (header (inside 1)).read (everything ++ behind) =
      .done (.select ⟨.everything, .kept⟩ (.pattern [])) behind := rfl
  have pattern (behind : List Token) : (whereGroup (inside 1)).read (mark '\x7b' :: mark '\x7d' :: behind) =
      .done (.pattern []) behind := rfl
  have alone : (modifiers (inside 1)).read limit = .done five [] := rfl
  obtain ⟨writes, reads, eitherOrder, accepts, repeated⟩ := modifiers_sentences 1
  refine ⟨reads (.modifiers clauses (.limitOffset isLimit isOffset)) closed, (eitherOrder [] clauses isLimit isOffset).2,
    writes alone, ?_, ?_, ?_⟩
  · exact (accepts rfl (head limit) _ _).mpr ⟨limit, [], five, none, rfl, limited, .none, rfl, rfl⟩
  · exact (repeated limited .none again).1 rfl (head _)
  · exact (repeated limited .none again).2 rfl rfl (pattern _)

end QuerySignature
