import QuerySignature.Proofs.Paired.Brackets
import QuerySignature.Proofs.Query.Escapes
import QuerySignature.Proofs.Query.Flipped
import QuerySignature.Proofs.Reading.Unrolled
import QuerySignature.Proofs.Reading.Values
import QuerySignature.Proofs.Triples.Detached
import QuerySignature.Reading.Query

/-!
# Proofs/Values/Sentences — the grammar of inline data

A block is read exactly if its tokens write one (`IsBlock`), and what writes a cell can be told from the tokens alone
(`IsDatum`): of the terms only a quoted literal may have no value, and it has one if its body is well escaped.  A row
that is complete but has another length than the header is where reading stops (`Misfits`); rows are measured behind
their closing bracket, so nothing else in the block stops for a length.
-/

namespace QuerySignature

/-! ## Cells -/

/-- **Tokens are a datum**: a word, a resource, a literal whose body is well escaped if it is quoted, or a number
behind its sign. -/
inductive IsDatum : List Token → Prop where
  | undef {word : Token} : word.spells ["UNDEF"] = true → IsDatum [word]
  | resource {name : Token} : name.isResource = true → IsDatum [name]
  | literal {token : Token} : token.kind = .literal →
      (∀ body annotation, Literal.split? token.text = some (body, annotation) → Literal.WellEscaped body) →
      IsDatum [token]
  | signed {sign number : Token} : sign.isSymbol ["+", "-"] = true → number.isNumeric = true → IsDatum [sign, number]

/-- A literal has a value exactly if its body is well escaped. -/
theorem Literal.read_ok_iff {sign text : Text} : (∃ value, Literal.read sign text = .ok value) ↔
    ∀ body annotation, split? text = some (body, annotation) → WellEscaped body := by
  constructor
  · rintro ⟨value, reads⟩ body annotation split
    unfold Literal.read at reads
    rw [split] at reads
    refine decoded_ok_iff.mp ?_
    dsimp only at reads
    cases decoding : decoded body with
    | ok codes => exact ⟨codes, rfl⟩
    | error fault =>
      rw [decoding] at reads
      cases reads
  · intro escaped
    cases reads : Literal.read sign text with
    | ok value => exact ⟨value, rfl⟩
    | error fault =>
      obtain ⟨body, annotation, split, decoding⟩ := read_error reads
      obtain ⟨codes, decodes⟩ := decoded_ok_iff.mpr (escaped body annotation split)
      rw [decodes] at decoding
      cases decoding

/-- **Tokens write a cell exactly if they are a datum.** -/
theorem exists_isCell_iff {tokens : List Token} : (∃ cell, IsCell tokens cell) ↔ IsDatum tokens := by
  constructor
  · rintro ⟨_, undef | resource | ⟨isLiteral, reads⟩ | ⟨isSign, isNumber, -⟩⟩
    · exact .undef ‹_›
    · exact .resource ‹_›
    · exact .literal isLiteral (Literal.read_ok_iff.mp ⟨_, reads⟩)
    · exact .signed isSign isNumber
  · rintro (undef | resource | ⟨isLiteral, escaped⟩ | ⟨isSign, isNumber⟩)
    · exact ⟨_, .undef ‹_›⟩
    · exact ⟨_, .resource ‹_›⟩
    · obtain ⟨value, reads⟩ := Literal.read_ok_iff.mpr escaped
      exact ⟨_, .literal isLiteral reads⟩
    · obtain ⟨number, reads⟩ := Literal.read_signed isNumber
      exact ⟨_, .signed isSign isNumber (reads _)⟩

/-! ## Rows of another length -/

/-- **Tokens end with the first row of another length**, which starts at `first`: a keyword, variables in brackets,
rows of their length, and a row of `count` cells. -/
inductive Misfits (width count : Nat) (first : Token) : List Token → Prop where
  | row {keyword left right opening last : Token} {vars tokens cells : List Token} {rows : List (List Cell)}
      {row : List Cell} :
      keyword.spells ["VALUES"] = true → left.isSymbol ["("] = true → (∀ var ∈ vars, var.kind = .var) →
      right.isSymbol [")"] = true → opening.isSymbol ["\x7b"] = true → IsSequence (IsRow vars.length) tokens rows →
      first.isSymbol ["("] = true → IsSequence IsCell cells row → last.isSymbol [")"] = true →
      vars.length = width → row.length = count → count ≠ width →
      Misfits width count first (keyword :: left :: (vars ++ right :: opening :: (tokens ++ first :: (cells ++ [last]))))

namespace Reader

variable {α β : Type} {R : Reader α} {N : α → Reader β} {p q : Token → Bool} {tokens rest : List Token} {fault : Fault}

section Items

variable {written : List Token → α → Prop} {item : Reader (Option α)} {items : Reader α}

/-- **Items stop behind a sequence of them**, where the next one stops. -/
theorem many_stopped (progress : Progress Found item)
    (writes : ∀ {tokens a rest}, item.read tokens = .done (some a) rest →
      ∃ taken, tokens = taken ++ rest ∧ written taken a)
    (back : ∀ {taken a rest}, written taken a → item.read (taken ++ rest) = .done (some a) rest) :
    (many item).read tokens = .stopped fault rest ↔
      ∃ taken list between, tokens = taken ++ between ∧ IsSequence written taken list ∧
        item.read between = .stopped fault rest := by
  constructor
  · intro stopped
    induction bound : tokens.length using Nat.strong_induction_on generalizing tokens with
    | _ n ih =>
      rw [many_unroll progress] at stopped
      rcases bind_stopped.mp stopped with here | ⟨_ | a, between, first, further⟩
      · exact ⟨[], [], tokens, rfl, .nil, here⟩
      · cases further
      · have less : between.length < n := bound ▸ progress first rfl
        obtain ⟨taken, rfl, writes⟩ := writes first
        rcases bind_stopped.mp further with behind | ⟨_, _, -, gives⟩
        · obtain ⟨others, list, between, rfl, sequence, stops⟩ := ih _ less behind rfl
          exact ⟨taken ++ others, a :: list, between, (List.append_assoc ..).symm, .cons writes sequence, stops⟩
        · cases gives
  · rintro ⟨taken, list, between, rfl, sequence, stops⟩
    induction sequence with
    | nil =>
      rw [many_unroll progress]
      exact bind_stopped.mpr (.inl stops)
    | cons first _ ih =>
      rw [List.append_assoc, many_unroll progress]
      exact bind_stopped.mpr (.inr ⟨_, _, back first, bind_stopped.mpr (.inl ih)⟩)

/-- Items up to a token stop behind a sequence of them, unless the token comes next. -/
theorem manyUntil_stopped (advances : Advances items) (writes : Writes written items)
    (back : ∀ {taken a rest}, written taken a → items.read (taken ++ rest) = .done a rest)
    (heads : ∀ {taken a}, written taken a → ∃ t others, taken = t :: others ∧ p t = false) :
    (manyUntil p items).read tokens = .stopped fault rest ↔
      ∃ taken list between, tokens = taken ++ between ∧ IsSequence written taken list ∧
        between.head?.any p = false ∧ items.read between = .stopped fault rest := by
  have writes' : ∀ {tokens a rest}, (do
      if ← next p then return none else return some (← items) : Reader (Option α)).read tokens = .done (some a) rest →
      ∃ taken, tokens = taken ++ rest ∧ written taken a := by
    intro tokens a rest read
    obtain ⟨_ | _, between, ahead, further⟩ := bind_done.mp read
    · obtain ⟨-, rfl⟩ := next_done.mp ahead
      obtain ⟨b, between', first, gives⟩ := bind_done.mp further
      obtain ⟨same, rfl⟩ := pure_done.mp gives
      exact Option.some.inj same ▸ writes first
    · cases (pure_done.mp further).1
  have back' : ∀ {taken a rest}, written taken a → (do
      if ← next p then return none else return some (← items) : Reader (Option α)).read (taken ++ rest) =
        .done (some a) rest := by
    intro taken a rest isWritten
    obtain ⟨t, others, rfl, no⟩ := heads isWritten
    exact bind_done.mpr ⟨false, _, next_done.mpr ⟨no, rfl⟩, bind_done.mpr ⟨a, _, back isWritten, rfl⟩⟩
  unfold manyUntil
  rw [many_stopped (.choice (.pure nofun) advances.of_first) writes' back']
  refine exists_congr fun taken => exists_congr fun list => exists_congr fun between => ?_
  refine and_congr_right fun _ => and_congr_right fun _ => ?_
  constructor
  · intro stopped
    rcases bind_stopped.mp stopped with here | ⟨_ | _, between', ahead, further⟩
    · cases here
    · obtain ⟨no, rfl⟩ := next_done.mp ahead
      rcases bind_stopped.mp further with behind | ⟨_, _, -, gives⟩
      · exact ⟨no, behind⟩
      · cases gives
    · cases further
  · rintro ⟨no, stops⟩
    exact bind_stopped.mpr (.inr ⟨_, _, next_done.mpr ⟨no, rfl⟩, bind_stopped.mpr (.inl stops)⟩)

end Items

/-! ## Readers that measure no row -/

/-- The reader never stops for the length of a row. -/
def Unmeasured (R : Reader α) : Prop :=
  ∀ ⦃tokens rest : List Token⦄ ⦃width count : Nat⦄ ⦃row : Token⦄,
    R.read tokens ≠ .stopped (.rowLength width count row) rest

namespace Unmeasured

theorem pure {a : α} : Unmeasured (Pure.pure a) := fun _ _ _ _ _ stopped => nomatch stopped

theorem refuse {expected : Expected} : Unmeasured (Reader.refuse expected : Reader α) :=
  fun _ _ _ _ _ stopped => nomatch stopped

theorem valued {term : Except Unreadable α} : Unmeasured (Reader.valued term) := by
  cases term <;> exact fun _ _ _ _ _ stopped => nomatch stopped

theorem bind (first : Unmeasured R) (next : ∀ a, Unmeasured (N a)) : Unmeasured (R >>= N) := by
  intro tokens rest width count row stopped
  rcases bind_stopped.mp stopped with here | ⟨a, between, -, there⟩
  · exact first here
  · exact next a there

theorem accept? : Unmeasured (Reader.accept? p) := fun _ _ _ _ _ => accept?_stopped

theorem acceptTwo? : Unmeasured (Reader.acceptTwo? p q) := fun _ _ _ _ _ => acceptTwo?_stopped

theorem require {expected : Expected} : Unmeasured (Reader.require expected p) :=
  bind accept? fun
    | some _ => pure
    | none => refuse

theorem cell : Unmeasured Reader.cell :=
  bind accept? fun
    | some _ => pure
    | none => bind accept? fun
      | some _ => pure
      | none => bind accept? fun
        | some _ => bind valued fun _ => pure
        | none => bind (bind acceptTwo? fun
            | some _ => bind valued fun _ => pure
            | none => pure) fun
          | some _ => pure
          | none => refuse

theorem next : Unmeasured (Reader.next p) := fun _ _ _ _ _ stopped => nomatch stopped

theorem many {item : Reader (Option α)} (progress : Progress Found item) (h : Unmeasured item) :
    Unmeasured (Reader.many item) := by
  intro tokens rest width count row
  -- an item that is found leaves less
  induction bound : tokens.length using Nat.strong_induction_on generalizing tokens with
  | _ n ih =>
    intro stopped
    rw [many_unroll progress] at stopped
    rcases bind_stopped.mp stopped with here | ⟨_ | a, between, read, further⟩
    · exact h here
    · cases further
    · have less : between.length < n := bound ▸ progress read rfl
      rcases bind_stopped.mp further with behind | ⟨_, _, -, gives⟩
      · exact ih _ less rfl behind
      · cases gives

theorem manyUntil {item : Reader α} (advances : Advances item) (h : Unmeasured item) :
    Unmeasured (Reader.manyUntil p item) :=
  many (.choice (.pure nofun) advances.of_first) (bind next (Bool.forall_bool.mpr ⟨bind h fun _ => pure, pure⟩))

theorem names : Unmeasured Reader.names :=
  many (.orElse (.pure nofun)) (bind accept? fun
    | some _ => pure
    | none => pure)

theorem valuesHeader : Unmeasured Reader.valuesHeader :=
  bind accept? fun
    | some _ => pure
    | none => bind (bind accept? fun _ => pure) (Bool.forall_bool.mpr
        ⟨refuse, bind names fun _ => bind require fun _ => pure⟩)

end Unmeasured

/-! ## Where a block stops for a row -/

/-- A row stops for its length exactly if it is complete and has another one than the header. -/
theorem longRow_stopped {width width' count : Nat} {first : Token} :
    (longRow width).read tokens = .stopped (.rowLength width' count first) rest ↔
      ∃ cells row last, tokens = first :: (cells ++ last :: rest) ∧ first.isSymbol ["("] = true ∧
        IsSequence IsCell cells row ∧ last.isSymbol [")"] = true ∧ width = width' ∧ row.length = count ∧
        count ≠ width := by
  constructor
  · intro stopped
    rcases bind_stopped.mp stopped with here | ⟨opening, _, opens, afterOpening⟩
    · exact (Unmeasured.require here).elim
    obtain ⟨rfl, isOpening⟩ := require_done.mp opens
    rcases bind_stopped.mp afterOpening with here | ⟨row, _, cellsRead, afterCells⟩
    · exact (Unmeasured.manyUntil .cell .cell here).elim
    obtain ⟨cells, rfl, sequence⟩ := manyUntil_writes cell_writes cellsRead
    rcases bind_stopped.mp afterCells with here | ⟨last, _, closes, measured⟩
    · exact (Unmeasured.require here).elim
    obtain ⟨rfl, isLast⟩ := require_done.mp closes
    split at measured
    · cases measured
    · next other =>
      cases measured
      exact ⟨cells, row, last, rfl, isOpening, sequence, isLast, rfl, rfl, other⟩
  · rintro ⟨cells, row, last, rfl, isOpening, sequence, isLast, rfl, rfl, other⟩
    refine bind_stopped.mpr (.inr ⟨_, _, require_done.mpr ⟨rfl, isOpening⟩, ?_⟩)
    refine bind_stopped.mpr (.inr ⟨row, last :: rest, cells_back sequence isLast, ?_⟩)
    refine bind_stopped.mpr (.inr ⟨_, _, require_done.mpr ⟨rfl, isLast⟩, ?_⟩)
    rw [if_neg other]
    rfl

/-- Rows in brackets stop for a length exactly behind rows of the length of the header. -/
theorem longRows_stopped {width width' count : Nat} {first : Token} :
    (manyUntil (·.isSymbol ["\x7d"]) (longRow width)).read tokens = .stopped (.rowLength width' count first) rest ↔
      ∃ taken rows between, tokens = taken ++ between ∧ IsSequence (IsRow width) taken rows ∧
        (longRow width).read between = .stopped (.rowLength width' count first) rest := by
  have advances : Advances (longRow width) := Progress.require.of_first
  rw [manyUntil_stopped advances (longRow_writes width) longRow_back IsRow.head]
  refine exists_congr fun taken => exists_congr fun rows => exists_congr fun between => ?_
  refine and_congr_right fun _ => and_congr_right fun _ => and_iff_right_of_imp fun here => ?_
  obtain ⟨_, _, _, rfl, isFirst, -⟩ := longRow_stopped.mp here
  exact Token.isSymbol_apart isFirst (by decide)

/-- **A block stops for a length exactly at the first row of another length.** -/
theorem values_stopped {width count : Nat} {first : Token} :
    values.read tokens = .stopped (.rowLength width count first) rest ↔
      ∃ taken, tokens = taken ++ rest ∧ Misfits width count first taken := by
  change valuesContent.read tokens = _ ↔ _
  constructor
  · intro stopped
    rcases bind_stopped.mp stopped with here | ⟨keyword, _, starts, afterKeyword⟩
    · exact (Unmeasured.require here).elim
    obtain ⟨rfl, isKeyword⟩ := require_done.mp starts
    rcases bind_stopped.mp afterKeyword with here | ⟨⟨vars, row⟩, _, header, afterHeader⟩
    · exact (Unmeasured.valuesHeader here).elim
    rcases bind_stopped.mp afterHeader with here | ⟨opening, _, opens, afterOpening⟩
    · exact (Unmeasured.require here).elim
    obtain ⟨rfl, isOpening⟩ := require_done.mp opens
    rcases bind_stopped.mp afterOpening with rowsStop | ⟨rows, _, -, afterRows⟩
    swap
    · exact (Unmeasured.require.bind (fun _ => .pure) afterRows).elim
    rcases valuesHeader_done header with
      ⟨var, rfl, isVar, rfl, rfl⟩ | ⟨left, declared, right, rfl, isLeft, areVars, isRight, rfl, rfl⟩
    · exact (Unmeasured.manyUntil Progress.cell.of_first (.bind .cell fun _ => .pure) rowsStop).elim
    · obtain ⟨taken, rows, between, rfl, sequence, here⟩ := longRows_stopped.mp rowsStop
      obtain ⟨cells, row, last, rfl, isFirst, isCells, isLast, same, counted, other⟩ := longRow_stopped.mp here
      refine ⟨_, ?_, .row isKeyword isLeft areVars isRight isOpening sequence isFirst isCells isLast same counted
        (same ▸ other)⟩
      simp
  · rintro ⟨_, rfl, @⟨keyword, left, right, opening, last, vars, taken, cells, rows, row, isKeyword, isLeft, areVars,
      isRight, isOpening, sequence, isFirst, isCells, isLast, rfl, rfl, other⟩⟩
    simp only [List.cons_append, List.append_assoc, List.nil_append]
    have header : valuesHeader.read (left :: (vars ++ right :: opening :: (taken ++ first :: (cells ++ last :: rest)))) =
        .done (vars.map Token.name, longRow vars.length) (opening :: (taken ++ first :: (cells ++ last :: rest))) :=
      longHeader_back isLeft areVars isRight
    refine bind_stopped.mpr (.inr ⟨_, _, require_done.mpr ⟨rfl, isKeyword⟩, ?_⟩)
    refine bind_stopped.mpr (.inr ⟨_, _, header, ?_⟩)
    refine bind_stopped.mpr (.inr ⟨_, _, require_done.mpr ⟨rfl, isOpening⟩, bind_stopped.mpr (.inl ?_)⟩)
    refine longRows_stopped.mpr ⟨taken, rows, _, rfl, sequence, longRow_stopped.mpr ?_⟩
    exact ⟨cells, row, last, rfl, isFirst, isCells, isLast, rfl, rfl, other⟩

end Reader

/-- **The grammar of inline data.** A block is read exactly if its tokens come next, and then they are taken and
written by it; a cell is a datum.  The reader stops for a length exactly if a row of another length comes first behind
rows of the right one, and the error stands at its bracket. -/
theorem values_reads (tokens rest : List Token) :
    (∀ block, Reader.values.read tokens = .done block rest ↔
      ∃ taken, tokens = taken ++ rest ∧ IsBlock taken block) ∧
    (∀ datum, (∃ cell, IsCell datum cell) ↔ IsDatum datum) ∧
    ∀ width count first, (Reader.values.read tokens = .stopped (.rowLength width count first) rest ↔
        ∃ taken, tokens = taken ++ rest ∧ Misfits width count first taken) ∧
      ∀ limits stop, (Fault.rowLength width count first).failure limits stop =
        .rejected (.grammar (.rowOf width) (.cells count) first.position) := by
  refine ⟨fun block => ⟨fun read => Reader.valuesContent_writes read, ?_⟩, fun datum => exists_isCell_iff, ?_⟩
  · rintro ⟨taken, rfl, block⟩
    exact Reader.valuesContent_back block
  · exact fun width count first => ⟨Reader.values_stopped, fun limits stop => rfl⟩

/-- A sign and its number are one cell: of two rows of two tokens behind a header of two names, the second has another
length. -/
theorem values_reads_signed :
    let mark (symbol : Char) : Token := ⟨.punctuation, [symbol], .start⟩
    let var (name : Char) : Token := ⟨.var, ['?', name], .start⟩
    let number (digit : Char) : Token := ⟨.literal, [digit], .start⟩
    let header := [⟨.keyword, "VALUES".toList, .start⟩, mark '(', var 'x', var 'y', mark ')', mark '\x7b']
    let row := [mark '(', number '1', number '2', mark ')']
    let second : Token := ⟨.punctuation, ['('], ⟨1, 20, 19⟩⟩
    Reader.values.read (header ++ row ++ [second, mark '+', number '3', mark ')', mark '\x7d']) =
        .stopped (.rowLength 2 1 second) [mark '\x7d'] ∧
      ∃ taken, header ++ row ++ [second, mark '+', number '3', mark ')', mark '\x7d'] = taken ++ [mark '\x7d'] ∧
        Misfits 2 1 second taken := by
  intro mark var number header row second
  have stops : Reader.values.read (header ++ row ++ [second, mark '+', number '3', mark ')', mark '\x7d']) =
      .stopped (.rowLength 2 1 second) [mark '\x7d'] := rfl
  exact ⟨stops, ((values_reads _ _).2.2 2 1 second).1.mp stops⟩

end QuerySignature
