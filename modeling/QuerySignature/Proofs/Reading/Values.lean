import QuerySignature.Proofs.Reading.Terms
import QuerySignature.Reading.Values

/-!
# Proofs/Reading/Values — inline data side by side

The grammar of blocks is complete: what `IsBlock` says tokens write is what they are read as, whatever
follows them (`values_back`).  So where a block stands for another, the second run reads the one that stands.
-/

namespace QuerySignature

/-! ## Read back from what is written -/

/-- A cell begins with no closing bracket. -/
theorem IsCell.head {tokens : List Token} {cell : Cell} (h : IsCell tokens cell) :
    ∃ t others, tokens = t :: others ∧ t.isSymbol [")"] = false ∧ t.isSymbol ["\x7d"] = false := by
  have away {t : Token} (kind : t.kind ≠ .punctuation) :
      t.isSymbol [")"] = false ∧ t.isSymbol ["\x7d"] = false := by
    constructor <;> exact Bool.eq_false_iff.mpr fun holds => kind (Reader.kind_of_isSymbol holds)
  cases h with
  | @undef word spells =>
    refine ⟨word, [], rfl, away fun kind => ?_⟩
    unfold Token.spells Token.isKeyword Token.word? at spells
    rw [kind] at spells
    cases spells
  | @resource name is =>
    refine ⟨name, [], rfl, away fun kind => ?_⟩
    rcases Reader.kind_of_isResource is with other | other <;> rw [kind] at other <;> cases other
  | @literal token value is =>
    refine ⟨token, [], rfl, away fun kind => ?_⟩
    rw [kind] at is
    cases is
  | @signed sign number value is =>
    refine ⟨sign, [number], rfl, ?_⟩
    obtain ⟨text, symbol, member⟩ := (Option.any_eq_true _ _).mp is
    unfold Token.isSymbol Token.isPunctuation
    rw [symbol]
    rcases List.mem_pair.mp (List.contains_iff_mem.mp member) with rfl | rfl <;> exact ⟨rfl, rfl⟩

/-- A row does not begin with the brace behind the rows. -/
theorem IsRow.head {width : Nat} {tokens : List Token} {row : List Cell} (h : IsRow width tokens row) :
    ∃ t others, tokens = t :: others ∧ t.isSymbol ["\x7d"] = false := by
  cases h with
  | @cells opening closing tokens row opens =>
    refine ⟨opening, _, rfl, ?_⟩
    obtain ⟨text, symbol, member⟩ := (Option.any_eq_true _ _).mp opens
    unfold Token.isSymbol Token.isPunctuation
    rw [symbol, List.mem_singleton.mp (List.contains_iff_mem.mp member)]
    rfl

namespace Reader

variable {α : Type} {p : Token → Bool} {t : Token}

/-- Only a keyword spells a word. -/
theorem not_spells (kind : t.kind ≠ .keyword) (words : List String) : t.spells words = false := by
  unfold Token.spells Token.isKeyword Token.word?
  rw [if_neg kind]
  rfl

/-- A symbol spells no word. -/
theorem not_spells_of_isSymbol {symbols : List String} (h : t.isSymbol symbols = true) (words : List String) :
    t.spells words = false :=
  not_spells (by rw [kind_of_isSymbol h]; decide) words

/-- The tokens of a cell are read as that cell, whatever follows. -/
theorem cell_back {tokens rest : List Token} {found : Cell} (h : IsCell tokens found) :
    cell.read (tokens ++ rest) = .done found rest := by
  have skip {p : Token → Bool} {t : Token} {tokens : List Token} (no : p t = false) :
      (accept? p).read (t :: tokens) = .done none (t :: tokens) := accept?_none.mpr ⟨rfl, no⟩
  cases h with
  | undef spells => exact bind_done.mpr ⟨_, _, accept?_some.mpr ⟨rfl, spells⟩, rfl⟩
  | @resource name is =>
    have keyword : name.kind ≠ .keyword := by
      rcases kind_of_isResource is with kind | kind <;> rw [kind] <;> decide
    refine bind_done.mpr ⟨_, _, skip (not_spells keyword _), ?_⟩
    exact bind_done.mpr ⟨_, _, accept?_some.mpr ⟨rfl, is⟩, rfl⟩
  | @literal token value is reads =>
    have resource : token.isResource = false := by
      refine Bool.eq_false_iff.mpr fun holds => ?_
      rcases kind_of_isResource holds with kind | kind <;> rw [is] at kind <;> cases kind
    refine bind_done.mpr ⟨_, _, skip (not_spells (by rw [is]; decide) _), ?_⟩
    refine bind_done.mpr ⟨_, _, skip resource, ?_⟩
    refine bind_done.mpr ⟨_, _, accept?_some.mpr ⟨rfl, decide_eq_true is⟩, ?_⟩
    exact bind_done.mpr ⟨_, _, valued_done.mpr ⟨reads, rfl⟩, rfl⟩
  | @signed sign number value isSign isNumber reads =>
    have kind := kind_of_isSymbol isSign
    have resource : sign.isResource = false := by
      refine Bool.eq_false_iff.mpr fun holds => ?_
      rcases kind_of_isResource holds with other | other <;> rw [kind] at other <;> cases other
    refine bind_done.mpr ⟨_, _, skip (not_spells (by rw [kind]; decide) _), ?_⟩
    refine bind_done.mpr ⟨_, _, skip resource, ?_⟩
    refine bind_done.mpr ⟨_, _, skip (by rw [kind]; rfl), ?_⟩
    refine bind_done.mpr ⟨some value, rest, ?_, rfl⟩
    refine bind_done.mpr ⟨_, _, acceptTwo?_some.mpr ⟨rfl, isSign, isNumber⟩, ?_⟩
    exact bind_done.mpr ⟨_, _, valued_done.mpr ⟨reads, rfl⟩, rfl⟩

/-- **A sequence is read back** up to where there is no further item. -/
theorem many_back {written : List Token → α → Prop} {item : Reader (Option α)}
    (back : ∀ {taken a rest}, written taken a → item.read (taken ++ rest) = .done (some a) rest)
    (heads : ∀ {taken a}, written taken a → taken ≠ []) {tokens rest : List Token} {list : List α}
    (h : IsSequence written tokens list) (stops : item.read rest = .done none rest) :
    (many item).read (tokens ++ rest) = .done list rest := by
  -- the items found so far are in reverse, and the bound is never reached
  suffices further : ∀ (bound : List Token) (found : List α), (tokens ++ rest).length ≤ bound.length →
      loopRead (itemTurn item) bound found (tokens ++ rest) = .done (found.reverse ++ list) rest from
    further _ [] (Nat.le_refl _)
  induction h with
  | nil =>
    intro bound found _
    have stop : (itemTurn item).read rest = .done .stop rest := bind_done.mpr ⟨none, rest, stops, rfl⟩
    rw [List.nil_append, loopRead, stop, List.append_nil]
  | @cons first others a list writes _ ih =>
    intro bound found enough
    have more : (itemTurn item).read (first ++ (others ++ rest)) = .done (.more a) (others ++ rest) :=
      bind_done.mpr ⟨some a, _, back writes, rfl⟩
    have taken := List.length_pos_iff.mpr (heads writes)
    rw [List.append_assoc, List.length_append] at enough
    rw [List.append_assoc, loopRead, more]
    cases bound with
    | nil =>
      rw [List.length_nil] at enough
      omega
    | cons _ bound =>
      rw [List.length_cons] at enough
      dsimp only
      rw [ih bound _ (by omega), List.reverse_cons, List.append_assoc]
      rfl

/-- Items that are read back one by one are read back up to the closing token. -/
theorem manyUntil_back {written : List Token → α → Prop} {item : Reader α}
    (back : ∀ {taken a rest}, written taken a → item.read (taken ++ rest) = .done a rest)
    (heads : ∀ {taken a}, written taken a → ∃ t others, taken = t :: others ∧ p t = false)
    {tokens rest : List Token} {list : List α} (h : IsSequence written tokens list)
    (stops : rest.head?.any p = true) : (manyUntil p item).read (tokens ++ rest) = .done list rest := by
  refine many_back (fun {taken a rest} writes => ?_) (fun writes => ?_) h ?_
  · have read : item.read (taken ++ rest) = .done a rest := back writes
    obtain ⟨t, behind, rfl, no⟩ := heads writes
    refine bind_done.mpr ⟨false, _, next_done.mpr ⟨no, rfl⟩, ?_⟩
    exact bind_done.mpr ⟨a, _, read, rfl⟩
  · obtain ⟨t, behind, rfl, -⟩ := heads writes
    exact List.cons_ne_nil _ _
  · exact bind_done.mpr ⟨true, rest, next_done.mpr ⟨stops, rfl⟩, rfl⟩

/-- The row of a single variable is read back. -/
theorem shortRow_back {tokens rest : List Token} {row : List Cell} (h : IsShortRow tokens row) :
    shortRow.read (tokens ++ rest) = .done row rest := by
  cases h with
  | cell cell => exact bind_done.mpr ⟨_, _, cell_back cell, rfl⟩

/-- Cells are read back up to a closing bracket. -/
theorem cells_back {tokens rest : List Token} {closing : Token} {row : List Cell}
    (h : IsSequence IsCell tokens row) (closes : closing.isSymbol [")"] = true) :
    (manyUntil (·.isSymbol [")"]) cell).read (tokens ++ closing :: rest) = .done row (closing :: rest) :=
  manyUntil_back cell_back
    (fun cell => by
      obtain ⟨t, others, whole, no, -⟩ := cell.head
      exact ⟨t, others, whole, no⟩)
    h closes

/-- A row in brackets is read back. -/
theorem longRow_back {width : Nat} {tokens rest : List Token} {row : List Cell} (h : IsRow width tokens row) :
    (longRow width).read (tokens ++ rest) = .done row rest := by
  cases h with
  | @cells opening closing tokens row opens cells closes long =>
    rw [List.cons_append, List.append_assoc]
    refine bind_done.mpr ⟨_, _, require_done.mpr ⟨rfl, opens⟩, ?_⟩
    refine bind_done.mpr ⟨row, closing :: rest, cells_back cells closes, ?_⟩
    refine bind_done.mpr ⟨_, _, require_done.mpr ⟨rfl, closes⟩, ?_⟩
    rw [if_pos long]
    rfl

/-- Declared variables are read back up to a token that is none. -/
theorem names_back {vars rest : List Token} (areVars : ∀ var ∈ vars, var.kind = .var)
    (stops : rest.head?.any (·.kind = .var) = false) :
    names.read (vars ++ rest) = .done (vars.map Token.name) rest := by
  have sequence : IsSequence IsName vars (vars.map Token.name) := by
    induction vars with
    | nil => exact .nil
    | cons var vars ih =>
      rw [List.forall_mem_cons] at areVars
      have first : IsName [var] var.name := ⟨var, rfl, areVars.1, rfl⟩
      exact .cons first (ih areVars.2)
  refine many_back (fun {taken name rest} is => ?_) (fun is => ?_) sequence ?_
  · obtain ⟨var, rfl, isVar, rfl⟩ := is
    exact bind_done.mpr ⟨some var, _, accept?_some.mpr ⟨rfl, decide_eq_true isVar⟩, rfl⟩
  · obtain ⟨var, rfl, -, -⟩ := is
    exact List.cons_ne_nil _ _
  · exact bind_done.mpr ⟨none, _, accept?_none.mpr ⟨rfl, stops⟩, rfl⟩

/-- A header of variables in brackets is read back. -/
theorem longHeader_back {left right : Token} {vars rest : List Token} (isLeft : left.isSymbol ["("] = true)
    (areVars : ∀ var ∈ vars, var.kind = .var) (isRight : right.isSymbol [")"] = true) :
    valuesHeader.read (left :: (vars ++ right :: rest)) = .done (vars.map Token.name, longRow vars.length) rest := by
  have notVar : left.kind ≠ .var := by
    rw [kind_of_isSymbol isLeft]
    decide
  have notVar' : right.kind ≠ .var := by
    rw [kind_of_isSymbol isRight]
    decide
  refine bind_done.mpr ⟨none, _, accept?_none.mpr ⟨rfl, decide_eq_false notVar⟩, ?_⟩
  refine bind_done.mpr ⟨true, _, accept_true.mpr ⟨left, rfl, isLeft⟩, ?_⟩
  refine bind_done.mpr ⟨_, _, names_back areVars (decide_eq_false notVar'), ?_⟩
  refine bind_done.mpr ⟨_, _, require_done.mpr ⟨rfl, isRight⟩, ?_⟩
  rw [List.length_map]
  rfl

/-- What stands behind the header is read back. -/
theorem rows_back {written : List Token → List Cell → Prop} {row : Reader (List Cell)} {vars : List Text}
    {keyword opening closing : Token} {tokens rest : List Token} {rows : List (List Cell)}
    (back : ∀ {taken a rest}, written taken a → row.read (taken ++ rest) = .done a rest)
    (heads : ∀ {taken a}, written taken a → ∃ t others, taken = t :: others ∧ t.isSymbol ["\x7d"] = false)
    (opens : opening.isSymbol ["\x7b"] = true) (sequence : IsSequence written tokens rows)
    (closes : closing.isSymbol ["\x7d"] = true) :
    (do
      let _ ← symbol "\x7b"
      let rows ← manyUntil (·.isSymbol ["\x7d"]) row
      let closing ← symbol "\x7d"
      return (⟨vars, rows, ⟨keyword.position.offset, closing.stop⟩⟩ : Values) : Reader Values).read
        (opening :: (tokens ++ closing :: rest)) =
      .done ⟨vars, rows, ⟨keyword.position.offset, closing.stop⟩⟩ rest := by
  have rowsRead : (manyUntil (·.isSymbol ["\x7d"]) row).read (tokens ++ closing :: rest) =
      .done rows (closing :: rest) := manyUntil_back back heads sequence closes
  refine bind_done.mpr ⟨_, _, require_done.mpr ⟨rfl, opens⟩, ?_⟩
  refine bind_done.mpr ⟨_, _, rowsRead, ?_⟩
  exact bind_done.mpr ⟨_, _, require_done.mpr ⟨rfl, closes⟩, rfl⟩

/-- **A block is read back from its tokens**, whatever follows. -/
theorem valuesContent_back {tokens rest : List Token} {block : Values} (h : IsBlock tokens block) :
    valuesContent.read (tokens ++ rest) = .done block rest := by
  cases h with
  | @short keyword var opening closing tokens rows spells isVar opens sequence closes =>
    simp only [List.cons_append, List.append_assoc, List.nil_append]
    refine bind_done.mpr ⟨_, _, require_done.mpr ⟨rfl, spells⟩, ?_⟩
    refine bind_done.mpr ⟨([var.name], shortRow), opening :: (tokens ++ closing :: rest), ?_, ?_⟩
    · exact bind_done.mpr ⟨some var, _, accept?_some.mpr ⟨rfl, decide_eq_true isVar⟩, rfl⟩
    · refine rows_back shortRow_back (fun row => ?_) opens sequence closes
      cases row with
      | cell cell =>
        obtain ⟨t, others, whole, -, no⟩ := cell.head
        exact ⟨t, others, whole, no⟩
  | @long keyword left right opening closing vars tokens rows spells isLeft areVars isRight opens sequence closes =>
    simp only [List.cons_append, List.append_assoc, List.nil_append]
    refine bind_done.mpr ⟨_, _, require_done.mpr ⟨rfl, spells⟩, ?_⟩
    refine bind_done.mpr ⟨_, _, longHeader_back isLeft areVars isRight, ?_⟩
    exact rows_back longRow_back IsRow.head opens sequence closes

end Reader

/-! ## Blocks of alike tokens -/

section Alike

variable {α : Type} {tokens tokens' : List Token}

theorem forall₂_of_append {R : Token → Token → Prop} {first second out : List Token}
    (h : List.Forall₂ R (first ++ second) out) :
    ∃ taken later, out = taken ++ later ∧ List.Forall₂ R first taken ∧ List.Forall₂ R second later := by
  induction first generalizing out with
  | nil => exact ⟨[], out, rfl, .nil, h⟩
  | cons t first ih =>
    cases h with
    | cons like others =>
      obtain ⟨taken, later, rfl, firsts, seconds⟩ := ih others
      exact ⟨_ :: taken, later, rfl, .cons like firsts, seconds⟩

/-- Like tokens write the same cell. -/
theorem IsCell.alike {cell : Cell} (h : IsCell tokens cell) (like : List.Forall₂ Token.Alike tokens tokens') :
    IsCell tokens' cell := by
  cases h with
  | undef spells =>
    obtain _ | ⟨word, _ | _⟩ := like
    exact .undef ((Respects.spells _ word).trans spells)
  | resource is =>
    obtain _ | ⟨name, _ | _⟩ := like
    rw [← name.resource is]
    exact .resource ((Respects.isResource name).trans is)
  | literal is reads =>
    obtain _ | ⟨token, _ | _⟩ := like
    refine .literal (token.kind.trans is) ?_
    rwa [token.text (by rw [is]; decide) (by rw [is]; decide)]
  | signed isSign isNumber reads =>
    obtain _ | ⟨sign, _ | ⟨number, _ | _⟩⟩ := like
    refine .signed ((Respects.isSymbol _ sign).trans isSign) ((Respects.isNumeric number).trans isNumber) ?_
    have punctuation := Reader.kind_of_isSymbol isSign
    have literal := Reader.kind_of_isNumeric isNumber
    rwa [sign.text (by rw [punctuation]; decide) (by rw [punctuation]; decide),
      number.text (by rw [literal]; decide) (by rw [literal]; decide)]

/-- Like tokens write the same items. -/
theorem IsSequence.alike {written : List Token → α → Prop} {list : List α} (h : IsSequence written tokens list)
    (item : ∀ {taken taken' a}, written taken a → List.Forall₂ Token.Alike taken taken' → written taken' a)
    (like : List.Forall₂ Token.Alike tokens tokens') : IsSequence written tokens' list := by
  induction h generalizing tokens' with
  | nil =>
    cases like
    exact .nil
  | cons first _ ih =>
    obtain ⟨taken, later, rfl, firsts, seconds⟩ := forall₂_of_append like
    exact .cons (item first firsts) (ih seconds)

/-- Like tokens write the same row of a single variable. -/
theorem IsShortRow.alike {row : List Cell} (h : IsShortRow tokens row)
    (like : List.Forall₂ Token.Alike tokens tokens') : IsShortRow tokens' row := by
  cases h with
  | cell cell => exact .cell (cell.alike like)

/-- Like tokens write the same row in brackets. -/
theorem IsRow.alike {width : Nat} {row : List Cell} (h : IsRow width tokens row)
    (like : List.Forall₂ Token.Alike tokens tokens') : IsRow width tokens' row := by
  cases h with
  | cells opens cells closes long =>
    obtain _ | ⟨opening, inner⟩ := like
    obtain ⟨taken, _, rfl, inside, _ | ⟨closing, _ | _⟩⟩ := forall₂_of_append inner
    exact .cells ((Respects.isSymbol _ opening).trans opens) (cells.alike IsCell.alike inside)
      ((Respects.isSymbol _ closing).trans closes) long

/-- **Alike tokens write the same block**, but for its place. -/
theorem IsBlock.alike {block : Values} (h : IsBlock tokens block)
    (like : List.Forall₂ Token.Alike tokens tokens') :
    ∃ span, IsBlock tokens' ⟨block.vars, block.rows, span⟩ := by
  cases h with
  | short spells isVar opens rows closes =>
    obtain _ | ⟨keyword, _ | ⟨var, _ | ⟨opening, inner⟩⟩⟩ := like
    obtain ⟨taken, _, rfl, inside, _ | ⟨closing, _ | _⟩⟩ := forall₂_of_append inner
    rw [← var.name isVar]
    exact ⟨_, .short ((Respects.spells _ keyword).trans spells) (var.kind.trans isVar)
      ((Respects.isSymbol _ opening).trans opens) (rows.alike IsShortRow.alike inside)
      ((Respects.isSymbol _ closing).trans closes)⟩
  | @long _ _ _ _ _ vars _ _ spells isLeft areVars isRight opens rows closes =>
    obtain _ | ⟨keyword, _ | ⟨left, header⟩⟩ := like
    obtain ⟨vars', _, rfl, declared, _ | ⟨right, _ | ⟨opening, inner⟩⟩⟩ := forall₂_of_append header
    obtain ⟨taken, _, rfl, inside, _ | ⟨closing, _ | _⟩⟩ := forall₂_of_append inner
    have same : (∀ var ∈ vars', var.kind = .var) ∧ vars'.map Token.name = vars.map Token.name := by
      clear rows inside inner header
      induction declared with
      | nil => exact ⟨areVars, rfl⟩
      | cons var _ ih =>
        rw [List.forall_mem_cons] at areVars ⊢
        obtain ⟨kinds, names⟩ := ih areVars.2
        exact ⟨⟨var.kind.trans areVars.1, kinds⟩, by rw [List.map_cons, List.map_cons, names, var.name areVars.1]⟩
    rw [declared.length_eq] at rows
    rw [← same.2]
    exact ⟨_, .long ((Respects.spells _ keyword).trans spells) ((Respects.isSymbol _ left).trans isLeft) same.1
      ((Respects.isSymbol _ right).trans isRight) ((Respects.isSymbol _ opening).trans opens)
      (rows.alike IsRow.alike inside) ((Respects.isSymbol _ closing).trans closes)⟩

end Alike

namespace Reader

/-! ## Side by side -/

variable {L : Likeness}

theorem cell_tracks : Plain L Eq cell cell :=
  .accept? (.spells _) (fun _ => .pure rfl rfl)
    (.accept? .isResource (fun name => .pure rfl (congrArg Cell.resource (name.alike.resource name.2).symm))
      (.accept? (.isKind .literal)
        (fun literal => by
          have kind := of_decide_eq_true literal.2
          dsimp only
          rw [(literal.twin (by rw [kind]; decide) (by rw [kind]; decide)).text]
          exact .same (valued_tracks _) fun _ => .pure rfl rfl)
        (.same signedNumber?_tracks fun
          | some _ => .pure rfl rfl
          | none => refuse_tracks _)))

theorem Progress.cell : Progress (fun _ => True) Reader.cell :=
  .orElse (.orElse (.orElse (Progress.signedNumber?.bind fun
    | some _ => .inl rfl
    | none => .inr (.refuse _))))

theorem shortRow_tracks : Plain L Eq shortRow shortRow :=
  .same cell_tracks fun _ => .pure rfl rfl

theorem longRow_tracks (width : Nat) : Plain L Eq (longRow width) (longRow width) :=
  .symbol fun opening => .andThen (manyUntil_plain (.isSymbol _) cell_tracks .cell .cell) fun row =>
    .symbol fun _ => by
      obtain rfl := List.forall₂_eq_eq_eq ▸ row
      split
      · exact .pure rfl rfl
      · exact .stop fun _ => .rowLength _ _ (L.ahead_of_like opening)

theorem names_tracks : Plain L Eq names names := by
  have turns : Plain L (List.Forall₂ Eq) names names :=
    many_plain
      (.accept? (.isKind .var) (fun accepted => .pure rfl (.some accepted.name.symm)) (.pure rfl .none))
      (.orElse (.pure nofun)) (.orElse (.pure nofun))
  exact turns.mono fun same => List.forall₂_eq_eq_eq ▸ same

/-- Headers of the same variables, with one way to read rows. -/
structure SameHeader (L : Likeness) (header header' : List Text × Reader (List Cell)) : Prop where
  same : header' = header
  row : Plain L Eq header.2 header.2
  progress : Progress (fun _ => True) header.2

/-- The header of a block is read alike: the same names, in the same notation. -/
theorem valuesHeader_tracks : Plain L (SameHeader L) valuesHeader valuesHeader :=
  .accept? (.isKind .var)
    (fun accepted => .pure rfl ⟨by rw [accepted.name], shortRow_tracks, Progress.cell.of_first⟩)
    (.ifAccept (.isSymbol _)
      (.same names_tracks fun names => .symbol fun _ =>
        .pure rfl ⟨rfl, longRow_tracks names.length, Progress.require.of_first⟩)
      (refuse_tracks _))

/-- The content of a block has the same variables and rows in both runs. -/
theorem valuesContent_tracks :
    Plain L (fun b b' => b'.vars = b.vars ∧ b'.rows = b.rows) valuesContent valuesContent :=
  .word fun _ => .andThen valuesHeader_tracks fun header => by
    obtain ⟨rfl, row, progress⟩ := header
    exact .symbol fun _ => .andThen (manyUntil_plain (.isSymbol _) row progress progress) fun rows =>
      .symbol fun _ => .pure rfl ⟨rfl, (List.forall₂_eq_eq_eq ▸ rows).symm⟩

/-- **A block is read as the one that stands for it.** -/
theorem values_tracks : Tracks L [] (fun block => [block]) L.Stands values values := by
  intro tokens out rest' minded respells ahead
  have content := @valuesContent_tracks L tokens out rest'
  unfold TracksAt at content
  change Reading.Tracked L _ _ _ rest' (valuesContent.read tokens) (valuesContent.read (out ++ rest'))
  change (valuesContent.read tokens).Minded L at minded
  change Ahead L (valuesContent.read tokens).rest rest' at ahead
  unfold values asBlock at respells ⊢
  dsimp only at respells ⊢
  cases read : valuesContent.read tokens with
  | done block rest =>
    rw [read] at respells
    obtain ⟨block', stands⟩ := respells.of_block
    rw [valuesContent_back (L.writes stands)]
    exact .done rfl ⟨_, _, stands⟩
  | stopped fault rest =>
    rw [read] at respells minded ahead content
    have tracked := content minded respells ahead
    cases read' : valuesContent.read (out ++ rest') <;> rw [read'] at tracked <;> cases tracked
    exact .stopped ‹_›

/-- **A block of a query** stands in both runs or in neither. -/
theorem values?_tracks : Tracks L [] Option.toList (Option.Rel L.Stands) values? values? :=
  .ifNext (.spells _) (values_tracks.bind fun stands => .pure rfl (.some stands)) (.pure rfl .none)

end Reader

end QuerySignature
