import QuerySignature.Proofs.Outcome.Moved
import QuerySignature.Proofs.Outcome.Sequence
import QuerySignature.Proofs.Signature.Like
import QuerySignature.Proofs.Signature.Outputs
import QuerySignature.Proofs.Token.Enclosed
import QuerySignature.Signature.Parameters

/-!
# Proofs/Outcome/Enclosed — a selection inside a selection

A selection without declarations and datasets is read inside the braces of another as it is read alone, but for the
places of its tokens (`subSelect_of_read`).  So the selection of everything that it selects is read with one more
level of brackets, and has its outputs, its variable groups and its open blocks; only its slices are hidden
(`parse_enclosed`).
-/

namespace QuerySignature

namespace Reader

variable {depth : Option Inside} {tokens rest : List Token}

/-! ## The selection alone -/

/-- No item comes first where none is found. -/
theorem many_nil {α : Type} {item : Reader (Option α)}
    (empty : ∀ {tokens rest}, item.read tokens = .done none rest → tokens = rest)
    (read : (many item).read tokens = .done [] rest) : tokens = rest := by
  have writes : Writes (IsSequence fun _ _ => True) (many item) :=
    many_writes (fun read => ⟨_, (conserves_done read).symm, fun _ _ => trivial⟩) empty
  obtain ⟨taken, rfl, sequence⟩ := writes read
  cases sequence
  rfl

/-- Where there is no declaration, no token is taken. -/
theorem declaration?_none (read : declaration?.read tokens = .done none rest) : tokens = rest := by
  obtain ⟨base, _, accepted, chosen⟩ := bind_done.mp read
  cases base
  case true =>
    obtain ⟨_, _, -, gives⟩ := bind_done.mp chosen
    cases (pure_done.mp gives).1
  obtain ⟨rfl, -⟩ := accept_false.mp accepted
  obtain ⟨label, _, accepted, chosen⟩ := bind_done.mp chosen
  cases label
  case true =>
    obtain ⟨_, _, -, further⟩ := bind_done.mp chosen
    obtain ⟨_, _, -, gives⟩ := bind_done.mp further
    cases (pure_done.mp gives).1
  obtain ⟨rfl, -⟩ := accept_false.mp accepted
  exact (pure_done.mp chosen).2

/-- Without the keyword there is no dataset. -/
theorem datasets_done (plain : tokens.head?.any (·.spells ["FROM"]) = false)
    (read : datasets.read tokens = .done () rest) : tokens = rest := by
  have missed : (accept (·.spells ["FROM"])).read tokens = .done false tokens := accept_false.mpr ⟨rfl, plain⟩
  have none_ : datasets.read tokens = .done () tokens := by
    refine bind_done.mpr ⟨[], tokens, ?_, rfl⟩
    change (loopFrom _ tokens []).read tokens = _
    rw [loopFrom_eq]
    refine bind_done.mpr ⟨.stop, tokens, bind_done.mpr ⟨none, tokens, ?_, rfl⟩, rfl⟩
    exact bind_done.mpr ⟨false, tokens, missed, rfl⟩
  exact (Reading.done.inj (none_.symm.trans read)).2

/-- **A selection without datasets** is one that may stand inside a group. -/
theorem subSelect_of_selectBody {found : Query.Body} (read : (selectBody depth).read tokens = .done found rest)
    (plain : ∀ columns between, (selection depth).read tokens = .done columns between →
      between.head?.any (·.spells ["FROM"]) = false) :
    ∃ inner, (subSelect depth).read tokens = .done inner rest ∧
      found = .select inner.selection inner.group inner.modifiers inner.values := by
  obtain ⟨columns, between, selects, further⟩ := bind_done.mp read
  obtain ⟨_, _, named, further⟩ := bind_done.mp further
  obtain rfl := datasets_done (plain _ _ selects) named
  obtain ⟨pattern, _, matched, further⟩ := bind_done.mp further
  obtain ⟨modifiers, _, modified, further⟩ := bind_done.mp further
  obtain ⟨values, _, block, gives⟩ := bind_done.mp further
  obtain ⟨rfl, rfl⟩ := pure_done.mp gives
  exact ⟨⟨columns, pattern, modifiers, values⟩, bind_done.mpr ⟨_, _, selects, bind_done.mpr ⟨_, _, matched,
    bind_done.mpr ⟨_, _, modified, bind_done.mpr ⟨_, _, block, rfl⟩⟩⟩⟩, rfl⟩

/-- **A selection that is read** without declarations and datasets may stand inside a group. -/
theorem subSelect_of_query {found : Query} (read : (query depth).read tokens = .done found [])
    (select : found.form = "SELECT".toList) (undeclared : found.prologue = [])
    (plain : ∀ columns between, (selection depth).read tokens = .done columns between →
      between.head?.any (·.spells ["FROM"]) = false) :
    ∃ inner, (subSelect depth).read tokens = .done inner [] ∧
      found = ⟨[], .select inner.selection inner.group inner.modifiers inner.values⟩ := by
  obtain ⟨-, declarations, between, pair, declared, bodyRead, rfl⟩ := query_done read
  obtain ⟨rfl, -⟩ := List.append_eq_nil_iff.mp undeclared
  obtain rfl := many_nil declaration?_none declared
  obtain ⟨body, selects, rfl⟩ := body_select bodyRead fun _ => select
  obtain ⟨inner, innerRead, rfl⟩ := subSelect_of_selectBody selects plain
  exact ⟨inner, innerRead, rfl⟩

/-! ## The selection inside another -/

/-- A selection starts with its keyword. -/
theorem subSelect_starts {inner : SubSelect} (read : (subSelect depth).read tokens = .done inner rest) :
    tokens.head?.any (·.spells ["SELECT"]) = true := by
  obtain ⟨_, _, selects, -⟩ := bind_done.mp read
  obtain ⟨keyword, _, required, -⟩ := bind_done.mp selects
  obtain ⟨rfl, spells⟩ := require_done.mp required
  exact spells

/-- **Between the braces of a selection of everything** a selection is read as it is alone. -/
theorem query_enclosed {brackets : Nat} {inner : SubSelect} (position : Position)
    (read : (subSelect (inside brackets)).read tokens = .done inner []) :
    (query (inside (brackets + 1))).read
        (Piece.placed .start Piece.opening ++ (tokens ++ [⟨.punctuation, ['\x7d'], position⟩])) =
      .done ⟨[], .select ⟨.everything, .kept⟩ (.selection inner) .empty none⟩ [] := by
  let closes : Token := ⟨.punctuation, ['\x7d'], position⟩
  have ends : closes.isSymbol endMarks = true := rfl
  have hd : DepthTracks Likeness.same.lenient (inside brackets) (inside brackets) := inside_tracks (.inl rfl)
  -- in front of the brace the selection ends as at the end of the tokens
  have selected := Bounded.subSelect ends hd [] read
  have content_ : (content (inside brackets)).read (tokens ++ [closes]) = .done (.selection inner) [closes] :=
    bind_done.mpr ⟨true, _, next_done.mpr ⟨subSelect_starts selected, rfl⟩, bind_done.mpr ⟨_, _, selected, rfl⟩⟩
  have group_ (opens : Token) (is : opens.isSymbol ["\x7b"] = true) :
      (group (inside (brackets + 1))).read (opens :: (tokens ++ [closes])) = .done (.selection inner) [] :=
    bind_done.mpr ⟨opens, _, require_done.mpr ⟨rfl, is⟩,
      bind_done.mpr ⟨_, _, rfl, bind_done.mpr ⟨_, _, content_, rfl⟩⟩⟩
  have body_ : (selectBody (inside (brackets + 1))).read (Piece.placed .start Piece.opening ++ (tokens ++ [closes])) =
      .done (.select ⟨.everything, .kept⟩ (.selection inner) .empty none) [] :=
    bind_done.mpr ⟨_, _, rfl, bind_done.mpr ⟨_, _, rfl, bind_done.mpr ⟨_, _,
      bind_done.mpr ⟨_, _, rfl, group_ _ rfl⟩, rfl⟩⟩⟩
  exact bind_done.mpr ⟨[], _, rfl, bind_done.mpr ⟨_, _,
    bind_done.mpr ⟨true, _, rfl, bind_done.mpr ⟨_, _, body_, rfl⟩⟩, rfl⟩⟩

/-- A selection is read elsewhere as it is here, but for the places of its blocks. -/
theorem subSelect_moved {brackets : Nat} {inner : SubSelect} {tokens' : List Token}
    (read : (subSelect (inside brackets)).read tokens = .done inner [])
    (moved : List.Forall₂ Token.Moved tokens tokens') :
    ∃ inner', (subSelect (inside brackets)).read tokens' = .done inner' [] ∧ inner.Like .moved inner' := by
  have hd : DepthTracks Likeness.moved.lenient (inside brackets) (inside brackets) := inside_tracks (.inl rfl)
  have taken := conserves_done read
  rw [List.append_nil] at taken
  have respells := respells_moved ((subSelect (inside brackets)).sound tokens) (taken.symm ▸ moved)
  obtain ⟨inner', read', like, -⟩ := (subSelect_tracks hd).done read respells .nil
  rw [List.append_nil] at read'
  exact ⟨inner', read', like⟩

end Reader

/-! ## The signature of both -/

/-- Variable groups and open blocks do not depend on places. -/
theorem groups_of_unplaced {list list' : List Values} (h : list'.map Values.unplaced = list.map Values.unplaced) :
    list'.map Values.group = list.map Values.group ∧
      (list'.filter Values.isOpen).map Values.group = (list.filter Values.isOpen).map Values.group := by
  have all (list : List Values) : list.map Values.group = (list.map Values.unplaced).map Values.group := by
    rw [List.map_map]
    rfl
  have opened (list : List Values) : (list.filter Values.isOpen).map Values.group =
      ((list.map Values.unplaced).filter Values.isOpen).map Values.group := by
    rw [List.filter_map, List.map_map]
    rfl
  rw [all, all list, opened, opened list, h]
  exact ⟨rfl, rfl⟩

theorem unplaced_of_stands {list list' : List Values} (h : List.Forall₂ Likeness.moved.Stands list list') :
    list'.map Values.unplaced = list.map Values.unplaced := by
  induction h with
  | nil => rfl
  | cons first _ ih => exact congrArg₂ List.cons (Likeness.moved_faithful.stands first) ih

theorem SubSelect.blocks_eq (inner : SubSelect) : inner.blocks = inner.group.blocks ++ inner.values.toList := by
  obtain ⟨_, _, _, _⟩ := inner
  rfl

/-- **A star around a selection** has its outputs, its variable groups and its open blocks, and no slices. -/
theorem signature_enclosed {inner inner' : SubSelect} (like : inner.Like .moved inner') :
    let alone : Query := ⟨[], .select inner.selection inner.group inner.modifiers inner.values⟩
    let around : Query := ⟨[], .select ⟨.everything, .kept⟩ (.selection inner') .empty none⟩
    around.outputs = alone.outputs ∧ around.variableGroups = alone.variableGroups ∧
      around.parameters = ⟨alone.parameters.groups, [], []⟩ := by
  intro alone around
  have blocks : around.blocks.map Values.unplaced = alone.blocks.map Values.unplaced := by
    have inside : around.blocks = inner'.blocks := by
      change inner'.blocks ++ [] ++ [] = inner'.blocks
      rw [List.append_nil, List.append_nil]
    have whole : alone.blocks = inner.blocks := (List.append_nil _).trans inner.blocks_eq.symm
    rw [inside, whole]
    exact unplaced_of_stands (SubSelect.blocks_of_like inner inner' like)
  obtain ⟨groups, opened⟩ := groups_of_unplaced blocks
  refine ⟨?_, groups, congrArg (Parameters.mk · [] []) opened⟩
  have same : inner'.outputs = alone.outputs := (SubSelect.outputs_of_like inner inner' like).trans inner.outputs_eq
  change addNames [] inner'.outputs = alone.outputs
  rw [same, addNames_nil alone.nodup_outputs]

/-! ## Texts -/

/-- **The text names a dataset**: `FROM` follows what it selects. -/
def namesDataset (limits : Limits) (text : Text) : Bool :=
  match tokenize limits text with
  | .error _ => false
  | .ok tokens =>
    match (Reader.selection (Reader.inside limits.maxDepth)).read (Token.beforeEnd tokens).1 with
    | .done _ rest => rest.head?.any (·.spells ["FROM"])
    | .stopped .. => false

/-- **A selection inside a selection**: what a text without declarations and datasets selects is selected by the
selection of everything around it, which is read if the limits admit its length, its tokens and one more level of
brackets.  Its outputs, its variable groups and its open blocks are those of the text; it has no slices. -/
theorem parse_enclosed {limits limits' : Limits} {text : Text} {query : Query} (parsed : parse limits text = .ok query)
    (select : query.form = "SELECT".toList) (undeclared : query.prologue = [])
    (plain : namesDataset limits text = false) (deeper : limits'.maxDepth = limits.maxDepth + 1)
    (free : ∀ reached value maximum position,
      tokenize limits' text.enclosed ≠ .error (.ceiling reached value maximum position)) :
    ∃ around, parse limits' text.enclosed = .ok around ∧ around.outputs = query.outputs ∧
      around.variableGroups = query.variableGroups ∧ around.parameters = ⟨query.parameters.groups, [], []⟩ := by
  obtain ⟨short, pieces, cut, rfl, few, read⟩ := parse_eq_ok.mp parsed
  have named : ∀ columns between,
      (Reader.selection (Reader.inside limits.maxDepth)).read (Piece.placed .start pieces) = .done columns between →
        between.head?.any (·.spells ["FROM"]) = false := by
    intro columns between selects
    unfold namesDataset at plain
    rw [tokenize_eq_ok.mpr ⟨short, pieces, cut, rfl, few, rfl⟩] at plain
    dsimp only at plain
    rw [beforeEnd_placed cut, selects] at plain
    exact plain
  obtain ⟨inner, innerRead, rfl⟩ := Reader.subSelect_of_query read select undeclared named
  obtain ⟨position, position', tokens⟩ := placed_enclosed pieces
  obtain ⟨inner', innerRead', like⟩ := Reader.subSelect_moved innerRead (placed_moved .start position pieces)
  have around := Reader.query_enclosed position' innerRead'
  rw [← tokens, ← deeper] at around
  have cut' := cut.enclosed
  rw [← Piece.written_enclosed] at free ⊢
  have tokenized := tokenize_of_isCut cut' free
  obtain ⟨short', -⟩ := tokenize_eq_ok.mp tokenized
  obtain ⟨few', -⟩ := tokens_of_isCut cut' tokenized
  exact ⟨_, parse_eq_ok.mpr ⟨short', _, cut', rfl, few', around⟩, signature_enclosed like⟩

/-- A selection with a slot and a comment at its end, inside another. -/
theorem parse_enclosed_slot :
    let text : Text := "SELECT ?x \x7b VALUES ?x \x7b UNDEF \x7d \x7d LIMIT 0001 #".toList
    let deeper : Limits := { maxDepth := 201, maxInputLength := 70, maxTokens := 16 }
    namesDataset .standard text = false ∧
      ∃ around, parse deeper text.enclosed = .ok around ∧ around.outputs = [['x']] ∧
        around.variableGroups = [[['x']]] ∧ around.parameters = ⟨[[['x']]], [], []⟩ := by
  intro text deeper
  let block : Values := ⟨[['x']], [[.undef]], ⟨12, 31⟩⟩
  let limit : Slice := ⟨"LIMIT".toList, "0001".toList, 1⟩
  have parsed : parse .standard text = .ok ⟨[], .select ⟨.listed [.var ['x']], .kept⟩ (.pattern [.values block])
      ⟨[], [], [], some limit, none⟩ none⟩ := rfl
  have plain : namesDataset .standard text = false := rfl
  have admitted : (tokenize deeper (Text.enclosed text)).toOption.isSome = true := by decide +kernel
  obtain ⟨around, read, outputs, groups, parameters⟩ :=
    parse_enclosed parsed rfl rfl plain (show deeper.maxDepth = Limits.standard.maxDepth + 1 from rfl)
      fun _ _ _ _ full => by rw [full] at admitted; cases admitted
  exact ⟨plain, around, read, outputs, groups, parameters⟩

end QuerySignature
