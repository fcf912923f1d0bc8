import QuerySignature.Proofs.Reading.Groups
import QuerySignature.Proofs.Spaced.Expressions

/-!
# Proofs/Spaced/Groups — clauses and groups between spaces

Every constraint and condition stands behind a keyword or behind another one of its clause, and these end with a symbol or
a variable (`Ends`); so no truth value is called there, and a clause is the same between spaces.  From clauses, patterns
and triples follows what can be read inside any bracket (`inside_kept`).
-/

namespace QuerySignature.Reader

variable {tail : Tail} {α β : Type} {g : β → β} {depth : Option Inside} {named : Bool}

/-! ## What conditions end with -/

namespace Ends

theorem accept {p : Token → Bool} (plain : ∀ token, p token = true → token.isPlain = true) :
    Ends (· = true) (Reader.accept p) :=
  .orElse plain (fun _ => .pure) (.pure nofun)

/-- A choice between two ways to end. -/
theorem either {Q : β → Prop} {R : Reader Bool} {M : Bool → Reader β} (yes : Ends Q (M true)) (no : Ends Q (M false)) :
    Ends Q (R >>= M) :=
  bind (Bool.forall_bool.mpr ⟨no, yes⟩)

/-- A value made of what is read. -/
theorem map {h : α → β} {P : β → Prop} {R : Reader α} (ends : Ends (fun _ => True) R) : Ends P (do return h (← R)) :=
  before ends fun _ => .pure

theorem keywordBy (keyword : String) : Ends (· = true) (Reader.keywordBy keyword) :=
  either (before (word _) fun _ => .pure) (pure nofun)

theorem group {P : Group → Prop} : Ends P (Reader.group depth) :=
  bind fun _ => bind fun _ => bind fun _ => before (close _) fun _ => .pure

theorem existsTest : Ends (fun _ => True) (Reader.existsTest depth) :=
  before (taking (bind fun _ => bind fun _ => group)) fun _ => .pure

theorem functionCall : Ends (fun _ => True) (Reader.functionCall depth) :=
  bind fun _ => bind fun _ => bind fun _ => before (symbol _) fun _ => .pure

theorem constraint : Ends (fun _ => True) (Reader.constraint depth) :=
  either (bind fun _ => before (symbol _) fun _ => .pure) (either (map existsTest) (either functionCall refuse))

theorem constraint? : Ends Found (Reader.constraint? depth) := either (map constraint) (pure nofun)

theorem groupCondition? : Ends Found (Reader.groupCondition? depth) :=
  .orElse isPlain_of_var (fun _ => .pure) <| either
    (bind fun _ => either (bind fun _ => before (symbol _) fun _ => .pure) (before (symbol _) fun _ => .pure))
    (either (map functionCall) (pure nofun))

theorem orderKey? : Ends Found (Reader.orderKey? depth) :=
  bind fun
    | some _ => bind fun _ => bind fun _ => before (symbol _) fun _ => .pure
    | none => .orElse isPlain_of_var (fun _ => .pure) (either (map constraint) (pure nofun))

end Ends

/-! ## Clauses -/

/-- Items that end with a keyword, a variable or a symbol, where no truth value is called. -/
theorem KeptFair.many {item : Reader (Option α)} (progress : Progress Found item) (ends : Ends Found item)
    (h : KeptFair tail item) : KeptFair tail (Reader.many item) := by
  intro front calls fair
  have kept : KeptAt tail (List.map id) (Reader.many item) (Reader.many item) front :=
    .many (S := fun front => Calls front ∧ Fair front) progress (fun start => by
        rw [Option.map_id_fun]
        exact h start.1 start.2)
      (fun start read => ⟨calls_behind start.1 read, fair_of_ends ends start.1 read rfl⟩) ⟨calls, fair⟩
  rwa [List.map_id_fun] at kept

/-- **A clause is the same**, behind its keyword. -/
theorem Kept.clause {keyword : Reader Bool} {missing : Expected} {item : Reader (Option α)}
    (keywordEnds : Ends (· = true) keyword) (first : Kept tail keyword) (progress : Progress Found item)
    (ends : Ends Found item) (h : KeptFair tail item) : Kept tail (Reader.clause keyword missing item) := by
  refine KeepsFair.behind keywordEnds first (fun took holds => ?_) fun took other => ?_
  · subst holds
    refine .bind (.many progress ends h) fun list => ?_
    split
    · exact Keeps.refuse
    · exact pure
  · obtain rfl := (Bool.not_eq_true _).mp other
    exact pure

theorem Kept.keywordBy {keyword : String} (free : ∀ word ∈ ["TRUE", "FALSE"], word.toList ∉ [keyword.toList]) :
    Kept tail (Reader.keywordBy keyword) :=
  .ifAccept (.spells free) (bind (require (.spells (by decide))) fun _ => pure) pure

theorem Kept.slice? {keyword : String} (free : ∀ word ∈ ["TRUE", "FALSE"], word.toList ∉ [keyword.toList]) :
    Kept tail (Reader.slice? keyword) :=
  .orElse (.spells free) (fun _ => bind (require Blind.isDigits) fun number => by
    split
    · exact pure
    · exact Keeps.stop) pure

theorem Kept.slices : Kept tail Reader.slices :=
  bind (slice? (by decide)) fun
    | some _ => bind (slice? (by decide)) fun _ => pure
    | none => bind (slice? (by decide)) fun
      | some _ => bind (slice? (by decide)) fun _ => pure
      | none => pure

theorem Kept.duplicates : Kept tail Reader.duplicates :=
  .ifAccept (.spells (by decide)) pure (.ifAccept (.spells (by decide)) pure pure)

section Depth

variable (hd : DepthKept tail depth)
include hd

/-- **Solution modifiers are the same.** -/
theorem Kept.modifiers : Kept tail (Reader.modifiers depth) :=
  bind (clause (.keywordBy _) (keywordBy (by decide)) .groupCondition? .groupCondition? (.groupCondition? hd)) fun _ =>
    bind (clause (.accept isPlain_of_spells) (accept (.spells (by decide))) .constraint? .constraint? (.constraint? hd))
      fun _ => bind (clause (.keywordBy _) (keywordBy (by decide)) .orderKey? .orderKey? (.orderKey? hd)) fun _ =>
        bind slices fun _ => pure

/-! ## Selections -/

theorem Kept.projection? : Kept tail (Reader.projection? depth) :=
  .orElse (.isKind (by decide) (by decide)) (fun _ => pure)
    (.ifAccept (.isSymbol _) (bind (namedExpression hd) fun _ => pure) pure)

theorem Kept.selection : Kept tail (Reader.selection depth) :=
  bind (require (.spells (by decide))) fun _ => bind duplicates fun _ => .ifAccept (.isSymbol _) pure
    (bind (many .projection? (within (projection? hd))) fun list => by
      split
      · exact Keeps.refuse
      · exact pure)

theorem Kept.whereGroup : Kept tail (Reader.whereGroup depth) :=
  bind (accept (.spells (by decide))) fun _ => group hd

theorem Kept.subSelect : Kept tail (Reader.subSelect depth) :=
  bind (selection hd) fun _ => bind (whereGroup hd) fun _ => bind (modifiers hd) fun _ => bind values? fun _ => pure

/-! ## Patterns -/

theorem Kept.alternatives : Kept tail (Reader.alternatives depth) :=
  bind (group hd) fun _ =>
    bind (many (.orElse' (.pure nofun)) (.ifAccept (.spells (by decide)) (bind (group hd) fun _ => pure) pure))
      fun others => by cases others <;> exact pure

/-- **A pattern is the same.** -/
theorem Kept.pattern : Kept tail (Reader.pattern depth) := by
  have group {make : Group → Element} : Kept tail (do return make (← Reader.group depth)) :=
    bind (group hd) fun _ => pure
  refine .ifNext (Blind.isSymbol _).same (alternatives hd) <| .ifAccept (.spells (by decide)) group <|
    .ifAccept (.spells (by decide)) group <| .ifAccept (.spells (by decide)) (bind target fun _ => group) <|
    .ifAccept (.spells (by decide)) (bind (accept (.spells (by decide))) fun _ => bind target fun _ => group) ?_
  -- behind the keyword of a filter no truth value is called
  refine KeepsFair.behind (.accept isPlain_of_spells) (accept (.spells (by decide))) (fun took holds => ?_) fun took other => ?_
  · subst holds
    exact .bind (.constraint hd) fun _ => pure
  · obtain rfl := (Bool.not_eq_true _).mp other
    exact .ifAccept (.spells (by decide)) (bind (symbol _) fun _ => bind (namedExpression hd) fun _ => pure)
      (bind values fun _ => pure)

end Depth

/-! ## Elements -/

theorem Blind.startsPattern : Blind startsPattern := .or (.isSymbol _) (.spells (by decide))

/-- **Where a node starts, one starts between spaces.** -/
theorem startsNode_spaced {front back : List Token}
    (starts : startsNode.read (tail.source front) = .done true (tail.source back)) :
    startsNode.read (tail.spaced front) = .done true (tail.spaced back) := by
  obtain ⟨here, between, ahead, further⟩ := bind_done.mp starts
  obtain ⟨is, rfl⟩ := next_done.mp ahead
  cases here with
  | true =>
    obtain ⟨-, whole⟩ := pure_done.mp further
    obtain rfl := Tail.front_inj whole
    refine bind_done.mpr ⟨true, _, next_done.mpr ⟨?_, rfl⟩, rfl⟩
    cases front with
    | nil => exact is
    | cons token front =>
      have holds : (isAtom token || token.isSymbol ["[", "("]) = true := is
      have other : token.isTruth = false := Bool.eq_false_iff.mpr fun truth => by
        have bracket : token.isSymbol ["[", "("] = false := (Blind.isSymbol _ truth).1
        rw [isAtom_of_isTruth truth, bracket] at holds
        cases holds
      change (isAtom token.apart || token.apart.isSymbol ["[", "("]) = true
      rwa [Token.apart_of_not other]
  | false =>
    obtain ⟨holds, whole⟩ := Reading.done.inj further
    obtain rfl := Tail.front_inj whole
    refine bind_done.mpr ⟨_, _, next_read _ _, ?_⟩
    split
    · rfl
    · exact congrArg (Reading.done · _)
        ((Kept.any_two (.isSymbol _) .isNumeric (NotClosing.isSymbol (by decide)) front).trans holds)

theorem Still.startsNode : Still Reader.startsNode := .bind .next (Bool.forall_bool.mpr ⟨.nextTwo, .pure⟩)

/-- A choice by whether a node starts, where nothing is read if none does. -/
theorem Keeps.ifNode {M M' : Bool → Reader β} (no : ∀ tokens rest b, (M false).read tokens ≠ .done b rest)
    (yes : Keeps tail g (M true) (M' true)) :
    Keeps tail g (Reader.startsNode >>= M) (Reader.startsNode >>= M') := by
  intro front calls back b read
  obtain ⟨took, between, starts, further⟩ := bind_done.mp read
  obtain rfl := Still.startsNode starts
  cases took with
  | false => exact absurd further (no _ _ _)
  | true => exact bind_done.mpr ⟨true, _, startsNode_spaced starts, yes calls further⟩

section Depth

variable (hd : DepthKept tail depth)
include hd

theorem Kept.elements : Kept tail (Reader.elements depth) := by
  refine .ifNext (Blind.isSymbol _).same pure <| .ifNext Blind.startsPattern.same
    (bind (pattern hd) fun _ => bind (accept (.isSymbol _)) fun _ => pure) <| .ifNode ?_ ?_
  · intro tokens rest b read
    obtain ⟨_, _, -, refused⟩ := bind_done.mp read
    exact refuse_done.mp refused
  · exact bind (triples hd) fun _ => .ifAccept (.isSymbol _) pure (.ifNext Blind.startsPattern.same pure pure)

theorem Kept.content : Kept tail (Reader.content depth) :=
  .ifNext (Blind.spells (by decide)).same (bind (subSelect hd) fun _ => pure)
    (bind (loop (.elements nofun) (elements hd)) fun _ => pure)

end Depth

/-- **Whatever can be read inside brackets is the same between spaces.** -/
theorem inside_kept (brackets : Nat) : DepthKept tail (inside brackets) := by
  induction brackets with
  | zero => exact nofun
  | succ brackets ih =>
    rintro inner same
    obtain rfl := Option.some.inj same
    exact ⟨.path ih, .node ih, .node, .properties ih, .brackets ih, .content ih⟩

end QuerySignature.Reader
