import QuerySignature.Proofs.Reading.Nesting
import QuerySignature.Reading.Triples

/-!
# Proofs/Reading/Terms — terms, paths and triples side by side

Over like tokens the readers of terms, paths and triples come to the very same values, for a value keeps
nothing of a token but what likeness keeps.  A path is kept as its tokens, which have the same texts.
-/

namespace QuerySignature.Reader

variable {L : Likeness} {p : Token → Bool} {t t' : Token}

/-! ## What a token names -/

/-- A resource is an IRI or a prefixed name. -/
theorem kind_of_isResource (h : t.isResource = true) : t.kind = .iri ∨ t.kind = .prefixedName := by
  rcases (Bool.or_eq_true _ _).mp h with iri | name
  · exact .inl (of_decide_eq_true iri)
  · exact .inr (of_decide_eq_true ((Bool.and_eq_true _ _).mp name).1)

/-- A number is a literal. -/
theorem kind_of_isNumeric (h : t.isNumeric = true) : t.kind = .literal :=
  of_decide_eq_true ((Bool.and_eq_true _ _).mp h).1

/-- Variables that are taken for each other have one name. -/
theorem Accepted.name (h : Accepted L (·.kind = .var) t t') : t'.name = t.name :=
  h.alike.name (of_decide_eq_true h.2)

/-! ## Terms -/

/-- A resource is kept as its name, which is the same in both runs. -/
theorem resource_tracks : Plain L Eq resource resource :=
  .require .isResource fun accepted => .pure rfl (accepted.alike.resource accepted.2).symm

/-- An IRI is kept without its brackets. -/
theorem iri_tracks : Plain L Eq iri iri :=
  .require (.isKind .iri) fun accepted => .pure rfl (by
    have kind := of_decide_eq_true accepted.2
    rw [(accepted.twin (by rw [kind]; decide) (by rw [kind]; decide)).text])

/-- A variable is kept without the mark in front of its name. -/
theorem variableName_tracks : Plain L Eq variableName variableName :=
  .require (.isKind .var) fun accepted => .pure rfl accepted.name.symm

/-- A target is a variable or else a resource. -/
theorem target_tracks : Plain L Eq target target :=
  .accept? (.isKind .var) (fun accepted => .pure rfl (congrArg Target.var accepted.name.symm))
    (.same resource_tracks fun _ => .pure rfl rfl)

/-- No number is a mark that ends a run. -/
theorem notEnding_isNumeric : NotEnding Token.isNumeric := by
  intro token ends
  unfold Token.isNumeric
  rw [kind_of_isSymbol ends]
  rfl

/-- A sign and a number are taken together or not at all, and like signs have one text. -/
theorem signedNumber?_tracks : Plain L Eq signedNumber? signedNumber? :=
  .acceptTwo? (.isSymbol _) .isNumeric (notAlone_isSymbol (by decide)) notEnding_isNumeric
    (fun sign number => by
      have kind := kind_of_isNumeric number.2
      dsimp only
      rw [sign.symbol.text, (number.twin (by rw [kind]; decide) (by rw [kind]; decide)).text]
      exact .same (valued_tracks _) fun _ => .pure rfl rfl)
    (.pure rfl rfl)

/-- What is an atom, a like token is. -/
theorem isAtom_respects : Respects isAtom :=
  (((Respects.isKind .var).or (.isKind .iri)).or (.isKind .prefixedName)).or (.isKind .literal)

/-- An atom is of one of four kinds; blank labels are prefixed names. -/
theorem kind_of_isAtom (h : isAtom t = true) :
    t.kind = .var ∨ t.kind = .iri ∨ t.kind = .prefixedName ∨ t.kind = .literal := by
  unfold isAtom at h
  simpa only [Bool.or_eq_true, decide_eq_true_eq, or_assoc] using h

/-- **Like atoms stand for one node.** -/
theorem atom_tracks (h : Accepted L isAtom t t') : Plain L Eq (atom t) (atom t') := by
  have resource (twin : Twin L t t') : Node.resource t.resource = Node.resource t'.resource := by
    rw [Token.resource, Token.resource, h.alike.kind, twin.text]
  unfold atom
  rw [h.alike.kind]
  rcases kind_of_isAtom h.2 with kind | kind | kind | kind
  · rw [kind]
    exact .pure rfl (congrArg Node.var (h.alike.name kind).symm)
  · have twin := h.twin (by rw [kind]; decide) (by rw [kind]; decide)
    rw [kind]
    exact .pure rfl (resource twin)
  · have twin := h.twin (by rw [kind]; decide) (by rw [kind]; decide)
    rw [kind]
    unfold Token.hasBlankMark
    rw [twin.text]
    by_cases blank : ['_', ':'].isPrefixOf t.text = true
    · rw [if_pos blank, if_pos blank]
      exact .pure rfl rfl
    · rw [if_neg blank, if_neg blank]
      exact .pure rfl (resource twin)
  · have twin := h.twin (by rw [kind]; decide) (by rw [kind]; decide)
    rw [kind, twin.text]
    exact .same (valued_tracks _) fun _ => .pure rfl rfl

/-- A term is an atom or a signed number. -/
theorem term_tracks : Plain L Eq term term :=
  .accept? isAtom_respects (fun accepted => atom_tracks accepted)
    (.same signedNumber?_tracks fun
      | some _ => .pure rfl rfl
      | none => refuse_tracks _)

/-- A signed number that is found has taken its tokens. -/
theorem Progress.signedNumber? : Progress (fun found => found.isSome = true) Reader.signedNumber? :=
  Progress.acceptTwo?.bind fun
    | some _ => .inl rfl
    | none => .inr (.pure nofun)

/-- A term takes a token. -/
theorem Progress.term : Progress (fun _ => True) Reader.term :=
  .orElse (Progress.signedNumber?.bind fun
    | some _ => .inl rfl
    | none => .inr (.refuse _))

/-! ## Paths -/

/-- What is a step of a path, a like token is. -/
theorem isStep_respects : Respects isStep :=
  .or .isResource (.spells _)

/-- Steps that are taken for each other have one text. -/
theorem Accepted.step (h : Accepted L isStep t t') : Twin L t t' := by
  rcases (Bool.or_eq_true _ _).mp h.2 with resource | word
  · rcases kind_of_isResource resource with kind | kind <;>
      exact h.twin (by rw [kind]; decide) (by rw [kind]; decide)
  · have word' : t'.spells ["a"] = true := (Respects.spells _ h.alike).trans word
    exact ⟨h.1, (Token.text_of_spells_a word').trans (Token.text_of_spells_a word).symm⟩

/-- A step is kept as its token. -/
theorem step_tracks : Plain L (Twin L) step step :=
  (require_tracks isStep_respects).mono fun accepted => accepted.step

/-- Tokens of one text, one for one. -/
abbrev Twins (L : Likeness) : List Token → List Token → Prop :=
  List.Forall₂ (Twin L)

/-- A symbol that may be missing is kept where it is there. -/
theorem optionalSymbol_tracks (symbols : List String) :
    Plain L (Twins L) (optionalSymbol symbols) (optionalSymbol symbols) :=
  .accept? (.isSymbol _) (fun accepted => .pure rfl (.cons accepted.symbol .nil)) (.pure rfl .nil)

/-- Items with marks between them are kept with the marks. -/
theorem separated_tracks {mark : String} {item item' : Reader (List Token)}
    (h : Plain L (Twins L) item item') : Plain L (Twins L) (separated mark item) (separated mark item') :=
  .andThen h fun first =>
    .andThen (many_plain (V := Twins L)
      (.accept? (.isSymbol _) (fun accepted => .andThen h fun item => .pure rfl (.some (.cons accepted.symbol item)))
        (.pure rfl .none))
      (.orElse (.pure nofun)) (.orElse (.pure nofun)))
      fun others => .pure rfl (List.rel_append first (List.rel_flatten others))

/-- A step may have a caret in front. -/
theorem inverseStep_tracks : Plain L (Twins L) inverseStep inverseStep :=
  .andThen (optionalSymbol_tracks _) fun inverse => .andThen step_tracks fun step =>
    .pure rfl (List.rel_append inverse (.cons step .nil))

section Depth

variable {depth depth' : Option Inside}

/-- A negated set is one step, or some between brackets. -/
theorem negatedSet_tracks (hd : DepthTracks L.lenient depth depth') :
    Plain L (Twins L) (negatedSet depth) (negatedSet depth') :=
  .open? hd
    (fun opening _ => .accept? (.isSymbol _)
      (fun closing => .same (.shift _ _) fun _ => .pure rfl (.cons opening (.cons closing.symbol .nil)))
      (.andThen (separated_tracks inverseStep_tracks) fun steps =>
        .close fun closing =>
          .pure rfl (List.rel_append (.cons opening steps) (.cons closing.symbol .nil))))
    inverseStep_tracks

/-- A bracket in a path is one level of nesting. -/
theorem pathPrimary_tracks (hd : DepthTracks L.lenient depth depth') :
    Plain L (Twins L) (pathPrimary depth) (pathPrimary depth') :=
  .open? hd
    (fun opening inner => .andThen inner.path fun path => .close fun closing =>
      .pure rfl (List.rel_append (.cons opening path) (.cons closing.symbol .nil)))
    (.accept? (.isSymbol _)
      (fun negation => .andThen (negatedSet_tracks hd) fun set => .pure rfl (.cons negation.symbol set))
      (.andThen step_tracks fun step => .pure rfl (.cons step .nil)))

/-- In an element of a path a caret may stand in front, and a modifier behind. -/
theorem pathElement_tracks (hd : DepthTracks L.lenient depth depth') :
    Plain L (Twins L) (pathElement depth) (pathElement depth') :=
  .andThen (optionalSymbol_tracks _) fun inverse => .andThen (pathPrimary_tracks hd) fun primary =>
    .andThen (optionalSymbol_tracks _) fun repetition =>
      .pure rfl (List.rel_append (List.rel_append inverse primary) repetition)

/-- **A path is kept as its tokens**, which have the same texts in both runs. -/
theorem path_tracks (hd : DepthTracks L.lenient depth depth') : Plain L (Twins L) (path depth) (path depth') :=
  separated_tracks (separated_tracks (pathElement_tracks hd))

/-- What starts a verb, a like token starts. -/
theorem startsVerb_respects : Respects startsVerb :=
  .or (.or (.isKind .var) isStep_respects) (.isSymbol _)

/-- The texts of both runs are one, so a path is written in one way. -/
theorem text_of_twins {tokens tokens' : List Token} (h : Twins L tokens tokens') :
    tokens'.flatMap Token.text = tokens.flatMap Token.text := by
  induction h with
  | nil => rfl
  | cons twin _ ih => rw [List.flatMap_cons, List.flatMap_cons, twin.text, ih]

/-- A path of a single token is the property that the token names. -/
theorem propertyOf_twin (h : Twin L t t') : propertyOf t' = propertyOf t := by
  unfold propertyOf Token.resource
  rw [(L.alike (L.ahead_of_like h.like)).kind, h.text]

/-- **A verb is the same in both runs**: a variable, a property, or the text of a path. -/
theorem verb_tracks (hd : DepthTracks L.lenient depth depth') : Plain L Eq (verb depth) (verb depth') :=
  .accept? (.isKind .var) (fun accepted => .pure rfl (congrArg Verb.var accepted.name.symm))
    (.ifNext startsVerb_respects
      (.andThen (path_tracks hd) fun
        | .nil => .pure rfl rfl
        | .cons twin .nil => .pure rfl (congrArg Verb.resource (propertyOf_twin twin).symm)
        | twins@(.cons _ (.cons _ _)) => .pure rfl (congrArg Verb.path (text_of_twins twins).symm))
      (refuse_tracks _))

/-! ## Nodes and triples -/

/-- **A node is the same in both runs**: a term, or what stands in brackets one level deeper. -/
theorem node_tracks (hd : DepthTracks L.lenient depth depth') : Plain L Eq (node depth) (node depth') :=
  .acceptTwo? (.isSymbol _) (.isSymbol _) (notAlone_isSymbol (by decide)) (notEnding_isSymbol (by decide))
    (fun _ _ => .pure rfl rfl)
    (.open? hd
      (fun _ inner => .same inner.properties fun _ => .close fun _ => .pure rfl rfl)
      (.open? hd
        (fun _ inner => .andThen
          (manyWhile_plain (.map not (.isSymbol _)) inner.node inner.progress inner.progress')
          fun items => .close fun _ => .pure rfl (congrArg Node.collection (List.forall₂_eq_eq_eq ▸ items)))
        term_tracks))

/-- A node takes a token: an opening bracket or a term. -/
theorem Progress.node : Progress (fun _ => True) (Reader.node depth) :=
  Progress.acceptTwo?.bind fun
    | some _ => .inl rfl
    | none => .inr (Progress.open?.bind fun
      | some _ => .inl rfl
      | none => .inr (Progress.open?.bind fun
        | some _ => .inl rfl
        | none => .inr Progress.term))

/-- Objects stand between commas. -/
theorem objects_tracks (hd : DepthTracks L.lenient depth depth') : Plain L Eq (objects depth) (objects depth') :=
  .same (node_tracks hd) fun _ =>
    .andThen (many_plain (V := Eq)
      (.ifAccept (.isSymbol _) (.same (node_tracks hd) fun _ => .pure rfl (.some rfl)) (.pure rfl .none))
      (.orElse' (.pure nofun)) (.orElse' (.pure nofun)))
      fun others => .pure rfl (congrArg _ (List.forall₂_eq_eq_eq ▸ others))

/-- A turn of a property list is a verb with its objects, or only a semicolon. -/
theorem property_tracks (hd : DepthTracks L.lenient depth depth') :
    Plain L (Turn.Like Eq) (property depth) (property depth') :=
  .same (verb_tracks hd) fun _ => .same (objects_tracks hd) fun _ =>
    .ifAccept (.isSymbol _)
      (.andThen (many_plain (accept?_tracks (.isSymbol _)) .accept? .accept?) fun _ =>
        .ifNext startsVerb_respects (.pure rfl (.more rfl)) (.pure rfl (.last rfl)))
      (.pure rfl (.last rfl))

/-- Items with marks between them take what their first item takes. -/
theorem Progress.separated {P : List Token → Prop} {mark : String} {item : Reader (List Token)}
    (h : Progress (fun _ => True) item) : Progress P (Reader.separated mark item) :=
  h.of_first

/-- A step takes a token. -/
theorem Progress.step : Progress (fun _ => True) Reader.step := Progress.require

/-- A primary takes a token: a step, a mark of negation or a bracket. -/
theorem Progress.pathPrimary : Progress (fun _ => True) (Reader.pathPrimary depth) :=
  Progress.open?.bind fun
    | some _ => .inl rfl
    | none => .inr (.orElse Progress.step.of_first)

/-- A path takes what its first element takes. -/
theorem Progress.path {P : List Token → Prop} : Progress P (Reader.path depth) :=
  .separated (.separated (.of_second fun _ => Progress.pathPrimary.of_first))

/-- A verb takes a token. -/
theorem Progress.verb : Progress (fun _ => True) (Reader.verb depth) :=
  .orElse (.choice Progress.path.of_first (.refuse _))

/-- A turn of a property list takes a semicolon or a verb. -/
theorem Progress.property {P : Turn (List (Verb × Node)) → Prop} : Progress P (Reader.property depth) :=
  Progress.verb.of_first

/-- A property list is its turns, each of which takes a token. -/
theorem properties_tracks (hd : DepthTracks L.lenient depth depth') :
    Plain L Eq (properties depth) (properties depth') :=
  .andThen (loop_plain (property_tracks hd) .property .property) fun lists =>
    .pure rfl (congrArg List.flatten (List.forall₂_eq_eq_eq ▸ lists))

/-- **Triples are the same in both runs**: a subject and what its property list says of it. -/
theorem triples_tracks (hd : DepthTracks L.lenient depth depth') : Plain L Eq (triples depth) (triples depth') :=
  .same (next_tracks (.isSymbol _)) fun bracket =>
    .same (nextTwo_tracks (.isSymbol _) (.isSymbol _) (notAlone_isSymbol (by decide))
      (notEnding_isSymbol (by decide))) fun closed =>
      .same (node_tracks hd) fun subject => .same (next_tracks startsVerb_respects) fun verb => by
        have others : Plain L Eq (do return Triple.ofSubject subject (← properties depth))
            (do return Triple.ofSubject subject (← properties depth')) :=
          .same (properties_tracks hd) fun _ => .pure rfl rfl
        cases subject <;> cases bracket <;> cases closed <;> cases verb <;>
          first | exact others | exact .pure rfl rfl

/-- Triples take what their subject takes. -/
theorem Progress.triples {P : List Triple → Prop} : Progress P (Reader.triples depth) :=
  .of_second fun _ => .of_second fun _ => Progress.node.of_first

/-- Whether a node comes next is the same in both runs. -/
theorem startsNode_tracks : Plain L Eq startsNode startsNode :=
  .ifNext (.or isAtom_respects (.isSymbol _)) (.pure rfl rfl)
    (nextTwo_tracks (.isSymbol _) .isNumeric (notAlone_isSymbol (by decide)) notEnding_isNumeric)

end Depth

end QuerySignature.Reader
