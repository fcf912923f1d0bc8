import QuerySignature.Proofs.Query.Reread
import QuerySignature.Proofs.Signs.Terms
import QuerySignature.Proofs.Triples.Abbreviations

/-!
# Proofs/Signs/Triples — nodes and triples with a number behind a sign

A sign in an item of a collection, in an object, or anywhere inside brackets is met by the node that is read there.
Behind a verb it may be met twice over: if the verb takes the plus it is another one, for all its objects, and the
first of them is the number without a sign (`Meets.property`).
-/

namespace QuerySignature

variable {signs : Signs} {depth : Option Inside} {role : PlusRole}

/-- **Tokens and groups of an expression** that differ in the sign. -/
def Scanned.Flipped (signs : Signs) (role : PlusRole) (scanned scanned' : Scanned) : Prop :=
  (∃ front behind, scanned.tokens = front ++ signs.minus :: behind ∧
    scanned'.tokens = front ++ signs.plus :: behind) ∧ OneOf (Group.Flipped role) scanned.patterns scanned'.patterns

namespace Reader

/-- **What stands inside a bracket meets the sign.** -/
structure InsideMeets (signs : Signs) (inner : Inside) : Prop where
  path : Termless inner.path
  node : Meets signs Node.Flipped inner.node
  properties : Meets signs Properties.Flipped inner.properties
  brackets : Meets signs (Scanned.Flipped signs) inner.brackets
  content : Meets signs Group.Flipped inner.content

/-- **Wherever a bracket may open**, what stands inside it meets the sign. -/
structure DepthMeets (signs : Signs) (depth : Option Inside) : Prop where
  tracks : DepthTracks Likeness.same.lenient depth depth
  detached : DepthDetached depth
  inside : ∀ inner, depth = some inner → InsideMeets signs inner

/-! ## Verbs -/

namespace Termless

theorem step : Termless Reader.step := require nofun

theorem optionalSymbol {symbols : List String} : Termless (Reader.optionalSymbol symbols) :=
  bind accept? fun _ => pure

theorem separated {mark : String} {item : Reader (List Token)} (h : Termless item) :
    Termless (Reader.separated mark item) := by
  refine bind h fun _ => bind (many (.orElse (.pure nofun)) (bind accept? fun found => ?_)) fun _ => pure
  cases found with
  | some token => exact bind h fun _ => pure
  | none => exact pure

theorem inverseStep : Termless Reader.inverseStep := bind optionalSymbol fun _ => bind step fun _ => pure

theorem negatedSet : Termless (Reader.negatedSet depth) := by
  refine bind open? fun found => ?_
  cases found with
  | none => exact inverseStep
  | some opening =>
    refine bind accept? fun found => ?_
    cases found with
    | some closing => exact bind shift fun _ => pure
    | none => exact bind (separated inverseStep) fun _ => bind (shut nofun) fun _ => pure

theorem pathPrimary (inside : ∀ inner, depth = some inner → Termless inner.path) :
    Termless (Reader.pathPrimary depth) := by
  refine ifOpen (fun opening inner deeper => bind (inside inner deeper) fun _ => bind (shut nofun) fun _ => pure) ?_
  refine bind accept? fun found => ?_
  cases found with
  | some negation => exact bind negatedSet fun _ => pure
  | none => exact bind step fun _ => pure

theorem path (inside : ∀ inner, depth = some inner → Termless inner.path) : Termless (Reader.path depth) :=
  separated (separated (bind optionalSymbol fun _ => bind (pathPrimary inside) fun _ =>
    bind optionalSymbol fun _ => pure))

theorem verb (inside : ∀ inner, depth = some inner → Termless inner.path) : Termless (Reader.verb depth) := by
  refine bind accept? fun found => ?_
  cases found with
  | some token => exact pure
  | none =>
    refine bind next (Bool.forall_bool.mpr ⟨refuse nofun, bind (path inside) fun tokens => ?_⟩)
    split <;> exact pure

end Termless

section Depth

variable (hd : DepthMeets signs depth)
include hd

theorem Termless.verb_of_meets : Termless (Reader.verb depth) :=
  .verb fun inner deeper => (hd.inside inner deeper).path

/-! ## Nodes -/

theorem Indifferent.node : Indifferent (Reader.node depth) := .of_detached (.node hd.detached)

/-- **A node meets the sign.** -/
theorem Meets.node : Meets signs Node.Flipped (Reader.node depth) := by
  refine andThen (.indifferent (.acceptTwo? (Token.not_isSymbol_of_isSign (by decide))
    (Token.not_isSymbol_of_isSign (by decide)))) .acceptTwo? fun found => ?_
  cases found with
  | some pair => exact pure
  | none =>
    refine open? (Token.not_isSymbol_of_isSign (by decide)) (fun opening inner deeper => ?_)
      (open? (Token.not_isSymbol_of_isSign (by decide)) (fun opening inner deeper => ?_) term)
    · refine before (hd.inside inner deeper).properties (fun _ => .bind (.shut nofun) fun _ => .pure) fun related => ?_
      exact .bind fun _ => .pure (.properties related)
    · have detached : DepthDetached (some inner) := deeper ▸ hd.detached
      have items : Meets signs (fun role => OneOf (Node.Flipped role)) (Reader.manyWhile (!·.isSymbol [")"]) inner.node) :=
        manyWhile detached.advances (fun is is' => by
          rw [Token.not_isSymbol_of_isSign (by decide) is, Token.not_isSymbol_of_isSign (by decide) is'])
          (.of_detached detached.node) (hd.inside inner deeper).node
      refine before items (fun _ => .bind (.shut nofun) fun _ => .pure) fun related => ?_
      obtain ⟨front, item, item', behind, rfl, rfl, flipped⟩ := related.exists_parts
      exact .bind fun _ => .pure (.collection front behind flipped)

/-- **Objects meet the sign.** -/
theorem Meets.objects : Meets signs (fun role => OneOf (Node.Flipped role)) (Reader.objects depth) := by
  have comma {sign : Token} : sign.isSign = true → sign.isSymbol [","] = false :=
    Token.not_isSymbol_of_isSign (by decide)
  have behind : Indifferent (objectBehind depth) :=
    .bind (.accept comma) (Bool.forall_bool.mpr ⟨.pure, .bind (.node hd) fun _ => .pure⟩)
  rw [objects_eq]
  refine bind (.indifferent (.node hd)) (node hd) (fun first => map ?_ .there) fun related => ?_
  · exact many Progress.objectBehind (.indifferent (.itemTurn behind)) (ifAccept comma (found (node hd)) pure)
  · exact .bind fun _ => .pure (.here related)

/-! ## Property lists -/

omit hd in
/-- What follows the objects of a verb is the same. -/
theorem Follows.afterObjects {list list' : List (Verb × Node)} (h : Properties.Flipped role list list') :
    Follows (Meets.TurnLike (Properties.Flipped role)) (Reader.afterObjects list) (Reader.afterObjects list') := by
  refine .bind (Bool.forall_bool.mpr ⟨.pure (.last h), .bind fun _ => .bind ?_⟩)
  exact Bool.forall_bool.mpr ⟨.pure (.last h), .pure (.more h)⟩

/-- The objects of a verb, and what follows them. -/
theorem Meets.objectsOf (verb : Verb) :
    Meets signs (fun role => TurnLike (Properties.Flipped role))
      (Reader.objects depth >>= fun list => afterObjects (list.map (verb, ·))) := by
  refine before (objects hd) (fun list => ?_) fun related => .afterObjects (.of_objects verb related)
  refine .bind .accept (Bool.forall_bool.mpr ⟨.pure, .bind (.many .accept? .accept?) fun _ => .bind .next ?_⟩)
  exact Bool.forall_bool.mpr ⟨.pure, .pure⟩

/-- The number is an object by itself. -/
theorem number_read {number : Literal} (value : Literal.read [] signs.number.text = .ok number) (rest : List Token) :
    (node depth).read (signs.number :: rest) = .done (.literal number) rest := by
  have kind := kind_of_isNumeric signs.isNumber
  have is : isAtom signs.number = true := by
    unfold isAtom
    rw [kind]
    rfl
  have atom_ : (atom signs.number).read [] = .done (.literal number) [] := by
    unfold atom
    rw [kind]
    exact bind_done.mpr ⟨number, [], valued_done.mpr ⟨value, rfl⟩, rfl⟩
  exact node_append hd.detached (node_of_atom is atom_) rest

/-- The number behind a sign as the first of some objects, and without the sign. -/
theorem objects_unsigned {number : Literal} (value : ∀ sign, Literal.read sign signs.number.text = .ok (number.signed sign))
    {after rest : List Token} {list : List Node}
    (read : (objects depth).read (signs.minus :: signs.number :: after) = .done list rest) :
    ∃ others, list = .literal (number.signed ['-']) :: others ∧
      (objects depth).read (signs.number :: after) = .done (.literal number :: others) rest := by
  rw [objects_eq] at read ⊢
  obtain ⟨first, between, firstRead, further⟩ := bind_done.mp read
  obtain ⟨others, _, othersRead, gives⟩ := bind_done.mp further
  obtain ⟨rfl, rfl⟩ := pure_done.mp gives
  have minus : Literal.read signs.minus.text signs.number.text = .ok (number.signed ['-']) :=
    signs.text_minus ▸ value signs.minus.text
  have plain (symbols : List String) (apart : ∀ text ∈ ["+", "-"].map String.toList, text ∉ symbols.map String.toList) :
      (signs.minus :: signs.number :: after).head?.any (·.isSymbol symbols) = false :=
    Token.not_isSymbol_of_isSign apart signs.isSign_minus
  have signed : (node depth).read (signs.minus :: signs.number :: after) = .done _ after :=
    node_of_term ⟨plain _ (by decide), plain _ (by decide)⟩ (signed_read signs.isSign_minus signs.isNumber minus after)
  cases signed.symm.trans firstRead
  exact ⟨others, rfl, bind_done.mpr ⟨_, after, number_read hd (value []) after, bind_done.mpr ⟨others, _, othersRead, rfl⟩⟩⟩

/-- **A verb with its objects meets the sign.**  If the verb takes the plus, all its objects have another verb. -/
theorem Meets.property : Meets signs (fun role => TurnLike (Properties.Flipped role)) (Reader.property depth) := by
  intro front stopped
  rcases bind_stopped.mp stopped with here | ⟨found, between, read, there⟩
  · exact (Termless.verb_of_meets hd here).elim
  obtain ⟨behind, rfl⟩ := exists_behind there
  have shielded : Shielded (Reader.verb depth) := .of_tracks (verb_tracks hd.tracks) Eq.symm
  by_cases empty : behind = []
  case neg =>
    exact MeetsAt.passed (fun more => shielded [] more signs.isSign_minus signs.isSign_minus empty read)
      (fun more => shielded [] more signs.isSign_minus signs.isSign_plus empty read) (objectsOf hd found behind) stopped
  subst empty
  have left (more : List Token) :
      (Reader.verb depth).read (front ++ signs.minus :: more) = .done found (signs.minus :: more) :=
    @Detached.verb _ hd.detached front [signs.minus] (signs.minus :: more) _ (.inl rfl) read
  rcases verb_plus hd.detached read with leaves | ⟨found', repeated, takes⟩
  · exact MeetsAt.passed left leaves (objectsOf hd found []) stopped
  · -- the objects start with the number, or with nothing
    obtain ⟨number, value⟩ := Literal.read_signed signs.isNumber
    have free (after : List Token) : (signs.number :: after).head?.any continuesPath = false := by
      refine Bool.eq_false_iff.mpr fun is => ?_
      have kind := kind_of_isNumeric signs.isNumber
      rw [kind_of_isSymbol is] at kind
      cases kind
    refine ⟨.repetition, ?_, fun after rest turned read => ?_⟩
    · change (Reader.verb depth >>= _).read _ = _
      rw [bind_read, takes [] rfl]
      rfl
    · obtain ⟨_, _, verbRead, further⟩ := bind_done.mp read
      cases (left (signs.number :: after)).symm.trans verbRead
      obtain ⟨list, behind, objectsRead, further⟩ := bind_done.mp further
      obtain ⟨others, rfl, unsigned⟩ := objects_unsigned hd value objectsRead
      have flipped : Properties.Flipped .repetition ((.literal (number.signed ['-']) :: others).map (found, ·))
          ((.literal number :: others).map (found', ·)) := by
        simpa using Properties.Flipped.verb [] [] number others repeated
      obtain ⟨turned', further', related⟩ := Follows.afterObjects flipped further
      obtain ⟨taken, whole⟩ := exists_taken unsigned
      obtain ⟨token, taken, rfl⟩ := Progress.exists_cons Progress.node.of_first (whole ▸ unsigned)
      obtain ⟨-, rfl⟩ := List.cons.inj whole
      obtain ⟨later, rfl⟩ := exists_taken further'
      refine ⟨⟨taken ++ later, (List.append_assoc ..).symm⟩, turned', ?_, related⟩
      exact bind_done.mpr ⟨found', _, takes _ (free _), bind_done.mpr ⟨_, _, unsigned, further'⟩⟩

/-- **A property list meets the sign.** -/
theorem Meets.properties : Meets signs Properties.Flipped (Reader.properties depth) := by
  have shielded : Shielded (Reader.property depth) := .of_tracks (property_tracks hd.tracks) fun like => by
    cases like <;> simp_all
  refine map (loop .property (.turns .property shielded ?_) (property hd)) .of_lists
  exact .of_first Progress.verb (.of_termless (Termless.verb_of_meets hd))

/-! ## Triples -/

/-- **The triples of one subject meet the sign.** -/
theorem Meets.triples : Meets signs Triples.Flipped (Reader.triples depth) := by
  have square {sign : Token} : sign.isSign = true → sign.isSymbol ["["] = false :=
    Token.not_isSymbol_of_isSign (by decide)
  have verb {sign : Token} (is : sign.isSign = true) : startsVerb sign = false :=
    Bool.eq_false_iff.mpr fun starts => Bool.eq_false_iff.mp (startsVerb_apart starts (by decide)) is
  refine andThen (.indifferent (.next fun is is' => (square is').trans (square is).symm)) .next fun opens => ?_
  refine andThen (.indifferent (.nextTwo square (Token.not_isSymbol_of_isSign (by decide)))) .nextTwo fun closes => ?_
  refine bind (.indifferent (.node hd)) (node hd) (fun subject => ?_) fun related => ?_
  · refine andThen (.indifferent (.next fun is is' => (verb is').trans (verb is).symm)) .next fun further => ?_
    split
    · exact pure
    · exact map (properties hd) (.properties _)
  · refine .bind fun further => ?_
    generalize (opens && !closes && !further) = alone
    cases related with
    | literal number => exact .bind fun list => .pure (.subject list (.literal number))
    | collection front behind flipped => exact .bind fun list => .pure (.subject list (.collection front behind flipped))
    | properties flipped =>
      cases alone with
      | true => exact .pure (.properties _ flipped)
      | false => exact .bind fun list => .pure (.subject list (.properties flipped))

end Depth

end Reader

end QuerySignature
