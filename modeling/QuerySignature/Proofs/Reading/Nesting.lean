import QuerySignature.Proofs.Query.Like
import QuerySignature.Proofs.Reading.Repetition

/-!
# Proofs/Reading/Nesting — brackets side by side

What two runs may read inside a bracket tracks, rule by rule (`Inside.Tracks`).  A lenient likeness lets the
second run open brackets where the first may not.
-/

namespace QuerySignature

/-- The blocks of the groups that an expression tests. -/
def Scanned.blocks (scanned : Scanned) : List Values :=
  Group.blocksOfAll scanned.patterns

/-- **Expressions scanned from like tokens.** -/
structure Scanned.Like (L : Likeness) (scanned scanned' : Scanned) : Prop where
  tokens : Respelled L scanned.tokens scanned'.tokens
  patterns : Group.LikeAll L scanned.patterns scanned'.patterns

namespace Reader

variable {L : Likeness} {α β : Type} {pre : List Values} {blocks : α → List Values} {V : α → β → Prop}

/-- Like tokens of one text. -/
structure Twin (L : Likeness) (t t' : Token) : Prop where
  like : L.like t t'
  text : t'.text = t.text

section Kinds

variable {p : Token → Bool} {t t' : Token}

theorem Accepted.alike (h : Accepted L p t t') : t.Alike t' :=
  L.alike (L.ahead_of_like h.1)

/-- A token of a kind that is kept whole. -/
theorem Accepted.twin (h : Accepted L p t t') (keyword : t.kind ≠ .keyword) (var : t.kind ≠ .var) : Twin L t t' :=
  ⟨h.1, h.alike.text keyword var⟩

theorem kind_of_isSymbol {symbols : List String} (h : t.isSymbol symbols = true) : t.kind = .punctuation := by
  obtain ⟨text, is, -⟩ := (Option.any_eq_true _ _).mp h
  unfold Token.symbol? at is
  split at is
  · assumption
  · cases is

theorem Accepted.symbol {symbols : List String} (h : Accepted L (·.isSymbol symbols) t t') : Twin L t t' := by
  have kind := kind_of_isSymbol h.2
  exact h.twin (by rw [kind]; decide) (by rw [kind]; decide)

end Kinds

/-- **What can be read inside one bracket tracks what can be read inside the other.** -/
structure InsideTracks (L : Likeness) (inner inner' : Inside) : Prop where
  path : Plain L (List.Forall₂ (Twin L)) inner.path inner'.path
  node : Plain L Eq inner.node inner'.node
  properties : Plain L Eq inner.properties inner'.properties
  brackets : Tracks L [] Scanned.blocks (Scanned.Like L) inner.brackets inner'.brackets
  content : Tracks L [] Group.blocks (Group.Like L) inner.content inner'.content
  progress : Progress (fun _ => True) inner.node
  progress' : Progress (fun _ => True) inner'.node

/-- The second run may go wherever the first may, under every likeness that is as lenient. -/
def DepthTracks (lenient : Prop) (depth depth' : Option Inside) : Prop :=
  ∀ L : Likeness, L.lenient = lenient →
    match depth, depth' with
    | none, none => True
    | none, some _ => lenient
    | some inner, some inner' => InsideTracks L inner inner'
    | some _, none => False

variable {depth depth' : Option Inside}

theorem enter_tracks (hd : DepthTracks L.lenient depth depth') {bracket bracket' : Token}
    (like : L.ahead bracket bracket') : Plain L (InsideTracks L) (enter depth bracket) (enter depth' bracket') := by
  have deep := hd L rfl
  match depth, depth' with
  | none, none => exact .stop fun _ => .tooDeep like
  | none, some inner' =>
    intro tokens out rest' minded
    exact absurd deep (minded _ _ rfl bracket rfl)
  | some inner, some inner' => exact .same (.shift _ _) fun _ => .pure rfl deep

theorem shut_tracks {expected : Expected} {p : Token → Bool} (hp : Respects p) :
    Plain L (Accepted L p) (shut expected p) (shut expected p) :=
  .require hp fun accepted => .same (.shift _ _) fun _ => .pure rfl accepted

/-- A symbol that closes a level. -/
theorem Tracks.close {text : String} {N : Token → Reader α} {N' : Token → Reader β}
    (found : ∀ {t t'}, Accepted L (·.isSymbol [text]) t t' → Tracks L pre blocks V (N t) (N' t')) :
    Tracks L pre blocks V (Reader.close text >>= N) (Reader.close text >>= N') :=
  .andThen (shut_tracks (.isSymbol _)) found

theorem open?_tracks (hd : DepthTracks L.lenient depth depth') (brackets : List String) :
    Plain L (Option.Rel fun pair pair' => Twin L pair.1 pair'.1 ∧ InsideTracks L pair.2 pair'.2)
      (open? depth brackets) (open? depth' brackets) := by
  refine .andThen peek_tracks fun found => ?_
  cases found with
  | none => exact .pure rfl .none
  | @some bracket bracket' ahead =>
    have same : bracket'.isSymbol brackets = bracket.isSymbol brackets := Respects.isSymbol brackets (L.alike ahead)
    rw [Option.filter_some, Option.filter_some, same]
    by_cases holds : bracket.isSymbol brackets = true
    · rw [if_pos holds, if_pos holds]
      refine .andThen (enter_tracks hd ahead) fun inner => ?_
      exact .accept? (.isSymbol _) (fun accepted => .pure rfl (.some ⟨accepted.symbol, inner⟩)) (.pure rfl .none)
    · rw [if_neg holds, if_neg holds]
      exact .pure rfl .none

/-- A bracket that is opened, or not. -/
theorem Tracks.open? {brackets : List String} {N : Option (Token × Inside) → Reader α}
    {N' : Option (Token × Inside) → Reader β} (hd : DepthTracks L.lenient depth depth')
    (some : ∀ {t t' inner inner'}, Twin L t t' → InsideTracks L inner inner' →
      Tracks L pre blocks V (N (some (t, inner))) (N' (some (t', inner'))))
    (none : Tracks L pre blocks V (N none) (N' none)) :
    Tracks L pre blocks V (Reader.open? depth brackets >>= N) (Reader.open? depth' brackets >>= N') :=
  .andThen (open?_tracks hd brackets) fun found => by
    cases found with
    | none => exact none
    | some both => exact some both.1 both.2

theorem group_tracks (hd : DepthTracks L.lenient depth depth') :
    Tracks L [] Group.blocks (Group.Like L) (group depth) (group depth') :=
  .symbol fun like => .andThen (enter_tracks hd (L.ahead_of_like like)) fun inner =>
    inner.content.bind fun related => .close fun _ => .pure rfl related

/-- A bracket that is opened is taken. -/
theorem Progress.open? {brackets : List String} :
    Progress (fun found => found.isSome = true) (Reader.open? depth brackets) :=
  .of_second fun found => by
    cases found.filter (·.isSymbol brackets) with
    | none => exact .pure nofun
    | some bracket =>
      refine .of_second fun inner => Progress.accept?.bind fun
        | some _ => .inl rfl
        | none => .inr (.pure nofun)

theorem Progress.group {P : Group → Prop} : Progress P (Reader.group depth) :=
  Progress.require.of_first

end Reader

end QuerySignature
