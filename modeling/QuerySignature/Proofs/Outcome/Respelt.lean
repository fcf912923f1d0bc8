import QuerySignature.Proofs.Outcome.Run
import QuerySignature.Proofs.Query.Blurred

/-!
# Proofs/Outcome/Respelt — the same tokens in another spelling

A keyword is a keyword in any case, and a variable behind any of its two marks.  Where the tokens of one list respell
those of another, the two are read as the same query, but for the texts of its expressions and the keywords of its
slices, or fail for the same reason at the same place (`parseTokens_respelt`).  The keyword `a` alone is taken as it
stands.
-/

namespace QuerySignature

/-! ## Tokens -/

/-- The marks of variables. -/
def Token.marks : List Char := ['?', '$']

/-- **One token respells the other**: they are the same but for the case of a keyword other than `a`, or for the mark
of a variable. -/
inductive Token.Respelt : Token → Token → Prop where
  | same (t : Token) : Respelt t t
  | keyword {text text' : Text} (position : Position) : text ≠ ['a'] → text' ≠ ['a'] →
      Text.upper text' = Text.upper text → Respelt ⟨.keyword, text, position⟩ ⟨.keyword, text', position⟩
  | var {mark mark' : Char} (name : Text) (position : Position) : mark ∈ marks → mark' ∈ marks →
      Respelt ⟨.var, mark :: name, position⟩ ⟨.var, mark' :: name, position⟩

theorem Text.upper_eq_nil {text : Text} : upper text = [] ↔ text = [] := by
  cases text with
  | nil => exact iff_of_true rfl rfl
  | cons c rest =>
    rw [upper_cons, List.append_eq_nil_iff]
    exact iff_of_false (fun h => upperChar_ne_nil c h.1) (List.cons_ne_nil c rest)

namespace Token.Respelt

variable {t t' : Token}

theorem kind (respelt : t.Respelt t') : t'.kind = t.kind := by
  cases respelt <;> rfl

theorem position (respelt : t.Respelt t') : t'.position = t.position := by
  cases respelt <;> rfl

/-- **Readers do not tell tokens from their respellings.** -/
theorem alike (respelt : t.Respelt t') : t.Alike t' := by
  cases respelt with
  | same => exact .refl t
  | @keyword text text' position other other' same =>
    refine ⟨rfl, ?_, fun keyword => absurd rfl keyword, nofun, ?_⟩
    · rw [word?, word?, if_pos rfl, if_pos rfl, if_neg other, if_neg other', same]
    · change text'.isEmpty = text.isEmpty
      rw [Bool.eq_iff_iff, List.isEmpty_iff, List.isEmpty_iff, ← Text.upper_eq_nil, same, Text.upper_eq_nil]
  | var => exact ⟨rfl, rfl, fun _ var => absurd rfl var, fun _ => rfl, rfl⟩

/-- Only keywords and variables have other spellings. -/
theorem eq (respelt : t.Respelt t') (keyword : t.kind ≠ .keyword) (var : t.kind ≠ .var) : t' = t := by
  cases respelt with
  | same => rfl
  | keyword => exact absurd rfl keyword
  | var => exact absurd rfl var

end Token.Respelt

/-- Of tokens that are respelt, the first are. -/
theorem head?_respelt {tokens tokens' : List Token} (h : List.Forall₂ Token.Respelt tokens tokens') :
    Option.Rel Token.Respelt tokens.head? tokens'.head? := by
  cases h with
  | nil => exact .none
  | cons first => exact .some first

/-- **Respelt tokens write the same block**, and at the same place. -/
theorem IsBlock.respelt {tokens tokens' : List Token} {block : Values} (h : IsBlock tokens block)
    (respelt : List.Forall₂ Token.Respelt tokens tokens') : IsBlock tokens' block := by
  obtain ⟨span, h'⟩ := h.alike (respelt.imp fun _ _ => Token.Respelt.alike)
  obtain ⟨first, inner, last, rfl, -, closes, place⟩ := h.ends
  obtain ⟨first', inner', last', rfl, -, -, place'⟩ := h'.ends
  obtain _ | ⟨firsts, others⟩ := respelt
  -- the place of a block is where its keyword starts, and where its brace ends, which has one spelling
  have lasts : last.Respelt last' := by
    have ends := (List.rel_reverse others)
    rw [List.reverse_append, List.reverse_append] at ends
    exact (List.forall₂_cons.mp ends).1
  have punctuation := Reader.kind_of_isSymbol closes
  have same : last' = last := lasts.eq (by rw [punctuation]; decide) (by rw [punctuation]; decide)
  obtain rfl : span = block.span := by rw [place, ← same, ← firsts.position, ← place']
  exact h'

/-! ## The likeness -/

/-- **Every token is taken for a respelling**, and every block for itself in another spelling. -/
def Likeness.respelt : Likeness where
  like := Token.Respelt
  ahead := Token.Respelt
  block _ b tokens b' tokens' :=
    IsBlock tokens b ∧ IsBlock tokens' b' ∧ List.Forall₂ Token.Respelt tokens tokens' ∧ b' = b
  lenient := False
  ahead_of_like := id
  alike := Token.Respelt.alike
  reads := And.left
  writes stands := stands.2.1
  vars stands := congrArg Values.vars stands.2.2.2
  begins stands := head?_respelt stands.2.2.1

/-- Steps are respelled by respellings of their tokens. -/
theorem respells_respelt {steps : List Step} {out : List Token} (sound : ∀ step ∈ steps, step.Sound)
    (respelt : List.Forall₂ Token.Respelt (steps.flatMap Step.tokens) out) : Respells .respelt steps out := by
  induction steps generalizing out with
  | nil =>
    cases respelt
    exact .nil
  | cons step steps ih =>
    rw [List.forall_mem_cons] at sound
    obtain ⟨taken, later, rfl, here, others⟩ := forall₂_of_append respelt
    cases step with
    | token t =>
      obtain _ | ⟨first, _ | _⟩ := here
      exact .token first (ih sound.2 others)
    | block b tokens region =>
      have writes : IsBlock tokens b := sound.1
      exact .block ⟨writes, writes.respelt here, here, rfl⟩ (ih sound.2 others)

theorem ahead_respelt {rest rest' : List Token} (respelt : List.Forall₂ Token.Respelt rest rest') :
    Ahead .respelt rest rest' := by
  cases respelt with
  | nil => exact .nil
  | cons first others => exact ⟨first, .inr (.ahead (head?_respelt others))⟩

/-! ## Outcomes -/

/-- **The spelling of a query**: the texts of its expressions, and the keywords of its slices. -/
def Blur.spelling : Blur where
  text _ := []
  slice slice := { slice with keyword := [] }
  block := id

theorem Blur.spelling_absorbs : Blur.spelling.Absorbs .respelt where
  text _ _ := rfl
  slice _ like := congrArg₂ (Slice.mk []) like.lexical like.value
  block stands := stands.2.2.2

/-- What is found, in any spelling. -/
def Found.unspelt : Found → Found
  | .token found => .token ⟨found.kind, [], found.position⟩
  | .endOfInput => .endOfInput
  | .cells count => .cells count

/-- **The report in any spelling**: its kind, what is looked for and the place are kept, the text that stands there
instead is not. -/
def ParseError.unspelt : ParseError → ParseError
  | .lexical fault position => .lexical fault position
  | .grammar expected found position => .grammar expected found.unspelt position
  | .ceiling reached value maximum position => .ceiling reached value maximum position

/-- The failure in any spelling. -/
def Failure.unspelt : Failure → Failure
  | .rejected error => .rejected error.unspelt
  | .unreadable term => .unreadable term

/-- The failure to read a list of tokens, in any spelling. -/
def StreamFailure.unspelt : StreamFailure → StreamFailure
  | .unended => .unended
  | .failed failure => .failed failure.unspelt

/-- **What comes of reading tokens**, in any spelling. -/
def outcomeUnspelt : Except StreamFailure Query → Except StreamFailure Query
  | .ok query => .ok (query.blurred .spelling)
  | .error failure => .error failure.unspelt

variable {limits : Limits} {tokens tokens' : List Token}

/-- A fault at respelt tokens is the same failure in another spelling. -/
theorem unspelt_failure {fault fault' : Fault} (h : fault.Like .respelt fault') (stop : Position) :
    (fault'.failure limits stop).unspelt = (fault.failure limits stop).unspelt := by
  cases h with
  | unexpected expected found =>
    cases found with
    | none => rfl
    | some respelt =>
      dsimp only [Fault.failure, Failure.unspelt, ParseError.unspelt, Found.unspelt]
      rw [Token.Respelt.kind respelt, Token.Respelt.position respelt]
  | tooDeep bracket =>
    dsimp only [Fault.failure]
    rw [Token.Respelt.position bracket]
  | rowLength _ _ row =>
    dsimp only [Fault.failure]
    rw [Token.Respelt.position row]
  | unreadable term => rfl

/-- Respelt tokens before the end of the text come to the same in another spelling. -/
theorem outcomeUnspelt_ofTokens (respelt : List.Forall₂ Token.Respelt tokens tokens') (stop : Position) :
    outcomeUnspelt ((Query.ofTokens limits tokens' stop).mapError .failed) =
      outcomeUnspelt ((Query.ofTokens limits tokens stop).mapError .failed) := by
  rw [← limits.reader.taken_append tokens] at respelt
  obtain ⟨taken', rest', rfl, here, behind⟩ := forall₂_of_append respelt
  -- the run over the respellings takes as many tokens, and sees a respelling of what the first one stops at
  have tracked := @Limits.reader_tracks .respelt limits limits (.inl rfl) tokens taken' rest'
    (fun _ _ _ _ _ lenient => lenient) (respells_respelt (limits.reader.sound tokens) here) (ahead_respelt behind)
  rw [Query.ofTokens, Query.ofTokens, show Reader.query (Reader.inside limits.maxDepth) = limits.reader from rfl]
  generalize limits.reader.read tokens = first, limits.reader.read (taken' ++ rest') = second at tracked
  cases tracked with
  | done _ like => exact congrArg Except.ok (Blur.spelling_absorbs.query like)
  | stopped like => exact congrArg (Except.error ∘ StreamFailure.failed) (unspelt_failure like stop)

/-- Respelt lists of tokens end at the same place. -/
theorem beforeEnd_respelt (respelt : List.Forall₂ Token.Respelt tokens tokens') :
    List.Forall₂ Token.Respelt (Token.beforeEnd tokens).1 (Token.beforeEnd tokens').1 ∧
      (Token.beforeEnd tokens').2 = (Token.beforeEnd tokens).2 := by
  induction respelt with
  | nil => exact ⟨.nil, rfl⟩
  | @cons t t' tokens tokens' first _ ih =>
    unfold Token.beforeEnd at ih ⊢
    by_cases ends : t.kind = .eof
    · simp [ends, first.kind, first.position]
    · simpa [ends, first.kind, first] using ih

theorem getLast?_respelt (respelt : List.Forall₂ Token.Respelt tokens tokens') :
    tokens'.getLast?.any (·.kind = .eof) = tokens.getLast?.any (·.kind = .eof) := by
  rw [← List.head?_reverse, ← List.head?_reverse]
  have last := head?_respelt (List.rel_reverse respelt)
  generalize tokens.reverse.head? = found, tokens'.reverse.head? = found' at last
  cases last with
  | none => rfl
  | some last =>
    rw [Option.any_some, Option.any_some, last.kind]

/-- **The spelling of keywords and of the marks of variables decides nothing**: respelt tokens are read as the same
query in another spelling, or fail for the same reason at the same place. -/
theorem parseTokens_respelt (respelt : List.Forall₂ Token.Respelt tokens tokens') :
    outcomeUnspelt (parseTokens limits tokens') = outcomeUnspelt (parseTokens limits tokens) := by
  obtain ⟨before, stop⟩ := beforeEnd_respelt respelt
  unfold parseTokens
  rw [getLast?_respelt respelt, ← respelt.length_eq]
  split
  · split
    · cases respelt with
      | nil => rfl
      | cons first => rw [List.head?_cons, List.head?_cons, Option.map_some, Option.map_some, first.position]
    · dsimp only
      rw [stop]
      exact outcomeUnspelt_ofTokens before _
  · rfl

/-- A selection in two spellings: the words in another case, the variables behind the other mark. -/
theorem parseTokens_respelt_select :
    let at' (offset : Int) : Position := ⟨1, offset + 1, offset⟩
    let tokens (select limit : String) (mark : Char) : List Token :=
      [⟨.keyword, select.toList, at' 0⟩, ⟨.var, [mark, 'x'], at' 7⟩, ⟨.punctuation, ['\x7b'], at' 10⟩,
        ⟨.var, [mark, 'x'], at' 12⟩, ⟨.keyword, ['a'], at' 15⟩, ⟨.var, [mark, 'y'], at' 17⟩,
        ⟨.punctuation, ['\x7d'], at' 20⟩, ⟨.keyword, limit.toList, at' 22⟩, ⟨.literal, ['5'], at' 28⟩,
        ⟨.eof, [], at' 29⟩]
    List.Forall₂ Token.Respelt (tokens "SELECT" "LIMIT" '?') (tokens "ſelect" "Limit" '$') ∧
      outcomeUnspelt (parseTokens .standard (tokens "ſelect" "Limit" '$')) =
        outcomeUnspelt (parseTokens .standard (tokens "SELECT" "LIMIT" '?')) := by
  intro at' tokens
  have word {text text' : String} {position : Position} (other : text.toList ≠ ['a']) (other' : text'.toList ≠ ['a'])
      (same : Text.upper text'.toList = Text.upper text.toList) :
      Token.Respelt ⟨.keyword, text.toList, position⟩ ⟨.keyword, text'.toList, position⟩ :=
    .keyword position other other' same
  have var (name : Text) (position : Position) : Token.Respelt ⟨.var, '?' :: name, position⟩ ⟨.var, '$' :: name, position⟩ :=
    .var name position (by decide) (by decide)
  have respelt : List.Forall₂ Token.Respelt (tokens "SELECT" "LIMIT" '?') (tokens "ſelect" "Limit" '$') :=
    .cons (word (by decide) (by decide) (by decide +kernel)) (.cons (var _ _) (.cons (.same _) (.cons (var _ _)
      (.cons (.same _) (.cons (var _ _) (.cons (.same _) (.cons (word (by decide) (by decide) (by decide +kernel))
        (.cons (.same _) (.cons (.same _) .nil)))))))))
  exact ⟨respelt, parseTokens_respelt respelt⟩

end QuerySignature
