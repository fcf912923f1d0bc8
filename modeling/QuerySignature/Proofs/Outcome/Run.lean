import QuerySignature.Proofs.Orderly.Groups
import QuerySignature.Proofs.Query.Exact
import QuerySignature.Proofs.Signature.Blocks

/-!
# Proofs/Outcome/Run — what comes of reading tokens

The outcome of reading tokens is what one run of the reader of queries comes to, and that run is orderly from
the ground to the ground (`Limits.reader_orderly`).
-/

namespace QuerySignature

variable {limits : Limits} {tokens : List Token} {stop : Position}

/-- The reader of queries under limits. -/
def Limits.reader (limits : Limits) : Reader Query :=
  Reader.query (Reader.inside limits.maxDepth)

/-- **The tokens that a reader takes.** -/
def Reader.taken {α : Type} (R : Reader α) (tokens : List Token) : List Token :=
  (R.steps tokens).flatMap Step.tokens

theorem Reader.taken_append {α : Type} (R : Reader α) (tokens : List Token) :
    R.taken tokens ++ (R.read tokens).rest = tokens :=
  R.conserves tokens

/-- **A run of the reader of queries** starts and ends on the ground. -/
theorem Limits.reader_orderly (limits : Limits) {S : Token → Prop} (input : ∀ token ∈ tokens, S token) :
    Reader.PassesAt S limits.maxDepth 0 0 (fun query => Fits limits.maxDepth 0 query.height) limits.reader tokens :=
  Reader.query_orderly (Reader.inside_orderly limits.maxDepth (Nat.zero_add _)) (Nat.zero_le _) input

theorem Likeness.same_exact : Likeness.same.Exact := ⟨Eq.symm, fun stands => ⟨stands.1.symm, stands.2.1.symm⟩⟩

/-- Runs under two limits track, if the second admits as deep a nesting, or a deeper one under a likeness that is
lenient. -/
theorem Limits.reader_tracks {L : Likeness} {limits limits' : Limits}
    (enough : limits.maxDepth = limits'.maxDepth ∨ L.lenient ∧ limits.maxDepth ≤ limits'.maxDepth) :
    Reader.Tracks L [] Query.blocks (Query.Like L) limits.reader limits'.reader :=
  Reader.query_tracks (Reader.inside_tracks enough)

/-- **Tokens that are taken for those of a query** are read as a query like it. -/
theorem read_of_respells {L : Likeness} {limits : Limits} {tokens out : List Token} {query : Query}
    (read : limits.reader.read tokens = .done query []) (respells : Respells L (limits.reader.steps tokens) out) :
    ∃ query', limits.reader.read out = .done query' [] ∧ query.Like L query' := by
  obtain ⟨query', read', like, -⟩ := (Limits.reader_tracks (.inl rfl)).done read respells .nil
  rw [List.append_nil] at read'
  exact ⟨query', read', like⟩

/-! ## Outcomes -/

theorem ofTokens_eq_ok {query : Query} :
    Query.ofTokens limits tokens stop = .ok query ↔ limits.reader.read tokens = .done query [] := by
  rw [Query.ofTokens, show Reader.query (Reader.inside limits.maxDepth) = limits.reader from rfl]
  cases h : limits.reader.read tokens with
  | done found rest =>
    obtain ⟨rfl, -⟩ := query_done h
    simp
  | stopped fault rest => simp

theorem ofTokens_eq_error {failure : Failure} :
    Query.ofTokens limits tokens stop = .error failure ↔
      ∃ fault rest, limits.reader.read tokens = .stopped fault rest ∧ fault.failure limits stop = failure := by
  rw [Query.ofTokens, show Reader.query (Reader.inside limits.maxDepth) = limits.reader from rfl]
  cases h : limits.reader.read tokens with
  | done found rest => simp
  | stopped fault rest => simp

/-- The outcome of a text with tokens. -/
theorem parse_of_tokenize {text : Text} (h : tokenize limits text = .ok tokens) :
    parse limits text = Query.ofTokens limits (Token.beforeEnd tokens).1 (Token.beforeEnd tokens).2 := by
  unfold parse
  rw [h]

/-- The outcome of a text without tokens. -/
theorem parse_of_error {text : Text} {error : ParseError} (h : tokenize limits text = .error error) :
    parse limits text = .error (.rejected error) := by
  unfold parse
  rw [h]

/-- **Where a text is not read, its tokens stop the run**, or it has none. -/
theorem parse_eq_error {text : Text} {failure : Failure} (h : parse limits text = .error failure) :
    (∃ error, tokenize limits text = .error error ∧ failure = .rejected error) ∨
      ∃ tokens fault rest, tokenize limits text = .ok tokens ∧
        limits.reader.read (Token.beforeEnd tokens).1 = .stopped fault rest ∧
        fault.failure limits (Token.beforeEnd tokens).2 = failure := by
  cases tokenized : tokenize limits text with
  | error error =>
    rw [parse_of_error tokenized] at h
    exact .inl ⟨error, rfl, (Except.error.inj h).symm⟩
  | ok tokens =>
    rw [parse_of_tokenize tokenized] at h
    obtain ⟨fault, rest, read, same⟩ := ofTokens_eq_error.mp h
    exact .inr ⟨tokens, fault, rest, rfl, read, same⟩

/-! ## Reports on the text -/

/-- **A report of the scanner** is on a piece of the text, or on the length of the text or the number of its
tokens. -/
theorem tokenize_error {text : Text} {error : ParseError} (h : tokenize limits text = .error error) :
    (∃ fault position, error = .lexical fault position) ∨
      error = .ceiling .inputLength text.length limits.maxInputLength none ∨
      ∃ position, error = .ceiling .tokenCount (limits.maxTokens + 1) limits.maxTokens (some position) := by
  have scan (fuel : Nat) : ∀ {cursor : Scan.Cursor} {room : Nat} {found : List Token},
      Scan.tokensFrom limits fuel cursor room found = .error error →
        (∃ fault position, error = .lexical fault position) ∨
          ∃ position, error = .ceiling .tokenCount (limits.maxTokens + 1) limits.maxTokens (some position) := by
    induction fuel with
    | zero => exact fun h => nomatch h
    | succ fuel ih =>
      intro cursor room found h
      unfold Scan.tokensFrom at h
      split at h
      · cases h
      · split at h
        · exact ih h
        · split at h
          · exact .inl ⟨_, _, (Except.error.inj h).symm⟩
          · exact ih h
          · exact .inl ⟨_, _, (Except.error.inj h).symm⟩
          · split at h
            · exact .inr ⟨_, (Except.error.inj h).symm⟩
            · exact ih h
  unfold tokenize at h
  split at h
  · exact .inr (.inl (Except.error.inj h).symm)
  · exact (scan _ h).imp_right .inr

end QuerySignature
