import QuerySignature.Proofs.Outcome.Run

/-!
# Proofs/Outcome/Causal — reading with one token of look-ahead

A reading takes tokens up to a place and looks at the token there and at the one behind it, and never beyond a
token that ends the text.  So two lists of tokens that agree up to there have the same outcome
(`parseTokens_causal`): what stands further on does not matter, and neither does what follows the first end.
-/

namespace QuerySignature

variable {limits : Limits} {tokens words more : List Token} {stop : Token}

/-! ## Lists with an end -/

/-- **The list may be read**: it ends with a token that ends the text, and has no more tokens than the limits
admit. -/
structure Token.Readable (limits : Limits) (tokens : List Token) : Prop where
  ended : tokens.getLast?.any (·.kind = .eof) = true
  few : tokens.length - 1 ≤ limits.maxTokens

theorem beforeEnd_append (free : ∀ token ∈ words, token.kind ≠ .eof) (ends : stop.kind = .eof) :
    Token.beforeEnd (words ++ stop :: more) = (words, stop.position) := by
  have words_ : ∀ token ∈ words, decide (token.kind ≠ .eof) = true := fun token member =>
    decide_eq_true (free token member)
  have none_ : words.find? (fun token => decide (token.kind = .eof)) = none :=
    List.find?_eq_none.mpr fun token member => by simpa using free token member
  have first : (stop :: more).find? (fun token => decide (token.kind = .eof)) = some stop :=
    List.find?_cons_of_pos (decide_eq_true ends)
  have behind : (stop :: more).takeWhile (fun token => decide (token.kind ≠ .eof)) = [] :=
    List.takeWhile_cons_of_neg (by simpa using ends)
  unfold Token.beforeEnd
  rw [List.takeWhile_append_of_pos words_, List.find?_append, none_, first, behind, List.append_nil]
  rfl

/-- A list with an end splits at the first one. -/
theorem exists_end (ended : ∃ token ∈ tokens, token.kind = .eof) :
    ∃ words stop more, tokens = words ++ stop :: more ∧ (∀ token ∈ words, token.kind ≠ .eof) ∧ stop.kind = .eof := by
  induction tokens with
  | nil =>
    obtain ⟨_, member, -⟩ := ended
    cases member
  | cons token tokens ih =>
    by_cases here : token.kind = .eof
    · exact ⟨[], token, tokens, rfl, List.forall_mem_nil _, here⟩
    · obtain ⟨last, member, ends⟩ := ended
      rcases List.mem_cons.mp member with rfl | further
      · exact absurd ends here
      · obtain ⟨words, stop, more, rfl, free, stops⟩ := ih ⟨last, further, ends⟩
        exact ⟨token :: words, stop, more, rfl, List.forall_mem_cons.mpr ⟨here, free⟩, stops⟩

theorem Token.Readable.exists_eof (readable : Token.Readable limits tokens) :
    ∃ token ∈ tokens, token.kind = .eof := by
  obtain ⟨last, isLast, ends⟩ := (Option.any_eq_true _ _).mp readable.ended
  exact ⟨last, List.mem_of_getLast? isLast, of_decide_eq_true ends⟩

/-- The first of the words before an end is the first token, unless that is an end. -/
theorem head?_words (free : ∀ token ∈ words, token.kind ≠ .eof) (ends : stop.kind = .eof) :
    words.head? = (words ++ stop :: more).head?.filter (·.kind ≠ .eof) := by
  cases words with
  | nil => rw [List.nil_append, List.head?_cons, Option.filter_some, if_neg (by simpa using ends)]; rfl
  | cons word words =>
    rw [List.cons_append, List.head?_cons, List.head?_cons, Option.filter_some,
      if_pos (decide_eq_true (free word (.head _)))]

/-- A list that agrees with another along its front has that front. -/
theorem exists_append {front behind tokens' : List Token}
    (agree : ∀ i < front.length, tokens'[i]? = (front ++ behind)[i]?) :
    ∃ behind', tokens' = front ++ behind' := by
  have start : front <+: tokens' := by
    rw [List.prefix_iff_getElem?]
    intro i inside
    rw [agree i inside, List.getElem?_append_left inside, List.getElem?_eq_getElem inside]
  obtain ⟨behind', rfl⟩ := start
  exact ⟨behind', rfl⟩

/-- The outcome of a list that may be read. -/
theorem parseTokens_append (free : ∀ token ∈ words, token.kind ≠ .eof) (ends : stop.kind = .eof)
    (readable : Token.Readable limits (words ++ stop :: more)) :
    parseTokens limits (words ++ stop :: more) =
      (Query.ofTokens limits words stop.position).mapError .failed := by
  unfold parseTokens
  rw [if_pos readable.ended, if_neg (Nat.not_lt.mpr readable.few), beforeEnd_append free ends]

/-- The words of a list that is read are read as the query. -/
theorem parseTokens_eq_ok {query : Query} (free : ∀ token ∈ words, token.kind ≠ .eof) (ends : stop.kind = .eof)
    (readable : Token.Readable limits (words ++ stop :: more)) :
    parseTokens limits (words ++ stop :: more) = .ok query ↔ limits.reader.read words = .done query [] := by
  rw [parseTokens_append free ends readable, ← @ofTokens_eq_ok limits words stop.position]
  cases Query.ofTokens limits words stop.position with
  | ok found => exact ⟨fun same => congrArg _ (Except.ok.inj same), fun same => congrArg _ (Except.ok.inj same)⟩
  | error failure => exact iff_of_false nofun nofun

/-- A list that is read may be read. -/
theorem readable_of_parseTokens {query : Query} (h : parseTokens limits tokens = .ok query) : Token.Readable limits tokens := by
  unfold parseTokens at h
  split at h
  · next ended =>
    split at h
    · cases h
    · next few => exact ⟨ended, Nat.le_of_not_lt few⟩
  · cases h

/-! ## The place where a reading ends -/

/-- **Where the reading of tokens ends**, by returning or by failing: how many tokens it has taken. -/
def cursor (limits : Limits) (tokens : List Token) : Nat :=
  (limits.reader.taken (Token.beforeEnd tokens).1).length

/-- **How many tokens a reading can tell apart from others**: those it takes, the one at which it ends, and the
one behind that, unless the text ends there. -/
def reach (limits : Limits) (tokens : List Token) : Nat :=
  if tokens[cursor limits tokens]?.any (·.kind = .eof) then cursor limits tokens + 1
  else cursor limits tokens + 2

/-- A run that stops in front of a token is the same in front of other tokens, if that token and the one behind
it are. -/
theorem stopped_again {R : Reader Query} {token : Token} {rest rest' : List Token} {fault : Fault}
    (tracks : Reader.Tracks .same [] Query.blocks (Query.Like .same) R R)
    (read : R.read (R.taken tokens ++ token :: rest) = .stopped fault (token :: rest))
    (steps : tokens = R.taken tokens ++ token :: rest) (same : rest'.head? = rest.head?) :
    R.read (R.taken tokens ++ token :: rest') = .stopped fault (token :: rest') := by
  have heads : Option.Rel Likeness.same.ahead rest.head? rest'.head? := by
    rw [same]
    cases rest.head? with
    | none => exact .none
    | some => exact .some rfl
  rw [← steps] at read
  have tracked := @tracks tokens (R.taken tokens) (token :: rest')
    (fun _ _ _ _ _ => id) (respells_same (R.sound tokens)) (by rw [read]; exact ⟨rfl, .inr (.ahead heads)⟩)
  rw [read] at tracked
  generalize R.read (R.taken tokens ++ token :: rest') = reading at tracked
  cases tracked with
  | stopped like => rw [Likeness.same_exact.fault like]

/-- What a fault is reported as does not depend on where the text ends, if the run stops before that. -/
theorem Fault.Due.failure_eq {S : Token → Prop} {full : Prop} {taken rest : List Token} {token : Token} {fault : Fault}
    (due : fault.Due S full taken (token :: rest)) (stop stop' : Position) :
    fault.failure limits stop = fault.failure limits stop' := by
  cases due <;> rfl

/-! ## Lists that agree -/

/-- A list whose words are all taken: one that agrees with it up to its end has the same words. -/
theorem exists_more {words more tokens' : List Token} {stop : Token}
    (agree : ∀ i < words.length + 1, tokens'[i]? = (words ++ stop :: more)[i]?) :
    ∃ more', tokens' = words ++ stop :: more' := by
  obtain ⟨more', same⟩ := @exists_append (words ++ [stop]) more tokens' fun i inside => by
    rw [List.length_append, List.length_singleton] at inside
    rw [agree i inside, List.append_assoc, List.singleton_append]
  exact ⟨more', by rw [same, List.append_assoc, List.singleton_append]⟩

/-- A list with a word that is not taken: one that agrees with it up to the token behind that word has words that
agree as far. -/
theorem exists_words {taken rest more tokens' : List Token} {token stop : Token}
    (free : ∀ word ∈ taken ++ token :: rest, word.kind ≠ .eof) (ends : stop.kind = .eof)
    (ended : ∃ token ∈ tokens', token.kind = .eof)
    (agree : ∀ i < taken.length + 2, tokens'[i]? = (taken ++ token :: (rest ++ stop :: more))[i]?) :
    ∃ rest' stop' more', tokens' = (taken ++ token :: rest') ++ stop' :: more' ∧ stop'.kind = .eof ∧
      (∀ word ∈ taken ++ token :: rest', word.kind ≠ .eof) ∧ rest'.head? = rest.head? := by
  obtain ⟨behind, rfl⟩ := @exists_append (taken ++ [token]) (rest ++ stop :: more) tokens' fun i inside => by
    rw [List.length_append, List.length_singleton] at inside
    rw [agree i (by omega), List.append_assoc, List.singleton_append]
  have next : behind.head? = (rest ++ stop :: more).head? := by
    have := agree (taken.length + 1) (by omega)
    rw [List.append_assoc, List.singleton_append] at this
    simpa [List.getElem?_append_right, List.head?_eq_getElem?] using this
  have before : ∀ word ∈ taken ++ [token], word.kind ≠ .eof := fun word member =>
    free word (by
      rw [List.append_cons]
      exact List.mem_append_left _ member)
  obtain ⟨last, member, isEnd⟩ := ended
  have behind_ : ∃ token ∈ behind, token.kind = .eof :=
    ⟨last, (List.mem_append.mp member).resolve_left fun inside => before last inside isEnd, isEnd⟩
  obtain ⟨rest', stop', more', rfl, free', ends'⟩ := exists_end behind_
  have restFree : ∀ word ∈ rest, word.kind ≠ .eof := fun word member =>
    free word (List.mem_append_right _ (.tail _ member))
  refine ⟨rest', stop', more', by simp, ends', ?_, ?_⟩
  · rw [List.append_cons]
    intro word member
    exact (List.mem_append.mp member).elim (before word) (free' word)
  · rw [head?_words free' ends', head?_words restFree ends, next]

/-- The reach of a reading that takes every word. -/
theorem reach_of_end (free : ∀ token ∈ words, token.kind ≠ .eof) (ends : stop.kind = .eof)
    (whole : limits.reader.taken words = words) : reach limits (words ++ stop :: more) = words.length + 1 := by
  have place : cursor limits (words ++ stop :: more) = words.length := by
    rw [cursor, beforeEnd_append free ends, whole]
  unfold reach
  rw [place, List.getElem?_append_right (Nat.le_refl _), Nat.sub_self, List.getElem?_cons_zero, if_pos]
  simpa using ends

/-- The reach of a reading that ends in front of a word. -/
theorem reach_of_word {token : Token} {rest : List Token} (free : ∀ token ∈ words, token.kind ≠ .eof)
    (ends : stop.kind = .eof) (whole : limits.reader.taken words ++ token :: rest = words) :
    reach limits (words ++ stop :: more) = (limits.reader.taken words).length + 2 := by
  have place : cursor limits (words ++ stop :: more) = (limits.reader.taken words).length := by
    rw [cursor, beforeEnd_append free ends]
  have here : (words ++ stop :: more)[(limits.reader.taken words).length]? = some token := by
    nth_rewrite 1 [← whole]
    rw [List.append_assoc, List.getElem?_append_right (Nat.le_refl _), Nat.sub_self, List.cons_append,
      List.getElem?_cons_zero]
  have word : token.kind ≠ .eof := free token (by rw [← whole]; exact List.mem_append_right _ (.head _))
  unfold reach
  rw [place, here, if_neg]
  simpa using word

/-- **A reading depends on nothing beyond its reach.** -/
theorem parseTokens_causal {limits : Limits} {tokens tokens' : List Token}
    (readable : Token.Readable limits tokens) (readable' : Token.Readable limits tokens')
    (agree : ∀ i < reach limits tokens, i < tokens.length → tokens'[i]? = tokens[i]?) :
    parseTokens limits tokens' = parseTokens limits tokens := by
  obtain ⟨words, stop, more, rfl, free, ends⟩ := exists_end readable.exists_eof
  have whole := limits.reader.taken_append words
  rw [parseTokens_append free ends readable]
  cases rest_ : (limits.reader.read words).rest with
  | nil =>
    -- the run has taken every word, so the other list has the same words and the same end
    rw [rest_, List.append_nil] at whole
    rw [reach_of_end free ends whole] at agree
    obtain ⟨more', rfl⟩ := @exists_more words more tokens' stop fun i inside =>
      agree i inside (by rw [List.length_append, List.length_cons]; omega)
    rw [parseTokens_append free ends readable']
  | cons token rest =>
    -- the run has stopped in front of a word, and stops there again
    rw [rest_] at whole
    rw [reach_of_word free ends whole] at agree
    have length := congrArg List.length whole
    rw [List.length_append, List.length_cons] at length
    obtain ⟨rest', stop', more', rfl, ends', free', heads⟩ := @exists_words (limits.reader.taken words) rest more
      tokens' token stop (by rwa [whole]) ends readable'.exists_eof fun i inside => by
        rw [agree i inside (by rw [List.length_append, List.length_cons]; omega)]
        nth_rewrite 1 [← whole]
        rw [List.append_assoc, List.cons_append]
    rw [parseTokens_append free' ends' readable']
    cases read : limits.reader.read words with
    | done query rest =>
      rw [read] at rest_
      cases (query_done read).1.symm.trans rest_
    | stopped fault _ =>
      rw [read] at rest_
      cases rest_
      have again := stopped_again (limits.reader_tracks (.inl rfl)) (whole ▸ read) whole.symm heads
      have ends := (@Limits.reader_orderly words limits (fun _ => True) fun _ _ => trivial).ends
      rw [read] at ends
      cases ends with
      | stopped due =>
        rw [ofTokens_eq_error.mpr ⟨fault, _, read, due.failure_eq _ stop'.position⟩,
          ofTokens_eq_error.mpr ⟨fault, _, again, rfl⟩]

/-- What follows the two tokens at which a test stops without a group does not matter. -/
theorem parseTokens_causal_test :
    let word (kind : Token.Kind) (text : String) : Token := ⟨kind, text.toList, .start⟩
    let test := [word .keyword "ASK", word .var "?x", word .var "?y"]
    reach .standard (test ++ [word .eof ""]) = 3 ∧
      parseTokens .standard (test ++ [word .eof "", word .punctuation "\x7b", word .eof ""]) =
        parseTokens .standard (test ++ [word .eof ""]) ∧
      parseTokens .standard (test ++ [word .punctuation "\x7b", word .eof ""]) =
        parseTokens .standard (test ++ [word .eof ""]) :=
  ⟨by decide +kernel, parseTokens_causal ⟨by decide, by decide⟩ ⟨by decide, by decide⟩ (by decide +kernel),
    parseTokens_causal ⟨by decide, by decide⟩ ⟨by decide, by decide⟩ (by decide +kernel)⟩

end QuerySignature
