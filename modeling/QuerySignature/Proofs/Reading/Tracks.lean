import QuerySignature.Proofs.Reading.Likeness
import QuerySignature.Reading.Inversion

/-!
# Proofs/Reading/Tracks — two readers side by side

`Tracks` compares what two readers come to where the second takes tokens for the steps of the first: they come
to related values or stop at the same place with like faults.  On the way it counts the blocks that the first
reader has shown.  There is one rule for each way to build a reader; a loop needs in addition that its turns
take a token (`Progress`), for only then the bound on the turns does not cut it off.
-/

namespace QuerySignature

variable {L : Likeness} {α α' β β' : Type}

/-- The blocks of steps outside all regions. -/
def shownBlocks (steps : List Step) : List Values :=
  steps.filterMap Step.shown?

theorem shownBlocks_append (first second : List Step) :
    shownBlocks (first ++ second) = shownBlocks first ++ shownBlocks second :=
  List.filterMap_append

theorem shownBlocks_hide (region : Region) (steps : List Step) :
    shownBlocks (steps.map (Step.hide region)) = [] := by
  rw [shownBlocks, List.filterMap_eq_nil_iff]
  intro step member
  obtain ⟨inner, -, rfl⟩ := List.mem_map.mp member
  cases inner <;> rfl

/-- The likeness speaks of a run that comes to the reading. -/
def Reading.Minded (L : Likeness) (reading : Reading α) : Prop :=
  ∀ fault rest, reading = .stopped fault rest → L.Minds fault

/-- **What the second run comes to**: a related value if the first has shown the blocks of its own, a like
fault if the first stops; and `rest'` is left. -/
inductive Reading.Tracked (L : Likeness) (blocks : α → List Values) (V : α → β → Prop) (shown : List Values)
    (rest' : List Token) : Reading α → Reading β → Prop where
  | done {a : α} {a' : β} {rest : List Token} : shown = blocks a → V a a' →
      Tracked L blocks V shown rest' (.done a rest) (.done a' rest')
  | stopped {fault fault' : Fault} {rest : List Token} : fault.Like L fault' →
      Tracked L blocks V shown rest' (.stopped fault rest) (.stopped fault' rest')

namespace Reader

/-- The second reader tracks the first at some tokens, where the blocks in `pre` have been shown before. -/
def TracksAt (L : Likeness) (pre : List Values) (blocks : α → List Values) (V : α → β → Prop) (R : Reader α)
    (R' : Reader β) (tokens out rest' : List Token) : Prop :=
  (R.read tokens).Minded L → Respells L (R.steps tokens) out → Ahead L (R.read tokens).rest rest' →
    Reading.Tracked L blocks V (pre ++ shownBlocks (R.steps tokens)) rest' (R.read tokens)
      (R'.read (out ++ rest'))

/-- **The second reader tracks the first.** -/
def Tracks (L : Likeness) (pre : List Values) (blocks : α → List Values) (V : α → β → Prop) (R : Reader α)
    (R' : Reader β) : Prop :=
  ∀ ⦃tokens out rest' : List Token⦄, TracksAt L pre blocks V R R' tokens out rest'

/-- The second reader tracks the first, which shows no block. -/
abbrev Plain (L : Likeness) (V : α → β → Prop) (R : Reader α) (R' : Reader β) : Prop :=
  Tracks L [] (fun _ => []) V R R'

/-! ## Sequences -/

variable {pre : List Values} {blocks : α → List Values} {blocks' : α' → List Values}
  {V : α → β → Prop} {W : α' → β' → Prop} {R : Reader α} {R' : Reader β}
  {N : α → Reader α'} {N' : β → Reader β'} {p q : Token → Bool}

theorem conserves_done {tokens rest : List Token} {a : α} (h : R.read tokens = .done a rest) :
    (R.steps tokens).flatMap Step.tokens ++ rest = tokens := by
  have taken := R.conserves tokens
  rwa [h] at taken

theorem bind_steps_done {tokens between : List Token} {a : α} (h : R.read tokens = .done a between) :
    (R >>= N).steps tokens = R.steps tokens ++ (N a).steps between := by
  change R.steps tokens ++ _ = _
  rw [h]

theorem bind_steps_stopped {tokens rest : List Token} {fault : Fault} (h : R.read tokens = .stopped fault rest) :
    (R >>= N).steps tokens = R.steps tokens := by
  change R.steps tokens ++ _ = _
  rw [h, List.append_nil]

namespace Tracks

theorem here (h : Tracks L pre blocks V R R') {tokens out rest' : List Token} :
    TracksAt L pre blocks V R R' tokens out rest' := @h tokens out rest'

theorem pure {a : α} {a' : β} (shown : pre = blocks a) (related : V a a') :
    Tracks L pre blocks V (Pure.pure a) (Pure.pure a') := by
  intro tokens out rest' _ respells _
  cases respells
  exact .done ((List.append_nil pre).trans shown) related

theorem stop {fault fault' : Fault} (like : L.Minds fault → fault.Like L fault') :
    Tracks L pre blocks V (Reader.stop fault) (Reader.stop fault') := by
  intro tokens out rest' minded respells _
  cases respells
  exact .stopped (like (minded _ _ rfl))

/-- A change of the depth in both runs. -/
theorem shift (change change' : Shift) : Plain L Eq (Reader.shift change) (Reader.shift change') := by
  intro tokens out rest' _ respells _
  cases respells
  exact .done rfl rfl

end Tracks

/-- One reader after the other, at some tokens. -/
theorem TracksAt.bind {tokens out rest' : List Token} (first : Tracks L [] blocks V R R')
    (next : ∀ {a a' between later}, V a a' → R.read tokens = .done a between →
      R'.read (out ++ rest') = .done a' (later ++ rest') →
      TracksAt L (pre ++ blocks a) blocks' W (N a) (N' a') between later rest') :
    TracksAt L pre blocks' W (R >>= N) (R' >>= N') tokens out rest' := by
  intro minded respells ahead
  have firsts := @first tokens
  unfold TracksAt at firsts
  rw [bind_read] at minded ahead ⊢
  cases h : R.read tokens with
  | stopped fault rest =>
    rw [h] at minded ahead firsts
    rw [bind_steps_stopped h] at respells ⊢
    have tracked := firsts (fun _ _ same => minded _ _ (by cases same; rfl)) respells ahead
    rw [bind_read]
    cases tracked' : R'.read (out ++ rest') <;> rw [tracked'] at tracked <;> cases tracked
    exact .stopped ‹_›
  | done a between =>
    rw [h] at minded ahead firsts
    rw [bind_steps_done h] at respells ⊢
    obtain ⟨taken, later, rfl, respells, further⟩ := respells.of_append
    -- what the first reader leaves are the steps of the second, and what both leave
    have between_ : Ahead L between (later ++ rest') := by
      have := Ahead.append further ahead
      rwa [(N a).conserves between] at this
    have tracked := firsts (fun _ _ stopped => nomatch stopped) respells between_
    rw [bind_read, List.append_assoc]
    cases tracked' : R'.read (taken ++ (later ++ rest')) <;> rw [tracked'] at tracked <;> cases tracked
    next shown related =>
    have nexts := next related h (by rw [List.append_assoc]; exact tracked') minded further ahead
    rw [List.nil_append] at shown
    rwa [shownBlocks_append, shown, ← List.append_assoc]

namespace Tracks

/-- **One reader after the other.** -/
theorem bind (first : Tracks L [] blocks V R R')
    (next : ∀ {a a'}, V a a' → Tracks L (pre ++ blocks a) blocks' W (N a) (N' a')) :
    Tracks L pre blocks' W (R >>= N) (R' >>= N') :=
  fun _ _ _ => .bind first fun related _ _ => (next related).here

/-- A reader after one that shows no block. -/
theorem andThen (first : Plain L V R R') (next : ∀ {a a'}, V a a' → Tracks L pre blocks' W (N a) (N' a')) :
    Tracks L pre blocks' W (R >>= N) (R' >>= N') :=
  bind first fun related => (List.append_nil pre).symm ▸ next related

/-- A reader after one that comes to the same value. -/
theorem same {R' : Reader α} {N' : α → Reader β'} (first : Plain L Eq R R')
    (next : ∀ a, Tracks L pre blocks' W (N a) (N' a)) : Tracks L pre blocks' W (R >>= N) (R' >>= N') :=
  andThen first fun {a _} same => same ▸ next a

/-- A reader whose value is an item. -/
theorem found (h : Tracks L [] blocks V R R') :
    Tracks L [] (fun found => (found.map blocks).getD []) (Option.Rel V) (do return some (← R))
      (do return some (← R')) :=
  h.bind fun related => .pure rfl (.some related)

/-- Blocks that are counted in another way. -/
theorem recount {blocks' : α → List Values} (h : Tracks L pre blocks V R R') (same : ∀ a, blocks a = blocks' a) :
    Tracks L pre blocks' V R R' :=
  funext same ▸ h

theorem mono {V' : α → β → Prop} (h : Tracks L pre blocks V R R') (imp : ∀ {a a'}, V a a' → V' a a') :
    Tracks L pre blocks V' R R' := by
  intro tokens out rest' minded respells ahead
  have tracked := h minded respells ahead
  generalize R.read tokens = reading, R'.read (out ++ rest') = reading' at tracked
  cases tracked with
  | done shown related => exact .done shown (imp related)
  | stopped like => exact .stopped like

/-- **Where the first run comes to a value**, the second comes to a related one, and the first has shown its blocks. -/
theorem done (h : Tracks L pre blocks V R R') {tokens out rest rest' : List Token} {a : α}
    (read : R.read tokens = .done a rest) (respells : Respells L (R.steps tokens) out) (ahead : Ahead L rest rest') :
    ∃ a', R'.read (out ++ rest') = .done a' rest' ∧ V a a' ∧ pre ++ shownBlocks (R.steps tokens) = blocks a := by
  have tracked := @h tokens out rest' (by rw [read]; exact fun _ _ stopped => nomatch stopped) respells
    (by rw [read]; exact ahead)
  rw [read] at tracked
  generalize R'.read (out ++ rest') = reading at tracked ⊢
  cases tracked with
  | done shown related => exact ⟨_, rfl, related, shown⟩

end Tracks

/-! ## Single tokens -/

theorem peek_tracks : Plain L (Option.Rel L.ahead) peek peek := by
  intro tokens out rest' _ respells ahead
  cases respells
  exact .done rfl ahead.head

theorem next_tracks (hp : Respects p) : Plain L Eq (next p) (next p) := by
  intro tokens out rest' _ respells ahead
  cases respells
  exact .done rfl (ahead.any hp).symm

/-- The predicate does not hold of a token that is looked at alone. -/
def NotAlone (p : Token → Bool) : Prop :=
  ∀ token, p token = true → token.isAlone = false

theorem notAlone_isSymbol {symbols : List String}
    (h : ∀ closing ∈ [")", "\x7d"], closing.toList ∉ symbols.map String.toList) : NotAlone (·.isSymbol symbols) := by
  intro token holds
  obtain ⟨text, is, member⟩ := (Option.any_eq_true _ _).mp holds
  have kind : token.kind = .punctuation := by
    unfold Token.symbol? at is
    split at is
    · assumption
    · cases is
  refine (Bool.or_eq_false_iff ..).mpr ⟨?_, Bool.eq_false_iff.mpr fun closes => ?_⟩
  · unfold Token.spells Token.isKeyword Token.word?
    rw [kind]
    rfl
  · obtain ⟨text', is', closing⟩ := (Option.any_eq_true _ _).mp closes
    obtain rfl := Option.some.inj (is.symm.trans is')
    have absent : ∀ closing ∈ [")", "\x7d"].map String.toList, closing ∉ symbols.map String.toList :=
      List.forall_mem_map.mpr h
    exact absent _ (List.contains_iff_mem.mp closing) (List.contains_iff_mem.mp member)

theorem notAlone_of_keyword {token : Token} (kind : token.kind = .keyword) (other : token.spells ["VALUES"] = false) :
    token.isAlone = false := by
  refine (Bool.or_eq_false_iff ..).mpr ⟨other, ?_⟩
  unfold Token.isSymbol Token.isPunctuation Token.symbol?
  rw [kind]
  rfl

theorem notAlone_spells {words : List String} (h : "VALUES".toList ∉ words.map String.toList) :
    NotAlone (·.spells words) := by
  intro token holds
  obtain ⟨word, is, member⟩ := (Option.any_eq_true _ _).mp holds
  have kind : token.kind = .keyword := by
    unfold Token.word? at is
    split at is
    · assumption
    · cases is
  refine notAlone_of_keyword kind ?_
  unfold Token.spells Token.isKeyword
  rw [is, Bool.eq_false_iff]
  intro spells
  rw [List.mem_singleton.mp (List.contains_iff_mem.mp spells)] at member
  exact h (List.contains_iff_mem.mp member)

/-- The predicate does not hold of an end mark. -/
def NotEnding (p : Token → Bool) : Prop :=
  ∀ token, token.isSymbol endMarks = true → p token = false

theorem notEnding_isSymbol {symbols : List String}
    (h : ∀ mark ∈ endMarks.map String.toList, mark ∉ symbols.map String.toList) :
    NotEnding (·.isSymbol symbols) := by
  intro token ends
  obtain ⟨text, is, member⟩ := (Option.any_eq_true _ _).mp ends
  unfold Token.isSymbol Token.isPunctuation
  beta_reduce
  rw [is, Bool.eq_false_iff]
  exact fun holds => h text (List.contains_iff_mem.mp member) (List.contains_iff_mem.mp holds)

/-- Two predicates hold ahead of both runs or of neither. -/
theorem any_two (hp : Respects p) (hq : Respects q) (free : NotAlone p) (ends : NotEnding q)
    {tokens rest' : List Token} (ahead : Ahead L tokens rest') :
    (rest'.head?.any p && rest'.tail.head?.any q) = (tokens.head?.any p && tokens.tail.head?.any q) := by
  rw [ahead.any hp]
  cases h : tokens.head?.any p with
  | false => rfl
  | true =>
    cases tokens with
    | nil => cases h
    | cons t rest =>
      obtain ⟨t', later, rfl, -, alone | seconds⟩ := ahead.of_cons
      · rw [free t h] at alone
        cases alone
      · change later.head?.any q = rest.head?.any q
        generalize later.head? = second', rest.head? = second at seconds ⊢
        cases seconds with
        | ended mark => exact ends _ mark
        | marks mark mark' => exact (ends _ mark').trans (ends _ mark).symm
        | ahead seconds =>
          cases seconds with
          | none => rfl
          | some ahead => exact hq (L.alike ahead)

theorem nextTwo_tracks (hp : Respects p) (hq : Respects q) (free : NotAlone p) (ends : NotEnding q) :
    Plain L Eq (nextTwo p q) (nextTwo p q) := by
  intro tokens out rest' _ respells ahead
  cases respells
  exact .done rfl (any_two hp hq free ends ahead).symm

/-- Tokens that a reader has accepted. -/
def Accepted (L : Likeness) (p : Token → Bool) (t t' : Token) : Prop :=
  L.like t t' ∧ p t = true

theorem Accepted.respects {t t' : Token} (h : Accepted L p t t') (hp : Respects p) : p t' = true :=
  (hp (L.alike (L.ahead_of_like h.1))).trans h.2

theorem accept?_tracks (hp : Respects p) : Plain L (Option.Rel (Accepted L p)) (accept? p) (accept? p) := by
  intro tokens out rest' _ respells ahead
  match tokens with
  | [] =>
    cases respells
    obtain rfl := ahead.of_nil
    exact .done rfl .none
  | t :: rest =>
    by_cases holds : p t = true
    · have found : (accept? p).read (t :: rest) = .done (some t) rest := if_pos holds
      have steps : (accept? p).steps (t :: rest) = [.token t] := by simp [accept?, holds]
      rw [steps] at respells ⊢
      rw [found] at ahead ⊢
      obtain ⟨t', later, rfl, like, done⟩ := respells.of_token
      cases done
      have accepted : Accepted L p t t' := ⟨like, holds⟩
      have found' : (accept? p).read (t' :: rest') = .done (some t') rest' := if_pos (accepted.respects hp)
      rw [List.singleton_append, found']
      exact .done rfl (.some accepted)
    · have found : (accept? p).read (t :: rest) = .done none (t :: rest) := if_neg holds
      have steps : (accept? p).steps (t :: rest) = [] := by simp [accept?, holds]
      rw [steps] at respells ⊢
      rw [found] at ahead ⊢
      cases respells
      obtain ⟨t', later, rfl, like, -⟩ := ahead.of_cons
      have found' : (accept? p).read (t' :: later) = .done none (t' :: later) :=
        if_neg (hp (L.alike like) ▸ holds)
      change Reading.Tracked L _ _ _ _ _ ((accept? p).read (t' :: later))
      rw [found']
      exact .done rfl .none

theorem acceptTwo?_tracks (hp : Respects p) (hq : Respects q) (free : NotAlone p) (ends : NotEnding q) :
    Plain L (Option.Rel fun pair pair' => Accepted L p pair.1 pair'.1 ∧ Accepted L q pair.2 pair'.2)
      (acceptTwo? p q) (acceptTwo? p q) := by
  intro tokens out rest' _ respells ahead
  by_cases holds : (tokens.head?.any p && tokens.tail.head?.any q) = true
  · obtain ⟨t, u, rest, rfl, both⟩ := exists_two holds
    obtain ⟨found, steps⟩ := @acceptTwo?_found p q t u rest both
    rw [steps] at respells ⊢
    rw [found] at ahead ⊢
    obtain ⟨t', later, rfl, like, others⟩ := respells.of_token
    obtain ⟨u', later, rfl, like', done⟩ := others.of_token
    cases done
    rw [Bool.and_eq_true] at both
    have first : Accepted L p t t' := ⟨like, both.1⟩
    have second : Accepted L q u u' := ⟨like', both.2⟩
    have both' := (Bool.and_eq_true _ _).mpr ⟨first.respects hp, second.respects hq⟩
    rw [List.cons_append, List.singleton_append, (acceptTwo?_found both').1]
    exact .done rfl (.some ⟨first, second⟩)
  · obtain ⟨found, none_⟩ := acceptTwo?_missed holds
    rw [none_] at respells ⊢
    rw [found] at ahead ⊢
    rw [Reading.rest] at ahead
    cases respells
    rw [← any_two hp hq free ends ahead] at holds
    change Reading.Tracked L _ _ _ _ _ ((acceptTwo? p q).read rest')
    rw [(acceptTwo?_missed holds).1]
    exact .done rfl .none

theorem refuse_tracks (expected : Expected) : Tracks L pre blocks V (refuse expected) (refuse expected) :=
  .andThen peek_tracks fun found => .stop fun _ => .unexpected expected found

theorem valued_tracks (term : Except Unreadable α) : Plain L Eq (valued term) (valued term) :=
  match term with
  | .ok _ => .pure rfl rfl
  | .error fault => .stop fun _ => .unreadable fault

/-! ## Choices by the next token -/

namespace Tracks

variable {N N' : Option Token → Reader α} {M : Bool → Reader α} {M' : Bool → Reader β}

/-- A choice by the next token. -/
theorem ifNext (hp : Respects p) (yes : Tracks L pre blocks V (M true) (M' true))
    (no : Tracks L pre blocks V (M false) (M' false)) : Tracks L pre blocks V (next p >>= M) (next p >>= M') :=
  .same (next_tracks hp) fun
    | false => no
    | true => yes

/-- A choice by the next two tokens. -/
theorem ifNextTwo (hp : Respects p) (hq : Respects q) (free : NotAlone p) (ends : NotEnding q)
    (yes : Tracks L pre blocks V (M true) (M' true)) (no : Tracks L pre blocks V (M false) (M' false)) :
    Tracks L pre blocks V (nextTwo p q >>= M) (nextTwo p q >>= M') :=
  .same (nextTwo_tracks hp hq free ends) fun
    | false => no
    | true => yes

end Tracks

namespace Tracks

variable {N : Option Token → Reader α} {N' : Option Token → Reader β}

/-- A token that is accepted, or not. -/
theorem accept? (hp : Respects p)
    (some : ∀ {t t'}, Accepted L p t t' → Tracks L pre blocks V (N (some t)) (N' (some t')))
    (none : Tracks L pre blocks V (N none) (N' none)) :
    Tracks L pre blocks V (Reader.accept? p >>= N) (Reader.accept? p >>= N') :=
  .andThen (accept?_tracks hp) fun found => by
    cases found with
    | none => exact none
    | some accepted => exact some accepted

/-- Two tokens that are accepted, or not. -/
theorem acceptTwo? {N : Option (Token × Token) → Reader α} {N' : Option (Token × Token) → Reader β}
    (hp : Respects p) (hq : Respects q) (free : NotAlone p) (ends : NotEnding q)
    (some : ∀ {t u t' u'}, Accepted L p t t' → Accepted L q u u' →
      Tracks L pre blocks V (N (some (t, u))) (N' (some (t', u'))))
    (none : Tracks L pre blocks V (N none) (N' none)) :
    Tracks L pre blocks V (Reader.acceptTwo? p q >>= N) (Reader.acceptTwo? p q >>= N') :=
  .andThen (acceptTwo?_tracks hp hq free ends) fun found => by
    cases found with
    | none => exact none
    | some accepted => exact some accepted.1 accepted.2

end Tracks

theorem accept_tracks (hp : Respects p) : Plain L Eq (accept p) (accept p) :=
  .accept? hp (fun _ => .pure rfl rfl) (.pure rfl rfl)

namespace Tracks

variable {M : Bool → Reader α} {M' : Bool → Reader β}

/-- A choice by a token that is accepted, or not. -/
theorem ifAccept (hp : Respects p) (yes : Tracks L pre blocks V (M true) (M' true))
    (no : Tracks L pre blocks V (M false) (M' false)) :
    Tracks L pre blocks V (accept p >>= M) (accept p >>= M') :=
  .same (accept_tracks hp) fun
    | false => no
    | true => yes

end Tracks

theorem require_tracks {expected : Expected} (hp : Respects p) :
    Plain L (Accepted L p) (require expected p) (require expected p) :=
  .accept? hp (fun accepted => .pure rfl accepted) (refuse_tracks expected)

namespace Tracks

variable {O : Token → Reader α} {O' : Token → Reader β}

/-- A token that must come next. -/
theorem require {expected : Expected} (hp : Respects p)
    (found : ∀ {t t'}, Accepted L p t t' → Tracks L pre blocks V (O t) (O' t')) :
    Tracks L pre blocks V (Reader.require expected p >>= O) (Reader.require expected p >>= O') :=
  .andThen (require_tracks hp) found

/-- A symbol that must come next. -/
theorem symbol {text : String}
    (found : ∀ {t t'}, L.like t t' → Tracks L pre blocks V (O t) (O' t')) :
    Tracks L pre blocks V (Reader.symbol text >>= O) (Reader.symbol text >>= O') :=
  .require (.isSymbol _) fun accepted => found accepted.1

/-- A word that must come next. -/
theorem word {words : List String} (found : ∀ {t t'}, L.like t t' → Tracks L pre blocks V (O t) (O' t')) :
    Tracks L pre blocks V (Reader.word words >>= O) (Reader.word words >>= O') :=
  .require (.spells _) fun accepted => found accepted.1

end Tracks

/-! ## Marks on the way -/

theorem taking_tracks (h : Tracks L pre blocks V R R') :
    Tracks L pre (fun taken => blocks taken.2)
      (fun taken taken' => Respelled L taken.1 taken'.1 ∧ V taken.2 taken'.2) (taking R) (taking R') := by
  intro tokens out rest' minded respells ahead
  have tracked := @h tokens out rest'
  have taken := gone_read R tokens
  unfold TracksAt at tracked
  unfold taking at minded ahead respells ⊢
  dsimp only at minded ahead respells ⊢
  cases first : R.read tokens with
  | stopped fault rest =>
    rw [first] at minded ahead tracked
    specialize tracked (fun _ _ same => minded _ _ (by cases same; rfl)) respells ahead
    cases second : R'.read (out ++ rest') <;> rw [second] at tracked <;> cases tracked
    exact .stopped ‹_›
  | done a rest =>
    rw [first] at minded ahead tracked taken
    specialize tracked (fun _ _ same => nomatch same) respells ahead
    cases second : R'.read (out ++ rest') <;> rw [second] at tracked <;> cases tracked
    next shown related =>
    refine .done shown ⟨⟨_, taken, ?_⟩, related⟩
    rw [gone_append]
    exact respells

theorem within_tracks {region : Region} (h : Tracks (L.within region) [] blocks V R R') :
    Plain L V (within region R) (within region R') := by
  intro tokens out rest' minded respells ahead
  have tracked := @h tokens out rest' minded respells.of_hide ahead
  change Reading.Tracked L _ V _ rest' (R.read tokens) (R'.read (out ++ rest'))
  rw [show (within region R).steps tokens = (R.steps tokens).map (Step.hide region) from rfl, shownBlocks_hide]
  generalize R.read tokens = first, R'.read (out ++ rest') = second at tracked
  cases tracked with
  | done _ related => exact .done rfl related
  | stopped like => exact .stopped (.of_within like)

end Reader

end QuerySignature
