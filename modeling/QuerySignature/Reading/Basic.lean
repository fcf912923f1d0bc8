import QuerySignature.Error
import QuerySignature.Query.Pattern
import QuerySignature.Reading.Block

/-!
# Reading/Basic — reading tokens one by one

A `Reader` takes tokens from the front of a list; the list ends where the text ends.  It looks at the next
token and, in a few places, at the one after it.  A `Fault` names its cause by the token at hand and not
by its place, and a failing reader leaves the tokens as they stood when it failed.  Beside what it comes to
(`Reader.read`) a reader has the steps it takes on the way (`Reader.steps`): these are the tokens it takes,
in order, and nothing else (`Reader.conserves`), and where a step is an inline data block, its tokens write
it (`Reader.sound`).  It also has the levels it enters and leaves on the way (`Reader.shifts`).  Every loop is
`loop`: each of its turns but the last takes a token, so the tokens at hand bound the number of turns.
-/

namespace QuerySignature

/-- **Why a reader stops.** -/
inductive Fault where
  /-- The next token, `none` at the end of the text, is not what the rule looks for. -/
  | unexpected (expected : Expected) (found : Option Token)
  /-- The bracket would open one level more than the limits admit. -/
  | tooDeep (bracket : Token)
  /-- A row of an inline data block has another length than its header. -/
  | rowLength (width count : Nat) (row : Token)
  /-- A term has no value. -/
  | unreadable (term : Unreadable)
  deriving DecidableEq

/-- **What a reading comes to**: a value or a fault, and the tokens that are left. -/
inductive Reading (α : Type) where
  | done (value : α) (rest : List Token)
  | stopped (fault : Fault) (rest : List Token)
  deriving DecidableEq

/-- The tokens that are left. -/
@[simp]
def Reading.rest : Reading α → List Token
  | done _ rest => rest
  | stopped _ rest => rest

/-! ## Steps -/

/-- **A part of a query whose inline data is not its own**: what it asserts or removes, and the expressions
of its columns and modifiers. -/
inductive Region where
  | template
  | projection
  | grouping
  | having
  | ordering
  deriving DecidableEq, Repr

/-- **A step of a reading**: a token that is taken, or an inline data block that is read from its tokens, in
a region or in none. -/
inductive Step where
  | token (token : Token)
  | block (block : Values) (tokens : List Token) (region : Option Region)

namespace Step

/-- The tokens that a step takes. -/
@[simp]
def tokens : Step → List Token
  | .token taken => [taken]
  | .block _ tokens _ => tokens

/-- The step as one inside a region. -/
@[simp]
def hide (region : Region) : Step → Step
  | .token taken => .token taken
  | .block values tokens _ => .block values tokens (some region)

/-- The block of a step outside all regions. -/
def shown? : Step → Option Values
  | .block values _ none => some values
  | _ => none

@[simp]
theorem tokens_hide (region : Region) (step : Step) : (step.hide region).tokens = step.tokens := by
  cases step <;> rfl

/-- **The tokens of a block write it.** -/
def Sound : Step → Prop
  | .token _ => True
  | .block values tokens _ => IsBlock tokens values

theorem sound_hide {region : Region} {step : Step} (h : step.Sound) : (step.hide region).Sound := by
  cases step <;> exact h

end Step

/-! ## Levels -/

/-- **A change of the depth** of a reading: a bracket opens one more level, or the innermost level ends. -/
inductive Shift where
  | opens (bracket : Token)
  | closes
  deriving DecidableEq, Repr

namespace Shift

/-- **How many levels deeper** changes of the depth lead. -/
def gain : List Shift → Int
  | [] => 0
  | opens _ :: rest => gain rest + 1
  | closes :: rest => gain rest - 1

theorem gain_append (first second : List Shift) : gain (first ++ second) = gain first + gain second := by
  induction first with
  | nil => rw [List.nil_append, gain, Int.zero_add]
  | cons shift first ih =>
    rw [List.cons_append]
    cases shift <;> rw [gain, gain, ih] <;> omega

end Shift

/-! ## Readers -/

/-- **A reader** of tokens: what it comes to, the steps it takes on the way, which are the tokens that are
gone, and how its depth changes on the way. -/
structure Reader (α : Type) where
  read : List Token → Reading α
  steps : List Token → List Step
  shifts : List Token → List Shift
  conserves : ∀ tokens, (steps tokens).flatMap Step.tokens ++ (read tokens).rest = tokens
  sound : ∀ tokens, ∀ step ∈ steps tokens, step.Sound

namespace Reader

/-- Gives a value and takes nothing. -/
protected def pure (a : α) : Reader α where
  read tokens := .done a tokens
  steps _ := []
  shifts _ := []
  conserves _ := rfl
  sound _ _ h := nomatch h

/-- Stops, and takes nothing. -/
def stop (fault : Fault) : Reader α where
  read tokens := .stopped fault tokens
  steps _ := []
  shifts _ := []
  conserves _ := rfl
  sound _ _ h := nomatch h

/-- A reader, and one that depends on its value. -/
protected def bind (first : Reader α) (next : α → Reader β) : Reader β where
  read tokens :=
    match first.read tokens with
    | .done a rest => (next a).read rest
    | .stopped fault rest => .stopped fault rest
  steps tokens :=
    first.steps tokens ++
      match first.read tokens with
      | .done a rest => (next a).steps rest
      | .stopped .. => []
  shifts tokens :=
    first.shifts tokens ++
      match first.read tokens with
      | .done a rest => (next a).shifts rest
      | .stopped .. => []
  conserves tokens := by
    have taken := first.conserves tokens
    cases h : first.read tokens with
    | done a rest =>
      rw [h] at taken
      rw [List.flatMap_append, List.append_assoc, (next a).conserves rest]
      exact taken
    | stopped fault rest =>
      rw [h] at taken
      rw [List.append_nil]
      exact taken
  sound tokens step member := by
    rcases List.mem_append.mp member with member | member
    · exact first.sound tokens step member
    · split at member
      · exact (next _).sound _ step member
      · cases member

instance : Monad Reader where
  pure := Reader.pure
  bind := Reader.bind

/-- The tokens that are left. -/
def left : Reader (List Token) where
  read tokens := .done tokens tokens
  steps _ := []
  shifts _ := []
  conserves _ := rfl
  sound _ _ h := nomatch h

/-- Changes the depth, and takes nothing. -/
def shift (change : Shift) : Reader Unit where
  read tokens := .done () tokens
  steps _ := []
  shifts _ := [change]
  conserves _ := rfl
  sound _ _ h := nomatch h

/-- The next token. -/
def peek : Reader (Option Token) :=
  return (← left).head?

/-- The next token satisfies the predicate. -/
def next (p : Token → Bool) : Reader Bool :=
  return (← left).head?.any p

/-- The next two tokens satisfy the predicates. -/
def nextTwo (p q : Token → Bool) : Reader Bool := do
  let tokens ← left
  return tokens.head?.any p && tokens.tail.head?.any q

/-- **Takes the next token** if it satisfies the predicate. -/
def accept? (p : Token → Bool) : Reader (Option Token) where
  read
    | [] => .done none []
    | token :: rest => if p token then .done (some token) rest else .done none (token :: rest)
  steps tokens := ((tokens.take 1).filter p).map .token
  shifts _ := []
  conserves tokens := by
    match tokens with
    | [] => rfl
    | token :: rest => by_cases h : p token <;> simp [h]
  sound tokens step member := by
    obtain ⟨token, -, rfl⟩ := List.mem_map.mp member
    trivial

/-- Takes the next two tokens if each satisfies its predicate. -/
def acceptTwo? (p q : Token → Bool) : Reader (Option (Token × Token)) where
  read
    | first :: second :: rest =>
      if p first && q second then .done (some (first, second)) rest
      else .done none (first :: second :: rest)
    | tokens => .done none tokens
  steps
    | first :: second :: _ => if p first && q second then [.token first, .token second] else []
    | _ => []
  shifts _ := []
  conserves tokens := by
    match tokens with
    | [] => rfl
    | [_] => rfl
    | first :: second :: rest => by_cases h : (p first && q second) = true <;> simp [h]
  sound tokens step member := by
    match tokens with
    | [] => cases member
    | [_] => cases member
    | first :: second :: rest =>
      dsimp only at member
      split at member
      · rcases List.mem_cons.mp member with rfl | member
        · trivial
        · obtain rfl := List.mem_singleton.mp member
          trivial
      · cases member

/-- Takes the next token if it satisfies the predicate, and tells whether it did. -/
def accept (p : Token → Bool) : Reader Bool :=
  return (← accept? p).isSome

/-- Stops at the next token. -/
def refuse (expected : Expected) : Reader α := do
  stop (.unexpected expected (← peek))

/-- **Takes the next token**, which must satisfy the predicate. -/
def require (expected : Expected) (p : Token → Bool) : Reader Token := do
  match ← accept? p with
  | some token => return token
  | none => refuse expected

/-- Takes the symbol. -/
def symbol (text : String) : Reader Token :=
  require (.symbol text) (·.isSymbol [text])

/-- Takes one of the words. -/
def word (words : List String) : Reader Token :=
  require (.words words) (·.spells words)

/-- Takes a variable and gives its name. -/
def variableName : Reader Text :=
  return (← require .variableName (·.kind = .var)).name

/-- A term whose text may have no value. -/
def valued (term : Except Unreadable α) : Reader α :=
  match term with
  | .ok a => pure a
  | .error fault => stop (.unreadable fault)

/-! ## Marks on the way -/

/-- The tokens that are gone when so many are left. -/
def gone (tokens rest : List Token) : List Token :=
  tokens.take (tokens.length - rest.length)

theorem gone_append (taken rest : List Token) : gone (taken ++ rest) rest = taken := by
  simp [gone]

theorem gone_read (reader : Reader α) (tokens : List Token) :
    gone tokens (reader.read tokens).rest = (reader.steps tokens).flatMap Step.tokens := by
  have taken := gone_append ((reader.steps tokens).flatMap Step.tokens) (reader.read tokens).rest
  rwa [reader.conserves tokens] at taken

/-- The reader, and the tokens it takes. -/
def taking (reader : Reader α) : Reader (List Token × α) where
  read tokens :=
    match reader.read tokens with
    | .done a rest => .done (gone tokens rest, a) rest
    | .stopped fault rest => .stopped fault rest
  steps := reader.steps
  shifts := reader.shifts
  conserves tokens := by
    have taken := reader.conserves tokens
    cases h : reader.read tokens with
    | done a rest => rw [h] at taken; exact taken
    | stopped fault rest => rw [h] at taken; exact taken
  sound := reader.sound

/-- What the reader comes to is written by the tokens it takes. -/
def Writes (written : List Token → α → Prop) (reader : Reader α) : Prop :=
  ∀ {tokens a rest}, reader.read tokens = .done a rest → ∃ taken, tokens = taken ++ rest ∧ written taken a

/-- **The reader as one step**, which gives an inline data block that its tokens write. -/
def asBlock (reader : Reader Values) (writes : Writes IsBlock reader) : Reader Values where
  read := reader.read
  steps tokens :=
    match reader.read tokens with
    | .done block rest => [.block block (gone tokens rest) none]
    | .stopped .. => reader.steps tokens
  shifts := reader.shifts
  conserves tokens := by
    have taken := reader.conserves tokens
    cases h : reader.read tokens with
    | done block rest =>
      have := gone_read reader tokens
      rw [h] at this taken
      rw [List.flatMap_singleton, Step.tokens, show gone tokens rest = _ from this]
      exact taken
    | stopped fault rest => rw [h] at taken; exact taken
  sound tokens step member := by
    split at member
    · next read =>
      obtain rfl := List.mem_singleton.mp member
      obtain ⟨taken, rfl, block⟩ := writes read
      rw [gone_append]
      exact block
    · exact reader.sound tokens step member

/-- **The reader inside a region**, so that its steps are. -/
def within (region : Region) (reader : Reader α) : Reader α where
  read := reader.read
  steps tokens := (reader.steps tokens).map (Step.hide region)
  shifts := reader.shifts
  conserves tokens := by
    rw [List.flatMap_map]
    simp only [Step.tokens_hide]
    exact reader.conserves tokens
  sound tokens step member := by
    obtain ⟨inner, inside, rfl⟩ := List.mem_map.mp member
    exact Step.sound_hide (reader.sound tokens inner inside)

/-! ## Loops -/

/-- **What a turn of a loop brings**: nothing, an item after which no turn follows, or an item. -/
inductive Turn (α : Type) where
  | stop
  | last (item : α)
  | more (item : α)

/-- What the turns of a loop come to, one for each token of the bound and one more; the items found are in
reverse. -/
def loopRead (turn : Reader (Turn α)) : (bound : List Token) → List α → List Token → Reading (List α)
  | bound, found, tokens =>
    match turn.read tokens with
    | .stopped fault rest => .stopped fault rest
    | .done .stop rest => .done found.reverse rest
    | .done (.last item) rest => .done (item :: found).reverse rest
    | .done (.more item) rest =>
      match bound with
      | [] => .done (item :: found).reverse rest
      | _ :: bound => loopRead turn bound (item :: found) rest

/-- The steps of those turns. -/
def loopSteps (turn : Reader (Turn α)) : (bound : List Token) → List Token → List Step
  | bound, tokens =>
    turn.steps tokens ++
      match turn.read tokens with
      | .done (.more _) rest =>
        match bound with
        | [] => []
        | _ :: bound => loopSteps turn bound rest
      | _ => []

/-- How the depth changes in those turns. -/
def loopShifts (turn : Reader (Turn α)) : (bound : List Token) → List Token → List Shift
  | bound, tokens =>
    turn.shifts tokens ++
      match turn.read tokens with
      | .done (.more _) rest =>
        match bound with
        | [] => []
        | _ :: bound => loopShifts turn bound rest
      | _ => []

theorem loop_conserves (turn : Reader (Turn α)) (bound : List Token) (found : List α) (tokens : List Token) :
    (loopSteps turn bound tokens).flatMap Step.tokens ++ (loopRead turn bound found tokens).rest = tokens := by
  induction bound generalizing found tokens with
  | nil =>
    have taken := turn.conserves tokens
    rw [loopSteps, loopRead]
    rcases h : turn.read tokens with ⟨_ | item | item, rest⟩ | ⟨fault, rest⟩ <;> rw [h] at taken <;>
      simpa using taken
  | cons token bound ih =>
    have taken := turn.conserves tokens
    rw [loopSteps, loopRead]
    rcases h : turn.read tokens with ⟨_ | item | item, rest⟩ | ⟨fault, rest⟩ <;> rw [h] at taken
    case done.more =>
      rw [List.flatMap_append, List.append_assoc, ih]
      exact taken
    all_goals simpa using taken

theorem loop_sound (turn : Reader (Turn α)) (bound tokens : List Token) :
    ∀ step ∈ loopSteps turn bound tokens, step.Sound := by
  induction bound generalizing tokens with
  | nil =>
    intro step member
    rw [loopSteps] at member
    rcases List.mem_append.mp member with member | member
    · exact turn.sound tokens step member
    · split at member <;> cases member
  | cons token bound ih =>
    intro step member
    rw [loopSteps] at member
    rcases List.mem_append.mp member with member | member
    · exact turn.sound tokens step member
    · split at member
      · exact ih _ step member
      · cases member

/-- **Repeats a turn** until it stops. -/
def loop (turn : Reader (Turn α)) : Reader (List α) where
  read tokens := loopRead turn tokens [] tokens
  steps tokens := loopSteps turn tokens tokens
  shifts tokens := loopShifts turn tokens tokens
  conserves tokens := loop_conserves turn tokens [] tokens
  sound tokens := loop_sound turn tokens tokens

/-- The turn that an item brings, if there is one. -/
def itemTurn (item : Reader (Option α)) : Reader (Turn α) := do
  match ← item with
  | some a => return .more a
  | none => return .stop

/-- Repeats an item as long as there is one. -/
def many (item : Reader (Option α)) : Reader (List α) :=
  loop (itemTurn item)

/-- Repeats an item as long as the next token satisfies the predicate. -/
def manyWhile (p : Token → Bool) (item : Reader α) : Reader (List α) :=
  many do
    if ← next p then return some (← item) else return none

/-- Repeats an item until the next token satisfies the predicate. -/
def manyUntil (p : Token → Bool) (item : Reader α) : Reader (List α) :=
  many do
    if ← next p then return none else return some (← item)

end Reader

end QuerySignature
