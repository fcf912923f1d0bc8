import QuerySignature.Proofs.Reading.Repetition
import QuerySignature.Reading.Modifiers

/-!
# Proofs/Orderly/Rules — what one run may do

`Passes` follows one run of a reader from a depth to a depth, under a ceiling that the depth never exceeds on
the way; `Orderly` is the case in which the run ends as deep as it started.  A value satisfies what is said of
it, and a fault is due where the run stops (`Fault.Due`): it names the token at hand, a bracket at hand that
the ceiling shuts out, or a token that has no value.  There is one rule for each way to build a reader.
-/

namespace QuerySignature

/-! ## Faults that are due -/

/-- A term that the token writes has no value. -/
inductive Token.Valueless (token : Token) : Unreadable → Prop where
  | literal {sign : Text} {term : Unreadable} : token.kind = .literal →
      Literal.read sign token.text = .error term → Valueless token term
  | colonless : token.isPrefixedName = true → ':' ∉ token.text → Valueless token (.namespaceColon token.text)

/-- The token is a bracket that may open a level. -/
def Token.opensLevel (token : Token) : Bool :=
  token.isSymbol ["\x7b", "(", "["]

/-- What spells one of the words spells one of more words. -/
theorem Token.spells_mono {token : Token} {words more : List String} (h : token.spells words = true)
    (sub : words ⊆ more) : token.spells more = true := by
  obtain ⟨word, is, member⟩ := (Option.any_eq_true _ _).mp h
  refine (Option.any_eq_true _ _).mpr ⟨word, is, ?_⟩
  exact List.contains_iff_mem.mpr (List.map_subset _ sub (List.contains_iff_mem.mp member))

/-- What is one of the symbols is one of more symbols. -/
theorem Token.isSymbol_mono {token : Token} {symbols more : List String} (h : token.isSymbol symbols = true)
    (sub : symbols ⊆ more) : token.isSymbol more = true := by
  obtain ⟨text, is, member⟩ := (Option.any_eq_true _ _).mp h
  refine (Option.any_eq_true _ _).mpr ⟨text, is, ?_⟩
  exact List.contains_iff_mem.mpr (List.map_subset _ sub (List.contains_iff_mem.mp member))

/-- **The token is at hand** where tokens have been taken and others are left: it is the last of the former or
the first of the latter. -/
def Token.AtHand (taken rest : List Token) (token : Token) : Prop :=
  taken.getLast? = some token ∨ rest.head? = some token

/-- **The fault is due** where tokens have been taken and others are left.  The input satisfies `S`, and `full`
says that the depth is at its ceiling. -/
inductive Fault.Due (S : Token → Prop) (full : Prop) (taken rest : List Token) : Fault → Prop where
  | unexpected (expected : Expected) : Due S full taken rest (.unexpected expected rest.head?)
  | tooDeep {bracket : Token} : full → bracket.opensLevel = true → bracket.AtHand taken rest →
      Due S full taken rest (.tooDeep bracket)
  | rowLength (width count : Nat) {row : Token} : S row → Due S full taken rest (.rowLength width count row)
  | unreadable {token : Token} {term : Unreadable} : S token → token.Valueless term →
      Due S full taken rest (.unreadable term)
  | numeral {keyword number : Token} : [keyword, number] <:+ taken → keyword.spells ["LIMIT", "OFFSET"] = true →
      Reader.isDigits number = true → Text.natural? number.text = none →
      Due S full taken rest (.unreadable (.numeral number.text))

variable {S : Token → Prop} {α β : Type}

/-- A report stays due when tokens are put in front of those that were taken. -/
theorem Fault.Due.behind {full : Prop} {taken rest : List Token} {fault : Fault} (h : fault.Due S full taken rest)
    (front : List Token) : fault.Due S full (front ++ taken) rest := by
  cases h with
  | unexpected expected => exact .unexpected expected
  | tooDeep deep opens hand =>
    refine .tooDeep deep opens (hand.imp_left fun last => ?_)
    rw [List.getLast?_append, last, Option.some_or]
  | rowLength width count row => exact .rowLength width count row
  | unreadable member valueless => exact .unreadable member valueless
  | numeral last slices digits none_ =>
    exact .numeral (List.suffix_append_of_suffix last) slices digits none_

/-- **What a run comes to**, at a depth: the depth it should end at and a value of which `Q` holds, or a fault
that is due. -/
inductive Reading.Ends (S : Token → Prop) (ceiling after : Nat) (Q : α → Prop) (depth : Int)
    (taken : List Token) : Reading α → Prop where
  | done {a : α} {rest : List Token} : depth = after → Q a → Ends S ceiling after Q depth taken (.done a rest)
  | stopped {fault : Fault} {rest : List Token} : fault.Due S (depth = ceiling) taken rest →
      Ends S ceiling after Q depth taken (.stopped fault rest)

/-- A reading ends as it did when tokens are put in front of those that were taken. -/
theorem Reading.Ends.behind {ceiling after : Nat} {Q : α → Prop} {depth : Int} {taken : List Token}
    {reading : Reading α} (h : reading.Ends S ceiling after Q depth taken) (front : List Token) :
    reading.Ends S ceiling after Q depth (front ++ taken) := by
  cases h with
  | done level holds => exact .done level holds
  | stopped due => exact .stopped (due.behind front)

/-! ## Depths -/

/-- **From a depth on, changes never lead below the ground or above the ceiling.** -/
def Shift.Stays (ceiling : Nat) (depth : Int) (shifts : List Shift) : Prop :=
  ∀ front, front <+: shifts → 0 ≤ depth + gain front ∧ depth + gain front ≤ ceiling

/-- No change of the counter keeps it in range. -/
theorem Shift.Stays.nil {ceiling : Nat} {depth : Int} (low : 0 ≤ depth) (high : depth ≤ ceiling) :
    Stays ceiling depth [] := by
  intro front start
  rw [List.prefix_nil.mp start, gain, Int.add_zero]
  exact ⟨low, high⟩

/-- Two runs of changes, the second from where the first leaves the counter. -/
theorem Shift.Stays.append {ceiling : Nat} {depth : Int} {first second : List Shift} (h : Stays ceiling depth first)
    (h' : Stays ceiling (depth + gain first) second) : Stays ceiling depth (first ++ second) := by
  intro front start
  rcases List.prefix_or_prefix_of_prefix start (List.prefix_append first second) with inside | beyond
  · exact h front inside
  · obtain ⟨later, rfl⟩ := beyond
    rw [gain_append, ← Int.add_assoc]
    exact h' later ((List.prefix_append_right_inj first).mp start)

/-- One change stays in range if both its ends do. -/
theorem Shift.Stays.singleton {ceiling : Nat} {depth : Int} {change : Shift} (h : Stays ceiling depth [])
    (h' : Stays ceiling (depth + gain [change]) []) : Stays ceiling depth [change] := by
  intro front start
  rcases front with _ | ⟨first, others⟩
  · exact h [] (List.prefix_refl [])
  · obtain ⟨rfl, none_⟩ := List.cons_prefix_cons.mp start
    rw [List.prefix_nil.mp none_]
    have := h' [] (List.prefix_refl [])
    rwa [gain, Int.add_zero] at this

namespace Reader

/-! ## The judgment -/

/-- **A run from some tokens** goes from a depth to a depth, below the ceiling. -/
structure PassesAt (S : Token → Prop) (ceiling before after : Nat) (Q : α → Prop) (R : Reader α)
    (tokens : List Token) : Prop where
  stays : Shift.Stays ceiling before (R.shifts tokens)
  ends : (R.read tokens).Ends S ceiling after Q (before + Shift.gain (R.shifts tokens))
    ((R.steps tokens).flatMap Step.tokens)

/-- **Every run goes from a depth to a depth**, below the ceiling, if its tokens satisfy `S`. -/
def Passes (S : Token → Prop) (ceiling before after : Nat) (Q : α → Prop) (R : Reader α) : Prop :=
  before ≤ ceiling → ∀ {tokens : List Token}, (∀ token ∈ tokens, S token) →
    PassesAt S ceiling before after Q R tokens

/-- **Every run ends as deep as it started.** -/
abbrev Orderly (S : Token → Prop) (ceiling depth : Nat) (Q : α → Prop) (R : Reader α) : Prop :=
  Passes S ceiling depth depth Q R

/-- Nothing is said of a value. -/
abbrev Anything : α → Prop := fun _ => True

/-- What is said of an item, if there is one. -/
def Given (P : α → Prop) : Option α → Prop
  | some a => P a
  | none => True

variable {ceiling before between after depth : Nat} {P : α → Prop} {Q : β → Prop} {R : Reader α}
  {N : α → Reader β} {p q : Token → Bool} {tokens : List Token}

/-- The counter begins in range. -/
theorem Shift.Stays.start (low : before ≤ ceiling) : Shift.Stays ceiling before [] :=
  .nil (Int.natCast_nonneg before) (Int.ofNat_le.mpr low)

/-- What holds of every token holds of those that are left. -/
theorem forall_rest (input : ∀ token ∈ tokens, S token) {a : α} {rest : List Token}
    (h : R.read tokens = .done a rest) : ∀ token ∈ rest, S token := by
  rw [← conserves_done h] at input
  exact fun token member => input token (List.mem_append_right _ member)

/-- The changes of a chain are those of its two readers. -/
theorem bind_shifts_done {rest : List Token} {a : α} (h : R.read tokens = .done a rest) :
    (R >>= N).shifts tokens = R.shifts tokens ++ (N a).shifts rest := by
  change R.shifts tokens ++ _ = _
  rw [h]

/-- A chain that stops early has the changes of its first reader. -/
theorem bind_shifts_stopped {rest : List Token} {fault : Fault} (h : R.read tokens = .stopped fault rest) :
    (R >>= N).shifts tokens = R.shifts tokens := by
  change R.shifts tokens ++ _ = _
  rw [h, List.append_nil]

/-- A run behind one that has come to a value. -/
theorem PassesAt.behind {a : α} {rest : List Token} (h : R.read tokens = .done a rest)
    (stays : Shift.Stays ceiling before (R.shifts tokens))
    (level : (before : Int) + Shift.gain (R.shifts tokens) = between)
    (next : PassesAt S ceiling between after Q (N a) rest) : PassesAt S ceiling before after Q (R >>= N) tokens := by
  constructor
  · rw [bind_shifts_done h]
    exact stays.append (level ▸ next.stays)
  · rw [bind_shifts_done h, bind_steps_done h, bind_read, h, Shift.gain_append, ← Int.add_assoc, level,
      List.flatMap_append]
    exact next.ends.behind _

/-- A run that stops in its first part. -/
theorem PassesAt.early {fault : Fault} {rest : List Token} (h : R.read tokens = .stopped fault rest)
    (first : PassesAt S ceiling before between P R tokens) : PassesAt S ceiling before after Q (R >>= N) tokens := by
  have ends := first.ends
  rw [h] at ends
  cases ends with
  | stopped due =>
    refine ⟨bind_shifts_stopped h ▸ first.stays, ?_⟩
    rw [bind_shifts_stopped h, bind_steps_stopped h, bind_read, h]
    exact .stopped due

/-- A run that stops behind some tokens, still as deep as it started. -/
theorem PassesAt.of_stopped {front rest : List Token} {fault : Fault}
    (read : R.read (front ++ rest) = .stopped fault rest) (shifts : R.shifts (front ++ rest) = [])
    (low : before ≤ ceiling) (due : fault.Due S ((before : Int) = ceiling) front rest) :
    PassesAt S ceiling before after P R (front ++ rest) := by
  have taken : (R.steps (front ++ rest)).flatMap Step.tokens = front := by
    have whole := R.conserves (front ++ rest)
    rw [read] at whole
    exact List.append_cancel_right whole
  refine ⟨shifts ▸ Shift.Stays.start low, ?_⟩
  rw [read, taken, shifts]
  exact .stopped due

namespace Passes

/-- A value that is given takes nothing and moves no counter. -/
theorem pure {a : α} (h : depth ≤ ceiling → P a) : Orderly S ceiling depth P (Pure.pure a) :=
  fun low _ _ => ⟨Shift.Stays.start low, .done (Int.add_zero _) (h low)⟩

/-- A fault that is due wherever the run stops. -/
theorem stop {fault : Fault} (h : ∀ full taken rest, fault.Due S full taken rest) :
    Passes S ceiling before after P (Reader.stop fault) :=
  fun low _ _ => ⟨Shift.Stays.start low, .stopped (h _ _ _)⟩

/-- **One reader after the other.** -/
theorem bind (first : Passes S ceiling before between P R)
    (next : ∀ {a}, P a → Passes S ceiling between after Q (N a)) : Passes S ceiling before after Q (R >>= N) := by
  intro low tokens input
  have run := first low input
  cases h : R.read tokens with
  | stopped fault rest => exact run.early h
  | done a rest =>
    have ends := run.ends
    rw [h] at ends
    cases ends with
    | done level holds =>
      have high := (run.stays _ (List.prefix_refl _)).2
      exact .behind h run.stays level (next holds (by omega) (forall_rest input h))

/-- A reader after one of whose value nothing is said. -/
theorem andThen (first : Passes S ceiling before between Anything R)
    (next : ∀ a, Passes S ceiling between after Q (N a)) : Passes S ceiling before after Q (R >>= N) :=
  first.bind fun {a} _ => next a

/-- What a reader gives may be said with less. -/
theorem mono {P' : α → Prop} (h : Passes S ceiling before after P R) (imp : ∀ {a}, P a → P' a) :
    Passes S ceiling before after P' R := by
  intro low tokens input
  have run := h low input
  refine ⟨run.stays, ?_⟩
  have ends := run.ends
  generalize R.read tokens = reading at ends
  cases ends with
  | done level holds => exact .done level (imp holds)
  | stopped due => exact .stopped due

/-- A reader whose value is an item. -/
theorem found (h : Orderly S ceiling depth P R) : Orderly S ceiling depth (Given P) (do return some (← R)) :=
  bind h fun holds => .pure fun _ => holds

/-- A reader of whose value nothing need be said. -/
theorem anything (h : Passes S ceiling before after P R) : Passes S ceiling before after Anything R :=
  h.mono fun _ => trivial

end Passes

/-! ## Single tokens -/

theorem peek_orderly : Orderly S ceiling depth (Given S) peek := by
  intro low tokens input
  refine ⟨Shift.Stays.start low, .done (Int.add_zero _) ?_⟩
  cases tokens with
  | nil => trivial
  | cons token rest => exact input token (.head _)

theorem next_orderly : Orderly S ceiling depth Anything (next p) :=
  fun low _ _ => ⟨Shift.Stays.start low, .done (Int.add_zero _) trivial⟩

theorem nextTwo_orderly : Orderly S ceiling depth Anything (nextTwo p q) :=
  fun low _ _ => ⟨Shift.Stays.start low, .done (Int.add_zero _) trivial⟩

/-- The token is in the input, and the predicate holds of it. -/
def Taken (S : Token → Prop) (p : Token → Bool) (token : Token) : Prop :=
  S token ∧ p token = true

theorem accept?_orderly : Orderly S ceiling depth (Given (Taken S p)) (accept? p) := by
  intro low tokens input
  refine ⟨Shift.Stays.start low, ?_⟩
  cases h : (accept? p).read tokens with
  | stopped fault rest =>
    cases tokens with
    | nil => cases h
    | cons token others =>
      by_cases holds : p token = true <;> simp [accept?, holds] at h
  | done found rest =>
    refine .done (Int.add_zero _) ?_
    cases found with
    | none => trivial
    | some token =>
      obtain ⟨rfl, holds⟩ := accept?_some.mp h
      exact ⟨input token (.head _), holds⟩

theorem acceptTwo?_orderly :
    Orderly S ceiling depth (Given fun pair => Taken S p pair.1 ∧ Taken S q pair.2) (acceptTwo? p q) := by
  intro low tokens input
  refine ⟨Shift.Stays.start low, ?_⟩
  by_cases h : (tokens.head?.any p && tokens.tail.head?.any q) = true
  · obtain ⟨a, b, others, rfl, both⟩ := exists_two h
    rw [(acceptTwo?_found both).1]
    obtain ⟨holds, holds'⟩ := (Bool.and_eq_true _ _).mp both
    exact .done (Int.add_zero _) ⟨⟨input a (.head _), holds⟩, ⟨input b (.tail _ (.head _)), holds'⟩⟩
  · rw [(acceptTwo?_missed h).1]
    exact .done (Int.add_zero _) trivial

/-- A refusal is due where it is made. -/
theorem refuse_orderly (expected : Expected) : Passes S ceiling before after P (refuse expected) :=
  fun low _ _ => ⟨Shift.Stays.start low, .stopped (.unexpected expected)⟩

/-- A value that cannot be read is due if a token says so. -/
theorem valued_orderly {term : Except Unreadable α}
    (h : ∀ fault, term = .error fault → ∃ token, S token ∧ token.Valueless fault) :
    Orderly S ceiling depth Anything (valued term) :=
  match term, h with
  | .ok _, _ => .pure fun _ => trivial
  | .error fault, h => .stop fun _ _ _ => by
    obtain ⟨token, member, valueless⟩ := h fault rfl
    exact .unreadable member valueless

namespace Passes

variable {M : Bool → Reader β} {N : Option Token → Reader β} {O : Token → Reader β}

/-- A choice by the next token. -/
theorem ifNext (yes : Passes S ceiling before after Q (M true)) (no : Passes S ceiling before after Q (M false)) :
    Passes S ceiling before after Q (next p >>= M) :=
  andThen next_orderly fun
    | true => yes
    | false => no

/-- A choice by the next two tokens. -/
theorem ifNextTwo (yes : Passes S ceiling before after Q (M true))
    (no : Passes S ceiling before after Q (M false)) : Passes S ceiling before after Q (nextTwo p q >>= M) :=
  andThen nextTwo_orderly fun
    | true => yes
    | false => no

/-- A token that is accepted, or not. -/
theorem accept? (some : ∀ {token}, Taken S p token → Passes S ceiling before after Q (N (some token)))
    (none : Passes S ceiling before after Q (N none)) :
    Passes S ceiling before after Q (Reader.accept? p >>= N) :=
  bind accept?_orderly fun {found} given => by
    cases found with
    | none => exact none
    | some token => exact some given

/-- Two tokens that are accepted, or not. -/
theorem acceptTwo? {N : Option (Token × Token) → Reader β}
    (some : ∀ {t u}, Taken S p t → Taken S q u → Passes S ceiling before after Q (N (some (t, u))))
    (none : Passes S ceiling before after Q (N none)) :
    Passes S ceiling before after Q (Reader.acceptTwo? p q >>= N) :=
  bind acceptTwo?_orderly fun {found} given => by
    cases found with
    | none => exact none
    | some pair => exact some given.1 given.2

end Passes

theorem accept_orderly : Orderly S ceiling depth Anything (accept p) :=
  .accept? (fun _ => .pure fun _ => trivial) (.pure fun _ => trivial)

/-- A required token moves no counter. -/
theorem require_shifts {expected : Expected} : (require expected p).shifts tokens = [] := by
  unfold require
  cases h : (accept? p).read tokens with
  | stopped fault rest => exact bind_shifts_stopped h
  | done found rest =>
    rw [bind_shifts_done h]
    cases found <;> rfl

/-- A required token is given, or its report is due. -/
theorem require_orderly {expected : Expected} : Orderly S ceiling depth (Taken S p) (require expected p) :=
  .accept? (fun taken => .pure fun _ => taken) (refuse_orderly expected)

namespace Passes

variable {M : Bool → Reader β} {O : Token → Reader β}

/-- A choice by a token that is accepted, or not. -/
theorem ifAccept (yes : Passes S ceiling before after Q (M true))
    (no : Passes S ceiling before after Q (M false)) : Passes S ceiling before after Q (accept p >>= M) :=
  andThen accept_orderly fun
    | true => yes
    | false => no

/-- A token that must come next. -/
theorem require {expected : Expected} (found : ∀ {token}, Taken S p token → Passes S ceiling before after Q (O token)) :
    Passes S ceiling before after Q (Reader.require expected p >>= O) :=
  bind require_orderly found

/-- A symbol that must come next. -/
theorem symbol {text : String} (found : ∀ {token}, S token → Passes S ceiling before after Q (O token)) :
    Passes S ceiling before after Q (Reader.symbol text >>= O) :=
  require fun taken => found taken.1

/-- A word that must come next. -/
theorem word {words : List String} (found : ∀ {token}, S token → Passes S ceiling before after Q (O token)) :
    Passes S ceiling before after Q (Reader.word words >>= O) :=
  require fun taken => found taken.1

end Passes

/-! ## Marks on the way -/

/-- Noting the tokens taken changes nothing else. -/
theorem taking_orderly (h : Orderly S ceiling depth P R) :
    Orderly S ceiling depth (fun taken => P taken.2) (taking R) := by
  intro low tokens input
  have run := h low input
  refine ⟨run.stays, ?_⟩
  have ends := run.ends
  unfold taking
  dsimp only
  generalize R.read tokens = reading at ends
  cases ends with
  | done level holds => exact .done level holds
  | stopped due => exact .stopped due

/-- Noting a region changes nothing else. -/
theorem within_orderly {region : Region} (h : Orderly S ceiling depth P R) :
    Orderly S ceiling depth P (within region R) := by
  intro low tokens input
  have run := h low input
  refine ⟨run.stays, ?_⟩
  have same : ((within region R).steps tokens).flatMap Step.tokens = (R.steps tokens).flatMap Step.tokens := by
    change ((R.steps tokens).map (Step.hide region)).flatMap Step.tokens = _
    rw [List.flatMap_map]
    simp only [Step.tokens_hide]
  rw [same]
  exact run.ends

/-- Noting a block changes nothing else. -/
theorem asBlock_orderly {R : Reader Values} {writes : Writes IsBlock R} {P : Values → Prop}
    (h : Orderly S ceiling depth P R) : Orderly S ceiling depth P (asBlock R writes) := by
  intro low tokens input
  have run := h low input
  refine ⟨run.stays, ?_⟩
  have same : ((asBlock R writes).steps tokens).flatMap Step.tokens = (R.steps tokens).flatMap Step.tokens := by
    rw [← gone_read, ← gone_read]
    rfl
  rw [same]
  exact run.ends

/-! ## Loops -/

/-- What is said of the item that a turn brings. -/
def Turn.Given (P : α → Prop) : Turn α → Prop
  | stop => True
  | last item => P item
  | more item => P item

/-- The turns from one on. -/
theorem loopFrom_orderly {turn : Reader (Turn α)} (h : Orderly S ceiling depth (Turn.Given P) turn)
    (bound : List Token) : ∀ {found : List α}, (∀ item ∈ found, P item) →
      Orderly S ceiling depth (fun list => ∀ item ∈ list, P item) (loopFrom turn bound found) := by
  have done {list : List α} (all : ∀ item ∈ list, P item) :
      Orderly S ceiling depth (fun list => ∀ item ∈ list, P item) (pure list.reverse) :=
    .pure fun _ item member => all item (List.mem_reverse.mp member)
  induction bound with
  | nil =>
    intro found all
    rw [loopFrom_eq]
    refine h.bind fun {turned} given => ?_
    cases turned with
    | stop => exact done all
    | last item => exact done (List.forall_mem_cons.mpr ⟨given, all⟩)
    | more item => exact done (List.forall_mem_cons.mpr ⟨given, all⟩)
  | cons token bound ih =>
    intro found all
    rw [loopFrom_eq]
    refine h.bind fun {turned} given => ?_
    cases turned with
    | stop => exact done all
    | last item => exact done (List.forall_mem_cons.mpr ⟨given, all⟩)
    | more item => exact ih (List.forall_mem_cons.mpr ⟨given, all⟩)

/-- **A loop is orderly** if its turns are. -/
theorem loop_orderly {turn : Reader (Turn α)} (h : Orderly S ceiling depth (Turn.Given P) turn) :
    Orderly S ceiling depth (fun list => ∀ item ∈ list, P item) (loop turn) := by
  intro low tokens input
  have run := loopFrom_orderly h tokens (List.forall_mem_nil P) low input
  exact ⟨run.stays, run.ends⟩

section Items

variable {item : Reader (Option α)} {each : Reader α}

/-- Every item of a list is as one item is. -/
theorem many_orderly (h : Orderly S ceiling depth (Given P) item) :
    Orderly S ceiling depth (fun list => ∀ item ∈ list, P item) (many item) :=
  loop_orderly (h.bind fun {found} given => by
    cases found with
    | none => exact .pure fun _ => trivial
    | some a => exact .pure fun _ => given)

/-- A loop of whose items nothing is said. -/
theorem many_anything (h : Orderly S ceiling depth (Given Anything) item) :
    Orderly S ceiling depth Anything (many item) :=
  (many_orderly h).anything

theorem manyWhile_orderly (h : Orderly S ceiling depth P each) :
    Orderly S ceiling depth (fun list => ∀ item ∈ list, P item) (manyWhile p each) :=
  many_orderly (.ifNext h.found (.pure fun _ => trivial))

theorem manyUntil_orderly (h : Orderly S ceiling depth P each) :
    Orderly S ceiling depth (fun list => ∀ item ∈ list, P item) (manyUntil p each) :=
  many_orderly (.ifNext (.pure fun _ => trivial) h.found)

end Items

end Reader

end QuerySignature
