import QuerySignature.Proofs.Reading.Unrolled

/-!
# Proofs/Advancing/Rules — loops that take a token in every turn

`Runs` is reading as it goes, without a bound on the turns of a loop: a loop is a turn and, if that goes on, the loop
again.  A run counts the tokens it takes (`Runs.length`), so it takes no more than there are.  A reader is `Advancing`
if it is made of steps, one after the other, and of loops each of whose turns takes a token unless it ends the loop;
such a reader has a run over any tokens, and this comes to what the reader does (`Advancing.hasRun`).  So the bound of a
loop, which only makes reading a function, is never what ends it.
-/

namespace QuerySignature.Reader

/-! ## Runs -/

/-- **A run of a reader** over tokens: what it comes to, and how many tokens it takes. -/
inductive Runs : {α : Type} → Reader α → List Token → Reading α → Nat → Prop where
  | pure {α : Type} (a : α) (tokens : List Token) : Runs (Pure.pure a) tokens (.done a tokens) 0
  | stop {α : Type} (fault : Fault) (tokens : List Token) :
      Runs (Reader.stop fault : Reader α) tokens (.stopped fault tokens) 0
  | left (tokens : List Token) : Runs Reader.left tokens (.done tokens tokens) 0
  | shift (change : Shift) (tokens : List Token) : Runs (Reader.shift change) tokens (.done () tokens) 0
  /-- The next token is taken. -/
  | one {p : Token → Bool} {token : Token} {rest : List Token} : p token = true →
      Runs (accept? p) (token :: rest) (.done (some token) rest) 1
  | notOne {p : Token → Bool} {tokens : List Token} : tokens.head?.any p = false →
      Runs (accept? p) tokens (.done none tokens) 0
  /-- The next two tokens are taken. -/
  | two {p q : Token → Bool} {first second : Token} {rest : List Token} : p first = true → q second = true →
      Runs (acceptTwo? p q) (first :: second :: rest) (.done (some (first, second)) rest) 2
  | notTwo {p q : Token → Bool} {tokens : List Token} :
      ¬(tokens.head?.any p && tokens.tail.head?.any q) = true → Runs (acceptTwo? p q) tokens (.done none tokens) 0
  /-- One reader behind the other. -/
  | bind {α β : Type} {R : Reader α} {N : α → Reader β} {tokens rest : List Token} {a : α} {reading : Reading β}
      {m n : Nat} : Runs R tokens (.done a rest) m → Runs (N a) rest reading n → Runs (R >>= N) tokens reading (m + n)
  /-- The first reader stops. -/
  | early {α β : Type} {R : Reader α} {N : α → Reader β} {tokens rest : List Token} {fault : Fault} {n : Nat} :
      Runs R tokens (.stopped fault rest) n → Runs (R >>= N) tokens (.stopped fault rest) n
  | taking {α : Type} {R : Reader α} {tokens rest : List Token} {a : α} {n : Nat} :
      Runs R tokens (.done a rest) n → Runs (taking R) tokens (.done (gone tokens rest, a) rest) n
  | takingStopped {α : Type} {R : Reader α} {tokens rest : List Token} {fault : Fault} {n : Nat} :
      Runs R tokens (.stopped fault rest) n → Runs (taking R) tokens (.stopped fault rest) n
  | within {α : Type} {R : Reader α} {tokens : List Token} {reading : Reading α} {n : Nat} (region : Region) :
      Runs R tokens reading n → Runs (within region R) tokens reading n
  | asBlock {R : Reader Values} {tokens : List Token} {reading : Reading Values} {n : Nat}
      (writes : Writes IsBlock R) : Runs R tokens reading n → Runs (asBlock R writes) tokens reading n
  /-- A turn, and the loop again if the turn goes on. -/
  | loop {α : Type} {turn : Reader (Turn α)} {tokens : List Token} {reading : Reading (List α)} {n : Nat} :
      Runs (turn >>= afterTurn turn) tokens reading n → Runs (loop turn) tokens reading n

variable {α β : Type} {R : Reader α} {N : α → Reader β} {turn : Reader (Turn α)} {item : Reader (Option α)}
  {tokens : List Token}

/-- **A run takes each token once**, up to those that it leaves. -/
theorem Runs.length {reading : Reading α} {n : Nat} (run : Runs R tokens reading n) :
    n + reading.rest.length = tokens.length := by
  induction run with
  | one => exact Nat.add_comm 1 _
  | two => exact Nat.add_comm 2 _
  | bind _ _ ih ih' => rw [Nat.add_assoc, ih', ← ih, Reading.rest]
  | early _ ih | taking _ ih | takingStopped _ ih | within _ _ ih | asBlock _ _ ih | loop _ ih => exact ih
  | _ => simp

/-- The reader has a run, and this comes to what the reader does. -/
def HasRun (R : Reader α) (tokens : List Token) : Prop :=
  ∃ n, Runs R tokens (R.read tokens) n

theorem HasRun.bind (first : HasRun R tokens)
    (next : ∀ a rest, R.read tokens = .done a rest → HasRun (N a) rest) : HasRun (R >>= N) tokens := by
  obtain ⟨m, first⟩ := first
  unfold HasRun
  rw [bind_read]
  cases read : R.read tokens with
  | done a rest =>
    obtain ⟨n, next⟩ := next a rest read
    exact ⟨m + n, .bind (read ▸ first) next⟩
  | stopped fault rest => exact ⟨m, .early (read ▸ first)⟩

/-! ## Readers whose loops advance -/

/-- **Every loop of the reader advances**: it is made of steps and of loops, of which each turn that goes on has taken
a token.  What follows a reader need only be such behind the values that this comes to. -/
inductive Advancing : {α : Type} → Reader α → Prop where
  | pure {α : Type} (a : α) : Advancing (Pure.pure a)
  | stop {α : Type} (fault : Fault) : Advancing (Reader.stop fault : Reader α)
  | left : Advancing Reader.left
  | shift (change : Shift) : Advancing (Reader.shift change)
  | accept? (p : Token → Bool) : Advancing (Reader.accept? p)
  | acceptTwo? (p q : Token → Bool) : Advancing (Reader.acceptTwo? p q)
  | bind {α β : Type} {R : Reader α} {N : α → Reader β} : Advancing R →
      (∀ tokens a rest, R.read tokens = .done a rest → Advancing (N a)) → Advancing (R >>= N)
  | taking {α : Type} {R : Reader α} : Advancing R → Advancing (Reader.taking R)
  | within {α : Type} {R : Reader α} (region : Region) : Advancing R → Advancing (Reader.within region R)
  | asBlock {R : Reader Values} (writes : Writes IsBlock R) : Advancing R → Advancing (Reader.asBlock R writes)
  | loop {α : Type} {turn : Reader (Turn α)} : Advancing turn → Progress Turn.GoesOn turn →
      Advancing (Reader.loop turn)

/-- **A loop whose turns advance has a run**, by induction on the tokens at hand. -/
theorem hasRun_loop (runs : ∀ tokens, HasRun turn tokens) (progress : Progress Turn.GoesOn turn) (tokens : List Token) :
    HasRun (loop turn) tokens := by
  induction size : tokens.length using Nat.strongRecOn generalizing tokens with
  | ind size ih =>
    subst size
    have unrolled : HasRun (turn >>= afterTurn turn) tokens := by
      refine (runs tokens).bind fun turned rest read => ?_
      cases turned with
      | stop => exact ⟨0, .pure _ _⟩
      | last item => exact ⟨0, .pure _ _⟩
      | more item =>
        have again : HasRun (loop turn) rest := ih _ (progress read trivial) rest rfl
        exact again.bind fun list rest _ => ⟨0, .pure _ _⟩
    obtain ⟨n, run⟩ := unrolled
    exact ⟨n, .loop (loop_unroll progress tokens ▸ run)⟩

/-- **A reader whose loops advance has a run** over any tokens. -/
theorem Advancing.hasRun (h : Advancing R) (tokens : List Token) : HasRun R tokens := by
  induction h generalizing tokens with
  | pure a => exact ⟨0, .pure _ _⟩
  | stop fault => exact ⟨0, .stop _ _⟩
  | left => exact ⟨0, .left _⟩
  | shift change => exact ⟨0, .shift _ _⟩
  | accept? p =>
    cases read : (Reader.accept? p).read tokens with
    | stopped fault rest => exact absurd read accept?_stopped
    | done found rest =>
      unfold HasRun
      rw [read]
      cases found with
      | none =>
        obtain ⟨rfl, missed⟩ := accept?_none.mp read
        exact ⟨0, .notOne missed⟩
      | some token =>
        obtain ⟨rfl, holds⟩ := accept?_some.mp read
        exact ⟨1, .one holds⟩
  | acceptTwo? p q =>
    unfold HasRun
    by_cases both : (tokens.head?.any p && tokens.tail.head?.any q) = true
    · obtain ⟨first, second, rest, rfl, holds⟩ := exists_two both
      rw [(acceptTwo?_found holds).1]
      obtain ⟨holds, holds'⟩ := (Bool.and_eq_true _ _).mp holds
      exact ⟨2, .two holds holds'⟩
    · rw [(acceptTwo?_missed both).1]
      exact ⟨0, .notTwo both⟩
  | bind _ _ ih ih' => exact (ih tokens).bind fun a rest read => ih' tokens a rest read rest
  | @taking _ R _ ih =>
    obtain ⟨n, run⟩ := ih tokens
    cases read : R.read tokens with
    | done a rest =>
      have whole : (Reader.taking R).read tokens = .done (gone tokens rest, a) rest := by
        simp only [Reader.taking, read]
      exact ⟨n, whole ▸ .taking (read ▸ run)⟩
    | stopped fault rest =>
      have whole : (Reader.taking R).read tokens = .stopped fault rest := by simp only [Reader.taking, read]
      exact ⟨n, whole ▸ .takingStopped (read ▸ run)⟩
  | within region _ ih => exact (ih tokens).imp fun _ run => .within region run
  | asBlock writes _ ih => exact (ih tokens).imp fun _ run => .asBlock writes run
  | loop _ progress ih => exact hasRun_loop ih progress tokens

/-! ## Rules -/

namespace Advancing

theorem andThen (first : Advancing R) (next : ∀ a, Advancing (N a)) : Advancing (R >>= N) :=
  .bind first fun _ a _ _ => next a

theorem peek : Advancing Reader.peek := .andThen .left fun _ => .pure _

theorem next {p : Token → Bool} : Advancing (Reader.next p) := .andThen .left fun _ => .pure _

theorem nextTwo {p q : Token → Bool} : Advancing (Reader.nextTwo p q) := .andThen .left fun _ => .pure _

theorem accept {p : Token → Bool} : Advancing (Reader.accept p) := .andThen (.accept? p) fun _ => .pure _

theorem refuse {expected : Expected} : Advancing (Reader.refuse expected : Reader α) :=
  .andThen peek fun _ => .stop _

/-- An item that comes next, or none. -/
theorem option {N : Option α → Reader β} {R : Reader (Option α)} (first : Advancing R)
    (some : ∀ a, Advancing (N (some a))) (none : Advancing (N none)) : Advancing (R >>= N) :=
  .andThen first fun
    | .some a => some a
    | .none => none

/-- A choice between two ways to go on. -/
theorem either {M : Bool → Reader β} {R : Reader Bool} (first : Advancing R) (yes : Advancing (M true))
    (no : Advancing (M false)) : Advancing (R >>= M) :=
  .andThen first fun
    | true => yes
    | false => no

theorem require {expected : Expected} {p : Token → Bool} : Advancing (Reader.require expected p) :=
  option (.accept? p) (fun _ => .pure _) refuse

theorem valued {term : Except Unreadable α} : Advancing (Reader.valued term) := by
  cases term with
  | ok a => exact .pure a
  | error fault => exact .stop _

/-- A reader whose value is an item. -/
theorem found (h : Advancing R) : Advancing (do return some (← R)) := .andThen h fun _ => .pure _

/-- **Items one after the other**, each of which takes a token. -/
theorem many (h : Advancing item) (progress : Progress Found item) : Advancing (many item) :=
  .loop (option h (fun _ => .pure _) (.pure _)) (goesOn_itemTurn progress)

theorem manyWhile {p : Token → Bool} (h : Advancing R) (progress : Progress (fun _ => True) R) :
    Advancing (manyWhile p R) :=
  many (either next h.found (.pure _)) (.choice progress.of_first (.pure nofun))

theorem manyUntil {p : Token → Bool} (h : Advancing R) (progress : Progress (fun _ => True) R) :
    Advancing (manyUntil p R) :=
  many (either next (.pure _) h.found) (.choice (.pure nofun) progress.of_first)

end Advancing

end QuerySignature.Reader
