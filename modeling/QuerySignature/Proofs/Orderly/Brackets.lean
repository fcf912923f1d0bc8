import QuerySignature.Proofs.Orderly.Rules
import QuerySignature.Proofs.Query.Height

/-!
# Proofs/Orderly/Brackets — runs that go inside brackets

A bracket leads one level deeper, and the one that closes it leads back; where the depth is at its ceiling the
bracket at hand is the fault.  `InsideOrderly` says of what can be read inside a bracket that each reader ends
as deep as it started, and that what it comes to fits below the ceiling.
-/

namespace QuerySignature

variable {S : Token → Prop} {α β : Type}

/-- The groups that scanned tokens test fit below the ceiling. -/
def Scanned.Fits (ceiling depth : Nat) (scanned : Scanned) : Prop :=
  ∀ group ∈ scanned.patterns, QuerySignature.Fits ceiling depth group.height

namespace Reader

/-- **What can be read inside a bracket that opens at the depth is orderly.** -/
structure InsideOrderly (S : Token → Prop) (ceiling depth : Nat) (inner : Inside) : Prop where
  path : Orderly S ceiling (depth + 1) Anything inner.path
  node : Orderly S ceiling (depth + 1) (fun node => Fits ceiling (depth + 1) node.height) inner.node
  properties : Orderly S ceiling (depth + 1)
    (fun list => ∀ pair ∈ list, Fits ceiling (depth + 1) pair.2.height) inner.properties
  brackets : Orderly S ceiling (depth + 1) (Scanned.Fits ceiling depth) inner.brackets
  content : Orderly S ceiling (depth + 1) (fun group => Fits ceiling depth group.height) inner.content

/-- **Brackets may open up to the ceiling**, and what can be read inside them is orderly. -/
def DepthOrderly (S : Token → Prop) (ceiling level : Nat) : Option Inside → Prop
  | some inner => level < ceiling ∧ InsideOrderly S ceiling level inner
  | none => level = ceiling

variable {ceiling before after level : Nat} {P : α → Prop} {Q : β → Prop} {p : Token → Bool}
  {depth : Option Inside} {tokens : List Token}

/-! ## Back to the level before -/

theorem closes_passes (low : level < ceiling) :
    Passes S ceiling (level + 1) level Anything (shift .closes) := by
  intro high tokens _
  refine ⟨.singleton (Shift.Stays.start high) ?_, .done ?_ trivial⟩
  · rw [Shift.gain, Shift.gain, Int.zero_sub, Int.natCast_succ, Int.add_neg_cancel_right]
    exact Shift.Stays.start (Nat.le_of_lt low)
  · change ((level + 1 : Nat) : Int) + Shift.gain [.closes] = level
    rw [Shift.gain, Shift.gain, Int.zero_sub, Int.natCast_succ, Int.add_neg_cancel_right]

theorem shut_passes {expected : Expected} (low : level < ceiling) :
    Passes S ceiling (level + 1) level Anything (shut expected p) :=
  .require fun _ => .andThen (closes_passes low) fun _ => .pure fun _ => trivial

/-- The symbol that closes a level. -/
theorem Passes.close {text : String} {N : Token → Reader β} (low : level < ceiling)
    (next : ∀ token, Passes S ceiling level after Q (N token)) :
    Passes S ceiling (level + 1) after Q (Reader.close text >>= N) :=
  .andThen (shut_passes low) next

/-! ## One level deeper -/

/-- A change to one level more. -/
theorem opens_passes {bracket : Token} (low : level < ceiling) :
    Passes S ceiling level (level + 1) Anything (shift (.opens bracket)) :=
  fun high _ _ => ⟨.singleton (Shift.Stays.start high) (Shift.Stays.start low), .done rfl trivial⟩

/-- **What comes of looking for a bracket**: there is none, or it would lead too deep, or it is taken. -/
theorem open?_cases (depth : Option Inside) (brackets : List String) (tokens : List Token) :
    ((open? depth brackets).read tokens = .done none tokens ∧ (open? depth brackets).shifts tokens = []) ∨
      ∃ bracket rest, tokens = bracket :: rest ∧ bracket.isSymbol brackets = true ∧
        match depth with
        | none =>
          (open? depth brackets).read tokens = .stopped (.tooDeep bracket) tokens ∧
            (open? depth brackets).shifts tokens = []
        | some inner =>
          (open? depth brackets).read tokens = .done (some (bracket, inner)) rest ∧
            (open? depth brackets).shifts tokens = [.opens bracket] := by
  have peeked {γ : Type} (M : Option Token → Reader γ) :
      (peek >>= M).read tokens = (M tokens.head?).read tokens ∧
        (peek >>= M).shifts tokens = (M tokens.head?).shifts tokens := ⟨rfl, rfl⟩
  unfold open?
  rw [(peeked _).1, (peeked _).2]
  cases h : tokens.head?.filter (·.isSymbol brackets) with
  | none => exact .inl ⟨rfl, rfl⟩
  | some bracket =>
    obtain ⟨head, is⟩ := Option.filter_eq_some_iff.mp h
    obtain ⟨rest, rfl⟩ := List.head?_eq_some_iff.mp head
    refine .inr ⟨bracket, rest, rfl, is, ?_⟩
    cases depth with
    | none => exact ⟨rfl, rfl⟩
    | some inner =>
      have entered : (enter (some inner) bracket).read (bracket :: rest) = .done inner (bracket :: rest) := rfl
      have taken : (Reader.accept? (·.isSymbol brackets)).read (bracket :: rest) = .done (some bracket) rest :=
        if_pos is
      refine ⟨bind_done.mpr ⟨_, _, entered, bind_done.mpr ⟨_, _, taken, rfl⟩⟩, ?_⟩
      rw [bind_shifts_done entered, bind_shifts_done taken]
      rfl

/-- Where no bracket comes next, none is opened. -/
theorem open?_none {depth : Option Inside} {brackets : List String} {tokens : List Token}
    (h : tokens.head?.any (·.isSymbol brackets) = false) :
    (open? depth brackets).read tokens = .done none tokens := by
  rcases open?_cases depth brackets tokens with ⟨read, -⟩ | ⟨bracket, rest, rfl, is, -⟩
  · exact read
  · rw [List.head?_cons, Option.any_some, is] at h
    cases h

theorem open?_missed {depth : Option Inside} {brackets : List String} {tokens rest : List Token}
    (read : (open? depth brackets).read tokens = .done none rest) : tokens = rest := by
  rcases open?_cases depth brackets tokens with ⟨missed, -⟩ | ⟨bracket, others, rfl, is, found⟩
  · rw [missed] at read
    exact (Reading.done.inj read).2
  · cases depth with
    | none =>
      rw [found.1] at read
      cases read
    | some inner =>
      rw [found.1] at read
      cases read

/-- Where it does, and one more may be open, it is opened. -/
theorem open?_some {depth : Option Inside} {brackets : List String} {tokens : List Token} {opening : Token}
    {inner : Inside} (deeper : depth = some inner) (opens : opening.isSymbol brackets = true) :
    (open? depth brackets).read (opening :: tokens) = .done (some (opening, inner)) tokens := by
  subst deeper
  unfold open?
  refine bind_done.mpr ⟨some opening, _, rfl, ?_⟩
  rw [Option.filter_some, if_pos opens]
  exact bind_done.mpr ⟨inner, _, rfl, bind_done.mpr ⟨_, tokens, accept?_some.mpr ⟨rfl, opens⟩, rfl⟩⟩

/-- **A bracket that is opened, or not.**  At the ceiling the run stops at the bracket. -/
theorem Passes.open? {brackets : List String} {N : Option (Token × Inside) → Reader β}
    (hd : DepthOrderly S ceiling level depth) (open_ : brackets ⊆ ["\x7b", "(", "["])
    (some : ∀ {token inner}, level < ceiling → InsideOrderly S ceiling level inner →
      Passes S ceiling (level + 1) after Q (N (some (token, inner))))
    (none : Passes S ceiling level after Q (N none)) :
    Passes S ceiling level after Q (Reader.open? depth brackets >>= N) := by
  intro high tokens input
  rcases open?_cases depth brackets tokens with ⟨read, shifts⟩ | ⟨bracket, rest, rfl, is, opened⟩
  · refine .behind read ?_ ?_ (none high input) <;> rw [shifts]
    · exact Shift.Stays.start high
    · exact Int.add_zero _
  · cases depth with
    | none =>
      obtain ⟨read, shifts⟩ := opened
      have stopped : PassesAt S ceiling level level Anything (Reader.open? .none brackets)
          (bracket :: rest) := by
        refine ⟨shifts ▸ Shift.Stays.start high, ?_⟩
        rw [read, shifts]
        exact .stopped (.tooDeep (congrArg Nat.cast hd) (Token.isSymbol_mono is open_) (.inr rfl))
      exact .early read stopped
    | some inner =>
      obtain ⟨read, shifts⟩ := opened
      have run := @opens_passes S ceiling level bracket hd.1 high _ input
      refine .behind read ?_ ?_ (some hd.1 hd.2 hd.1 (List.forall_mem_cons.mp input).2) <;> rw [shifts]
      · exact run.stays
      · rfl

/-- **A group in braces is orderly**, and fits.  At the ceiling the run stops behind the brace. -/
theorem group_orderly (hd : DepthOrderly S ceiling level depth) :
    Orderly S ceiling level (fun group => Fits ceiling level group.height) (group depth) := by
  cases depth with
  | none =>
    intro high tokens input
    cases h : (symbol "\x7b").read tokens with
    | stopped fault rest => exact .early h (require_orderly high input)
    | done brace rest =>
      obtain ⟨rfl, is⟩ := require_done.mp h
      have read : (group none).read (brace :: rest) = .stopped (.tooDeep brace) rest := by
        unfold group
        rw [bind_read, h]
        rfl
      have shifts : (group none).shifts (brace :: rest) = [] := by
        unfold group
        rw [bind_shifts_done h, symbol, require_shifts]
        rfl
      have due : (Fault.tooDeep brace).Due S ((level : Int) = ceiling) [brace] rest :=
        .tooDeep (congrArg Nat.cast hd) (Token.isSymbol_mono is (by decide)) (.inl rfl)
      exact .of_stopped read shifts high due
  | some inner =>
    refine .symbol fun {brace} _ => ?_
    have entered : Passes S ceiling level (level + 1) (· = inner) (enter (some inner) brace) :=
      .andThen (opens_passes hd.1) fun _ => .pure fun _ => rfl
    refine .bind entered ?_
    rintro _ rfl
    exact .bind hd.2.content fun fits => .close hd.1 fun _ => .pure fun _ => fits

end Reader

end QuerySignature
