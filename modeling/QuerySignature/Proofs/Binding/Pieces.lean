import QuerySignature.Proofs.Binding.Written
import QuerySignature.Proofs.Token.Unclosed

/-!
# Proofs/Binding/Pieces — the pieces of a filled text

A slot that is filled is a block of its own, wherever it stands, and what stands between the slots is cut as it
was: a rule of the scanner that looks beyond the boundary finds there a keyword, as before.  The one rule that
looks further is that of three quotation marks, which open a string if three more of them follow anywhere.  So
if no edit ends a string in front of which three marks dangle (`KeepsOpen`), the pieces of a text can be filled
from right to left (`exists_fillsPieces`).
-/

namespace QuerySignature

open Piece Lexeme Reader

/-! ## The likeness of a query and the filled one -/

/-- **What becomes of a block**: it is kept, if it stands in a region or has no slot, and else its slot is
filled. -/
inductive Refilled (sets : List BindingSet) :
    Option Region → Values → List Token → Values → List Token → Prop where
  | kept {region : Option Region} {block block' : Values} {tokens tokens' : List Token} :
      (region = none → ∀ slot, ¬block.HasSlot sets slot) → IsBlock tokens block → IsBlock tokens' block' →
      List.Forall₂ Token.Moved tokens tokens' → block'.vars = block.vars → block'.rows = block.rows →
      Refilled sets region block tokens block' tokens'
  | filled {block block' : Values} {slot : Slot} {tokens tokens' : List Token} :
      block.HasSlot sets slot → IsBlock tokens block → IsBlock tokens' block' →
      block'.vars = block.vars → block'.rows = slot.filledRows → Refilled sets none block tokens block' tokens'

namespace Refilled

variable {sets : List BindingSet} {region : Option Region} {block block' : Values} {tokens tokens' : List Token}

theorem reads (h : Refilled sets region block tokens block' tokens') : IsBlock tokens block := by
  cases h with
  | kept _ reads => exact reads
  | filled _ reads => exact reads

theorem writes (h : Refilled sets region block tokens block' tokens') : IsBlock tokens' block' := by
  cases h with
  | kept _ _ writes => exact writes
  | filled _ _ writes => exact writes

theorem vars (h : Refilled sets region block tokens block' tokens') : block'.vars = block.vars := by
  cases h with
  | kept _ _ _ _ vars => exact vars
  | filled _ _ _ vars => exact vars

/-- Keywords that spell one word are alike. -/
theorem alike_of_spells {t t' : Token} (h : t.spells ["VALUES"] = true) (h' : t'.spells ["VALUES"] = true) :
    t.Alike t' := by
  obtain ⟨kind, c, rest, text, -⟩ := text_of_values h
  obtain ⟨kind', c', rest', text', -⟩ := text_of_values h'
  have word {t : Token} (h : t.spells ["VALUES"] = true) : t.word? = some "VALUES".toList := by
    obtain ⟨word, is, member⟩ := (Option.any_eq_true _ _).mp h
    rw [is, List.mem_singleton.mp (List.contains_iff_mem.mp member)]
  refine ⟨kind'.trans kind.symm, (word h').trans (word h).symm, fun keyword => absurd kind keyword, fun var => ?_, ?_⟩
  · rw [kind] at var
    cases var
  · rw [text, text']
    rfl

theorem begins (h : Refilled sets region block tokens block' tokens') :
    Option.Rel Token.Alike tokens.head? tokens'.head? := by
  obtain ⟨first, inner, last, rfl, spells, -, -⟩ := h.reads.ends
  obtain ⟨first', inner', last', rfl, spells', -, -⟩ := h.writes.ends
  exact .some (alike_of_spells spells spells')

end Refilled

/-- **The slots are filled**, and everything else is the same, perhaps elsewhere. -/
def Likeness.filled (sets : List BindingSet) : Likeness where
  like := Token.Moved
  ahead := Token.Alike
  block := Refilled sets
  lenient := False
  ahead_of_like := Token.Moved.alike
  alike := id
  reads := Refilled.reads
  writes := Refilled.writes
  vars := Refilled.vars
  begins := Refilled.begins

/-! ## Steps without a slot -/

/-- The slot of a step, if it shows a block that has one. -/
def Step.slot? (sets : List BindingSet) (step : Step) : Option Slot :=
  step.shown?.bind (Values.slot? sets)

theorem filterMap_slot? (sets : List BindingSet) (steps : List Step) :
    (shownBlocks steps).filterMap (Values.slot? sets) = steps.filterMap (Step.slot? sets) :=
  List.filterMap_filterMap

/-- A step with a slot is the block of the slot, outside all regions. -/
theorem Step.eq_of_slot? {sets : List BindingSet} {step : Step} {slot : Slot} (h : step.slot? sets = some slot) :
    ∃ tokens, step = .block slot.block tokens none ∧ slot.block.HasSlot sets slot := by
  obtain ⟨block, shown, found⟩ := Option.bind_eq_some_iff.mp h
  cases step with
  | token => cases shown
  | block written tokens region =>
    cases region with
    | some => cases shown
    | none =>
      obtain rfl := Option.some.inj shown
      have has := slot?_eq_some.mp found
      rw [has.block_eq]
      exact ⟨tokens, rfl, has⟩

/-- **Steps without a slot** are taken for the same tokens elsewhere. -/
theorem respells_kept {sets : List BindingSet} {steps : List Step} {out : List Token}
    (sound : ∀ step ∈ steps, step.Sound) (free : ∀ step ∈ steps, step.slot? sets = none)
    (moved : List.Forall₂ Token.Moved (steps.flatMap Step.tokens) out) : Respells (.filled sets) steps out := by
  induction steps generalizing out with
  | nil =>
    cases moved
    exact .nil
  | cons step steps ih =>
    rw [List.forall_mem_cons] at sound free
    rw [List.flatMap_cons] at moved
    obtain ⟨taken, later, rfl, firsts, others⟩ := forall₂_of_append moved
    have further := ih sound.2 free.2 others
    cases step with
    | token t =>
      obtain _ | ⟨first, _ | _⟩ := firsts
      exact .token first further
    | block written tokens region =>
      obtain ⟨span, writes⟩ := (sound.1 : IsBlock tokens written).alike (firsts.imp fun _ _ => Token.Moved.alike)
      refine .block (.kept (fun outside => ?_) sound.1 writes firsts rfl rfl) further
      subst outside
      exact slot?_eq_none.mp free.1

/-! ## Around a slot -/

/-- **Pieces are divided by a block** among their tokens. -/
theorem split_block {pieces : List Piece} {position : Position} {front tokens back : List Token} {block : Values}
    (h : placed position pieces = front ++ tokens ++ back) (isBlock : IsBlock tokens block) :
    ∃ mid segment after, pieces = mid ++ segment ++ after ∧ placed position mid = front ∧
      placed (position.after (written (mid ++ segment))) after = back ∧
      block.span = ⟨position.offset + (written mid).length, position.offset + (written (mid ++ segment)).length⟩ ∧
      (∃ c rest, written segment = c :: rest ∧ (c = 'V' ∨ c = 'v')) ∧
      ∃ inner, written segment = inner ++ ['\x7d'] := by
  obtain ⟨first, inner, last, rfl, spells, closes, -⟩ := isBlock.ends
  obtain ⟨-, c, rest, text, letter⟩ := text_of_values spells
  have brace : last.text = ['\x7d'] := text_of_isSymbol closes
  obtain ⟨mid, middle, after, rfl, rfl, tokens, -, -⟩ := segment_of_placed h
  rw [placed_append, placed_append, tokens] at h
  rw [← tokens] at isBlock
  refine ⟨mid, _, after, rfl, rfl, List.append_cancel_left h, ?_, ?_, ?_⟩
  · rw [isBlock.span_placed, written_append, List.length_append, Position.after_offset]
    push_cast
    rw [Int.add_assoc]
  · rw [written_cons, Piece.text, text]
    exact ⟨c, _, rfl, letter⟩
  · refine ⟨first.text ++ written middle, ?_⟩
    rw [written_cons, written_append, written_cons, written_nil, List.append_nil, List.append_assoc]
    exact congrArg (fun ending => first.text ++ (written middle ++ ending)) brace

/-- A block that is written starts with its keyword and a space, and ends with a brace. -/
theorem writtenBlock_shape (vars : List Text) (rows : List (List Text)) :
    ∃ inner, writtenBlock vars rows = "VALUES ".toList ++ (inner ++ ['\x7d']) := by
  obtain ⟨front, inner, whole⟩ : ∃ front inner, writtenBlock vars rows =
      "VALUES ".toList ++ front ++ " \x7b ".toList ++ inner ++ " \x7d".toList := by
    unfold writtenBlock
    dsimp only
    split
    · next name => exact ⟨'?' :: name, _, rfl⟩
    · exact ⟨_, _, rfl⟩
  exact ⟨front ++ " \x7b ".toList ++ inner ++ [' '], by rw [whole]; simp⟩

/-- What fills a slot starts with the keyword of a block and a space, and ends with a brace. -/
theorem rendered_shape {slot : Slot} {text : Text} (h : slot.rendered = .ok text) :
    ∃ inner, text = "VALUES ".toList ++ (inner ++ ['\x7d']) := by
  obtain ⟨texts, -, rfl⟩ := rendered_eq_ok h
  exact writtenBlock_shape _ _

/-- **A block may be exchanged for one that is written** at a boundary: both start with the same letter. -/
theorem exchange_values {c : Char} (letter : c = 'V' ∨ c = 'v') (x inner y : Text) :
    Exchange (c :: x) ("VALUES ".toList ++ (inner ++ '\x7d' :: y)) where
  heads := by
    refine ⟨c, 'V', x, _, rfl, rfl, ?_, by decide, ?_⟩
    · rcases letter with rfl | rfl <;> decide
    · rcases letter with rfl | rfl <;> decide
  closing := fun same => absurd (Option.some.inj same) (by decide)
  scheme := fun same => absurd (Option.some.inj same) (by decide)
  label := fun same => absurd (Option.some.inj same) (by decide)
  brace := by simp

/-! ## Marks that dangle -/

/-- **No edit ends a string in front of which three marks dangle**: what is written behind the marks closes no long
string. -/
def KeepsOpen (text : Text) (tokens : List Token) (edits : List Edit) : Prop :=
  ∀ token ∈ tokens, ∀ mark ∈ ['"', '\''], token.Dangles text mark →
    ∀ edit ∈ edits, token.stop ≤ edit.span.start → closes mark edit.replacement = false

namespace KeepsOpen

variable {text : Text} {tokens tokens' : List Token} {edit : Edit} {edits edits' : List Edit}

theorem mono (h : KeepsOpen text tokens edits) (fewer : tokens' ⊆ tokens) (fewer' : edits' ⊆ edits) :
    KeepsOpen text tokens' edits' :=
  fun token member mark quote dangles edit member' =>
    h token (fewer member) mark quote dangles edit (fewer' member')

/-- Tokens in front of the first edit stand in front of all edits. -/
theorem all (h : KeepsOpen text tokens (edit :: edits)) (stand : EditsStand text (edit :: edits))
    (front : ∀ token ∈ tokens, token.stop ≤ edit.span.start) :
    ∀ token ∈ tokens, ∀ mark ∈ ['"', '\''], token.Dangles text mark →
      ∀ other ∈ edit :: edits, closes mark other.replacement = false := by
  intro token member mark quote dangles other member'
  refine h token member mark quote dangles other member' ((front token member).trans ?_)
  obtain ⟨-, proper, -⟩ := stand.within edit (.head _)
  rcases List.mem_cons.mp member' with rfl | behind
  · exact Int.le_refl _
  · have := (List.pairwise_cons.mp stand.ordered).1 other behind
    omega

end KeepsOpen

theorem plain_of_quote {mark c : Char} (quote : mark ∈ ['"', '\'']) (h : c ∈ boundaryMarks) : c ≠ mark ∧ c ≠ '\\' := by
  have free : ∀ c ∈ boundaryMarks, c ≠ '"' ∧ c ≠ '\'' ∧ c ≠ '\\' := forall_boundaryMarks.mpr (by decide)
  obtain ⟨double, single, backslash⟩ := free c h
  rcases List.mem_pair.mp quote with rfl | rfl
  · exact ⟨double, backslash⟩
  · exact ⟨single, backslash⟩

/-- Behind texts that may be exchanged a long string stays open, if the second closes nothing that the first leaves
open. -/
theorem closes_of_exchange {mark : Char} {x y : Text} (quote : mark ∈ ['"', '\'']) (e : Exchange x y)
    (imp : closes mark x = false → closes mark y = false) {s : Text} (h : closes mark (s ++ x) = false) :
    closes mark (s ++ y) = false := by
  obtain ⟨c, d, x', y', rfl, rfl, hc, hd, -⟩ := e.heads
  obtain ⟨mark_, plain⟩ := plain_of_quote quote hc
  obtain ⟨mark_', plain'⟩ := plain_of_quote quote hd
  exact closes_exchange mark_ plain mark_' plain' imp h

/-- **Long strings stay open** in front of a text that closes nothing behind dangling marks. -/
theorem staysOpen_of_dangles {before : Option Char} {mid : List Piece} {position : Position} {passed x y : Text}
    (cut : IsCut before mid x) (at_ : position.offset = passed.length) (e : Exchange x y)
    (keeps : ∀ token ∈ placed position mid, ∀ mark ∈ ['"', '\''],
      token.Dangles (passed ++ (written mid ++ x)) mark → closes mark x = false → closes mark y = false) :
    ∀ front piece back, mid = front ++ piece :: back → StaysOpen (written (piece :: back)) x y := by
  rintro front piece back rfl mark quote rest whole open_
  obtain ⟨-, stands, -⟩ := isCut_append.mp cut
  have behind : piece.text ++ (written back ++ x) = mark :: mark :: mark :: (rest ++ x) := by
    rw [← List.append_assoc, ← written_cons, whole]
    rfl
  obtain rfl := stands.eq_of_open (List.mem_pair.mp quote) behind open_
  have member : (⟨.literal, [mark, mark], position.after (written front)⟩ : Token) ∈
      placed position (front ++ .word .literal [mark, mark] :: back) := by
    rw [placed_append, placed_word]
    exact List.mem_append_right _ (.head _)
  have dangles : (⟨.literal, [mark, mark], position.after (written front)⟩ : Token).Dangles
      (passed ++ (written (front ++ .word .literal [mark, mark] :: back) ++ x)) mark := by
    refine ⟨rfl, ?_⟩
    have stop : (⟨.literal, [mark, mark], position.after (written front)⟩ : Token).stop.toNat =
        (passed ++ written front).length + 2 := by
      simp only [Token.stop, Position.after_offset, at_, List.length_append, List.length_cons, List.length_nil]
      omega
    rw [stop, written_append, whole, List.append_assoc, ← List.append_assoc, List.getElem?_append_right (by omega)]
    simp
  refine longString_eq_none.mpr (closes_of_exchange quote e (keeps _ member mark quote dangles) ?_)
  exact longString_eq_none.mp open_

/-- A token of pieces ends where they end. -/
theorem stop_le_of_mem_placed {pieces : List Piece} {position : Position} {token : Token}
    (h : token ∈ placed position pieces) : token.stop ≤ position.offset + (written pieces).length := by
  obtain ⟨front, kind, text, back, rfl, rfl⟩ := mem_placed h
  simp only [Token.stop, Position.after_offset, written_append, written_cons, Piece.text, List.length_append]
  omega

/-- A text with its first edit made. -/
theorem spliced_replaced {text passed mid segment rest : Text} {edit : Edit} {edits : List Edit}
    (whole : text = passed ++ (mid ++ (segment ++ rest)))
    (place : edit.span = ⟨(passed ++ mid).length, (passed ++ mid ++ segment).length⟩) :
    spliced text passed.length (edit :: edits) =
      mid ++ edit.replacement ++ spliced text (passed ++ mid ++ segment).length edits := by
  have stretch := Span.slice_mid passed mid (segment ++ rest)
  rw [List.append_assoc, ← whole] at stretch
  rw [spliced, place, List.length_append, Int.natCast_add, stretch]

/-- A block leaves a brace behind it. -/
theorem lastOr_brace {before : Option Char} {front segment : Text} (h : ∃ inner, segment = inner ++ ['\x7d']) :
    lastOr before (front ++ segment) = some '\x7d' := by
  obtain ⟨inner, rfl⟩ := h
  rw [← List.append_assoc, lastOr, List.getLast?_concat]
  rfl

/-! ## Filling the slots from right to left -/

/-- **Pieces with their slots filled**: they are cut, their tokens are taken for the steps, and they close no long
string that the old pieces leave open, if no edit does. -/
structure FillsPieces (sets : List BindingSet) (edits : List Edit) (steps : List Step) (before : Option Char)
    (pieces pieces' : List Piece) : Prop where
  cut : IsCut before pieces' []
  respells : ∀ position, Respells (.filled sets) steps (placed position pieces')
  stays : ∀ mark ∈ ['"', '\''], (∀ edit ∈ edits, closes mark edit.replacement = false) →
    closes mark (written pieces) = false → closes mark (written pieces') = false

section Slot

variable {sets : List BindingSet} {slot : Slot} {edit : Edit} {edits : List Edit} {steps front back : List Step}
  {before : Option Char} {position : Position} {passed : Text} {tokens : List Token}
  {mid segment after after' : List Piece}

/-- **One more slot, in front of those that are filled.** -/
theorem FillsPieces.cons (later : FillsPieces sets edits back (some '\x7d') after after')
    (sound : ∀ step ∈ front, step.Sound) (free : ∀ step ∈ front, step.slot? sets = none)
    (kept : placed position mid = front.flatMap Step.tokens) (has : slot.block.HasSlot sets slot)
    (block : IsBlock tokens slot.block) (starts : ∃ c rest, written segment = c :: rest ∧ (c = 'V' ∨ c = 'v'))
    (ends : ∃ inner, written segment = inner ++ ['\x7d']) (shape : ∃ inner, edit.replacement =
      "VALUES ".toList ++ (inner ++ ['\x7d'])) (writes : IsWritten slot.block.vars slot.filledRows edit.replacement)
    (cut : IsCut before mid (written segment ++ written after)) (at_ : position.offset = passed.length)
    (keeps : ∀ token ∈ placed position mid, ∀ mark ∈ ['"', '\''],
      token.Dangles (passed ++ (written mid ++ (written segment ++ written after))) mark →
        ∀ other ∈ edit :: edits, closes mark other.replacement = false) :
    ∃ replaced, written replaced = edit.replacement ∧
      FillsPieces sets (edit :: edits) (front ++ .block slot.block tokens none :: back) before
        (mid ++ segment ++ after) (mid ++ replaced ++ after') := by
  obtain ⟨replaced, text, cuts, isBlock⟩ := writes
  obtain ⟨c, rest, first, letter⟩ := starts
  obtain ⟨inner, last⟩ := ends
  obtain ⟨inner', whole⟩ := shape
  have e : Exchange (written segment ++ written after) (written replaced ++ written after') := by
    rw [first, text, whole, List.append_assoc, List.append_assoc]
    exact exchange_values letter _ _ _
  have closing {mark : Char} (quote : mark ∈ ['"', '\''])
      (closed : ∀ other ∈ edit :: edits, closes mark other.replacement = false)
      (h : closes mark (written segment ++ written after) = false) :
      closes mark (written replaced ++ written after') = false := by
    obtain ⟨mark_, plain⟩ := plain_of_quote quote (show '\x7d' ∈ boundaryMarks by decide)
    rw [List.forall_mem_cons] at closed
    rw [last, List.append_assoc] at h
    have behind := later.stays mark quote closed.2 (closes_behind mark_ plain h)
    have here := closed.1
    rw [whole, ← List.append_assoc] at here
    rw [text, whole, ← List.append_assoc, List.append_assoc]
    exact closes_append mark_ plain here behind
  refine ⟨replaced, text, ?_, fun place => ?_, fun mark quote closed h => ?_⟩
  · rw [isCut_append, isCut_append]
    refine ⟨⟨?_, cuts _ _⟩, ?_⟩
    · rw [List.append_nil]
      refine IsCut.exchange e (staysOpen_of_dangles cut at_ e fun token member mark quote dangles => ?_) cut
      exact closing quote (keeps token member mark quote dangles)
    · rw [written_append, lastOr_brace ⟨_, by rw [text, whole, List.append_assoc]⟩]
      exact later.cut
  · rw [placed_append, placed_append, List.append_assoc]
    refine (respells_kept sound free ?_).append ?_
    · rw [← kept]
      exact placed_moved _ _ _
    · exact .block (.filled has block (isBlock (place.after (written mid))) rfl rfl) (later.respells _)
  · rw [written_append, written_append, List.append_assoc] at h ⊢
    exact closes_of_exchange quote e (closing quote closed) h

end Slot

/-- **Pieces can be filled** as their text is spliced, from some place of a text on. -/
theorem exists_fillsPieces {sets : List BindingSet} {text : Text} {slots : List Slot} {edits : List Edit}
    (fills : List.Forall₂ Slot.Fills slots edits) :
    ∀ {passed : Text} {before : Option Char} {position : Position} {pieces : List Piece} {steps : List Step},
      EditsStand text edits → (∀ step ∈ steps, step.Sound) → steps.filterMap (Step.slot? sets) = slots →
      placed position pieces = steps.flatMap Step.tokens → IsCut before pieces [] →
      text = passed ++ written pieces → position.offset = passed.length →
      KeepsOpen text (placed position pieces) edits →
        ∃ pieces', FillsPieces sets edits steps before pieces pieces' ∧
          written pieces' = spliced text passed.length edits := by
  induction fills with
  | nil =>
    intro passed before position pieces steps _ sound none_ tokens cut whole _ _
    refine ⟨pieces, ⟨cut, fun place => ?_, fun _ _ _ => id⟩, ?_⟩
    · refine respells_kept sound (List.filterMap_eq_nil_iff.mp none_) ?_
      rw [← tokens]
      exact placed_moved _ _ _
    · rw [spliced, whole, Int.toNat_natCast, List.drop_left]
  | @cons slot edit slots edits first others ih =>
    intro passed before position pieces steps stand sound slots_ tokens cut whole at_ keeps
    obtain ⟨front, step, back, rfl, free, found, rfl⟩ := List.filterMap_eq_cons_iff.mp slots_
    obtain ⟨taken, rfl, has⟩ := Step.eq_of_slot? found
    obtain ⟨span, rendered⟩ := first
    have block : IsBlock taken slot.block := sound (.block slot.block taken none) (by simp)
    have soundFront : ∀ step ∈ front, step.Sound := fun step member => sound step (List.mem_append_left _ member)
    have soundBack : ∀ step ∈ back, step.Sound := fun step member =>
      sound step (List.mem_append_right _ (.tail _ member))
    rw [List.flatMap_append, List.flatMap_cons, ← List.append_assoc] at tokens
    have writes : IsWritten slot.block.vars slot.filledRows edit.replacement := by
      refine isWritten_of_rendered (fun token member => ?_) block rendered
      have inside : token ∈ placed position pieces := by
        rw [tokens]
        exact List.mem_append_left _ (List.mem_append_right _ member)
      exact found_of_mem cut inside
    obtain ⟨mid, segment, after, rfl, kept, behind, place, starts, ends⟩ := split_block tokens block
    simp only [isCut_append, List.append_nil] at cut
    obtain ⟨⟨cutMid, -⟩, cutAfter⟩ := cut
    rw [written_append mid, lastOr_brace ends] at cutAfter
    have place_ : edit.span = ⟨(passed ++ written mid).length, (passed ++ written mid ++ written segment).length⟩ := by
      rw [span, place, at_, List.append_assoc, ← written_append, List.length_append, List.length_append]
      rfl
    rw [written_append, written_append, List.append_assoc] at whole
    rw [placed_append, placed_append] at keeps
    have keepsMid : KeepsOpen text (placed position mid) (edit :: edits) :=
      keeps.mono (fun _ member => List.mem_append_left _ (List.mem_append_left _ member)) (List.Subset.refl _)
    have keepsAfter : KeepsOpen text (placed _ after) edits :=
      keeps.mono (List.subset_append_right _ _) (List.subset_cons_self _ _)
    -- the slots behind this one are filled first
    obtain ⟨after', later, text'⟩ := @ih (passed ++ written mid ++ written segment) _ _ after back stand.tail soundBack
      rfl behind cutAfter (by rw [whole]; simp only [List.append_assoc])
      (by rw [Position.after_offset, at_, written_append]; simp only [List.length_append]; omega) keepsAfter
    have front_ : ∀ token ∈ placed position mid, token.stop ≤ edit.span.start := by
      intro token member
      rw [place_, List.length_append, Int.natCast_add, ← at_]
      exact stop_le_of_mem_placed member
    obtain ⟨replaced, text_, filled⟩ := later.cons soundFront free kept has block starts ends (rendered_shape rendered)
      writes cutMid at_ (whole ▸ keepsMid.all stand front_)
    refine ⟨_, filled, ?_⟩
    rw [written_append, written_append, text_, text', spliced_replaced whole place_]

end QuerySignature
