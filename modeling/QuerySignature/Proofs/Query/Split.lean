import Mathlib.Data.List.Basic
import Mathlib.Data.List.TakeWhile
import QuerySignature.Query.Literal

/-!
# Proofs/Query/Split — where a quoted text splits

A quoted text is split at the last place where its marks stand with an annotation behind them.  So it splits at a given
place if no later one will do (`SplitsLast`): into what stands between the marks, and the annotation (`split?_marks`).
-/

namespace QuerySignature.Literal

variable {fence front back passed : Text} {suffix : Annotation} {best : Option (Text × Annotation)}

/-! ## Annotations -/

/-- A tag behind its mark is an annotation. -/
theorem annotation?_tag {tag : Text} (some_ : tag ≠ []) (all : tag.all isTagChar = true) :
    annotation? ('@' :: tag) = some (.language tag) := by
  have whole : tag.takeWhile isTagChar = tag :=
    List.takeWhile_eq_self_iff.mpr (List.all_eq_true.mp all)
  simp only [ annotation?]
  rw [whole, List.isEmpty_eq_false_iff.mpr some_, List.drop_length]
  rfl

/-! ## The last place -/

/-- Where no annotation follows the marks, the split found so far is the last. -/
theorem lastSplit_eq_best {text : Text} (h : ∀ front back, text = front ++ fence ++ back → annotation? back = none) :
    lastSplit fence text passed best = best := by
  induction text generalizing passed best with
  | nil => rfl
  | cons c rest ih =>
    have others : ∀ front back, rest = front ++ fence ++ back → annotation? back = none :=
      fun front back same => h (c :: front) back (congrArg (c :: ·) same)
    rw [lastSplit, ih others]
    split
    · next starts =>
      obtain ⟨back, whole⟩ := List.isPrefixOf_iff_prefix.mp starts
      rw [← whole, List.drop_left, h [] back whole.symm]
      rfl
    · rfl

/-- **No later place will do**: where the marks stand again, behind their start, no annotation follows. -/
def SplitsLast (fence back : Text) : Prop :=
  ∀ c front back', fence ++ back = c :: front ++ fence ++ back' → annotation? back' = none

/-- One mark does not stand again in a text that is free of it. -/
theorem splitsLast_of_not_mem {mark : Char} (free : mark ∉ back) : SplitsLast [mark] back := by
  intro c front back' same
  have behind : back = front ++ [mark] ++ back' := (List.cons.inj same).2
  exact absurd (by simp [behind]) free

/-- **The split is at the last place.** -/
theorem lastSplit_eq_some (some_ : fence ≠ []) (found : annotation? back = some suffix) (last : SplitsLast fence back) :
    lastSplit fence (front ++ fence ++ back) passed best = some (passed.reverse ++ front, suffix) := by
  induction front generalizing passed best with
  | nil =>
    obtain ⟨m, fence, rfl⟩ := List.exists_cons_of_ne_nil some_
    have later : ∀ front back', fence ++ back = front ++ m :: fence ++ back' → annotation? back' = none :=
      fun front back' same => last m front back' (congrArg (m :: ·) same)
    have starts : (m :: fence).isPrefixOf (m :: (fence ++ back)) = true :=
      List.isPrefixOf_iff_prefix.mpr ⟨back, rfl⟩
    rw [List.nil_append, List.cons_append, lastSplit, lastSplit_eq_best later, if_pos starts, ← List.cons_append,
      List.drop_left, found, List.append_nil]
    rfl
  | cons c front ih =>
    rw [List.cons_append, List.cons_append, lastSplit, ih, List.reverse_cons, List.append_assoc]
    rfl

/-! ## Styles -/

/-- **The marks of a string**: three of them, or one. -/
def marksOf (mark : Char) (long : Bool) : Text :=
  if long then [mark, mark, mark] else [mark]

theorem marksOf_ne_nil (mark : Char) (long : Bool) : marksOf mark long ≠ [] := by
  cases long <;> exact List.cons_ne_nil _ _

theorem marks_eq : marks = [marksOf '"' true, marksOf '\'' true, marksOf '"' false, marksOf '\'' false] := rfl

theorem marksOf_eq_append (mark : Char) (long : Bool) :
    ∃ before, marksOf mark long = before ++ [mark] ∧ (long = true → before.getLast? = some mark) := by
  cases long with
  | false => exact ⟨[], rfl, Bool.noConfusion⟩
  | true => exact ⟨[mark, mark], rfl, fun _ => rfl⟩

/-- **Marks that stand again** end behind the first ones: the last of them stands in the text behind these, and another
one in front of it if there are three. -/
theorem marksOf_again {mark c : Char} {long : Bool} {text : Text}
    (same : marksOf mark long ++ text = c :: front ++ marksOf mark long ++ back) :
    ∃ init, text = init ++ mark :: back ∧ (long = true → (marksOf mark long ++ init).getLast? = some mark) := by
  obtain ⟨before, fence, several⟩ := marksOf_eq_append mark long
  obtain ⟨further, moved, behind⟩ : ∃ further, c :: front ++ marksOf mark long = marksOf mark long ++ further ∧
      text = further ++ back := by
    rcases List.append_eq_append_iff.mp same with parted | ⟨further, short, -⟩
    · exact parted
    · have := congrArg List.length short
      simp only [List.length_append, List.length_cons] at this
      omega
  have some_ : further ≠ [] := by
    rintro rfl
    have := congrArg List.length moved
    simp only [List.length_append, List.length_cons, List.length_nil] at this
    omega
  obtain ⟨init, e, rfl⟩ := (List.eq_nil_or_concat' further).resolve_left some_
  rw [← List.append_assoc] at moved
  nth_rewrite 1 [fence] at moved
  rw [← List.append_assoc] at moved
  obtain ⟨others, last⟩ := List.append_inj' moved rfl
  obtain rfl := (List.cons.inj last).1
  refine ⟨init, by rw [behind, List.append_assoc, List.singleton_append], fun three => ?_⟩
  rw [← others, List.getLast?_append, several three, Option.some_or]

/-- **A quoted text splits at its closing marks**, if no later place will do and a string in one mark does not start
like one in three. -/
theorem split?_marks {mark : Char} {long : Bool} {body : Text} (quote : mark = '"' ∨ mark = '\'')
    (short : long = false → ¬[mark, mark] <+: body ++ mark :: back)
    (found : annotation? back = some suffix) (last : SplitsLast (marksOf mark long) back) :
    split? (marksOf mark long ++ (body ++ marksOf mark long ++ back)) = some (body, suffix) := by
  have split : lastSplit (marksOf mark long) (body ++ marksOf mark long ++ back) [] none = some (body, suffix) :=
    lastSplit_eq_some (marksOf_ne_nil mark long) found last
  rw [split?, marks_eq]
  cases long with
  | true => rcases quote with rfl | rfl <;> simp [marksOf] at split ⊢ <;> simp [split]
  | false =>
    have one := short rfl
    rcases quote with rfl | rfl <;> simp [marksOf, List.findSome?_cons] at split ⊢ <;> simp [split, one]

/-- **A quoted text is read** as the value of its body, with what its annotation names. -/
theorem read_of_split? {text body : Text} (sign : Text) (split : split? text = some (body, suffix)) :
    read sign text = (decoded body).map fun codes => ⟨text, codes, suffix.language?, suffix.datatype?⟩ := by
  rw [read, split]
  dsimp only
  cases decoded body <;> rfl

end QuerySignature.Literal
