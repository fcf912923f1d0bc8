import QuerySignature.Text.Upper
import QuerySignature.Token.Basic

/-!
# Proofs/Text/Upper — what upper-casing reaches

No character beyond ASCII has an upper-case form that starts with a `V`, and none at all one that starts
with an `a`.  So a word that spells `VALUES` starts with `V` or `v`, and the word `a` is spelt in one way
only.
-/

namespace QuerySignature

namespace Text

theorem upperChar_ne_nil (c : Char) : upperChar c ≠ [] := by
  have expansions : ∀ entry ∈ caseExpansions, entry.2 ≠ [] := by decide
  unfold upperChar
  split
  · exact List.cons_ne_nil _ _
  · split
    · exact List.cons_ne_nil _ _
    · split
      · next found =>
        intro none_
        exact expansions _ (List.mem_of_find?_eq_some found) (List.map_eq_nil_iff.mp none_)
      · exact List.cons_ne_nil _ _

theorem head?_append_upper (c : Char) (text : Text) : (upperChar c ++ text).head? = (upperChar c).head? := by
  rw [List.head?_append]
  cases h : upperChar c with
  | nil => exact absurd h (upperChar_ne_nil c)
  | cons d rest => rfl

/-- A run reaches no code that lies outside its shifted bounds. -/
theorem CaseRun.reaches {run : CaseRun} {code : Nat} (h : run.has code = true) :
    (run.first : Int) + run.shift ≤ code + run.shift ∧ (code : Int) + run.shift ≤ run.last + run.shift := by
  simp only [has, Bool.and_eq_true, decide_eq_true_eq] at h
  omega

theorem toNat_eq_of_ofNat {code : Nat} {d : Char} (h : Char.ofNat code = d) (letter : d = 'V' ∨ d = 'a') :
    code = d.toNat := by
  by_cases valid : code.isValidChar
  · rw [Char.ofNat, dif_pos valid] at h
    rw [← h]
    rfl
  · rw [Char.ofNat, dif_neg valid] at h
    rcases letter with rfl | rfl <;> exact absurd h (by decide)

/-- **Only ASCII reaches `V` and `a`.** -/
theorem isAscii_of_upperChar {c d : Char} (h : (upperChar c).head? = some d) (letter : d = 'V' ∨ d = 'a') :
    c.toNat < 128 := by
  have runs : ∀ run ∈ caseRuns, ∀ code ∈ [(86 : Int), 97],
      ¬((run.first : Int) + run.shift ≤ code ∧ code ≤ run.last + run.shift) := by decide +kernel
  have expansions : ∀ entry ∈ caseExpansions, ∀ code ∈ [86, 97], entry.2.head? ≠ some code := by decide +kernel
  have code : d.toNat = 86 ∨ d.toNat = 97 := by rcases letter with rfl | rfl <;> decide
  refine Nat.lt_of_not_le fun far => ?_
  unfold upperChar at h
  rw [if_neg (Nat.not_lt.mpr far)] at h
  split at h
  · next run found =>
    have reached := toNat_eq_of_ofNat (Option.some.inj h) letter
    have has := List.find?_some found
    have bounds := CaseRun.reaches has
    have none_ := runs run (List.mem_of_find?_eq_some found)
    simp only [List.mem_cons, List.not_mem_nil, or_false, forall_eq_or_imp, forall_eq] at none_
    omega
  · split at h
    · next codes found =>
      obtain ⟨first, head, same⟩ := Option.map_eq_some_iff.mp (List.head?_map ▸ h)
      refine expansions _ (List.mem_of_find?_eq_some found) first ?_ head
      rw [toNat_eq_of_ofNat same letter]
      simpa using code
    · obtain rfl := Option.some.inj h
      omega

/-- A text whose upper-case form starts with `V` starts with `V` or `v`. -/
theorem head_of_upper {text : Text} (h : (upper text).head? = some 'V') :
    text.head? = some 'V' ∨ text.head? = some 'v' := by
  cases text with
  | nil => cases h
  | cons c text =>
    rw [upper_cons, head?_append_upper] at h
    have ascii := isAscii_of_upperChar h (.inl rfl)
    rw [upperChar_of_ascii ascii] at h
    have letters : ∀ code < 128, (Char.ofNat code).toUpper = 'V' → code = 86 ∨ code = 118 := by decide
    have := letters c.toNat ascii (by rw [Char.ofNat_toNat]; exact Option.some.inj h)
    rw [List.head?_cons, ← Char.ofNat_toNat c]
    rcases this with code | code <;> rw [code]
    · exact .inl rfl
    · exact .inr rfl

/-- No text has the upper-case form `a`. -/
theorem upper_ne_a (text : Text) : upper text ≠ ['a'] := by
  intro h
  cases text with
  | nil => cases h
  | cons c text =>
    have head : (upperChar c).head? = some 'a' := by
      rw [← head?_append_upper, ← upper_cons, h]
      rfl
    have ascii := isAscii_of_upperChar head (.inr rfl)
    rw [upperChar_of_ascii ascii] at head
    have letters : ∀ code < 128, (Char.ofNat code).toUpper ≠ 'a' := by decide
    exact letters c.toNat ascii (by rw [Char.ofNat_toNat]; exact Option.some.inj head)

/-- A character that does not expand has one character in upper case. -/
theorem length_upperChar {c : Char} (plain : ∀ entry ∈ caseExpansions, entry.2.map Char.ofNat ≠ upperChar c) :
    (upperChar c).length = 1 := by
  unfold upperChar at plain ⊢
  split
  · rfl
  · next far =>
    rw [if_neg far] at plain
    split
    · rfl
    · next none_ =>
      rw [none_] at plain
      split
      · next code codes found =>
        rw [found] at plain
        exact absurd rfl (plain _ (List.mem_of_find?_eq_some found))
      · rfl

/-- **A text is as long as its upper case** where no expansion stands in that. -/
theorem length_upper {word : Text} (plain : ∀ entry ∈ caseExpansions, ¬entry.2.map Char.ofNat <:+: word) {text : Text}
    (h : upper text <:+ word) : (upper text).length = text.length := by
  induction text with
  | nil => rfl
  | cons c text ih =>
    rw [upper_cons] at h ⊢
    have inside : upperChar c <:+: word := (List.infix_append' [] _ _).trans h.isInfix
    have one : (upperChar c).length = 1 := length_upperChar fun entry member same => plain entry member (same ▸ inside)
    rw [List.length_append, one, ih ((List.suffix_append _ _).trans h), List.length_cons, Nat.add_comm]

end Text

/-- **The open cell is spelt with five characters.** -/
theorem Token.length_of_spells_undef {token : Token} (h : token.spells ["UNDEF"] = true) : token.text.length = 5 := by
  obtain ⟨word, spelt, member⟩ := (Option.any_eq_true _ _).mp h
  obtain rfl := List.mem_singleton.mp (List.contains_iff_mem.mp member)
  unfold word? at spelt
  split at spelt
  · split at spelt
    · cases spelt
    · have upper := Option.some.inj spelt
      have plain : ∀ entry ∈ Text.caseExpansions, ¬entry.2.map Char.ofNat <:+: "UNDEF".toList := by decide +kernel
      rw [← Text.length_upper plain (upper ▸ List.suffix_refl _), upper]
      rfl
  · cases spelt

/-- **The word `a` is spelt in one way.** -/
theorem Token.text_of_spells_a {token : Token} (h : token.spells ["a"] = true) : token.text = ['a'] := by
  obtain ⟨word, spelt, member⟩ := (Option.any_eq_true _ _).mp h
  obtain rfl := List.mem_singleton.mp (List.contains_iff_mem.mp member)
  unfold word? at spelt
  split at spelt
  · split at spelt
    · assumption
    · exact absurd (Option.some.inj spelt) (Text.upper_ne_a _)
  · cases spelt

end QuerySignature
