import Mathlib.Data.List.Find
import QuerySignature.Proofs.Token.Cut
import QuerySignature.Proofs.Token.Head

/-!
# Proofs/Token/Exchange — another text behind a boundary

A lexeme that ends before a boundary does not depend on what stands behind it, as long as the text there
starts in the same way and offers no end to an IRI, a label or a string that is open at the boundary
(`Exchange`).  Each rule either finds the same with the one text and the other, or reaches beyond the
boundary with the first (`Keeps`).  The main statement is `IsCut.exchange`: a cut in front of the one text
is a cut in front of the other.
-/

namespace QuerySignature

namespace Lexeme

/-- The characters at a boundary: a closing brace, and the first letter of a block's keyword. -/
def boundaryMarks : List Char := ['\x7d', 'V', 'v']

/-- What holds of all characters at a boundary. -/
theorem forall_boundaryMarks {holds : Char → Prop} :
    (∀ c ∈ boundaryMarks, holds c) ↔ holds '\x7d' ∧ holds 'V' ∧ holds 'v' := by
  simp [boundaryMarks]

/-- **Two texts that may stand behind a boundary**: both start with a closing brace, or both with the letter, and
the second one closes nothing. -/
structure Exchange (x y : Text) : Prop where
  heads : ∃ c d x' y', x = c :: x' ∧ y = d :: y' ∧ c ∈ boundaryMarks ∧ d ∈ boundaryMarks ∧
    (c = '\x7d' ↔ d = '\x7d')
  closing : (y.drop (run isIriChar y)).head? ≠ some '>'
  scheme : (y.drop (run isSchemeChar y)).head? ≠ some ':'
  label : (y.drop (run isLabelChar y)).head? ≠ some ':'
  brace : '\x7d' ∈ y

/-- The second find is the first, unless that one reaches beyond the boundary. -/
def Keeps (boundary : Nat) (first second : Option Nat) : Prop :=
  second = first ∨ ∃ n, first = some n ∧ boundary < n

variable {p : Char → Bool} {x y : Text}

theorem Keeps.refl {boundary : Nat} {found : Option Nat} : Keeps boundary found found := .inl rfl

/-- A find beyond the boundary may be lost. -/
theorem Keeps.beyond {boundary n : Nat} {second : Option Nat} (h : boundary < n) :
    Keeps boundary (some n) second := .inr ⟨n, rfl, h⟩

/-- A find that goes further by what is found stays kept. -/
theorem Keeps.map {boundary further : Nat} {first second : Option Nat} (f : Nat → Nat)
    (h : Keeps boundary first second) (grows : ∀ n, boundary < n → further < f n) :
    Keeps further (first.map f) (second.map f) := by
  obtain rfl | ⟨n, rfl, beyond⟩ := h
  · exact .refl
  · exact .beyond (grows n beyond)

/-- **The first of two finds is kept if both are.** -/
theorem Keeps.or {boundary : Nat} {first second first' second' : Option Nat} (h : Keeps boundary first second)
    (h' : Keeps boundary first' second') : Keeps boundary (first.or first') (second.or second') := by
  obtain rfl | ⟨n, rfl, beyond⟩ := h
  · cases second with
    | none => exact h'
    | some n => exact .refl
  · exact .beyond beyond

/-! ## Runs -/

/-- A predicate that does not tell the case of the letter agrees on the first characters. -/
theorem Exchange.head (e : Exchange x y) (p : Char → Bool) (same : p 'V' = p 'v') :
    ∃ c d x' y', x = c :: x' ∧ y = d :: y' ∧ c ∈ boundaryMarks ∧ d ∈ boundaryMarks ∧ p c = p d := by
  obtain ⟨c, d, x', y', rfl, rfl, hc, hd, brace⟩ := e.heads
  refine ⟨c, d, x', y', rfl, rfl, hc, hd, ?_⟩
  simp only [boundaryMarks, List.mem_cons, List.not_mem_nil, or_false] at hc hd
  obtain rfl | rfl | rfl := hc <;> obtain rfl | rfl | rfl := hd <;>
    first | rfl | exact same | exact same.symm | simp at brace

/-- A run ends inside the boundary at the same place, or passes it with either text. -/
theorem run_exchange (e : Exchange x y) (s : Text) (same : p 'V' = p 'v') :
    (run p (s ++ y) = run p (s ++ x) ∧ run p (s ++ x) ≤ s.length) ∨
      (s.length < run p (s ++ x) ∧ s.length < run p (s ++ y)) := by
  obtain ⟨c, d, x', y', rfl, rfl, -, -, same⟩ := e.head p same
  rw [run_append, run_append]
  by_cases all : s.all p = true
  · rw [if_pos all, if_pos all, run_cons, run_cons, ← same]
    by_cases h : p c = true
    · right
      simp only [h, if_true]
      omega
    · left
      simp [h]
  · rw [if_neg all, if_neg all]
    exact .inl ⟨rfl, run_le p s⟩

/-- A run that ends inside the boundary stops at a character of the text in front of it. -/
theorem run_inside {s : Text} (h : ¬s.all p = true) :
    ∃ n c rest, n < s.length ∧ p c = false ∧
      ∀ x, run p (s ++ x) = n ∧ (s ++ x).take n = s.take n ∧ (s ++ x).drop n = c :: (rest ++ x) := by
  have inside : run p s < s.length := by
    refine Nat.lt_of_le_of_ne (run_le p s) fun whole => h ?_
    have := take_run p s
    rw [whole, List.take_length] at this
    rw [this]
    exact List.all_takeWhile
  obtain ⟨c, rest, at_⟩ := List.exists_cons_of_length_pos
    (show 0 < (s.drop (run p s)).length by rw [List.length_drop]; omega)
  refine ⟨run p s, c, rest, inside, ?_, fun x => ⟨?_, ?_, ?_⟩⟩
  · rw [drop_run] at at_
    have := List.head?_dropWhile_not p s
    rwa [at_] at this
  · rw [run_append, if_neg h]
  · rw [List.take_append_of_le_length (Nat.le_of_lt inside)]
  · rw [List.drop_append_of_le_length (Nat.le_of_lt inside), at_]
    rfl

/-- A run that holds up to the boundary goes on behind it. -/
theorem run_of_all {s : Text} (h : s.all p = true) (x : Text) :
    run p (s ++ x) = s.length + run p x ∧ (s ++ x).drop (run p (s ++ x)) = x.drop (run p x) := by
  rw [run_append, if_pos h]
  refine ⟨rfl, ?_⟩
  rw [← List.drop_drop, List.drop_left]

/-- A run of at least one character is kept, or passes the boundary. -/
theorem run?_keeps (e : Exchange x y) (s : Text) (same : p 'V' = p 'v') :
    Keeps s.length (run? p (s ++ x)) (run? p (s ++ y)) := by
  unfold run?
  rcases run_exchange e s same with ⟨h, -⟩ | ⟨h, -⟩
  · rw [h]
    exact .refl
  · rw [if_neg (by omega)]
    exact .beyond h

/-- Whether a word stands at a place inside the boundary does not depend on what stands behind, if the
characters there are not in the word. -/
theorem isPrefixOf_exchange (e : Exchange x y) {word : Text} (s : Text) (free : ∀ c ∈ boundaryMarks, c ∉ word) :
    word.isPrefixOf (s ++ y) = word.isPrefixOf (s ++ x) := by
  induction s generalizing word with
  | nil =>
    cases word with
    | nil => rfl
    | cons w word =>
      obtain ⟨c, d, x', y', rfl, rfl, hc, hd, -⟩ := e.heads
      have other {c : Char} (hc : c ∈ boundaryMarks) : (w == c) = false :=
        beq_false_of_ne fun h => free c hc (h ▸ List.mem_cons_self)
      simp only [List.nil_append, List.isPrefixOf, other hc, other hd, Bool.false_and]
  | cons c s ih =>
    cases word with
    | nil => rfl
    | cons w word =>
      simp only [List.cons_append, List.isPrefixOf]
      rw [ih fun c hc inside => free c hc (List.mem_cons_of_mem w inside)]

/-- A word without the characters at a boundary does not reach over it. -/
theorem isPrefixOf_reach (e : Exchange x y) {word : Text} (s : Text) (free : ∀ c ∈ boundaryMarks, c ∉ word)
    (h : word.isPrefixOf (s ++ x) = true) : word.length ≤ s.length := by
  induction s generalizing word with
  | nil =>
    cases word with
    | nil => exact Nat.le_refl 0
    | cons w word =>
      obtain ⟨c, d, x', y', rfl, rfl, hc, -⟩ := e.heads
      have other : (w == c) = false := beq_false_of_ne fun h => free c hc (h ▸ List.mem_cons_self)
      rw [List.nil_append, List.isPrefixOf, other] at h
      cases h
  | cons c s ih =>
    cases word with
    | nil => exact Nat.zero_le _
    | cons w word =>
      rw [List.cons_append, List.isPrefixOf, Bool.and_eq_true] at h
      exact Nat.succ_le_succ (ih (fun c hc inside => free c hc (List.mem_cons_of_mem w inside)) h.2)

/-! ## Comments and IRIs -/

/-- A comment ends in front of a line feed, and none starts at the boundary. -/
theorem comment_keeps (e : Exchange x y) (s : Text) : Keeps s.length (comment (s ++ x)) (comment (s ++ y)) := by
  cases s with
  | nil =>
    obtain ⟨c, d, x', y', rfl, rfl, hc, hd, -⟩ := e.heads
    have other : ∀ c ∈ boundaryMarks, c ≠ '#' := forall_boundaryMarks.mpr (by decide)
    rw [List.nil_append, List.nil_append, comment_cons, comment_cons, if_neg (other c hc), if_neg (other d hd)]
    exact .refl
  | cons first s =>
    rw [List.cons_append, List.cons_append, comment_cons, comment_cons]
    by_cases mark : first = '#'
    · rw [if_pos mark, if_pos mark]
      rcases run_exchange (p := (· != '\n')) e s rfl with ⟨h, -⟩ | ⟨h, -⟩
      · rw [h]
        exact .refl
      · exact .beyond (by rw [List.length_cons]; omega)
    · rw [if_neg mark, if_neg mark]
      exact .refl

/-- No bracket behind the boundary closes an IRI that is open there. -/
theorem iri_keeps (e : Exchange x y) (s : Text) : Keeps s.length (iri (s ++ x)) (iri (s ++ y)) := by
  cases s with
  | nil =>
    obtain ⟨c, d, x', y', rfl, rfl, hc, hd, -⟩ := e.heads
    have other : ∀ c ∈ boundaryMarks, c ≠ '<' := forall_boundaryMarks.mpr (by decide)
    rw [List.nil_append, List.nil_append, iri_cons, iri_cons, if_neg fun h => other c hc h.1,
      if_neg fun h => other d hd h.1]
    exact .refl
  | cons first s =>
    rw [List.cons_append, List.cons_append, iri_cons, iri_cons]
    by_cases all : s.all isIriChar = true
    · have open_ : ¬(first = '<' ∧
          ((s ++ y).drop (run isIriChar (s ++ y))).head? = some '>') := by
        rw [(run_of_all all y).2]
        exact fun h => e.closing h.2
      rw [if_neg open_, (run_of_all all x).1]
      split
      · exact .beyond (by rw [List.length_cons]; omega)
      · exact .refl
    · obtain ⟨n, c, rest, -, -, at_⟩ := run_inside all
      rw [(at_ x).1, (at_ y).1, (at_ x).2.2, (at_ y).2.2]
      exact .refl

/-- A scheme without its two slashes gets none from behind the boundary. -/
theorem hasAuthority_exchange (e : Exchange x y) (s : Text) (h : hasAuthority (s ++ x) = false) :
    hasAuthority (s ++ y) = false := by
  unfold hasAuthority at h ⊢
  have first : (s ++ y).head?.any isLetter = (s ++ x).head?.any isLetter := by
    cases s with
    | nil =>
      obtain ⟨c, d, x', y', rfl, rfl, -, -, same⟩ := e.head isLetter rfl
      exact same.symm
    | cons c s => rfl
  rw [first]
  by_cases all : s.all isSchemeChar = true
  · rw [(run_of_all all y).2]
    have none : "://".toList.isPrefixOf (y.drop (run isSchemeChar y)) = false := by
      cases behind : y.drop (run isSchemeChar y) with
      | nil => rfl
      | cons d rest =>
        have : (':' == d) = false := beq_false_of_ne fun h => e.scheme (by rw [behind, h]; rfl)
        exact congrArg (· && _) this
    rw [none, Bool.and_false]
  · obtain ⟨n, c, rest, -, -, at_⟩ := run_inside all
    rw [(at_ x).1, (at_ x).2.2] at h
    rw [(at_ y).1, (at_ y).2.2, ← List.cons_append, isPrefixOf_exchange e _ (forall_boundaryMarks.mpr (by decide))]
    exact h

/-- No IRI runs to the end, for a brace stands behind the boundary. -/
theorem runsToEnd_exchange (e : Exchange x y) (s : Text) : runsToEnd (s ++ y) = false := by
  have brace : '\x7d' ∈ (s ++ y).drop (run isIriChar (s ++ y)) := by
    have inside : '\x7d' ∈ s ++ y := List.mem_append_right s e.brace
    rw [← List.take_append_drop (run isIriChar (s ++ y)) (s ++ y), take_run, List.mem_append] at inside
    rcases inside with inside | inside
    · have := List.all_eq_true.mp (List.all_takeWhile (p := isIriChar)) _ inside
      exact absurd this (by decide)
    · exact inside
  have dark : ((s ++ y).drop (run isIriChar (s ++ y))).all Text.isBlank = false :=
    List.all_eq_false.mpr ⟨_, brace, by decide⟩
  rw [runsToEnd, dark, Bool.and_false]

/-- **What opens no IRI opens none with the other text.** -/
theorem opensIri_exchange (e : Exchange x y) (s : Text) (h : opensIri (s ++ x) = false) :
    opensIri (s ++ y) = false := by
  cases s with
  | nil =>
    obtain ⟨c, d, x', y', rfl, rfl, -, hd, -⟩ := e.heads
    have other : ∀ c ∈ boundaryMarks, (c == '<') = false := forall_boundaryMarks.mpr (by decide)
    rw [List.nil_append, opensIri_cons, other d hd, Bool.false_and]
  | cons c s =>
    rw [List.cons_append, opensIri_cons, Bool.and_eq_false_iff, Bool.or_eq_false_iff] at h ⊢
    exact h.imp_right fun h => ⟨hasAuthority_exchange e s h.1, runsToEnd_exchange e s⟩

/-! ## Labels and names -/

/-- The second reach is the first, unless that one is beyond the boundary. -/
def KeepsReach (boundary first second : Nat) : Prop :=
  second = first ∨ boundary < first

/-- A label that ends in front of the boundary is kept, with the points inside it. -/
theorem labelTail_keeps (e : Exchange x y) (s : Text) (taken good : Nat) :
    KeepsReach (taken + s.length) (labelTail (s ++ x) taken good) (labelTail (s ++ y) taken good) := by
  induction s generalizing taken good with
  | nil =>
    obtain ⟨c, d, x', y', rfl, rfl, hc, hd, same⟩ := e.head isLabelChar rfl
    have other : ∀ c ∈ boundaryMarks, c ≠ '.' := forall_boundaryMarks.mpr (by decide)
    rw [List.nil_append, List.nil_append, labelTail, labelTail, if_neg (other c hc), if_neg (other d hd), ← same]
    split
    · exact .inr (labelTail_extent x' (Nat.le_refl (taken + 1))).1
    · exact .inl rfl
  | cons c s ih =>
    rw [List.cons_append, List.cons_append, labelTail, labelTail, List.length_cons,
      show taken + (s.length + 1) = taken + 1 + s.length by omega]
    split
    · exact ih (taken + 1) good
    · split
      · exact ih (taken + 1) (taken + 1)
      · exact .inl rfl

/-- A blank label is its mark and a label. -/
theorem blankLabel_keeps (e : Exchange x y) (s : Text) :
    Keeps s.length (blankLabel (s ++ x)) (blankLabel (s ++ y)) := by
  match s with
  | [] =>
    obtain ⟨c, d, x', y', rfl, rfl, hc, hd, -⟩ := e.heads
    have other : ∀ c ∈ boundaryMarks, c ≠ '_' := forall_boundaryMarks.mpr (by decide)
    rw [List.nil_append, List.nil_append, blankLabel_of_ne (other c hc), blankLabel_of_ne (other d hd)]
    exact .refl
  | [a] =>
    obtain ⟨c, d, x', y', rfl, rfl, hc, hd, -⟩ := e.heads
    have other : ∀ c ∈ boundaryMarks, c ≠ ':' := forall_boundaryMarks.mpr (by decide)
    rw [List.singleton_append, List.singleton_append, blankLabel_of_ne_colon (other c hc),
      blankLabel_of_ne_colon (other d hd)]
    exact .refl
  | a :: b :: s =>
    by_cases marks : a = '_' ∧ b = ':'
    · obtain ⟨rfl, rfl⟩ := marks
      cases s with
      | nil =>
        obtain ⟨c, d, x', y', rfl, rfl, -, -, same⟩ := e.head Text.isWord (by decide)
        simp only [List.cons_append, List.nil_append, blankLabel, ← same]
        split
        · exact .beyond (labelTail_extent x' (Nat.le_refl 3)).1
        · exact .refl
      | cons c s =>
        simp only [List.cons_append, blankLabel]
        split
        · rcases labelTail_keeps e s 3 3 with h | h
          · rw [h]
            exact .refl
          · exact .beyond (by simp only [List.length_cons]; omega)
        · exact .refl
    · have none_ (rest : Text) : blankLabel (a :: b :: rest) = none := by
        by_cases first : a = '_'
        · exact blankLabel_of_ne_colon (fun second => marks ⟨first, second⟩) rest
        · exact blankLabel_of_ne first (b :: rest)
      rw [List.cons_append, List.cons_append, List.cons_append, List.cons_append, none_, none_]
      exact .refl

/-- At the boundary a local name goes on with a letter, and ends otherwise. -/
theorem localName_boundary (e : Exchange x y) (taken good : Nat) :
    KeepsReach taken (localName x taken good) (localName y taken good) := by
  obtain ⟨c, d, x', y', rfl, rfl, hc, hd, same⟩ := e.head (fun c => Text.isWord c || c == ':') (by decide)
  have other : ∀ c ∈ boundaryMarks, c ≠ '%' ∧ c ≠ '\\' ∧ c ≠ '-' ∧ c ≠ '.' := forall_boundaryMarks.mpr (by decide)
  obtain ⟨p, b, h, o⟩ := other c hc
  obtain ⟨p', b', h', o'⟩ := other d hd
  rw [localName_plain p b, localName_plain p' b', ← same]
  simp only [h, o, h', o', false_and, if_false]
  split
  · exact .inr (localName_extent x' (Nat.le_refl (taken + 1))).1
  · exact .inl rfl

/-- A percent code or a protected character is not completed behind the boundary. -/
theorem localName_broken (e : Exchange x y) {c : Char} {s : Text} {taken good : Nat} (code : c = '%' → s.length < 2)
    (escape : c = '\\' → s = []) (name : ¬(Text.isWord c || c == ':') = true) (hyphen : ¬(c = '-' ∧ taken ≠ 0))
    (point : ¬(c = '.' ∧ taken ≠ 0)) (z : Text) (at_ : z = x ∨ z = y) :
    localName (c :: s ++ z) taken good = good := by
  obtain ⟨m, z', rfl, hm⟩ : ∃ m z', z = m :: z' ∧ m ∈ boundaryMarks := by
    obtain ⟨c, d, x', y', rfl, rfl, hc, hd, -⟩ := e.heads
    obtain rfl | rfl := at_
    exacts [⟨c, x', rfl, hc⟩, ⟨d, y', rfl, hd⟩]
  have other : ∀ c ∈ boundaryMarks, isHex c = false ∧ isProtected c = false := forall_boundaryMarks.mpr (by decide)
  obtain ⟨digit, protection⟩ := other m hm
  by_cases percent : c = '%'
  · subst percent
    match s, code rfl with
    | [], _ =>
      cases z' with
      | nil => simp [localName, show Text.isWord '%' = false by decide]
      | cons b rest => simp [localName, digit]
    | [a], _ => simp [localName, digit]
  · by_cases backslash : c = '\\'
    · subst backslash
      obtain rfl := escape rfl
      simp [localName, protection]
    · rw [List.cons_append, localName_plain percent backslash, if_neg name, if_neg hyphen, if_neg point]

/-- A local name that ends in front of the boundary is kept. -/
theorem localName_keeps (e : Exchange x y) (s : Text) (taken good : Nat) :
    KeepsReach (taken + s.length) (localName (s ++ x) taken good) (localName (s ++ y) taken good) := by
  fun_induction localName s taken good with
  | case1 a b rest taken good hex ih =>
    simp only [List.cons_append, localName, hex, if_true, List.length_cons]
    rwa [show taken + (rest.length + 1 + 1 + 1) = taken + 3 + rest.length by omega]
  | case2 a b rest taken good hex =>
    simp only [List.cons_append, localName, hex, Bool.false_eq_true, if_false]
    exact .inl rfl
  | case3 c rest taken good protection ih =>
    simp only [List.cons_append, localName, protection, if_true, List.length_cons]
    rwa [show taken + (rest.length + 1 + 1) = taken + 2 + rest.length by omega]
  | case4 c rest taken good protection =>
    simp only [List.cons_append, localName, protection, Bool.false_eq_true, if_false]
    exact .inl rfl
  | case5 c rest taken good _ _ name ih =>
    have percent : c ≠ '%' := by rintro rfl; exact absurd name (by decide)
    have backslash : c ≠ '\\' := by rintro rfl; exact absurd name (by decide)
    rw [List.cons_append, List.cons_append, localName_plain percent backslash, localName_plain percent backslash,
      if_pos name, if_pos name, List.length_cons, show taken + (rest.length + 1) = taken + 1 + rest.length by omega]
    exact ih
  | case6 c rest taken good _ _ name hyphen ih =>
    obtain ⟨rfl, more⟩ := hyphen
    rw [List.cons_append, List.cons_append, localName_plain (by decide) (by decide),
      localName_plain (by decide) (by decide), if_neg name, if_neg name, if_pos ⟨rfl, more⟩, if_pos ⟨rfl, more⟩,
      List.length_cons, show taken + (rest.length + 1) = taken + 1 + rest.length by omega]
    exact ih
  | case7 c rest taken good _ _ name hyphen point ih =>
    obtain ⟨rfl, more⟩ := point
    rw [List.cons_append, List.cons_append, localName_plain (by decide) (by decide),
      localName_plain (by decide) (by decide), if_neg name, if_neg name, if_neg hyphen, if_neg hyphen,
      if_pos ⟨rfl, more⟩, if_pos ⟨rfl, more⟩, List.length_cons,
      show taken + (rest.length + 1) = taken + 1 + rest.length by omega]
    exact ih
  | case8 c rest taken good code escape name hyphen point =>
    have code' : c = '%' → rest.length < 2 := by
      rintro rfl
      rcases rest with _ | ⟨a, _ | ⟨b, rest⟩⟩
      · exact Nat.two_pos
      · exact Nat.one_lt_two
      · exact absurd rfl (code a b rest rfl)
    have escape' : c = '\\' → rest = [] := by
      rintro rfl
      rcases rest with _ | ⟨d, rest⟩
      · rfl
      · exact absurd rfl (escape d rest rfl)
    rw [localName_broken e code' escape' name hyphen point x (.inl rfl),
      localName_broken e code' escape' name hyphen point y (.inr rfl)]
    exact .inl rfl
  | case9 taken good =>
    exact localName_boundary e taken good

/-- No label that starts at the boundary is followed by a colon. -/
theorem namespaceLabel_boundary (e : Exchange x y) : namespaceLabel y = none := by
  obtain ⟨c, d, x', y', rfl, rfl, -, hd, -⟩ := e.heads
  have other : ∀ c ∈ boundaryMarks, c ≠ ':' ∧ (isLabelChar c = false → Text.isAlphanumeric c = false) :=
    forall_boundaryMarks.mpr (by decide)
  obtain ⟨colon, letter⟩ := other d hd
  rw [namespaceLabel_of_ne colon]
  cases word : isLabelChar d with
  | false => simp [letter word]
  | true =>
    have := e.label
    rw [run_cons, if_pos word, List.drop_succ_cons] at this
    simp only [this, decide_false, Bool.and_false, Bool.false_eq_true, if_false, ite_self]

/-- A prefix ends at its colon, and none is found behind the boundary. -/
theorem namespaceLabel_keeps (e : Exchange x y) (s : Text) :
    Keeps s.length (namespaceLabel (s ++ x)) (namespaceLabel (s ++ y)) := by
  cases s with
  | nil =>
    rw [List.nil_append, List.nil_append, namespaceLabel_boundary e]
    cases found : namespaceLabel x with
    | none => exact .refl
    | some n =>
      cases n with
      | succ n => exact .beyond (Nat.succ_pos n)
      | zero =>
        -- an empty label is a colon, which does not stand at a boundary
        obtain ⟨c, d, x', y', rfl, rfl, hc, -⟩ := e.heads
        have other : ∀ c ∈ boundaryMarks, c ≠ ':' := forall_boundaryMarks.mpr (by decide)
        rw [namespaceLabel_of_ne (other c hc)] at found
        split at found
        · split at found <;> simp at found
        · cases found
  | cons c s =>
    by_cases colon : c = ':'
    · subst colon
      exact .refl
    · rw [List.cons_append, List.cons_append, namespaceLabel_of_ne colon, namespaceLabel_of_ne colon]
      split
      · by_cases all : s.all isLabelChar = true
        · obtain ⟨reach, behind⟩ := run_of_all all x
          obtain ⟨-, behind'⟩ := run_of_all all y
          have none_ : ((s ++ y).drop (run isLabelChar (s ++ y))).head? ≠ some ':' := by
            rw [behind']
            exact e.label
          simp only [none_, decide_false, Bool.and_false, Bool.false_eq_true, if_false]
          split
          · next found =>
            have colon := of_decide_eq_true (Bool.and_eq_true_iff.mp found).2
            rw [behind] at colon
            have : run isLabelChar x ≠ 0 := by
              intro zero
              obtain ⟨c, d, x', y', rfl, rfl, hc, -⟩ := e.heads
              have other : ∀ c ∈ boundaryMarks, c ≠ ':' := forall_boundaryMarks.mpr (by decide)
              rw [zero] at colon
              exact other c hc (Option.some.inj colon)
            exact .beyond (by rw [List.length_cons]; omega)
          · exact .refl
        · obtain ⟨n, d, rest, -, -, at_⟩ := run_inside all
          obtain ⟨reach, front, behind⟩ := at_ x
          obtain ⟨reach', front', behind'⟩ := at_ y
          rw [reach, reach', front, front', behind, behind']
          exact .refl
      · exact .refl

/-- A prefixed name is its prefix and a local name. -/
theorem prefixedName_keeps (e : Exchange x y) (s : Text) :
    Keeps s.length (prefixedName (s ++ x)) (prefixedName (s ++ y)) := by
  unfold prefixedName
  rcases namespaceLabel_keeps e s with h | ⟨n, found, beyond⟩
  · rw [h]
    cases namespaceLabel (s ++ x) with
    | none => exact .refl
    | some n =>
      by_cases inside : n + 1 ≤ s.length
      · rw [Option.map_some, Option.map_some, List.drop_append_of_le_length inside,
          List.drop_append_of_le_length inside]
        rcases localName_keeps e (s.drop (n + 1)) 0 0 with same | beyond
        · rw [same]
          exact .refl
        · rw [List.length_drop] at beyond
          exact .beyond (by omega)
      · refine .beyond ?_
        dsimp only
        omega
  · rw [found]
    refine .beyond ?_
    dsimp only
    omega

/-- A variable is its mark and a run of name characters. -/
theorem var_keeps (e : Exchange x y) (s : Text) : Keeps s.length (var (s ++ x)) (var (s ++ y)) := by
  cases s with
  | nil =>
    obtain ⟨c, d, x', y', rfl, rfl, hc, hd, -⟩ := e.heads
    have other : ∀ c ∈ boundaryMarks, ¬(c = '?' ∨ c = '$') := forall_boundaryMarks.mpr (by decide)
    rw [List.nil_append, List.nil_append, var, var, if_neg (other c hc), if_neg (other d hd)]
    exact .refl
  | cons c s =>
    rw [List.cons_append, List.cons_append, var, var]
    split
    · refine (run?_keeps e s (by decide)).map (· + 1) fun n beyond => ?_
      exact Nat.succ_lt_succ beyond
    · exact .refl

/-- A bare word starts with a letter and is a run. -/
theorem bareWord_keeps (e : Exchange x y) (s : Text) : Keeps s.length (bareWord (s ++ x)) (bareWord (s ++ y)) := by
  cases s with
  | nil =>
    obtain ⟨c, d, x', y', rfl, rfl, -, -, same⟩ := e.head (fun c => Text.isWord c && !Text.isDecimal c) (by decide)
    rw [List.nil_append, List.nil_append, bareWord, bareWord, ← same]
    split
    · exact .beyond (by rw [List.length_nil]; omega)
    · exact .refl
  | cons c s =>
    rw [List.cons_append, List.cons_append, bareWord, bareWord]
    split
    · rcases run_exchange e s (p := Text.isWord) (by decide) with ⟨same, -⟩ | ⟨beyond, -⟩
      · rw [same]
        exact .refl
      · exact .beyond (by rw [List.length_cons]; omega)
    · exact .refl

/-! ## Numbers, truth values and symbols -/

/-- A character with which a number may go on. -/
def continuesNumber (c : Char) : Bool :=
  Text.isDecimal c || ".eE+-".toList.contains c

variable {z : Text}

/-- A run ends at the boundary if the character there does not count. -/
theorem run_stop (s : Text) (h : z.head?.any p = false) : run p (s ++ z) = run p s := by
  rw [run_append]
  split
  · next all =>
    have whole : run p s = s.length := by
      have := run_append p s []
      rw [List.append_nil, if_pos all, run_nil] at this
      exact this
    cases z with
    | nil => rw [run_nil, whole]; rfl
    | cons c z =>
      have : p c = false := h
      rw [run_cons, this, whole]
      rfl
  · rfl

/-- A run ends at a character that it does not take. -/
theorem run?_stop (s : Text) (h : z.head?.any p = false) : run? p (s ++ z) = run? p s := by
  unfold run?
  rw [run_stop s h]

section Number

variable (stop : z.head?.any continuesNumber = false)

include stop

/-- What does not continue a number is no digit. -/
theorem head?_any_isDecimal : z.head?.any Text.isDecimal = false := by
  cases z with
  | nil => rfl
  | cons c z => exact (Bool.or_eq_false_iff.mp stop).1

/-- What does not continue a number is neither a point, an exponent nor a sign. -/
theorem head?_ne_of_continuesNumber {c : Char} (h : ".eE+-".toList.contains c = true) : z.head? ≠ some c := by
  intro first
  rw [first, Option.any_some, continuesNumber, h, Bool.or_true] at stop
  cases stop

/-- A fraction ends where the number does. -/
theorem fraction_stop (s : Text) : fraction (s ++ z) = fraction s := by
  cases s with
  | nil =>
    have point := head?_ne_of_continuesNumber stop (c := '.') (by decide)
    rw [List.nil_append]
    unfold fraction
    split
    · exact absurd rfl point
    · rfl
  | cons c s =>
    by_cases point : c = '.'
    · subst point
      exact congrArg (Option.map (· + 1)) (run?_stop s (head?_any_isDecimal stop))
    · have none_ (rest : Text) : fraction (c :: rest) = none := by
        unfold fraction
        split
        · next whole => exact absurd (List.cons.inj whole).1 point
        · rfl
      rw [List.cons_append, none_, none_]

/-- An exponent ends where the number does. -/
theorem exponent_stop (s : Text) : exponent (s ++ z) = exponent s := by
  have digits := head?_any_isDecimal stop
  match s with
  | [] =>
    match z with
    | [] => rfl
    | [c] => rfl
    | c :: d :: z =>
      have lower : c ≠ 'e' := fun h => head?_ne_of_continuesNumber stop (c := 'e') (by decide) (by rw [h]; rfl)
      have upper : c ≠ 'E' := fun h => head?_ne_of_continuesNumber stop (c := 'E') (by decide) (by rw [h]; rfl)
      exact if_pos ⟨lower, upper⟩
  | [e] =>
    cases z with
    | nil => rfl
    | cons c z =>
      have plus : c ≠ '+' := fun h => head?_ne_of_continuesNumber stop (c := '+') (by decide) (by rw [h]; rfl)
      have minus : c ≠ '-' := fun h => head?_ne_of_continuesNumber stop (c := '-') (by decide) (by rw [h]; rfl)
      have none_ := run?_stop [] digits
      rw [List.nil_append] at none_
      rw [List.singleton_append, exponent, if_neg (not_or.mpr ⟨plus, minus⟩), none_]
      split <;> rfl
  | e :: sign :: s =>
    rw [List.cons_append, List.cons_append, exponent, exponent, run?_stop s digits, ← List.cons_append,
      run?_stop (sign :: s) digits]

/-- A decimal ends where the number does. -/
theorem decimal_stop (s : Text) : decimal (s ++ z) = decimal s := by
  unfold decimal
  rw [run_stop s (head?_any_isDecimal stop)]
  dsimp only
  rw [List.drop_append_of_le_length (run_le _ s), fraction_stop stop]

/-- A number that starts with a point ends like the others. -/
theorem pointed_stop (s : Text) : pointed (s ++ z) = pointed s := by
  have whole := run_le Text.isDecimal s
  have point := head?_ne_of_continuesNumber stop (c := '.') (by decide)
  unfold pointed
  rw [run_stop s (head?_any_isDecimal stop), decimal_stop stop]
  dsimp only
  have same : ((s ++ z).drop (run Text.isDecimal s)).head? = some '.' ↔
      (s.drop (run Text.isDecimal s)).head? = some '.' := by
    rw [List.drop_append_of_le_length whole]
    cases s.drop (run Text.isDecimal s) with
    | nil => exact iff_of_false point (by simp)
    | cons c rest => rfl
  by_cases here : run Text.isDecimal s ≠ 0 ∧ (s.drop (run Text.isDecimal s)).head? = some '.'
  · have := run_lt_of_head? here.2
    rw [if_pos here, if_pos ⟨here.1, same.mpr here.2⟩, List.drop_append_of_le_length this,
      run_stop _ (head?_any_isDecimal stop)]
  · rw [if_neg here, if_neg fun there => here ⟨there.1, same.mp there.2⟩]

/-- A mantissa with an exponent ends where both do. -/
theorem scaled_stop {mantissa : Text → Option Nat} (s : Text) (same : mantissa (s ++ z) = mantissa s)
    (extent : ∀ {k}, mantissa s = some k → 0 < k ∧ k ≤ s.length) :
    scaled mantissa (s ++ z) = scaled mantissa s := by
  unfold scaled
  rw [same]
  cases found : mantissa s with
  | none => rfl
  | some n =>
    simp only [Option.bind_eq_bind, Option.bind_some]
    rw [List.drop_append_of_le_length (extent found).2, exponent_stop stop]

/-- **A number ends at a character with which no number goes on.** -/
theorem number_stop (s : Text) : number (s ++ z) = number s := by
  have digits := run?_stop s (head?_any_isDecimal stop)
  unfold number
  rw [scaled_stop stop s (pointed_stop stop s) pointed_extent, scaled_stop stop s digits run?_extent,
    decimal_stop stop, digits]

end Number

/-- No number is continued at a boundary. -/
theorem number_exchange (e : Exchange x y) (s : Text) : number (s ++ y) = number (s ++ x) := by
  have other : ∀ c ∈ boundaryMarks, continuesNumber c = false := forall_boundaryMarks.mpr (by decide)
  obtain ⟨c, d, x', y', rfl, rfl, hc, hd, -⟩ := e.heads
  rw [number_stop (show (c :: x').head?.any continuesNumber = false from other c hc),
    number_stop (show (d :: y').head?.any continuesNumber = false from other d hd)]

/-- A word without the characters of a boundary is found in front of it or not at all. -/
theorem startsWith_exchange (e : Exchange x y) {word : Text} (s : Text)
    (free : ∀ c ∈ boundaryMarks, c.toUpper ∉ word) : startsWith word (s ++ y) = startsWith word (s ++ x) := by
  induction s generalizing word with
  | nil =>
    cases word with
    | nil => cases x <;> cases y <;> rfl
    | cons w word =>
      obtain ⟨c, d, x', y', rfl, rfl, hc, hd, -⟩ := e.heads
      have long : ∀ c ∈ boundaryMarks, (c == 'ſ') = false := forall_boundaryMarks.mpr (by decide)
      have other {c : Char} (hc : c ∈ boundaryMarks) : (c.toUpper == w) = false :=
        beq_false_of_ne fun h => free c hc (h ▸ List.mem_cons_self)
      simp only [List.nil_append, startsWith, other hc, other hd, long c hc, long d hd, Bool.false_and,
        Bool.or_false]
  | cons c s ih =>
    cases word with
    | nil => rfl
    | cons w word =>
      simp only [List.cons_append, startsWith]
      rw [ih fun c hc inside => free c hc (List.mem_cons_of_mem w inside)]

/-- A word without the characters at a boundary does not reach over it. -/
theorem startsWith_inside (e : Exchange x y) {word : Text} (s : Text)
    (free : ∀ c ∈ boundaryMarks, c.toUpper ∉ word) (h : startsWith word (s ++ x) = true) :
    word.length ≤ s.length := by
  induction s generalizing word with
  | nil =>
    cases word with
    | nil => exact Nat.le_refl 0
    | cons w word =>
      obtain ⟨c, d, x', y', rfl, rfl, hc, hd, -⟩ := e.heads
      have long : ∀ c ∈ boundaryMarks, (c == 'ſ') = false := forall_boundaryMarks.mpr (by decide)
      have other : (c.toUpper == w) = false := beq_false_of_ne fun h => free c hc (h ▸ List.mem_cons_self)
      rw [List.nil_append, startsWith, other, long c hc] at h
      cases h
  | cons c s ih =>
    cases word with
    | nil => exact Nat.zero_le _
    | cons w word =>
      rw [List.cons_append, startsWith, Bool.and_eq_true] at h
      exact Nat.succ_le_succ (ih (fun c hc inside => free c hc (List.mem_cons_of_mem w inside)) h.2)

/-- A truth value does not reach the boundary, and is not joined to what stands there. -/
theorem truthValue_exchange (e : Exchange x y) (before : Option Char) (s : Text) :
    truthValue before (s ++ y) = truthValue before (s ++ x) := by
  have words : ∀ word ∈ ["TRUE".toList, "FALSE".toList], ∀ c ∈ boundaryMarks, c.toUpper ∉ word := by
    simp only [forall_boundaryMarks]
    decide
  have same (word : Text) (free : ∀ c ∈ boundaryMarks, c.toUpper ∉ word) :
      (startsWith word (s ++ y) && !before.any joinsWord && !((s ++ y).drop word.length).head?.any joinsWord) =
        (startsWith word (s ++ x) && !before.any joinsWord
          && !((s ++ x).drop word.length).head?.any joinsWord) := by
    rw [startsWith_exchange e s free]
    cases h : startsWith word (s ++ x) with
    | false => rfl
    | true =>
      have inside := startsWith_inside e s free h
      have next : ((s ++ y).drop word.length).head?.any joinsWord =
          ((s ++ x).drop word.length).head?.any joinsWord := by
        rw [List.drop_append_of_le_length inside, List.drop_append_of_le_length inside]
        cases s.drop word.length with
        | nil =>
          obtain ⟨c, d, x', y', rfl, rfl, -, -, same⟩ := e.head joinsWord rfl
          exact same.symm
        | cons c rest => rfl
      rw [next]
  unfold truthValue
  simp only [List.findSome?_cons, List.findSome?_nil]
  rw [same _ (words _ (.head _)), same _ (words _ (.tail _ (.head _)))]

/-- No symbol has a character of a boundary behind its first. -/
theorem symbol_exchange (e : Exchange x y) (s : Text) : symbol (s ++ y) = symbol (s ++ x) := by
  have cases_ : ∀ mark ∈ symbols, mark = ['\x7d'] ∨ ∀ c ∈ boundaryMarks, c ∉ mark := by
    simp only [forall_boundaryMarks]
    decide
  have same : ∀ mark ∈ symbols, mark.isPrefixOf (s ++ y) = mark.isPrefixOf (s ++ x) := by
    intro mark member
    obtain rfl | free := cases_ mark member
    · cases s with
      | nil =>
        obtain ⟨c, d, x', y', rfl, rfl, -, -, same⟩ := e.head ('\x7d' == ·) rfl
        simpa [List.isPrefixOf] using same.symm
      | cons c s => rfl
    · exact isPrefixOf_exchange e s free
  have first : symbols.find? (·.isPrefixOf (s ++ y)) = symbols.find? (·.isPrefixOf (s ++ x)) :=
    List.find?_congr same
  rw [symbol, symbol, first]

/-! ## Strings -/

/-- A backslash takes the character behind it. -/
theorem longString_escape (mark c : Char) (rest : Text) (taken : Nat) :
    longString mark ('\\' :: c :: rest) taken = longString mark rest (taken + 2) := by
  rw [longString]

/-- A plain character is taken, unless it starts the three closing marks. -/
theorem longString_plain {c : Char} (h : c ≠ '\\') (mark : Char) (rest : Text) (taken : Nat) :
    longString mark (c :: rest) taken =
      if c = mark ∧ [mark, mark].isPrefixOf rest then some (taken + 3) else longString mark rest (taken + 1) := by
  rw [longString]
  · rw [if_neg h]
  · rintro d rest rfl
    exact absurd rfl h

/-- A backslash at the end leaves the string open. -/
theorem longString_backslash (mark : Char) (taken : Nat) : longString mark ['\\'] taken = none := by
  rw [longString]
  · simp
  · rintro c rest - h
    cases h

/-- A string in three marks ends with them. -/
theorem longString_length {mark : Char} {s : Text} {taken n : Nat} (h : longString mark s taken = some n) :
    taken + 3 ≤ n := by
  fun_induction longString mark s taken with
  | case1 _ _ _ ih =>
    have := ih h
    omega
  | case2 =>
    obtain rfl := Option.some.inj h
    exact Nat.le_refl _
  | case3 => cases h
  | case4 _ _ _ _ _ _ ih =>
    have := ih h
    omega
  | case5 => cases h

/-- A word that fits is in front of a text whatever follows. -/
theorem isPrefixOf_append {word s : Text} (h : word.length ≤ s.length) (x : Text) :
    word.isPrefixOf (s ++ x) = word.isPrefixOf s := by
  induction s generalizing word with
  | nil =>
    obtain rfl := List.length_eq_zero_iff.mp (Nat.le_zero.mp h)
    simp
  | cons c s ih =>
    cases word with
    | nil => rfl
    | cons w word =>
      simp only [List.cons_append, List.isPrefixOf]
      rw [ih (Nat.le_of_succ_le_succ h)]

/-- **A long string that ends inside the boundary** does not depend on what stands behind. -/
theorem longString_inside {mark : Char} {s : Text} {taken n : Nat}
    (h : longString mark (s ++ x) taken = some n) (inside : n ≤ taken + s.length) (y : Text) :
    longString mark (s ++ y) taken = some n := by
  have long := longString_length h
  fun_induction longString mark s taken with
  | case1 taken c rest ih =>
    rw [List.cons_append, List.cons_append, longString_escape] at h ⊢
    rw [List.length_cons, List.length_cons] at inside
    exact ih h (by omega) (longString_length h)
  | case2 c rest taken escape closing =>
    have plain : c ≠ '\\' := by
      rintro rfl
      cases rest with
      | nil => cases closing.2
      | cons d rest => exact escape d rest rfl rfl
    have more (z : Text) : c = mark ∧ [mark, mark].isPrefixOf (rest ++ z) :=
      ⟨closing.1, List.isPrefixOf_iff_prefix.mpr
        ((List.isPrefixOf_iff_prefix.mp closing.2).trans (List.prefix_append rest z))⟩
    rw [List.cons_append, longString_plain plain, if_pos (more _)] at h ⊢
    exact h
  | case3 rest taken escape _ =>
    cases rest with
    | cons d rest => exact absurd rfl (escape d rest rfl)
    | nil =>
      cases x with
      | nil =>
        rw [List.append_nil, longString_backslash] at h
        cases h
      | cons d x =>
        rw [List.singleton_append, longString_escape] at h
        have := longString_length h
        rw [List.length_singleton] at inside
        omega
  | case4 c rest taken escape open_ plain ih =>
    rw [List.length_cons] at inside
    have far : [mark, mark].length ≤ rest.length := by
      rw [List.length_cons, List.length_singleton]
      omega
    have same (z : Text) : ¬(c = mark ∧ [mark, mark].isPrefixOf (rest ++ z)) := by
      rwa [isPrefixOf_append far]
    rw [List.cons_append, longString_plain plain, if_neg (same _)] at h ⊢
    exact ih h (by omega) (longString_length h)
  | case5 taken =>
    rw [List.length_nil] at inside
    omega

/-- A plain character is taken, unless it closes the string or ends the line. -/
theorem shortString_plain {c : Char} (h : c ≠ '\\') (mark : Char) (rest : Text) (taken : Nat) :
    shortString mark (c :: rest) taken =
      if c = mark then some (taken + 1)
      else if c = '\\' ∨ c = '\n' ∨ c = '\r' then none else shortString mark rest (taken + 1) := by
  rw [shortString]
  rintro d rest rfl
  exact absurd rfl h

/-- **A short string that ends inside the boundary** does not depend on what stands behind. -/
theorem shortString_inside {mark : Char} (mark_ : mark ≠ '\\') {s : Text} {taken n : Nat}
    (h : shortString mark (s ++ x) taken = some n) (inside : n ≤ taken + s.length) (y : Text) :
    shortString mark (s ++ y) taken = some n := by
  have long := (shortString_extent h).1
  fun_induction shortString mark s taken with
  | case1 rest taken =>
    rw [List.cons_append, List.cons_append, shortString, if_pos rfl] at h
    cases h
  | case2 c rest taken feed ih =>
    rw [List.cons_append, List.cons_append, shortString, if_neg feed] at h ⊢
    rw [List.length_cons, List.length_cons] at inside
    exact ih h (by omega) (shortString_extent h).1
  | case3 rest taken _ =>
    rw [List.cons_append, shortString_plain mark_, if_pos rfl] at h ⊢
    exact h
  | case4 c rest taken escape other bad =>
    by_cases backslash : c = '\\'
    · subst backslash
      cases rest with
      | cons d rest => exact absurd rfl (escape d rest rfl)
      | nil =>
        cases x with
        | nil =>
          have none_ : shortString mark ['\\'] taken = none := by
            rw [shortString]
            · rw [if_neg other, if_pos bad]
            · rintro d rest - h
              cases h
          rw [List.append_nil, none_] at h
          cases h
        | cons d x =>
          rw [List.singleton_append, shortString] at h
          split at h
          · cases h
          · have := (shortString_extent h).1
            rw [List.length_singleton] at inside
            omega
    · rw [List.cons_append, shortString_plain backslash, if_neg other, if_pos bad] at h
      cases h
  | case5 c rest taken escape other good ih =>
    rw [List.length_cons] at inside
    have backslash : c ≠ '\\' := fun h => good (.inl h)
    rw [List.cons_append, shortString_plain backslash, if_neg other, if_neg good] at h ⊢
    exact ih h (by omega) (shortString_extent h).1
  | case6 taken =>
    rw [List.length_nil] at inside
    omega

/-- A string that is closed in front of the boundary is closed there whatever follows. -/
theorem stringIn_inside {mark : Char} (mark_ : mark ≠ '\\') {long : Bool} {s : Text} {n : Nat}
    (h : stringIn mark long (s ++ x) = some n) (inside : n ≤ s.length) (y : Text) :
    stringIn mark long (s ++ y) = some n := by
  cases long with
  | true =>
    simp only [stringIn, if_true] at h ⊢
    split at h
    · next opening =>
      have three := longString_length h
      have far : [mark, mark, mark].length ≤ s.length := by
        simp only [List.length_cons, List.length_nil]
        omega
      rw [isPrefixOf_append far] at opening ⊢
      have behind (z : Text) : (s ++ z).drop 3 = s.drop 3 ++ z := List.drop_append_of_le_length far
      rw [behind] at h ⊢
      rw [if_pos opening]
      refine longString_inside h ?_ y
      rw [List.length_drop]
      omega
    · cases h
  | false =>
    simp only [stringIn, Bool.false_eq_true, if_false] at h ⊢
    split at h
    · next opening =>
      have := shortString_extent h
      cases s with
      | nil => simp only [List.length_nil] at inside; omega
      | cons c s =>
        rw [List.cons_append, List.drop_succ_cons, List.drop_zero] at h
        rw [List.cons_append, List.drop_succ_cons, List.drop_zero, if_pos (by exact opening)]
        refine shortString_inside mark_ h ?_ y
        rw [List.length_cons] at inside
        omega
    · cases h

/-- **A long string that is open at the boundary stays open**: with the second text it does not end either. -/
def StaysOpen (s x y : Text) : Prop :=
  ∀ mark ∈ ['"', '\''], ∀ rest, s = mark :: mark :: mark :: rest →
    longString mark (rest ++ x) 3 = none → longString mark (rest ++ y) 3 = none

/-- **Three marks in a row stand in front of both texts or of neither**, and then inside the boundary. -/
def SameMarks (s x y : Text) : Prop :=
  ∀ mark ∈ ['"', '\''], [mark, mark, mark].isPrefixOf (s ++ y) = [mark, mark, mark].isPrefixOf (s ++ x) ∧
    ([mark, mark, mark].isPrefixOf (s ++ x) = true → 3 ≤ s.length)

/-- Three marks are found in front of the boundary, for neither text starts with one. -/
theorem Exchange.sameMarks (e : Exchange x y) (s : Text) : SameMarks s x y := by
  intro mark member
  have free : ∀ c ∈ boundaryMarks, c ∉ [mark, mark, mark] := by
    rcases List.mem_pair.mp member with rfl | rfl <;> exact forall_boundaryMarks.mpr (by decide)
  exact ⟨isPrefixOf_exchange e s free, fun opening => isPrefixOf_reach e s free opening⟩

/-- A long string that is open at the boundary stays open. -/
theorem stringIn_long_none {mark : Char} (member : mark ∈ ['"', '\'']) {s : Text} (same : SameMarks s x y)
    (stays : StaysOpen s x y) (h : stringIn mark true (s ++ x) = none) : stringIn mark true (s ++ y) = none := by
  obtain ⟨marks, inside⟩ := same mark member
  simp only [stringIn, if_true] at h ⊢
  rw [marks]
  split
  · next opening =>
    rw [if_pos opening] at h
    obtain ⟨rest, rfl⟩ : ∃ rest, s = mark :: mark :: mark :: rest := by
      have far : [mark, mark, mark].length ≤ s.length := inside opening
      rw [isPrefixOf_append far] at opening
      obtain ⟨rest, whole⟩ := List.isPrefixOf_iff_prefix.mp opening
      exact ⟨rest, whole.symm⟩
    exact stays mark member rest rfl h
  · rfl

/-- **A string that ends inside the boundary** is the same with the second text. -/
theorem string_exchange {s : Text} {n : Nat} (same : SameMarks s x y) (stays : StaysOpen s x y)
    (h : string (s ++ x) = some n) (inside : n ≤ s.length) : string (s ++ y) = some n := by
  have double : '"' ≠ '\\' := by decide
  have single : '\'' ≠ '\\' := by decide
  have first : '"' ∈ ['"', '\''] := .head _
  have second : '\'' ∈ ['"', '\''] := .tail _ (.head _)
  obtain ⟨c, s, rfl⟩ : ∃ c t, s = c :: t := by
    have := (string_extent h).1
    exact List.exists_cons_of_length_pos (by omega)
  simp only [string, Option.or_eq_some_iff] at h ⊢
  rcases h with h | ⟨none₁, h | ⟨none₂, h | ⟨none₃, h⟩⟩⟩
  · exact .inl (stringIn_inside double h inside y)
  · exact .inr ⟨stringIn_long_none first same stays none₁, .inl (stringIn_inside single h inside y)⟩
  · refine .inr ⟨stringIn_long_none first same stays none₁, .inr ⟨stringIn_long_none second same stays none₂,
      .inl (stringIn_inside double h inside y)⟩⟩
  · refine .inr ⟨stringIn_long_none first same stays none₁, .inr ⟨stringIn_long_none second same stays none₂,
      .inr ⟨?_, stringIn_inside single h inside y⟩⟩⟩
    -- the string starts with the other mark
    have other : c ≠ '"' := by
      rintro rfl
      rw [List.cons_append, stringIn_of_ne (by decide)] at h
      cases h
    rw [List.cons_append, stringIn_of_ne other]

/-! ## Literals -/

/-- Subtags that end in front of the boundary are kept. -/
theorem subtags_keeps (e : Exchange x y) (s : Text) (taken good : Nat) :
    KeepsReach (taken + s.length) (subtags (s ++ x) taken good) (subtags (s ++ y) taken good) := by
  induction s generalizing taken good with
  | nil =>
    obtain ⟨c, d, x', y', rfl, rfl, hc, hd, same⟩ := e.head isLetterOrDigit rfl
    have other : ∀ c ∈ boundaryMarks, c ≠ '-' := forall_boundaryMarks.mpr (by decide)
    rw [List.nil_append, List.nil_append, subtags, subtags, ← same]
    simp only [other c hc, other d hd, false_and, if_false]
    split
    · exact .inr (subtags_extent x' (Nat.le_refl (taken + 1))).1
    · exact .inl rfl
  | cons c s ih =>
    rw [List.cons_append, List.cons_append, subtags, subtags, List.length_cons,
      show taken + (s.length + 1) = taken + 1 + s.length by omega]
    split
    · exact ih (taken + 1) good
    · split
      · exact ih (taken + 1) (taken + 1)
      · exact .inl rfl

/-- A language tag is letters with subtags behind them. -/
theorem languageTag_keeps (e : Exchange x y) (s : Text) :
    Keeps s.length (languageTag (s ++ x)) (languageTag (s ++ y)) := by
  unfold languageTag
  rcases run?_keeps e s (p := isLetter) rfl with same | ⟨n, found, beyond⟩
  · rw [same]
    cases run? isLetter (s ++ x) with
    | none => exact .refl
    | some n =>
      by_cases inside : n ≤ s.length
      · rw [Option.map_some, Option.map_some, List.drop_append_of_le_length inside,
          List.drop_append_of_le_length inside]
        rcases subtags_keeps e (s.drop n) 0 0 with same | beyond
        · rw [same]
          exact .refl
        · rw [List.length_drop] at beyond
          exact .beyond (by omega)
      · refine .beyond ?_
        dsimp only
        omega
  · rw [found]
    refine .beyond ?_
    dsimp only
    omega

/-- Without its mark there is no annotation. -/
theorem annotated_of_ne {c : Char} (tag : c ≠ '@') (type : c ≠ '^') (rest : Text) :
    annotated (c :: rest) = none := by
  unfold annotated
  split
  · next whole => exact absurd (List.cons.inj whole).1 tag
  · next whole => exact absurd (List.cons.inj whole).1 type
  · rfl

/-- One caret makes no datatype. -/
theorem annotated_of_ne_caret {c d : Char} (tag : c ≠ '@') (type : d ≠ '^') (rest : Text) :
    annotated (c :: d :: rest) = none := by
  unfold annotated
  split
  · next whole => exact absurd (List.cons.inj whole).1 tag
  · next whole => exact absurd (List.cons.inj (List.cons.inj whole).2).1 type
  · rfl

/-- **The annotation of a literal is kept**: a language tag, or a datatype behind two carets. -/
theorem annotated_keeps (e : Exchange x y) (s : Text) :
    Keeps s.length (annotated (s ++ x)) (annotated (s ++ y)) := by
  have other : ∀ c ∈ boundaryMarks, c ≠ '@' ∧ c ≠ '^' := forall_boundaryMarks.mpr (by decide)
  match s with
  | [] =>
    obtain ⟨c, d, x', y', rfl, rfl, hc, hd, -⟩ := e.heads
    rw [List.nil_append, List.nil_append, annotated_of_ne (other c hc).1 (other c hc).2,
      annotated_of_ne (other d hd).1 (other d hd).2]
    exact .refl
  | c :: s =>
    by_cases tag : c = '@'
    · subst tag
      refine (languageTag_keeps e s).map (· + 1) fun n beyond => ?_
      exact Nat.succ_lt_succ beyond
    · match s with
      | [] =>
        obtain ⟨d, d', x', y', rfl, rfl, hd, hd', -⟩ := e.heads
        rw [List.singleton_append, List.singleton_append, annotated_of_ne_caret tag (other d hd).2,
          annotated_of_ne_caret tag (other d' hd').2]
        exact .refl
      | d :: s =>
        by_cases carets : c = '^' ∧ d = '^'
        · obtain ⟨rfl, rfl⟩ := carets
          refine ((iri_keeps e s).or (prefixedName_keeps e s)).map (· + 2) fun n beyond => ?_
          exact Nat.add_lt_add_right beyond 2
        · have none_ (rest : Text) : annotated (c :: d :: rest) = none := by
            by_cases first : c = '^'
            · exact annotated_of_ne_caret tag (fun second => carets ⟨first, second⟩) rest
            · exact annotated_of_ne tag first (d :: rest)
          rw [List.cons_append, List.cons_append, List.cons_append, List.cons_append, none_, none_]
          exact .refl

/-- **A quoted literal that ends inside the boundary** is the same with the second text. -/
theorem quotedLiteral_exchange {s : Text} {n : Nat} (same : SameMarks s x y) (stays : StaysOpen s x y)
    (annotations : ∀ s : Text, Keeps s.length (annotated (s ++ x)) (annotated (s ++ y)))
    (h : quotedLiteral (s ++ x) = some n) (inside : n ≤ s.length) : quotedLiteral (s ++ y) = some n := by
  obtain ⟨m, found, rfl⟩ := Option.map_eq_some_iff.mp h
  have short : m ≤ s.length := by omega
  rw [quotedLiteral, string_exchange same stays found short, Option.map_some]
  rw [List.drop_append_of_le_length short] at inside ⊢
  rw [List.drop_append_of_le_length short]
  rcases annotations (s.drop m) with same | ⟨k, found', beyond⟩
  · rw [same]
  · rw [found', Option.getD_some] at inside
    rw [List.length_drop] at beyond
    omega

end Lexeme

namespace Scan

open Lexeme

variable {x y : Text} {before : Option Char}

/-- The second lexeme is the first, unless that one reaches beyond the boundary or is an IRI that never closes. -/
def Settled (boundary : Nat) (first second : Option (Class × Nat)) : Prop :=
  second = first ∨ first = some (.openIri, 1) ∨ ∃ kind n, first = some (kind, n) ∧ boundary < n

/-- The first of two settled finds is settled. -/
theorem Settled.or {boundary : Nat} {first second first' second' : Option (Class × Nat)}
    (h : Settled boundary first second) (h' : Settled boundary first' second') :
    Settled boundary (first.or first') (second.or second') := by
  obtain rfl | rfl | ⟨kind, n, rfl, beyond⟩ := h
  · cases second with
    | none => exact h'
    | some found => exact .inl rfl
  · exact .inr (.inl rfl)
  · exact .inr (.inr ⟨kind, n, rfl, beyond⟩)

/-- A find that is kept settles the rule of its class. -/
theorem Settled.of_keeps {boundary : Nat} {first second : Option Nat} (kind : Class) (h : Keeps boundary first second) :
    Settled boundary (first.map (kind, ·)) (second.map (kind, ·)) := by
  obtain rfl | ⟨n, rfl, beyond⟩ := h
  · exact .inl rfl
  · exact .inr (.inr ⟨kind, n, rfl, beyond⟩)

/-- **Every rule finds the same in both texts**, unless it reaches beyond the boundary in the first. -/
structure RulesKeep (boundary : Nat) (before before' : Option Char) (first second : Text) : Prop where
  comment : Keeps boundary (comment first) (comment second)
  iri : Keeps boundary (iri first) (iri second)
  opensIri : opensIri first = false → opensIri second = false
  literal : ∀ {n}, quotedLiteral first = some n → n ≤ boundary → quotedLiteral second = some n
  blankLabel : Keeps boundary (blankLabel first) (blankLabel second)
  prefixedName : Keeps boundary (prefixedName first) (prefixedName second)
  var : Keeps boundary (var first) (var second)
  number : number second = number first
  truthValue : truthValue before' second = truthValue before first
  bareWord : Keeps boundary (bareWord first) (bareWord second)
  symbol : symbol second = symbol first

/-- **A lexeme that ends inside the boundary** is the same in both texts, if every rule keeps. -/
theorem lexeme?_keeps {before' : Option Char} {s : Text} {found : Class} {n : Nat}
    (keep : RulesKeep s.length before before' (s ++ x) (s ++ y)) (closed : found ≠ .openIri)
    (h : lexeme? before (s ++ x) = some (found, n)) (inside : n ≤ s.length) :
    lexeme? before' (s ++ y) = some (found, n) := by
  obtain ⟨c, rest, whole⟩ : ∃ c t, s = c :: t := by
    have := (lexeme?_extent h).1
    exact List.exists_cons_of_length_pos (by omega)
  by_cases quote : c = '"' ∨ c = '\''
  · have literal (before : Option Char) (z : Text) := lexeme?_quote quote before (rest ++ z)
    simp only [← List.cons_append, ← whole] at literal
    rw [literal] at h ⊢
    obtain ⟨m, at_, same⟩ := Option.map_eq_some_iff.mp h
    obtain ⟨rfl, rfl⟩ := Prod.mk.inj same
    rw [keep.literal at_ inside]
    rfl
  · have none_ (z : Text) : quotedLiteral (s ++ z) = none := by
      rw [whole]
      exact quotedLiteral_of_ne (not_or.mp quote).1 (not_or.mp quote).2 (rest ++ z)
    have opens : Settled s.length (if Lexeme.opensIri (s ++ x) then some (.openIri, 1) else none)
        (if Lexeme.opensIri (s ++ y) then some (.openIri, 1) else none) := by
      cases open_ : Lexeme.opensIri (s ++ x) with
      | true => exact .inr (.inl rfl)
      | false =>
        rw [keep.opensIri open_]
        exact .inl rfl
    have settled : Settled s.length (lexeme? before (s ++ x)) (lexeme? before' (s ++ y)) := by
      refine (Settled.of_keeps .comment keep.comment).or ?_
      refine (Settled.of_keeps (.token .iri) keep.iri).or ?_
      refine opens.or ?_
      refine (Settled.of_keeps (.token .literal) ?_).or ?_
      · rw [none_, none_]
        exact .refl
      refine (Settled.of_keeps (.token .prefixedName) keep.blankLabel).or ?_
      refine (Settled.of_keeps (.token .prefixedName) keep.prefixedName).or ?_
      refine (Settled.of_keeps (.token .var) keep.var).or ?_
      refine (Settled.of_keeps (.token .literal) (.inl keep.number)).or ?_
      refine (Settled.of_keeps (.token .literal) (.inl keep.truthValue)).or ?_
      refine (Settled.of_keeps (.token .keyword) keep.bareWord).or ?_
      exact Settled.of_keeps (.token .punctuation) (.inl keep.symbol)
    obtain same | open_ | ⟨kind, m, at_, beyond⟩ := settled
    · rw [same, h]
    · obtain ⟨rfl, -⟩ := Prod.mk.inj (Option.some.inj (h.symm.trans open_))
      exact absurd rfl closed
    · obtain ⟨-, rfl⟩ := Prod.mk.inj (Option.some.inj (h.symm.trans at_))
      omega

/-- Every rule keeps if the texts behind a boundary are exchanged. -/
theorem RulesKeep.of_exchange (e : Exchange x y) {s : Text} (stays : StaysOpen s x y) :
    RulesKeep s.length before before (s ++ x) (s ++ y) where
  comment := comment_keeps e s
  iri := iri_keeps e s
  opensIri := opensIri_exchange e s
  literal := quotedLiteral_exchange (e.sameMarks s) stays (annotated_keeps e)
  blankLabel := blankLabel_keeps e s
  prefixedName := prefixedName_keeps e s
  var := var_keeps e s
  number := number_exchange e s
  truthValue := truthValue_exchange e before s
  bareWord := bareWord_keeps e s
  symbol := symbol_exchange e s

end Scan

open Piece Lexeme

/-- **A cut in front of one text is a cut in front of another**, unless a long string that is open there ends in
the other one. -/
theorem IsCut.exchange {x y : Text} (e : Exchange x y) {pieces : List Piece} {before : Option Char}
    (stays : ∀ front piece back, pieces = front ++ piece :: back → StaysOpen (written (piece :: back)) x y)
    (cut : IsCut before pieces x) : IsCut before pieces y := by
  induction pieces generalizing before with
  | nil => trivial
  | cons piece pieces ih =>
    obtain ⟨stands, cut⟩ := cut
    refine ⟨?_, ih (fun front other back h => stays (piece :: front) other back (by rw [h]; rfl)) cut⟩
    have here := stays [] piece pieces rfl
    rw [written_cons] at here
    unfold Stands at stands ⊢
    cases kind : piece.class? with
    | none =>
      rw [kind] at stands
      exact stands
    | some found =>
      rw [kind] at stands
      refine ⟨stands.1, ?_⟩
      have at_ := stands.2
      rw [← List.append_assoc] at at_ ⊢
      refine Scan.lexeme?_keeps (.of_exchange e here) ?_ at_ ?_
      · rintro rfl
        cases piece <;> cases kind
      · rw [List.length_append]
        exact Nat.le_add_right _ _

end QuerySignature
