import QuerySignature.Text.Emoji

/-!
# Report/Markup — text with style tags

A text for a report may hold style tags.  A tag is a name in square brackets, `[bold]`; a closing tag,
`[/bold]` or `[/]`, ends what an earlier one began.  In a plain report the tags are dropped (`plain?`), and
short codes become emoji.  Backslashes in front of a tag stand for half as many, and an odd one makes the tag
part of the text; `escaped` puts them where a text is to be shown as it is.
-/

namespace QuerySignature.Markup

/-- **A part of a text with tags**: characters without a tag, or a tag with the number of backslashes in front
of it. -/
inductive Part where
  | plain (text : Text)
  | tag (slashes : Nat) (body : Text)
  deriving DecidableEq, Repr

/-- The text up to a closing bracket, and what follows it.  No bracket is opened in between. -/
def untilClosing? : Text → Option (Text × Text)
  | [] => none
  | c :: rest =>
    if c = ']' then some ([], rest)
    else if c = '[' then none
    else (untilClosing? rest).map fun (body, after) => (c :: body, after)

/-- The body of a tag behind its opening bracket, and what follows the tag.  It starts with a small letter, a
number sign, a slash or an at sign. -/
def tag? : Text → Option (Text × Text)
  | [] => none
  | c :: rest =>
    if ('a' ≤ c && c ≤ 'z') || ['#', '/', '@'].contains c then
      (untilClosing? rest).map fun (body, after) => (c :: body, after)
    else none

theorem length_lt_of_untilClosing? {text body after : Text} (h : untilClosing? text = some (body, after)) :
    after.length < text.length := by
  induction text generalizing body with
  | nil => simp [untilClosing?] at h
  | cons c rest ih =>
    rw [untilClosing?] at h
    split at h
    · simp_all
    · split at h
      · simp at h
      · obtain ⟨⟨_, _⟩, hf, he⟩ := Option.map_eq_some_iff.1 h
        cases he
        have := ih hf
        simp only [List.length_cons]
        omega

theorem length_lt_of_tag? {text body after : Text} (h : tag? text = some (body, after)) :
    after.length < text.length := by
  cases text with
  | nil => simp [tag?] at h
  | cons c rest =>
    obtain ⟨⟨_, _⟩, hf, he⟩ := Option.map_eq_some_iff.1 (Option.ite_none_right_eq_some.1 h).2
    cases he
    have := length_lt_of_untilClosing? hf
    simp only [List.length_cons]
    omega

/-- The parts of a text behind characters without a tag, which are in reverse. -/
def partsFrom : Text → (passed : Text) → List Part
  | [], passed => [.plain passed.reverse]
  | c :: rest, passed =>
    match h : if c = '[' then tag? rest else none with
    | some (body, after) =>
      have := length_lt_of_tag? (Option.ite_none_right_eq_some.1 h).2
      let slashes := (passed.takeWhile (· = '\\')).length
      .plain (passed.drop slashes).reverse :: .tag slashes body :: partsFrom after []
    | none => partsFrom rest (c :: passed)
  termination_by text => text.length
  decreasing_by all_goals (simp only [List.length_cons]; omega)

/-- **The parts of a text.** -/
def parts (text : Text) : List Part :=
  partsFrom text []

/-- So many backslashes. -/
def slashes (n : Nat) : Text :=
  List.replicate n '\\'

/-- A tag as written. -/
def bracketed (body : Text) : Text :=
  '[' :: body ++ [']']

/-! ## Escaping -/

/-- A part that is to be shown as it is. -/
def Part.escaped : Part → Text
  | plain text => text
  | tag n body => slashes (2 * n + 1) ++ bracketed body

/-- **The text escaped**, so that it is shown as it is.  A single backslash at the end is doubled, because a
tag may follow. -/
def escaped (text : Text) : Text :=
  let text := (parts text).flatMap Part.escaped
  if (slashes 1).isSuffixOf text && !(slashes 2).isSuffixOf text then text ++ slashes 1 else text

/-! ## Dropping the tags -/

/-- The text without the backslashes in front of opening brackets. -/
def withoutSlashes : Text → Text
  | '\\' :: '[' :: rest => '[' :: withoutSlashes rest
  | c :: rest => c :: withoutSlashes rest
  | [] => []

/-- The short names of styles. -/
def shortNames : List (Text × Text) :=
  [("b", "bold"), ("c", "conceal"), ("d", "dim"), ("i", "italic"), ("o", "overline"), ("r", "reverse"),
    ("s", "strike"), ("u", "underline"), ("uu", "underline2")].map fun (short, long) =>
      (short.toList, long.toList)

/-- A name without the blanks around it. -/
def trimmedName (name : Text) : Text :=
  ((name.dropWhile Text.isBlank).reverse.dropWhile Text.isBlank).reverse

/-- The style that a tag names: without blanks around it, in lower case and in full. -/
def styleOf (name : Text) : Text :=
  let name := (trimmedName name).map Text.smallLetter
  (shortNames.lookup name).getD name

/-- **The styles in force after a tag**, the last one first.  A closing tag ends the last style, or the last
of the style it names; there is none after a closing tag that ends nothing. -/
def afterTag? (body : Text) (styles : List Text) : Option (List Text) :=
  match body.takeWhile (· ≠ '=') with
  | '/' :: name =>
    if (trimmedName name).isEmpty then styles.tail?
    else if styles.contains (styleOf name) then some (styles.erase (styleOf name))
    else none
  | name => some (styleOf name :: styles)

/-- The parts with their tags dropped, where styles are in force. -/
def plainParts? : List Part → (styles : List Text) → Option Text
  | [], _ => some []
  | .plain text :: rest, styles =>
    (plainParts? rest styles).map (Text.withEmoji (withoutSlashes text) ++ ·)
  | .tag n body :: rest, styles =>
    if n % 2 = 1 then
      (plainParts? rest styles).map (slashes (n / 2) ++ Text.withEmoji (bracketed body) ++ ·)
    else do
      return slashes (n / 2) ++ (← plainParts? rest (← afterTag? body styles))

/-- **The text with its tags dropped**, unless a closing tag ends nothing. -/
def plain? (text : Text) : Option Text :=
  plainParts? (parts text) []

end QuerySignature.Markup
