import QuerySignature.Text.Blank
import QuerySignature.Text.EmojiTable
import QuerySignature.Text.Hexadecimal

/-!
# Text/Emoji — short codes

An emoji may be written as a short code, its name between two colons: `:heart:`.  The name may end in a tone
of skin, if the emoji takes one, and after that in `-text` or `-emoji`, which asks for the plain or the
coloured form.  `withEmoji` puts an emoji in the place of every short code; what stands between two colons
and is no name stays.
-/

namespace QuerySignature.Text

/-- The characters that the table has after a name and a mark. -/
def emojiEntry? (name : Text) (mark : Char) : Option Text := do
  let entry ← (separated Char.isWhitespace emojiTable.toList).find? (name ++ [mark]).isPrefixOf
  let codes ← (separated (· = '+') (entry.drop (name.length + 1))).mapM hexNumber?
  return codes.map Char.ofNat

/-- The five tones of skin: how a name ends, and the character behind the first one of the emoji. -/
def skinTones : List (Text × Char) :=
  [("_light_skin_tone".toList, Char.ofNat 0x1F3FB), ("_medium-light_skin_tone".toList, Char.ofNat 0x1F3FC),
   ("_medium_skin_tone".toList, Char.ofNat 0x1F3FD), ("_medium-dark_skin_tone".toList, Char.ofNat 0x1F3FE),
   ("_dark_skin_tone".toList, Char.ofNat 0x1F3FF)]

/-- The text in front of an ending, if it has that ending. -/
def beforeEnding? (ending text : Text) : Option Text :=
  if ending.isSuffixOf text then some (text.take (text.length - ending.length)) else none

/-- The emoji with a tone of skin, which stands in the place of a mark for the coloured form. -/
def withTone (tone : Char) : Text → Text
  | [] => []
  | first :: rest => first :: tone :: rest.dropWhile (· = '\ufe0f')

/-- **The emoji of a name.** -/
def emoji? (name : Text) : Option Text :=
  emojiEntry? name '=' <|> emojiEntry? name '~' <|>
    skinTones.findSome? fun (ending, tone) => do
      return withTone tone (← emojiEntry? (← beforeEnding? ending name) '~')

/-- A character of a name in lower case: the Latin letters with and without marks, and the Kelvin sign. -/
def smallLetter (c : Char) : Char :=
  if c.isUpper || ('À' ≤ c && c ≤ 'Þ' && c ≠ '×') then Char.ofNat (c.toNat + 0x20)
  else if c = '\u212a' then 'k'
  else c

/-- **The emoji of a short code**, given without its colons. -/
def shortCode? (code : Text) : Option Text :=
  let (name, form) := match beforeEnding? "-text".toList code, beforeEnding? "-emoji".toList code with
    | some name, _ => (name, ['\ufe0e'])
    | none, some name => (name, ['\ufe0f'])
    | none, none => (code, [])
  (emoji? (name.map smallLetter)).map (· ++ form)

/-- A short code behind its first colon: the name, and what follows the second colon.  A name has no
blanks. -/
def codeAt? : Text → Option (Text × Text)
  | [] => none
  | c :: rest =>
    if c = ':' then some ([], rest)
    else if isBlank c then none
    else (codeAt? rest).map fun (code, after) => (c :: code, after)

theorem length_lt_of_codeAt? {text code after : Text} (h : codeAt? text = some (code, after)) :
    after.length < text.length := by
  induction text generalizing code with
  | nil => simp [codeAt?] at h
  | cons c rest ih =>
    rw [codeAt?] at h
    split at h
    · simp_all
    · split at h
      · simp at h
      · obtain ⟨⟨_, _⟩, hf, he⟩ := Option.map_eq_some_iff.1 h
        cases he
        have := ih hf
        simp only [List.length_cons]
        omega

/-- **The text with an emoji in the place of every short code.** -/
def withEmoji : Text → Text
  | [] => []
  | c :: rest =>
    match h : if c = ':' then codeAt? rest else none with
    | some (code, after) =>
      have := length_lt_of_codeAt? (Option.ite_none_right_eq_some.1 h).2
      (shortCode? code).getD (':' :: code ++ [':']) ++ withEmoji after
    | none => c :: withEmoji rest
  termination_by text => text.length
  decreasing_by all_goals (simp only [List.length_cons]; omega)

end QuerySignature.Text
