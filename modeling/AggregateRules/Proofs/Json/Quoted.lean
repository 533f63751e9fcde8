import AggregateRules.Json.Quoted
import AggregateRules.Json.Reader.Text

/-!
# Quoted strings are read back

Whatever stands in a string, the reader finds exactly this string between the
quotes and goes on behind the closing one. So a quoted string can be told from
all that follows it.
-/

namespace AggregateRules.Json

open Reader

theorem hexValue?_hexDigit : ∀ value < 16,
    hexValue? (hexDigit value) = some value := by
  decide

theorem stringBody_closing (rest : List Char) :
    stringBody ('"' :: rest) = .ok ([], rest) := by
  rw [stringBody]
  rfl

theorem stringBody_backslash {character : Char} {text behind : List Char}
    (read : escapedCharacter text = .ok (character, behind)) :
    stringBody ('\\' :: text) =
      (stringBody behind).map fun (characters, after) =>
        (character :: characters, after) := by
  rw [stringBody]
  split
  · next isQuote => simp at isQuote
  · split
    · split
      · next fault failed =>
          rw [failed] at read
          cases read
      · next escaped after succeeded =>
          rw [succeeded] at read
          cases read
          cases stringBody behind <;> rfl
    · next isOther => simp at isOther

theorem stringBody_plain {character : Char} {text : List Char}
    (notQuote : character ≠ '"') (notBackslash : character ≠ '\\')
    (printed : ¬ character.toNat < 0x20) :
    stringBody (character :: text) =
      (stringBody text).map fun (characters, after) =>
        (character :: characters, after) := by
  rw [stringBody, if_neg notQuote, if_neg notBackslash, if_neg printed]
  cases stringBody text <;> rfl

theorem unicodeEscape_control {character : Char} (text : List Char)
    (control : character.toNat < 0x20) :
    unicodeEscape ('0' :: '0' :: hexDigit (character.toNat / 16) ::
        hexDigit (character.toNat % 16) :: text) =
      .ok (character, text) := by
  have high := hexValue?_hexDigit (character.toNat / 16) (by omega)
  have low := hexValue?_hexDigit (character.toNat % 16) (by omega)
  have zero : hexValue? '0' = some 0 := by decide
  have unit : character.toNat / 16 * 16 + character.toNat % 16 =
      character.toNat := by omega
  have noTrailing : isTrailingSurrogate character.toNat = false := by
    simp [isTrailingSurrogate]
    omega
  have noLeading : isLeadingSurrogate character.toNat = false := by
    simp [isLeadingSurrogate]
    omega
  simp [unicodeEscape, codeUnit, high, low, zero, unit, noTrailing, noLeading,
    Char.ofNat_toNat]

theorem stringBody_escape (character : Char) (text : List Char) :
    stringBody (escape character ++ text) =
      (stringBody text).map fun (characters, after) =>
        (character :: characters, after) := by
  unfold escape
  iterate 7
    split
    · next isShort =>
        subst isShort
        exact stringBody_backslash rfl
  split
  · next control =>
      apply stringBody_backslash
      exact unicodeEscape_control text control
  · next notQuote notBackslash _ _ _ _ _ printed =>
      exact stringBody_plain notQuote notBackslash printed

theorem stringBody_flatMap_escape (characters rest : List Char) :
    stringBody (characters.flatMap escape ++ '"' :: rest) =
      .ok (characters, rest) := by
  induction characters with
  | nil => exact stringBody_closing rest
  | cons character others ih =>
      rw [List.flatMap_cons, List.append_assoc, stringBody_escape, ih]
      rfl

/-- The string between quotes at the beginning of a text, and the text behind
it. -/
def quoted? : List Char → Option (String × List Char)
  | '"' :: body =>
      match stringBody body with
      | .ok (characters, rest) => some (String.ofList characters, rest)
      | .error _ => none
  | _ => none

/-- Behind the closing quote less is left to read. -/
theorem length_of_stringBody {text characters rest : List Char}
    (read : stringBody text = .ok (characters, rest)) :
    rest.length < text.length := by
  fun_induction stringBody text generalizing characters with
  | case1 | case3 | case4 | case6 | case7 => cases read
  | case2 =>
      cases read
      exact Nat.lt_succ_self _
  | case5 _ _ _ escaped _ _ inner _ ih =>
      cases read
      have shorter := ih inner
      have escapeShorter := length_of_escapedCharacter escaped
      simp only [List.length_cons]
      omega
  | case8 _ _ _ _ _ _ _ inner ih =>
      cases read
      exact Nat.lt_succ_of_lt (ih inner)

theorem length_of_quoted? {text rest : List Char} {value : String}
    (read : quoted? text = some (value, rest)) : rest.length < text.length := by
  unfold quoted? at read
  split at read
  · split at read
    · next inner =>
        cases read
        exact Nat.lt_succ_of_lt (length_of_stringBody inner)
    · cases read
  · cases read

theorem quote_append (text : String) (rest : List Char) :
    quote text ++ rest =
      '"' :: (text.toList.flatMap escape ++ '"' :: rest) := by
  simp [quote]

theorem quoted?_quote (text : String) (rest : List Char) :
    quoted? (quote text ++ rest) = some (text, rest) := by
  rw [quote_append]
  simp [quoted?, stringBody_flatMap_escape]

theorem newline_notMem_escape (character : Char) :
    '\n' ∉ escape character := by
  have digitApart : ∀ value < 16, '\n' ≠ hexDigit value := by decide
  unfold escape
  iterate 7
    split
    · decide
  split
  · have high := digitApart (character.toNat / 16) (by omega)
    have low := digitApart (character.toNat % 16) (by omega)
    simp [high, low]
  · next _ _ _ _ notNewline _ _ _ =>
      simpa [eq_comm] using notNewline

theorem newline_notMem_quote (text : String) : '\n' ∉ quote text := by
  simp [quote, newline_notMem_escape]

end AggregateRules.Json
