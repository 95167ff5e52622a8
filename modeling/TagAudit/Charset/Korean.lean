import TagAudit.Charset.Basic
import TagAudit.Charset.Japanese
import TagAudit.Charset.Table.Korean
import TagAudit.Text.Composition

/-!
# Korean charsets

The set of the Korean standard has only some of the syllables of Hangul. EUC can spell the others
letter by letter; the extension of Windows gives them octets of their own, in order; Johab composes
all of them from bits.
-/

namespace TagAudit.Charset

/-! ## Syllables -/

/-- The syllable of a leading consonant, a vowel and a trailing consonant, each by its number; the
trailing one is zero if there is none. -/
def syllableOf (lead vowel trail : Nat) : CodePoint :=
  CodePoint.ofNat (Text.firstSyllable +
    (lead * Text.vowelCount + vowel) * Text.trailCount + trail)

/-- Numbers from `n` on, `count` of them, without those of an ascending list. -/
def without (n : Nat) : Nat → List Nat → List Nat
  | 0, _ => []
  | count + 1, [] => n :: without (n + 1) count []
  | count + 1, m :: more =>
    if m = n then without (n + 1) count more else n :: without (n + 1) count (m :: more)

/-- The syllables that the standard has, in order. -/
def standardSyllables : List Nat :=
  (ks1001.flatMap fun (_, _, characters) => characters.toList.map Char.toNat).filter fun n =>
    Text.firstSyllable ≤ n && n < Text.firstSyllable + Text.syllableCount

/-- The syllables that the standard does not have, in order. -/
def otherSyllables : Array Nat :=
  (without Text.firstSyllable Text.syllableCount standardSyllables).toArray

/-! ## EUC -/

/-- The character of two octets in EUC. -/
def eucKoreanPair? (lead trail : Nat) : Option Text :=
  (eucCell? lead trail).bind fun (row, cell) => single? (ks1001.find? row cell)

/-- The octet in front of every letter of a syllable that is spelled. -/
def letterMark : Nat := 0xA4

/-- The octet that stands for no letter. -/
def fillerOctet : Nat := 0xD4

/-- The letters from ㄱ to ㅎ as leading consonants, by number. -/
def leadNumbers : List (Option Nat) := [
  some 0, some 1, none, some 2, none, none, some 3, some 4, some 5, none, none, none, none, none,
  none, none, some 6, some 7, some 8, none, some 9, some 10, some 11, some 12, some 13, some 14,
  some 15, some 16, some 17, some 18]

/-- The letters from ㄱ to ㅎ as trailing consonants, by number. -/
def trailNumbers : List (Option Nat) := [
  some 1, some 2, some 3, some 4, some 5, some 6, some 7, none, some 8, some 9, some 10, some 11,
  some 12, some 13, some 14, some 15, some 16, some 17, none, some 18, some 19, some 20, some 21,
  some 22, none, some 23, some 24, some 25, some 26, some 27]

/-- The syllable that three letters spell. -/
def spelledSyllable? (lead vowel trail : Nat) : Option CodePoint := do
  let first ← (leadNumbers[lead - 0xA1]?).join
  let last ← if trail = fillerOctet then some 0 else (trailNumbers[trail - 0xA1]?).join
  if lead < 0xA1 || vowel < 0xBF || 0xD3 < vowel || trail < 0xA1 then none
  else some (syllableOf first (vowel - 0xBF) last)

/-- The front of octets in EUC. Behind a mark that stands for no letter, three letters spell a
syllable. -/
def eucKoreanFront (octet : Nat) (rest : Octets) : Front :=
  let isMark (o : UInt8) : Bool := o.toNat = letterMark
  match rest with
  | filler :: more =>
    if octet = letterMark && filler.toNat = fillerOctet then
      match more with
      | a :: lead :: b :: vowel :: c :: trail :: _ =>
        if isMark a && isMark b && isMark c then
          match spelledSyllable? lead.toNat vowel.toNat trail.toNat with
          | some syllable => .text [syllable] 7
          | none => .invalid 0
        else .invalid 0
      | _ => .incomplete
    else pairFront ascii? isHigh eucKoreanPair? octet rest
  | [] => pairFront ascii? isHigh eucKoreanPair? octet rest

/-- EUC for Korean. -/
def eucKorean : Charset := ofFront eucKoreanFront

/-! ## Windows -/

/-- The place of an octet among the two ranges of letters of ASCII and the octets from 129 on. -/
def extensionPlace? (trail : Nat) : Option Nat :=
  if 0x41 ≤ trail && trail ≤ 0x5A then some (trail - 0x41)
  else if 0x61 ≤ trail && trail ≤ 0x7A then some (trail - 0x61 + 26)
  else if 0x81 ≤ trail && trail ≤ 0xFE then some (trail - 0x81 + 52)
  else none

/-- How many places a row of the extension has before the rows of the standard begin. -/
def longRow : Nat := 178

/-- How many places a row of the extension has beside the rows of the standard. -/
def shortRow : Nat := 84

/-- The character of two octets in the extension. -/
def extendedKoreanPair? (lead trail : Nat) : Option Text :=
  (eucKoreanPair? lead trail).or ((extensionPlace? trail).bind fun place =>
    let number? : Option Nat :=
      if 0x81 ≤ lead && lead ≤ 0xA0 then some ((lead - 0x81) * longRow + place)
      else if 0xA1 ≤ lead && place < shortRow then
        some (32 * longRow + (lead - 0xA1) * shortRow + place)
      else none
    single? ((number?.bind fun n => otherSyllables[n]?).map CodePoint.ofNat))

/-- The extension of EUC on Windows. -/
def windowsKorean : Charset := ofPairs extendedKoreanPair?

/-! ## Johab -/

/-- What five bits stand for. -/
inductive JohabPart where
  | filler
  | letter (number : Nat)

/-- The leading consonant of five bits. -/
def johabLead? (n : Nat) : Option JohabPart :=
  if n = 1 then some .filler else if 2 ≤ n && n ≤ 20 then some (.letter (n - 2)) else none

/-- The vowel of five bits. -/
def johabVowel? (n : Nat) : Option JohabPart :=
  if n = 2 then some .filler
  else if n < 3 || n % 8 < 2 || 29 < n then none
  else some (.letter (n / 8 * 6 + n % 8 - 3))

/-- The trailing consonant of five bits. -/
def johabTrail? (n : Nat) : Option JohabPart :=
  if n = 1 then some .filler
  else if 2 ≤ n && n ≤ 17 then some (.letter (n - 1))
  else if 19 ≤ n && n ≤ 29 then some (.letter (n - 2))
  else none

/-- The letter alone that a number in one of the lists of consonants stands for. -/
def aloneLetter (numbers : List (Option Nat)) (n : Nat) : CodePoint :=
  CodePoint.ofNat (0x3131 + numbers.findIdx fun m => m = some n)

/-- The syllable or the letter of 15 bits. -/
def johabSyllable? (bits : Nat) : Option CodePoint := do
  let lead ← johabLead? (bits / 0x400 % 32)
  let vowel ← johabVowel? (bits / 0x20 % 32)
  let trail ← johabTrail? (bits % 32)
  match lead, vowel, trail with
  | .filler, .filler, .filler => some (CodePoint.ofNat 0x3000)
  | .filler, .filler, .letter t => some (aloneLetter trailNumbers t)
  | .filler, .letter v, .filler => some (CodePoint.ofNat (0x314F + v))
  | .filler, .letter _, .letter _ => none
  | .letter l, .filler, .filler => some (aloneLetter leadNumbers l)
  | .letter _, .filler, .letter _ => none
  | .letter l, .letter v, .filler => some (syllableOf l v 0)
  | .letter l, .letter v, .letter t => some (syllableOf l v t)

/-- The character of the standard that two octets stand for in Johab. -/
def johabStandard? (lead trail : Nat) : Option CodePoint :=
  if lead < 0xD9 || lead = 0xDF || 0xF9 < lead || trail < 0x31 ||
      (0x80 ≤ trail && trail < 0x91) || trail % 0x80 = 0x7F ||
      (lead = 0xDA && 0xA1 ≤ trail && trail ≤ 0xD3) then
    none
  else
    let half := if lead < 0xE0 then 2 * (lead - 0xD9) else 2 * lead - 0x197
    let place := if trail < 0x91 then trail - 0x31 else trail - 0x43
    ks1001.find? (half + place / cellCount + 1) (place % cellCount + 1)

/-- The character of two octets in Johab. -/
def johabPair? (lead trail : Nat) : Option Text :=
  single? (if lead < 0xD8 then johabSyllable? (lead % 0x80 * 0x100 + trail)
    else johabStandard? lead trail)

/-- Johab. -/
def johab : Charset := ofPairs johabPair?

end TagAudit.Charset
