import Embedder.Text.Emoji
import Embedder.Text.Wide

/-!
# Columns of a text

How many columns a text takes on a screen. A wide character takes two, a mark on another character and an
invisible character none, and every other character one. Some sequences take less than their characters
together: emoji that are joined into one picture, and letters that are written as one sign.

The text is read from its end. What stands to the right of a character is carried along as a `Follow`, and
`charWidth` says how many columns one more character adds before it.
-/

namespace Embedder.Text

/-! ## 1. Single characters -/

/-- Does a character take no columns by itself? -/
def isHidden (c : Char) : Bool :=
  (isExtending c && c.toNat != 0x2D7F) || inRanges hiddenRanges c.toNat

/-- The columns of a character that stands alone. -/
def loneWidth (c : Char) : Nat :=
  if isHidden c then 0
  else if c.toNat == 0x17D8 then 3
  else if inRanges wideRanges c.toNat || c.toNat == 0x17A4 then 2
  else 1

/-- The ranges of invisible characters that keep the letters beside them from joining. -/
def separatingRanges : List (Nat × Nat) :=
  [(0x605, 0x605), (0x890, 0x891), (0x8E2, 0x8E2), (0x9BE, 0x9BE), (0x9D7, 0x9D7), (0xB3E, 0xB3E),
    (0xB57, 0xB57), (0xBBE, 0xBBE), (0xBD7, 0xBD7), (0xCC0, 0xCC0), (0xCC2, 0xCC2), (0xCC7, 0xCC8),
    (0xCCA, 0xCCB), (0xCD5, 0xCD6), (0xD3E, 0xD3E), (0xD4E, 0xD4E), (0xD57, 0xD57), (0xDCF, 0xDCF),
    (0xDDF, 0xDDF), (0x1160, 0x11FF), (0x1715, 0x1715), (0x1734, 0x1734), (0x180E, 0x180E),
    (0x1B35, 0x1B35), (0x1B3B, 0x1B3B), (0x1B3D, 0x1B3D), (0x1B43, 0x1B44), (0x1BAA, 0x1BAA),
    (0x1BF2, 0x1BF3), (0x200C, 0x200D), (0x2065, 0x2069), (0x302E, 0x302F), (0x3164, 0x3164),
    (0xA8FA, 0xA8FA), (0xA953, 0xA953), (0xA9C0, 0xA9C0), (0xD7B0, 0xD7C6), (0xD7CB, 0xD7FB),
    (0xFFA0, 0xFFA0), (0xFFF0, 0xFFF8), (0x111C0, 0x111C0), (0x111C2, 0x111C3), (0x11235, 0x11235),
    (0x1133E, 0x1133E), (0x1134D, 0x1134D), (0x11357, 0x11357), (0x113B8, 0x113B8), (0x113C2, 0x113C2),
    (0x113C5, 0x113C5), (0x113C7, 0x113C9), (0x113CF, 0x113CF), (0x113D1, 0x113D1), (0x114B0, 0x114B0),
    (0x114BD, 0x114BD), (0x115AF, 0x115AF), (0x116B6, 0x116B6), (0x11930, 0x11930), (0x1193D, 0x1193D),
    (0x1193F, 0x1193F), (0x11941, 0x11941), (0x11A84, 0x11A89), (0x11D46, 0x11D46), (0x11F02, 0x11F02),
    (0x11F41, 0x11F41), (0x16FF0, 0x16FF1), (0x1D165, 0x1D166), (0x1D16D, 0x1D172), (0xE0000, 0xE0000),
    (0xE0002, 0xE001F), (0xE0080, 0xE00FF), (0xE01F0, 0xE0FFF)]

/-- Is a character no hindrance to the joining of Arabic letters? -/
def isTransparent (c : Char) : Bool := isHidden c && !inRanges separatingRanges c.toNat

/-- Is a character skipped when letters are written as one sign? -/
def isSkipped (c : Char) : Bool :=
  inRanges [(0x34F, 0x34F), (0x17B4, 0x17B5), (0x180B, 0x180D), (0x180F, 0x180F), (0x200D, 0x200D),
    (0xFE00, 0xFE0F), (0xE0100, 0xE01EF)] c.toNat

/-- Is a character a letter of a flag? -/
def isFlagLetter (c : Char) : Bool := 0x1F1E6 ≤ c.toNat && c.toNat ≤ 0x1F1FF

/-- Is a character a skin tone? -/
def isSkinTone (c : Char) : Bool := 0x1F3FB ≤ c.toNat && c.toNat ≤ 0x1F3FF

/-- Is a character a consonant of Tifinagh? -/
def isTifinagh (c : Char) : Bool :=
  (0x2D31 ≤ c.toNat && c.toNat ≤ 0x2D65) || c.toNat == 0x2D6F

/-- Is a character a letter that a lam before it is joined with? -/
def isAlef (c : Char) : Bool :=
  inRanges [(0x622, 0x623), (0x625, 0x625), (0x627, 0x627), (0x671, 0x673), (0x675, 0x675),
    (0x773, 0x774), (0x870, 0x882)] c.toNat

/-- Is a character a lam? -/
def isLam (c : Char) : Bool :=
  inRanges [(0x644, 0x644), (0x6B5, 0x6B8), (0x76A, 0x76A), (0x8A6, 0x8A6), (0x8C7, 0x8C7)] c.toNat

/-- Is a character a Khmer letter that can be written below another one? -/
def isCoengLetter (c : Char) : Bool :=
  inRanges [(0x1780, 0x1782), (0x1784, 0x1787), (0x1789, 0x178C), (0x178E, 0x1793), (0x1795, 0x1798),
    (0x179B, 0x179D), (0x17A0, 0x17A0), (0x17A2, 0x17A2), (0x17A7, 0x17A7), (0x17AB, 0x17AC),
    (0x17AF, 0x17AF)] c.toNat

/-! ## 2. What follows a character -/

/-- What stands to the right of a character, as far as it matters. Where a joiner decides, the flag says
    whether it has been met. -/
inductive Follow where
  /-- Nothing that matters. -/
  | plain
  | lineFeed
  | skinTone
  /-- Letters of flags; are they several? -/
  | flag (several : Bool)
  | emoji
  /-- An emoji behind a joiner; does a keycap stand between? -/
  | joined (keycap : Bool)
  /-- The letters of flags that stand before a joiner and an emoji: one, or more, and then an even
      number of them or not. -/
  | joinedFlag
  | joinedFlags (even : Bool)
  /-- A sequence of tags before a joiner and an emoji: how many letters, and then digits, from its end. -/
  | tagLetters (n : Nat)
  | tagDigits (n : Nat)
  | kiratE
  | kiratAi
  | alef
  | lamed (joiner : Bool)
  | ya (joiner : Bool)
  | vowelYa
  | tifinagh (joiner : Bool)
  | tifinaghMark
  | lisuTone
  | orkhon (joiner : Bool)
  | coengLetter
  deriving DecidableEq, Repr, Inhabited

/-- Is it a part of a sign that goes on over skipped characters? -/
def Follow.isPart : Follow → Bool
  | .lamed _ | .ya _ | .vowelYa | .tifinagh _ | .tifinaghMark | .lisuTone | .orkhon _ | .coengLetter => true
  | _ => false

/-- A joiner stands in front. -/
def Follow.join : Follow → Follow
  | .lamed _ => .lamed true
  | .ya _ => .ya true
  | .tifinagh _ => .tifinagh true
  | .orkhon _ => .orkhon true
  | f => f

/-- A selector, which says how the character before it is shown. -/
inductive Selector where
  | none
  | emoji
  | text
  | wideQuote
  deriving DecidableEq, Repr, Inhabited

/-- The selector that a character is. -/
def Selector.ofChar? (c : Char) : Option Selector :=
  if c.toNat == 0xFE0F then some .emoji
  else if c.toNat == 0xFE0E then some .text
  else if c.toNat == 0xFE01 then some .wideQuote
  else .none

/-- What a selector leaves of what follows it. -/
def Selector.behind (s : Selector) (f : Follow) : Follow :=
  match s, f with
  | .emoji, .joined k => .joined k
  | _, f => if f.isPart || f == .alef then f else .plain

/-- What a character is to the ones before it. -/
def Follow.ofChar (c : Char) : Follow :=
  let n := c.toNat
  if n < 0x5DC then .plain
  else if n == 0x5DC then .lamed false
  else if isAlef c then .alef
  else if isCoengLetter c then .coengLetter
  else if n == 0x1A10 then .ya false
  else if isTifinagh c then .tifinagh false
  else if n == 0xA4FC || n == 0xA4FD then .lisuTone
  else if n == 0x10C03 then .orkhon false
  else if n == 0x16D67 then .kiratE
  else if n == 0x16D68 then .kiratAi
  else if isFlagLetter c then .flag false
  else if isSkinTone c then .skinTone
  else if isEmoji c then .emoji
  else .plain

/-! ## 3. One more character -/

/-- What a character of a sequence adds before the rest of the sequence; nothing if it does not
    continue one. -/
def sequenceWidth (c : Char) (f : Follow) : Option (Int × Follow) :=
  let n := c.toNat
  let isLetterTag := 0xE0061 ≤ n && n ≤ 0xE007A
  let isDigitTag := 0xE0030 ≤ n && n ≤ 0xE0039
  match f with
  | .alef => if isLam c then some (0, .plain) else if isTransparent c then some (0, .alef) else none
  | .lamed true => if n == 0x5D0 then some (0, .plain) else none
  | .coengLetter => if n == 0x17D2 then some (-1, .plain) else none
  | .ya true => if n == 0x1A17 then some (0, .vowelYa) else none
  | .vowelYa => if n == 0x1A15 then some (0, .plain) else none
  | .tifinagh joiner =>
    if n == 0x2D7F then some (1, .tifinaghMark)
    else if joiner && isTifinagh c then some (0, .plain)
    else none
  | .tifinaghMark => if isTifinagh c then some (-1, .plain) else none
  | .lisuTone => if 0xA4F8 ≤ n && n ≤ 0xA4FB then some (0, .plain) else none
  | .orkhon true => if n == 0x10C32 then some (0, .plain) else none
  | .kiratE =>
    if n == 0x16D63 || n == 0x16D69 then some (0, .plain)
    else if n == 0x16D67 then some (0, .kiratAi)
    else if n == 0x16D68 then some (1, .kiratE)
    else none
  | .kiratAi => if n == 0x16D63 then some (0, .plain) else none
  | .skinTone =>
    if isModifierBase c then some (0, .emoji)
    else if n == 0x200D then some (0, .joined false)
    else none
  | .flag several =>
    if isFlagLetter c then some (1, .flag true)
    else if several && n == 0x200D then some (0, .joined false)
    else none
  | .emoji => if n == 0x200D then some (0, .joined false) else none
  | .joined false =>
    if n == 0x20E3 then some (0, .joined true)
    else if isFlagLetter c then some (1, .joinedFlag)
    else if isSkinTone c then some (0, .skinTone)
    else if n == 0xE007F then some (0, .tagLetters 0)
    else if isEmoji c then some (0, .emoji)
    else none
  | .joinedFlag => if isFlagLetter c then some (-1, .joinedFlags true) else none
  | .joinedFlags even =>
    if isFlagLetter c then some (if even then (3, .joinedFlags false) else (-1, .joinedFlags true))
    else if n == 0x200D then some (0, .joined false)
    else none
  | .tagLetters k =>
    if isLetterTag && k < 6 then some (0, .tagLetters (k + 1))
    else if isDigitTag && k < 5 then some (0, .tagDigits 1)
    else if n == 0x1F3F4 && 3 ≤ k then some (0, .emoji)
    else none
  | .tagDigits k =>
    if isDigitTag && k < 3 then some (0, .tagDigits (k + 1))
    else if n == 0x1F3F4 && k == 3 then some (0, .emoji)
    else none
  | _ => none

/-- What a character adds before what follows, selectors aside. -/
def plainWidth (c : Char) (f : Follow) : Int × Follow :=
  if c.toNat ≤ 0xA0 then
    if c == '\n' then (1, .lineFeed)
    else if c == '\r' && f == .lineFeed then (0, .plain)
    else (1, .plain)
  else if f.isPart && isSkipped c then (0, if c.toNat == 0x200D then f.join else f)
  else (sequenceWidth c f).getD (loneWidth c, .ofChar c)

/-- What a character adds to the columns, and what it leaves to the characters before it. -/
def charWidth (c : Char) (s : Selector) (f : Follow) : Int × Selector × Follow :=
  let other :=
    match Selector.ofChar? c with
    | some t => (0, t, t.behind f)
    | none =>
      let (w, g) := plainWidth c f
      (w, .none, g)
  match s with
  | .emoji =>
    if takesEmojiSelector c then
      ((match f with
        | .joined _ => 0
        | _ => 2), .none, .emoji)
    else other
  | .text => if takesTextSelector c then (1, .none, .plain) else other
  | .wideQuote =>
    let n := c.toNat
    if n == 0x2018 || n == 0x2019 || n == 0x201C || n == 0x201D then (2, .none, .plain) else other
  | .none => other

/-- The columns that a text takes. -/
def width (cs : List Char) : Nat :=
  (cs.foldr (fun c a =>
    let (w, s, f) := charWidth c a.2.1 a.2.2
    (a.1 + w, s, f)) ((0 : Int), Selector.none, Follow.plain)).1.toNat

end Embedder.Text
