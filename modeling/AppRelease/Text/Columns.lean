import AppRelease.Text.Emoji
import AppRelease.Text.Ligature
import AppRelease.Text.Width

/-!
# How wide a text is

Program: `width` adds the columns of the characters up from the right, because what follows a
character may change its columns. `Start` says what the text to the right begins with, as far as
that matters, and `widthBefore` how many columns a character adds before it. A character may also
take columns back: an emoji of several joined ones has two columns, and of two letters that are
drawn as one the second has none.
-/

namespace AppRelease.Text

/-- What the text after a character begins with, as far as it changes the columns of that
character. -/
inductive Start where
  | plain
  | lineFeed
  | tone
  | flagLetter (several : Bool)
  | emoji
  | joined
  | joinedKeycap
  | joinedFlagLetter
  | joinedFlags (half : Bool)
  | joinedTags (letters digits : Nat)
  | alef
  | lamed (joined : Bool)
  | ya (joined : Bool)
  | yaWithVowel
  | tifinagh (joined : Bool)
  | tifinaghPair
  | lisuTone
  | orkhonI (joined : Bool)
  | khmer
  | kiratVowel (double : Bool)
  deriving DecidableEq, Repr

/-- What a selector asks the character before it for. -/
inductive Selector where
  | colour
  | plain
  | wide
  deriving DecidableEq, Repr

/-- The start of a text, and a selector in front of it. -/
structure Ahead where
  start : Start
  selector : Option Selector := none
  deriving DecidableEq, Repr

/-- Whether a start is a letter that may be drawn as one with the letter before it. -/
def Start.isLetter : Start → Bool
  | .alef | .lamed _ | .ya _ | .yaWithVowel | .tifinagh _ | .tifinaghPair | .lisuTone | .orkhonI _
  | .khmer => true
  | _ => false

/-- Whether an emoji before the start is drawn as one with it. -/
def Start.isJoined : Start → Bool
  | .joined | .joinedKeycap => true
  | _ => false

/-- A letter with a joiner before it. An alef does not take one. -/
def Start.withJoiner? : Start → Option Start
  | .lamed _ => some (.lamed true)
  | .ya _ => some (.ya true)
  | .tifinagh _ => some (.tifinagh true)
  | .orkhonI _ => some (.orkhonI true)
  | .alef => none
  | s => if s.isLetter then some s else none

/-- A start with a selector in front. Of what is no letter, only a joiner is seen through the
selector that asks for colour. -/
def Start.select (s : Start) (selector : Selector) : Ahead :=
  if s.isLetter || (selector == .colour && s.isJoined) then ⟨s, some selector⟩
  else ⟨.plain, some selector⟩

/-- What a character is to the one before it when nothing that follows matters. -/
def startOf (c : Char) : Start :=
  if c = '\n' then .lineFeed
  else if isAlef c then .alef
  else if c = '\u05DC' then .lamed false
  else if isSubscriptKhmer c then .khmer
  else if c = '\u1A10' then .ya false
  else if isTifinagh c then .tifinagh false
  else if isSecondLisuTone c then .lisuTone
  else if c = Char.ofNat 0x10C03 then .orkhonI false
  else if c = Char.ofNat 0x16D67 then .kiratVowel false
  else if c = Char.ofNat 0x16D68 then .kiratVowel true
  else if isFlagLetter c then .flagLetter false
  else if isTone c then .tone
  else if isColourEmoji c then .emoji
  else .plain

/-- The columns a character adds before a start that it makes one whole with, and the start it
gives. -/
def joinedTo (c : Char) : Start → Option (Int × Start)
  | .lineFeed => if c = '\r' then some (0, .plain) else none
  | .alef =>
    if isLam c then some (0, .plain)
    else if charWidth c = 0 && !inRanges c.toNat partingRanges then some (0, .alef)
    else none
  | .lamed true => if c = '\u05D0' then some (0, .plain) else none
  | .khmer => if c = khmerSubscript then some (-1, .plain) else none
  | .ya true => if c = '\u1A17' then some (0, .yaWithVowel) else none
  | .yaWithVowel => if c = '\u1A15' then some (0, .plain) else none
  | .tifinagh joined =>
    if c = tifinaghJoiner then some (1, .tifinaghPair)
    else if joined && isTifinagh c then some (0, .plain)
    else none
  | .tifinaghPair => if isTifinagh c then some (-1, .plain) else none
  | .lisuTone => if isFirstLisuTone c then some (0, .plain) else none
  | .orkhonI true => if c = Char.ofNat 0x10C32 then some (0, .plain) else none
  | .kiratVowel double =>
    if c = Char.ofNat 0x16D63 then some (0, .plain)
    else if double then none
    else if c = Char.ofNat 0x16D67 then some (0, .kiratVowel true)
    else if c = Char.ofNat 0x16D68 then some (1, .kiratVowel false)
    else if c = Char.ofNat 0x16D69 then some (0, .plain)
    else none
  | .tone =>
    if takesTone c then some (0, .emoji) else if c = joiner then some (0, .joined) else none
  | .flagLetter several =>
    if isFlagLetter c then some (1, .flagLetter true)
    else if several && c = joiner then some (0, .joined)
    else none
  | .emoji => if c = joiner then some (0, .joined) else none
  | .joined =>
    if c = keycap then some (0, .joinedKeycap)
    else if isFlagLetter c then some (1, .joinedFlagLetter)
    else if isTone c then some (0, .tone)
    else if c = lastTag then some (0, .joinedTags 0 0)
    else if isColourEmoji c then some (0, .emoji)
    else none
  | .joinedFlagLetter => if isFlagLetter c then some (-1, .joinedFlags false) else none
  | .joinedFlags half =>
    if isFlagLetter c then some (if half then -1 else 3, .joinedFlags (!half))
    else if c = joiner then some (0, .joined)
    else none
  | .joinedTags letters digits =>
    if isTagLetter c && digits = 0 && letters < 6 then some (0, .joinedTags (letters + 1) 0)
    else if isTagDigit c && letters ≤ 4 && digits < 3 then
      some (0, .joinedTags letters (digits + 1))
    else if c = blackFlag && (digits = 3 || (digits = 0 && 3 ≤ letters)) then some (0, .emoji)
    else none
  | _ => none

/-- The columns a character adds before a start, and what the start becomes. -/
def widthAt (c : Char) (s : Start) : Int × Ahead :=
  if c = colourSelector then (0, s.select .colour)
  else if c = plainSelector then (0, s.select .plain)
  else if c = wideSelector then (0, s.select .wide)
  else if isIgnoredMark c && s.withJoiner?.isSome then (0, ⟨s, none⟩)
  else match if c = joiner then s.withJoiner? else none with
    | some t => (0, ⟨t, none⟩)
    | none =>
      match joinedTo c s with
      | some (w, t) => (w, ⟨t, none⟩)
      | none => (charWidth c, ⟨startOf c, none⟩)

/-- The columns a character adds before what follows, and what is ahead of the character before it.
A selector that the character does not heed is passed over. -/
def widthBefore (c : Char) (ahead : Ahead) : Int × Ahead :=
  match ahead.selector with
  | none => widthAt c ahead.start
  | some selector =>
    let heeded : Option (Int × Start) :=
      match selector with
      | .colour =>
        if takesColour c then some (if ahead.start.isJoined then 0 else 2, .emoji) else none
      | .plain => if takesPlain c then some (1, .plain) else none
      | .wide => if isCurlyQuote c then some (2, .plain) else none
    match heeded with
    | some (w, t) => (w, ⟨t, none⟩)
    | none => widthAt c (if ahead.start.isLetter then ahead.start else .plain)

/-- The columns a text takes and what is ahead of a character before it. -/
def widthAhead (cs : List Char) : Int × Ahead :=
  cs.foldr (fun c (w, ahead) => let (v, next) := widthBefore c ahead; (v + w, next))
    (0, ⟨.plain, none⟩)

/-- The columns a text takes. -/
def width (cs : List Char) : Nat := (widthAhead cs).1.toNat

end AppRelease.Text
