import ChainApi.Url.Label.Chars

/-!
# ChainApi.Url.Label.Context

The characters that stand in labels only beside certain others.

* `isContextual` — the characters;
* `isInContext` — whether one of them stands where it may.
-/

namespace ChainApi.Url

/-! ## letters that are joined in writing -/

/-- The letters that are joined with those on both sides, in ranges. -/
def joiningRanges : List (Nat × Nat) :=
  [(0x620, 0x620), (0x626, 0x626), (0x628, 0x628), (0x62a, 0x62e), (0x633, 0x647), (0x649, 0x64a),
   (0x66e, 0x66f), (0x679, 0x687), (0x69a, 0x6bf), (0x6c1, 0x6c2), (0x6cc, 0x6cc), (0x6ce, 0x6ce),
   (0x6d0, 0x6d1), (0x6fa, 0x6fc), (0x6ff, 0x6ff), (0x712, 0x714), (0x71a, 0x71d), (0x71f, 0x727),
   (0x729, 0x729), (0x72b, 0x72b), (0x72d, 0x72e), (0x74e, 0x758), (0x75c, 0x76a), (0x76d, 0x770),
   (0x772, 0x772), (0x775, 0x777), (0x77a, 0x77f), (0x7ca, 0x7ea), (0x841, 0x845), (0x848, 0x848),
   (0x84a, 0x853), (0x855, 0x855), (0x860, 0x860), (0x862, 0x865), (0x868, 0x868), (0x886, 0x886),
   (0x889, 0x88d), (0x8a0, 0x8a9), (0x8af, 0x8b0), (0x8b3, 0x8b8), (0x8ba, 0x8c8),
   (0x1820, 0x1878), (0x1887, 0x18a8), (0x18aa, 0x18aa), (0xa840, 0xa871), (0x10ac0, 0x10ac4),
   (0x10ad3, 0x10ad6), (0x10ad8, 0x10adc), (0x10ade, 0x10ae0), (0x10b80, 0x10b80),
   (0x10b82, 0x10b82), (0x10b86, 0x10b88), (0x10b8a, 0x10b8b), (0x10b8d, 0x10b8d),
   (0x10b90, 0x10b90), (0x10d01, 0x10d21), (0x10d23, 0x10d23), (0x10f30, 0x10f32),
   (0x10f34, 0x10f44), (0x10f70, 0x10f73), (0x10f76, 0x10f81), (0x10fb0, 0x10fb0),
   (0x10fb2, 0x10fb3), (0x10fb8, 0x10fb8), (0x10fbb, 0x10fbc), (0x10fbe, 0x10fbf),
   (0x10fc1, 0x10fc1), (0x10fc4, 0x10fc4), (0x1e922, 0x1e943)]

/-- The letters that are joined with the one before them only, in ranges. -/
def finalRanges : List (Nat × Nat) :=
  [(0x622, 0x625), (0x627, 0x627), (0x629, 0x629), (0x62f, 0x632), (0x648, 0x648), (0x671, 0x673),
   (0x688, 0x699), (0x6c0, 0x6c0), (0x6c3, 0x6cb), (0x6cd, 0x6cd), (0x6cf, 0x6cf), (0x6d2, 0x6d5),
   (0x6ee, 0x6ef), (0x710, 0x710), (0x715, 0x719), (0x71e, 0x71e), (0x728, 0x728), (0x72a, 0x72a),
   (0x72c, 0x72c), (0x72f, 0x72f), (0x74d, 0x74d), (0x759, 0x75b), (0x76b, 0x76c), (0x771, 0x771),
   (0x773, 0x774), (0x778, 0x779), (0x840, 0x840), (0x846, 0x847), (0x849, 0x849), (0x854, 0x854),
   (0x856, 0x858), (0x867, 0x867), (0x869, 0x882), (0x88e, 0x88e), (0x8aa, 0x8ac), (0x8ae, 0x8ae),
   (0x8b1, 0x8b2), (0x8b9, 0x8b9), (0x10ac5, 0x10ac5), (0x10ac7, 0x10aca), (0x10ace, 0x10ad2),
   (0x10add, 0x10add), (0x10ae1, 0x10ae1), (0x10ae4, 0x10ae4), (0x10b81, 0x10b81),
   (0x10b83, 0x10b85), (0x10b89, 0x10b89), (0x10b8c, 0x10b8c), (0x10b8e, 0x10b8f),
   (0x10b91, 0x10b91), (0x10d22, 0x10d22), (0x10f33, 0x10f33), (0x10f74, 0x10f75),
   (0x10fb4, 0x10fb6), (0x10fb9, 0x10fba), (0x10fbd, 0x10fbd), (0x10fc2, 0x10fc3)]

/-- The letters that are joined with the one after them only. -/
def initialLetters : List Nat := [0xa872, 0x10acd, 0x10ad7, 0x10d00]

/-- Is a character passed over where letters are joined?  Marks are, with few
exceptions. -/
def isPassed (c : Char) : Bool :=
  (isNonspacing c && c.toNat != 0x1171e) ||
    [0xcbf, 0xcc6, 0x11a07, 0x11a08, 0x11c3f, 0x1e94b].contains c.toNat

/-- Is a letter joined with the one after it? -/
def joinsNext (c : Char) : Bool :=
  Text.inRanges joiningRanges c.toNat || initialLetters.contains c.toNat

/-- Is a letter joined with the one before it? -/
def joinsLast (c : Char) : Bool :=
  Text.inRanges joiningRanges c.toNat || Text.inRanges finalRanges c.toNat

/-! ## scripts -/

/-- The characters of the Greek script in labels, in ranges. -/
def greekRanges : List (Nat × Nat) :=
  [(0x371, 0x3e1), (0x3f3, 0x3fc), (0x1d26, 0x1d2a), (0x1f00, 0x1ff6), (0xab65, 0xab65)]

/-- The characters of the Hebrew script in labels, in ranges. -/
def hebrewRanges : List (Nat × Nat) := [(0x591, 0x5f4), (0xfb1e, 0xfb1e)]

/-- The characters of the scripts of Japan in labels, in ranges. -/
def japaneseRanges : List (Nat × Nat) :=
  [(0x3005, 0x3005), (0x3007, 0x3007), (0x3041, 0x3096), (0x309d, 0x309e), (0x30a1, 0x30fa),
   (0x30fd, 0x30fe), (0x31f0, 0x31ff), (0x3400, 0x9fff), (0xfa0e, 0xfa29), (0x16fe3, 0x16fe3),
   (0x16ff0, 0x16ff1), (0x1aff0, 0x1b000), (0x1b001, 0x1b11f), (0x1b120, 0x1b122),
   (0x1b150, 0x1b152), (0x1b164, 0x1b167), (0x20000, 0x3134a)]

/-! ## contexts -/

/-- The two kinds of digits that stand in no label together. -/
def isArabicDigit (c : Char) : Bool := 0x660 ≤ c.toNat && c.toNat ≤ 0x669

@[inherit_doc isArabicDigit]
def isPersianDigit (c : Char) : Bool := 0x6f0 ≤ c.toNat && c.toNat ≤ 0x6f9

/-- Does a character stand in labels only beside certain others? -/
def isContextual (c : Char) : Bool :=
  ['\u00b7', '\u0375', '\u05f3', '\u05f4', '\u200c', '\u200d', '\u30fb'].contains c ||
    isArabicDigit c || isPersianDigit c

/-- May a character stand between what is before it, the nearest first, and what is
after it? -/
def isInContext (before : List Char) (c : Char) (after : List Char) : Bool :=
  let isKilled := before.head?.any (markClass · == vowelKiller)
  if c == '\u00b7' then before.head? == some 'l' && after.head? == some 'l'
  else if c == '\u0375' then after.head?.any (Text.inRanges greekRanges ·.toNat)
  else if c == '\u05f3' || c == '\u05f4' then before.head?.any (Text.inRanges hebrewRanges ·.toNat)
  else if c == '\u200c' then
    isKilled ||
      ((before.find? (!isPassed ·)).any joinsNext && (after.find? (!isPassed ·)).any joinsLast)
  else if c == '\u200d' then isKilled
  else if c == '\u30fb' then (before ++ after).any (Text.inRanges japaneseRanges ·.toNat)
  else if isArabicDigit c then !(before ++ after).any isPersianDigit
  else if isPersianDigit c then !(before ++ after).any isArabicDigit
  else true

/-- Do all characters of a label stand where they may?  `before` is what stands in front
of them, the nearest first. -/
def isEachInContext (before : List Char) : List Char → Bool
  | [] => true
  | c :: after => isInContext before c after && isEachInContext (c :: before) after

end ChainApi.Url
