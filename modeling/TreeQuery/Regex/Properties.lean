/-
  TreeQuery.Regex.Properties

  Properties of characters that an expression can name: general categories, scripts
  and some properties with two values.
-/

import TreeQuery.Regex.Categories
import TreeQuery.Regex.Scripts
import TreeQuery.Text.Letters

namespace TreeQuery.Regex

/-- Code points with the property `Emoji`. -/
def emojiRanges : CharRanges :=
  [(0x23, 0x23), (0x2A, 0x2A), (0x30, 0x39), (0xA9, 0xA9), (0xAE, 0xAE), (0x203C, 0x203C),
   (0x2049, 0x2049), (0x2122, 0x2122), (0x2139, 0x2139), (0x2194, 0x2199), (0x21A9, 0x21AA),
   (0x231A, 0x231B), (0x2328, 0x2328), (0x23CF, 0x23CF), (0x23E9, 0x23F3), (0x23F8, 0x23FA),
   (0x24C2, 0x24C2), (0x25AA, 0x25AB), (0x25B6, 0x25B6), (0x25C0, 0x25C0), (0x25FB, 0x25FE),
   (0x2600, 0x2604), (0x260E, 0x260E), (0x2611, 0x2611), (0x2614, 0x2615), (0x2618, 0x2618),
   (0x261D, 0x261D), (0x2620, 0x2620), (0x2622, 0x2623), (0x2626, 0x2626), (0x262A, 0x262A),
   (0x262E, 0x262F), (0x2638, 0x263A), (0x2640, 0x2640), (0x2642, 0x2642), (0x2648, 0x2653),
   (0x265F, 0x2660), (0x2663, 0x2663), (0x2665, 0x2666), (0x2668, 0x2668), (0x267B, 0x267B),
   (0x267E, 0x267F), (0x2692, 0x2697), (0x2699, 0x2699), (0x269B, 0x269C), (0x26A0, 0x26A1),
   (0x26A7, 0x26A7), (0x26AA, 0x26AB), (0x26B0, 0x26B1), (0x26BD, 0x26BE), (0x26C4, 0x26C5),
   (0x26C8, 0x26C8), (0x26CE, 0x26CF), (0x26D1, 0x26D1), (0x26D3, 0x26D4), (0x26E9, 0x26EA),
   (0x26F0, 0x26F5), (0x26F7, 0x26FA), (0x26FD, 0x26FD), (0x2702, 0x2702), (0x2705, 0x2705),
   (0x2708, 0x270D), (0x270F, 0x270F), (0x2712, 0x2712), (0x2714, 0x2714), (0x2716, 0x2716),
   (0x271D, 0x271D), (0x2721, 0x2721), (0x2728, 0x2728), (0x2733, 0x2734), (0x2744, 0x2744),
   (0x2747, 0x2747), (0x274C, 0x274C), (0x274E, 0x274E), (0x2753, 0x2755), (0x2757, 0x2757),
   (0x2763, 0x2764), (0x2795, 0x2797), (0x27A1, 0x27A1), (0x27B0, 0x27B0), (0x27BF, 0x27BF),
   (0x2934, 0x2935), (0x2B05, 0x2B07), (0x2B1B, 0x2B1C), (0x2B50, 0x2B50), (0x2B55, 0x2B55),
   (0x3030, 0x3030), (0x303D, 0x303D), (0x3297, 0x3297), (0x3299, 0x3299), (0x1F004, 0x1F004),
   (0x1F0CF, 0x1F0CF), (0x1F170, 0x1F171), (0x1F17E, 0x1F17F), (0x1F18E, 0x1F18E),
   (0x1F191, 0x1F19A), (0x1F1E6, 0x1F1FF), (0x1F201, 0x1F202), (0x1F21A, 0x1F21A),
   (0x1F22F, 0x1F22F), (0x1F232, 0x1F23A), (0x1F250, 0x1F251), (0x1F300, 0x1F321),
   (0x1F324, 0x1F393), (0x1F396, 0x1F397), (0x1F399, 0x1F39B), (0x1F39E, 0x1F3F0),
   (0x1F3F3, 0x1F3F5), (0x1F3F7, 0x1F4FD), (0x1F4FF, 0x1F53D), (0x1F549, 0x1F54E),
   (0x1F550, 0x1F567), (0x1F56F, 0x1F570), (0x1F573, 0x1F57A), (0x1F587, 0x1F587),
   (0x1F58A, 0x1F58D), (0x1F590, 0x1F590), (0x1F595, 0x1F596), (0x1F5A4, 0x1F5A5),
   (0x1F5A8, 0x1F5A8), (0x1F5B1, 0x1F5B2), (0x1F5BC, 0x1F5BC), (0x1F5C2, 0x1F5C4),
   (0x1F5D1, 0x1F5D3), (0x1F5DC, 0x1F5DE), (0x1F5E1, 0x1F5E1), (0x1F5E3, 0x1F5E3),
   (0x1F5E8, 0x1F5E8), (0x1F5EF, 0x1F5EF), (0x1F5F3, 0x1F5F3), (0x1F5FA, 0x1F64F),
   (0x1F680, 0x1F6C5), (0x1F6CB, 0x1F6D2), (0x1F6D5, 0x1F6D7), (0x1F6DC, 0x1F6E5),
   (0x1F6E9, 0x1F6E9), (0x1F6EB, 0x1F6EC), (0x1F6F0, 0x1F6F0), (0x1F6F3, 0x1F6FC),
   (0x1F7E0, 0x1F7EB), (0x1F7F0, 0x1F7F0), (0x1F90C, 0x1F93A), (0x1F93C, 0x1F945),
   (0x1F947, 0x1F9FF), (0x1FA70, 0x1FA7C), (0x1FA80, 0x1FA89), (0x1FA8F, 0x1FAC6),
   (0x1FACE, 0x1FADC), (0x1FADF, 0x1FAE9), (0x1FAF0, 0x1FAF8)]

/-- Code points with the property `Lowercase` that no category tells. -/
def lowercaseRanges : CharRanges :=
  [(0xAA, 0xAA), (0xBA, 0xBA), (0x2B0, 0x2B8), (0x2C0, 0x2C1), (0x2E0, 0x2E4), (0x345, 0x345),
   (0x37A, 0x37A), (0x10FC, 0x10FC), (0x1D2C, 0x1D6A), (0x1D78, 0x1D78), (0x1D9B, 0x1DBF),
   (0x2071, 0x2071), (0x207F, 0x207F), (0x2090, 0x209C), (0x2170, 0x217F), (0x24D0, 0x24E9),
   (0x2C7C, 0x2C7D), (0xA69C, 0xA69D), (0xA770, 0xA770), (0xA7F2, 0xA7F4), (0xA7F8, 0xA7F9),
   (0xAB5C, 0xAB5F), (0xAB69, 0xAB69), (0x10780, 0x10780), (0x10783, 0x10785), (0x10787, 0x107B0),
   (0x107B2, 0x107BA), (0x1E030, 0x1E06D)]

/-- Code points with the property `Uppercase` that no category tells. -/
def uppercaseRanges : CharRanges :=
  [(0x2160, 0x216F), (0x24B6, 0x24CF), (0x1F130, 0x1F149), (0x1F150, 0x1F169), (0x1F170, 0x1F189)]

/-- Code points of the general categories with the given names. -/
def inCategories (names : List String) : CharRanges :=
  names.flatMap fun name => (category? name).getD []

/-- Code points that can start an identifier: letters, letter numbers, and a few characters
that keep this property although their category has changed. -/
def identifierStartRanges : CharRanges :=
  inCategories ["l", "nl"] ++
    [(0x1885, 0x1886), (0x2118, 0x2118), (0x212E, 0x212E), (0x309B, 0x309C)]

/-- Code points that can continue an identifier. -/
def identifierPartRanges : CharRanges :=
  identifierStartRanges ++ inCategories ["mn", "mc", "nd", "pc"] ++
    [(0xB7, 0xB7), (0x387, 0x387), (0x1369, 0x1371), (0x19DA, 0x19DA), (0x200C, 0x200D),
     (0x30FB, 0x30FB), (0xFF65, 0xFF65)]

/-- The hexadecimal digits of ASCII. -/
def asciiHexRanges : CharRanges := [(0x30, 0x39), (0x41, 0x46), (0x61, 0x66)]

/-- The code points of the property with two values that has a given name. -/
def binaryProperty? (name : String) : Option CharRanges :=
  match name with
  | "alphabetic" | "alpha" => some alphabeticRanges
  | "whitespace" | "wspace" | "space" => some blankRanges
  | "lowercase" | "lower" => some (lowercaseRanges ++ inCategories ["ll"])
  | "uppercase" | "upper" => some (uppercaseRanges ++ inCategories ["lu"])
  | "cased" => some (lowercaseRanges ++ uppercaseRanges ++ inCategories ["ll", "lu", "lt"])
  | "emoji" => some emojiRanges
  | "idstart" | "ids" | "xidstart" | "xids" => some identifierStartRanges
  | "idcontinue" | "idc" | "xidcontinue" | "xidc" => some identifierPartRanges
  | "asciihexdigit" | "ahex" => some asciiHexRanges
  | "hexdigit" | "hex" =>
    some (asciiHexRanges ++ [(0xFF10, 0xFF19), (0xFF21, 0xFF26), (0xFF41, 0xFF46)])
  | "joincontrol" | "joinc" => some [(0x200C, 0x200D)]
  | "patternwhitespace" | "patws" =>
    some [(0x9, 0xD), (0x20, 0x20), (0x85, 0x85), (0x200E, 0x200F), (0x2028, 0x2029)]
  | _ => none

/-- A name of a property as it is compared: lower case, no separators, no leading `is`. -/
def normalizeName (name : List Char) : String :=
  let name := (name.filter fun c => c != ' ' && c != '_' && c != '-').map Char.toLower
  match name with
  | 'i' :: 's' :: rest => String.ofList rest
  | name => String.ofList name

/-- The code points that a property name stands for. -/
def property? (name : List Char) : Option CharRanges :=
  let name := normalizeName name
  (binaryProperty? name).or ((category? name).or (script? name))

/-- The code points for which the property `key` has a value. -/
def propertyValue? (key value : List Char) : Option CharRanges :=
  match normalizeName key with
  | "generalcategory" | "gc" => category? (normalizeName value)
  | "script" | "sc" | "scriptextensions" | "scx" => script? (normalizeName value)
  | _ => none

end TreeQuery.Regex
