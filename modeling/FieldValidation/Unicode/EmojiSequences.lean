import FieldValidation.Unicode.Property

/-!
# Sequences of emoji

The properties that strings of characters have: which of them are one emoji. A sequence is built
by rule from bases, skin tones, joiners and the mark of emoji style.

## Main definitions

* `emojiSequences?`: the sequences of a property by its name
-/

namespace FieldValidation.Unicode

/-- A sequence of code points that is one emoji. -/
abbrev EmojiSequence := List Nat

/-- The mark that asks for a character in the style of emoji. -/
def emojiStyle : Nat := 0xFE0F

/-- The character that joins emoji into one. -/
def joiner : Nat := 0x200D

/-- The parts of an emoji, joined. -/
def joined (parts : List EmojiSequence) : EmojiSequence := (parts.intersperse [joiner]).flatten

/-- The skin tones. -/
def skinTones : List Nat := List.range' 0x1F3FB 5

/-- The code points of a property that a character has or has not. -/
def membersOf (property : String) : List Nat :=
  ((binaryProperty? property).getD []).flatMap fun (first, last) =>
    List.range' first (last + 1 - first)

/-- Whether a code point is one of the letters that flags are spelt with. -/
def isRegionalIndicator (n : Nat) : Bool := 0x1F1E6 ≤ n && n ≤ 0x1F1FF

/-- The emoji of one character, with the mark of style where the character alone is no emoji. -/
def basicEmoji : List EmojiSequence :=
  let shown := membersOf "Emoji_Presentation"
  let marked := (membersOf "Emoji").filter fun n => 0x7F < n && !shown.contains n
  ((shown.filter (!isRegionalIndicator ·)).map fun n => [n]) ++ marked.map fun n => [n, emojiStyle]

/-- The keys of a telephone. -/
def keycapSequences : List EmojiSequence :=
  (0x23 :: 0x2A :: List.range' 0x30 10).map fun n => [n, emojiStyle, 0x20E3]

/-- The bases that are groups of people and come without skin tones. -/
def tonelessBases : List Nat := [0x1F46A, 0x1F46F, 0x1F93C]

/-- The bases with every skin tone. -/
def modifierSequences : List EmojiSequence :=
  let bases := (membersOf "Emoji_Modifier_Base").filter (!tonelessBases.contains ·)
  bases.flatMap fun base => skinTones.map fun tone => [base, tone]

/-- The regions with a flag, two letters each. -/
def flagRegions : String :=
  "ACADAEAFAGAIALAMAOAQARASATAUAWAXAZBABBBDBEBFBGBHBIBJBLBMBNBOBQBRBSBTBVBWBYBZCACCCDCFCG" ++
  "CHCICKCLCMCNCOCPCRCUCVCWCXCYCZDEDGDJDKDMDODZEAECEEEGEHERESETEUFIFJFKFMFOFRGAGBGDGEGFGG" ++
  "GHGIGLGMGNGPGQGRGSGTGUGWGYHKHMHNHRHTHUICIDIEILIMINIOIQIRISITJEJMJOJPKEKGKHKIKMKNKPKRKW" ++
  "KYKZLALBLCLILKLRLSLTLULVLYMAMCMDMEMFMGMHMKMLMMMNMOMPMQMRMSMTMUMVMWMXMYMZNANCNENFNGNINL" ++
  "NONPNRNUNZOMPAPEPFPGPHPKPLPMPNPRPSPTPWPYQARERORSRURWSASBSCSDSESGSHSISJSKSLSMSNSOSRSSST" ++
  "SVSXSYSZTATCTDTFTGTHTJTKTLTMTNTOTRTTTVTWTZUAUGUMUNUSUYUZVAVCVEVGVIVNVUWFWSXKYEYTZAZMZW"

/-- The flags that two letters spell. -/
def pairsOfLetters : List Char → List EmojiSequence
  | a :: b :: rest => [a.toNat + 0x1F1A5, b.toNat + 0x1F1A5] :: pairsOfLetters rest
  | _ => []

/-- The flags of regions. -/
def flagSequences : List EmojiSequence := pairsOfLetters flagRegions.toList

/-- The flags of parts of a region, each spelt in small letters after a black flag. -/
def tagSequences : List EmojiSequence :=
  ["gbeng", "gbsct", "gbwls"].map fun name =>
    0x1F3F4 :: (name.toList.map fun c => c.toNat + 0xE0000) ++ [0xE007F]

/-- A base alone and with every skin tone. -/
def toned (base : EmojiSequence) : List EmojiSequence :=
  base :: skinTones.map fun tone => base.take 1 ++ [tone]

/-- An adult, a man and a woman. -/
def adults : List Nat := [0x1F9D1, 0x1F468, 0x1F469]

/-- The signs of women and men. -/
def genderSigns : List EmojiSequence := [[0x2640, emojiStyle], [0x2642, emojiStyle]]

/-- An arrow that turns an emoji to the right. -/
def rightArrow : EmojiSequence := [0x27A1, emojiStyle]

/-- What people use to move. -/
def movingAids : List EmojiSequence := [[0x1F9AF], [0x1F9BC], [0x1F9BD]]

/-- What people of an occupation have with them, and their hair. -/
def attributes : List EmojiSequence :=
  [[0x2695, emojiStyle], [0x2696, emojiStyle], [0x2708, emojiStyle], [0x1F33E], [0x1F373],
    [0x1F37C], [0x1F393], [0x1F3A4], [0x1F3A8], [0x1F3EB], [0x1F3ED], [0x1F4BB], [0x1F4BC],
    [0x1F527], [0x1F52C], [0x1F680], [0x1F692], [0x1F9B0], [0x1F9B1], [0x1F9B2], [0x1F9B3]] ++
    movingAids

/-- People with an attribute. -/
def attributedSequences : List EmojiSequence :=
  (adults.flatMap fun adult => toned [adult]).flatMap fun person =>
    (attributes.map fun thing => joined [person, thing]) ++
      (movingAids.map fun aid => joined [person, aid, rightArrow]) ++
      (if person.head? = some 0x1F9D1 then [joined [person, [0x1F384]]] else [])

/-- People who are women or men by a sign, and may have a skin tone. -/
def signedPeople : List EmojiSequence :=
  ([0x1F3C3, 0x1F3C4, 0x1F3CA, 0x1F46E, 0x1F470, 0x1F471, 0x1F473, 0x1F477, 0x1F481, 0x1F482,
    0x1F486, 0x1F487, 0x1F645, 0x1F646, 0x1F647, 0x1F64B, 0x1F64D, 0x1F64E, 0x1F6A3, 0x1F6B4,
    0x1F6B5, 0x1F6B6, 0x1F926, 0x1F935, 0x1F937, 0x1F938, 0x1F939, 0x1F93D, 0x1F93E, 0x1F9B8,
    0x1F9B9, 0x1F9CD, 0x1F9CE, 0x1F9CF, 0x1F9D4] ++ List.range' 0x1F9D6 8).map (fun n => [n]) ++
    [0x26F9, 0x1F3CB, 0x1F3CC, 0x1F575].map fun n => [n, emojiStyle]

/-- Women and men by a sign. -/
def signedSequences : List EmojiSequence :=
  let people := signedPeople.flatMap toned ++ [[0x1F46F], [0x1F93C], [0x1F9DE], [0x1F9DF]]
  people.flatMap fun person => genderSigns.map fun sign => joined [person, sign]

/-- People who go to the right. -/
def turnedSequences : List EmojiSequence :=
  ([0x1F3C3, 0x1F6B6, 0x1F9CE].flatMap fun n => toned [n]).flatMap fun person =>
    joined [person, rightArrow] :: genderSigns.map fun sign => joined [person, sign, rightArrow]

/-- Two with something between them, for every pair of skin tones that `wanted` asks for. -/
def tonedPairs (first second : Nat) (between : List EmojiSequence) (wanted : Nat → Nat → Bool) :
    List EmojiSequence :=
  skinTones.flatMap fun tone => (skinTones.filter (wanted tone)).map fun other =>
    joined ([[first, tone]] ++ between ++ [[second, other]])

/-- Couples, two who hold hands, and two who shake hands. -/
def coupleSequences : List EmojiSequence :=
  let heart : List EmojiSequence := [[0x2764, emojiStyle]]
  let kiss : List EmojiSequence := heart ++ [[0x1F48B]]
  let hands : List EmojiSequence := [[0x1F91D]]
  let different (a b : Nat) : Bool := a != b
  let couples := [(0x1F468, 0x1F468), (0x1F469, 0x1F468), (0x1F469, 0x1F469)]
  let adult := 0x1F9D1
  (couples.flatMap fun (a, b) => [heart, kiss].flatMap fun between =>
    joined ([[a]] ++ between ++ [[b]]) :: tonedPairs a b between fun _ _ => true) ++
  ([heart, kiss].flatMap fun between => tonedPairs adult adult between different) ++
  (couples.flatMap fun (a, b) => tonedPairs a b hands different) ++
  joined ([[adult]] ++ hands ++ [[adult]]) :: tonedPairs adult adult hands (fun _ _ => true) ++
  tonedPairs 0x1FAF1 0x1FAF2 [] different

/-- Families of one or two parents and one or two children. -/
def familySequences : List EmojiSequence :=
  let man := 0x1F468
  let woman := 0x1F469
  let boy := 0x1F466
  let girl := 0x1F467
  let parents := [[man], [woman], [man, man], [man, woman], [woman, woman]]
  let children := [[boy], [boy, boy], [girl], [girl, boy], [girl, girl]]
  let adults := [[0x1F9D1], [0x1F9D1, 0x1F9D1]]
  let others := [[0x1F9D2], [0x1F9D2, 0x1F9D2]]
  let family (older younger : List Nat) : EmojiSequence :=
    joined ((older ++ younger).map fun n => [n])
  (parents.flatMap fun older => children.map (family older)) ++
    adults.flatMap fun older => others.map (family older)

/-- All other emoji that are joined. -/
def otherJoinedSequences : List EmojiSequence :=
  [[[0x1F3F3, emojiStyle], [0x1F308]], [[0x1F3F3, emojiStyle], [0x26A7, emojiStyle]],
    [[0x1F3F4], [0x2620, emojiStyle]], [[0x1F415], [0x1F9BA]], [[0x1F408], [0x2B1B]],
    [[0x1F43B], [0x2744, emojiStyle]], [[0x1F426], [0x2B1B]], [[0x1F426], [0x1F525]],
    [[0x1F62E], [0x1F4A8]], [[0x1F635], [0x1F4AB]], [[0x1F636], [0x1F32B, emojiStyle]],
    [[0x1F441, emojiStyle], [0x1F5E8, emojiStyle]], [[0x2764, emojiStyle], [0x1F525]],
    [[0x2764, emojiStyle], [0x1FA79]], [[0x1F34B], [0x1F7E9]], [[0x1F344], [0x1F7EB]],
    [[0x26D3, emojiStyle], [0x1F4A5]], [[0x1F642], [0x2194, emojiStyle]],
    [[0x1F642], [0x2195, emojiStyle]]].map joined

/-- The emoji that are joined of several. -/
def joinedSequences : List EmojiSequence :=
  attributedSequences ++ signedSequences ++ turnedSequences ++ coupleSequences ++
    familySequences ++ otherJoinedSequences

/-- The sequences of a property by its name. -/
def emojiSequences? (name : String) : Option (List EmojiSequence) :=
  match name with
  | "Basic_Emoji" => some basicEmoji
  | "Emoji_Keycap_Sequence" => some keycapSequences
  | "RGI_Emoji_Modifier_Sequence" => some modifierSequences
  | "RGI_Emoji_Flag_Sequence" => some flagSequences
  | "RGI_Emoji_Tag_Sequence" => some tagSequences
  | "RGI_Emoji_ZWJ_Sequence" => some joinedSequences
  | "RGI_Emoji" =>
    some (basicEmoji ++ keycapSequences ++ modifierSequences ++ flagSequences ++ tagSequences ++
      joinedSequences)
  | _ => none

end FieldValidation.Unicode
