/-!
# Signs and emoji

Properties of Unicode characters, each as the lengths in base 36 of the runs of code points
without it and with it, by turns from U+0000 on.
-/

namespace FieldValidation.Unicode

/-- The runs of the property Emoji. -/
def emojiRuns : String :=
  String.join [
   "z 1 6 1 5 a 33 1 4 1 68d 1 c 1 60 1 m 1 2i 6 f 2 a7 2 c 1 4m 1 p b 4 3 5j 1 6f 2 a 1 9 1 1m 4 ",
   "1 5 9 1 2 1 2 2 2 1 4 1 2 1 1 2 2 1 3 1 3 2 8 3 5 1 1 1 5 c b 2 2 1 1 2 1 1 i 1 2 2 i 6 1 1 1 ",
   "2 3 2 5 1 2 2 4 2 b 2 5 2 2 1 5 2 1 1 1 2 k 2 5 6 1 4 2 1 4 1 2 1 2 6 1 1 2 1 1 1 1 1 6 1 3 1 ",
   "6 1 a 2 f 1 2 1 4 1 1 1 4 3 1 1 b 2 1c 3 9 1 e 1 e 1 ac 2 cv 3 j 2 1f 1 4 1 yi 1 c 1 gp 1 1 1 ",
   "2fze 1 5m 1 4g 2 c 2 e 1 2 a 23 q 1 2 n 1 k 1 2 9 l 2 4u y 2 34 2 2 1 3 2 2b 2 3 1 7b 1 1r b ",
   "6 1 o 7 2 2 8 c 1 2 4 2 1 4 2 d 2 2 1 8 2 9 1 5 3 c 3 8 3 2 1 1 1 4 1 6 1 3 1 6 2e 1c 1y 5 8 ",
   "2 3 4 a 3 1 1 2 3 1 2 a 6b c 4 1 7v 1b 1 a 1 55 34 d 3 9 7 1a 1 7 8 e 4 9 7 9"]

/-- The runs of the property Emoji_Component. -/
def emojiComponentRuns : String :=
  "z 1 6 1 5 a 6ab 1 5x 1 17or 1 1c5y q e3 5 14g 4 gw30 2o"

/-- The runs of the property Emoji_Modifier. -/
def emojiModifierRuns : String :=
  "2qrf 5"

/-- The runs of the property Emoji_Modifier_Base. -/
def emojiModifierBaseRuns : String :=
  String.join [
   "7j1 1 63 1 g 4 2iyf 1 1o 3 2 1 2 3 39 2 2 b l j 3 1 4 3 1 3 7 1 1 1 o 1 5l 2 4 1 l 1 4 2 4u 3 ",
   "3 5 2b 1 g 3 9 1 b 1 fz 1 2 1 8 8 6 1 9 a 2 3 1k 1 1p 2 1 2 1 1 h 3 1 d 6d 3 16 9"]

/-- The runs of the property Emoji_Presentation. -/
def emojiPresentationRuns : String :=
  String.join [
   "6xm 2 5p 4 3 1 2 1 eh 2 l 2 1e c 17 1 j 1 d 1 8 2 h 2 5 2 8 1 5 1 l 1 7 2 1 1 4 1 2 1 7 1 4 2 ",
   "s 1 z 1 1 1 4 3 1 1 1p 3 o 1 e 1 nv 2 1f 1 4 1 2hf2 1 5m 1 5a 1 2 a 23 q 1 1 o 1 k 1 2 5 1 3 ",
   "l 2 4u x c 9 1 1y 1 m c 17 4 5 c h 3 1 3 1z 1 1 1 57 2 1r d 4 1 o i 1 q 2 d 1 2e 2d 1c 1y 6 1 ",
   "3 3 2 3 4 4 b 2 7 9 6b c 4 1 7v 1b 1 a 1 55 34 d 3 9 7 1a 1 7 8 e 4 9 7 9"]

/-- The runs of the property Extended_Pictographic. -/
def extendedPictographicRuns : String :=
  String.join [
   "4p 1 4 1 68d 1 c 1 60 1 m 1 2i 6 f 2 a7 2 c 1 2n 1 1y 1 p b 4 3 5j 1 6f 2 a 1 9 1 1m 4 1 6 1 ",
   "c 1 36 a 3a 2 b 1 1 1 1 6 1 3 1 6 1 a 2 f 1 2 1 4 1 1 1 4 3 1 1 b 5 19 3 9 1 e 1 e 1 ac 2 cv ",
   "3 j 2 1f 1 4 1 yi 1 c 1 gp 1 1 1 2fza 74 d 3 v 1 1o 6 c 2 e 1 2 a i 1l r f a 1 k 1 2 9 1 4 9 ",
   "c2 5 8u 8 7e 1c 3k 38 c 2d 17 c 4 1k 8 a 6 14 8 u 2a c 1b 1 a 1 c9 74 se"]

/-- The runs of the property Regional_Indicator. -/
def regionalIndicatorRuns : String :=
  "2qcm q"

/-- The runs of the property Math. -/
def mathRuns : String :=
  String.join [
   "17 1 g 3 v 1 t 1 1 1 19 1 4 1 11 1 v 1 k8 3 2 1 q 2 2 3 en 3 559 1 r 3 b 1 3 1 d 1 e 4 l 5 b ",
   "5 1t d 4 1 3 2 4 5 i 1 4 1 2 a 1 1 2 6 6 1 3 2 2 2 1 3 1 6 3 e 1 1 1w o 1 6 1 2 4 2 4 w 1 1 6 ",
   "2 e 7g 8 4 k 2 2i 1 u r 1 1 o 1 b 7 cd 2 c a 4 6 4 2 2 2 3 5 e 1 1 1 2 6 b 8 5 2 1l 1 1 1 t 4 ",
   "9 3 9c 1s 74 e8 1c l 2 6 1524 1 mv 6 1 1 4i 1 g 3 t 1 1 1 t 1 1 1 3n 1 6 4 15w3 2d 1 1z 1 2 2 ",
   "1 2 2 2 4 1 c 1 1 1 7 1 1t 1 4 2 8 1 7 1 s 1 4 1 5 1 1 3 7 1 9g 2 84 2 1e 4cg 4 1 r 1 2 1 1 2 ",
   "1 1 a 1 4 1 1 1 1 6 1 4 1 1 1 1 1 1 3 1 2 1 1 2 1 1 1 1 1 1 1 1 1 1 2 1 1 2 4 1 7 1 4 1 4 1 1 ",
   "1 a 1 h 5 3 1 5 1 h 1g 2"]

/-- The runs of the property Dash. -/
def dashRuns : String :=
  String.join [
   "19 1 124 1 1f 1 2td 1 sl 1 1l5 6 1p 1 13 1 f 1 au 1 2dg 1 2 1 v 2 4 1 s 1 ce 1 j 1 33 1 14ls ",
   "2 11 1 a 1 4p 1 333 1"]

/-- The runs of the property Quotation_Mark. -/
def quotationMarkRuns : String :=
  "y 1 4 1 3n 1 f 1 670 8 p 2 2rr 1 cp 4 d 3 14pt 4 59 1 4 1 2i 2"

/-- The runs of the property Terminal_Punctuation. -/
def terminalPunctuationRuns : String :=
  String.join [
   "x 1 a 1 1 1 b 2 3 1 n2 1 8 1 e9 1 1l 1 20 1 e 1 1 3 50 1 17 b 1 1 6j 2 1i f v 1 79 2 z8 2 4s ",
   "1 4 6 8n 2 lx 8 lh 1 3g 3 1z 2 4d 3 3 1 13 4 2 2 8q 2 9u 4 4u 2 1 3 t 2 58 5 1q 2 qk 2 9 3 ",
   "2qs 1 d 1 4 1 a 1 1 2 3 2 bw 2 n3v 2 7h 3 6b 5 am 2 2e 2 2n 1 47 3 43 3 3j 1 g 2 6x 1 g9w 3 1 ",
   "4 4p 1 a 1 1 1 b 2 3 1 1t 1 2 1 u2 1 1c 1 w6 1 5j 1 8m 2 48 6 1w 6 2h 4 qg 5 18 4 59 7 34 4 ",
   "3j 3 3l 2 6 1 g 2 2g 5 30 1 bl 3 c 2 9y 4 3 f 2x 2 6x 3 ed 1 1 1 6z 2 2f 2 4 2 bi 3 19 1 hx 2 ",
   "22 2 10r 5 dtl 2 3p 1 1t 3 a 1 nm 2 feu 1 5wn 4"]

/-- The runs of the property Sentence_Terminal. -/
def sentenceTerminalRuns : String :=
  String.join [
   "x 1 c 1 g 1 11l 1 43 3 50 1 17 3 6u 1 1p 1 1 1 3 2 85 2 1d0 2 ly 1 4 2 lh 1 5i 2 5o 1 5 1 8q ",
   "2 9u 4 4u 2 2 2 t 2 58 2 1t 2 qk 2 9 3 2qs 1 d 1 m 2 bx 1 n3w 1 7i 2 6b 1 3 1 am 2 2e 2 2n 1 ",
   "48 2 43 3 40 2 6x 1 g9y 1 3 2 4p 1 c 1 g 1 1t 1 25w 2 zh 5 18 4 59 2 39 4 3j 3 3l 2 6 1 g 2 ",
   "2g 2 1 2 30 1 bl 2 ad 2 5 f 2x 2 6x 3 ed 1 1 1 6z 2 2f 2 bo 2 j8 2 22 2 euh 2 3p 1 1t 2 b 1 ",
   "nn 1 feu 1 5wo 1"]

/-- The runs of the property Pattern_Syntax. -/
def patternSyntaxRuns : String :=
  String.join [
   "x f a 7 q 4 1 1 q 4 y 7 1 1 1 2 1 1 1 2 4 1 4 1 3 1 n 1 v 1 654 o 8 f 2 j 1 a 8h k0 4g hi u ",
   "vg e8 3k ap 3 4 p f 1 14i5 2 79 2"]

/-- The runs of the property Pattern_White_Space. -/
def patternWhiteSpaceRuns : String :=
  "9 5 i 1 2s 1 688 2 o 2"

/-- The runs of the property White_Space. -/
def whiteSpaceRuns : String :=
  "9 5 i 1 2s 1 q 1 4bj 1 1vj b t 2 5 1 1b 1 334 1"

/-- The runs of the property Hex_Digit. -/
def hexDigitRuns : String :=
  "1c a 7 6 q 6 1eax a 7 6 q 6"

/-- The runs of the property ASCII_Hex_Digit. -/
def asciiHexDigitRuns : String :=
  "1c a 7 6 q 6"

/-- The properties of this table by their names. -/
def symbolProperties : List (List String × String) :=
  [(["Emoji"], emojiRuns), (["Emoji_Component", "EComp"], emojiComponentRuns),
   (["Emoji_Modifier", "EMod"], emojiModifierRuns),
   (["Emoji_Modifier_Base", "EBase"], emojiModifierBaseRuns),
   (["Emoji_Presentation", "EPres"], emojiPresentationRuns),
   (["Extended_Pictographic", "ExtPict"], extendedPictographicRuns),
   (["Regional_Indicator", "RI"], regionalIndicatorRuns), (["Math"], mathRuns),
   (["Dash"], dashRuns), (["Quotation_Mark", "QMark"], quotationMarkRuns),
   (["Terminal_Punctuation", "Term"], terminalPunctuationRuns),
   (["Sentence_Terminal", "STerm"], sentenceTerminalRuns),
   (["Pattern_Syntax", "Pat_Syn"], patternSyntaxRuns),
   (["Pattern_White_Space", "Pat_WS"], patternWhiteSpaceRuns),
   (["White_Space", "Space"], whiteSpaceRuns), (["Hex_Digit", "Hex"], hexDigitRuns),
   (["ASCII_Hex_Digit", "AHex"], asciiHexDigitRuns)]

end FieldValidation.Unicode
