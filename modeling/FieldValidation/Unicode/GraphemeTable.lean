/-!
# Parts of written characters

Properties of Unicode characters, each as the lengths in base 36 of the runs of code points
without it and with it, by turns from U+0000 on.
-/

namespace FieldValidation.Unicode

/-- The runs of the property Grapheme_Base. -/
def graphemeBaseRuns : String :=
  String.join [
   "w 2n x d 1 gi 34 8 2 6 4 7 1 1 1 k 1 68 7 4m 1 12 2 1e 2 3 1a 1 1 1 2 1 2 1 9 r 4 6 h a b 1 1 ",
   "1a l g 1 2t 8 1 6 2 2 1 4 w 2 1 1 u t 2h b 1 e 17 9 7 3 o 4 1 9 1 3 1 7 f 1 p 5 1 1 b 5 v h ",
   "16 1l 1j 1 1 1 4 8 4 1 3 7 a 2 t 1 2 1 8 2 2 2 m 1 7 1 1 3 4 3 1 1 2 6 2 2 2 1 1 d 2 1 3 4 o ",
   "5 1 1 6 4 2 2 m 1 7 1 2 1 2 1 2 4 3 o 4 1 1 7 a 2 3 1 1 c 1 1 9 1 3 1 m 1 7 1 2 1 5 3 4 8 1 1 ",
   "2 3 1 f 2 4 c 7 1 8 2 1 8 2 2 2 m 1 7 1 2 1 5 3 1 2 1 6 2 2 2 f 2 1 3 4 i b 1 1 6 3 3 1 4 3 2 ",
   "1 1 1 2 3 2 3 3 3 c 5 1 1 2 3 3 1 3 3 1 l l 6 3 1 8 1 3 1 n 1 g 3 1 3 4 j 3 2 1 2 2 4 a 7 a 1 ",
   "b 1 3 1 n 1 a 1 5 3 2 1 2 1 2 2 2 1 2 h 2 1 2 4 a 1 3 e b 1 3 1 15 2 1 1 2 5 3 1 3 1 2 4 3 1 ",
   "a 4 q 2 2 1 i 3 o 1 9 1 1 2 7 9 2 6 7 7 a 2 3 c 1c 1 2 b 8 8 d 11 2 1 1 1 5 1 o 1 1 1 a 1 2 9 ",
   "1 2 5 1 1 9 a 2 4 w o 2 r 1 1 1 1 1 e 1 10 i 1 5 1 2 5 1d 8 1 6 1 d 11 19 4 1 6 1 2 2 2 p 2 4 ",
   "3 g 4 d 1 2 2 6 1 f 1 14 1 1 5 1 2 ah 1 4 2 7 1 1 1 4 2 15 1 4 2 x 1 4 2 7 1 1 1 4 2 f 1 1l 1 ",
   "4 2 1v 5 t 3 q 6 2e 2 6 2 il 3 2h 7 i 3 1 9 j 2 3 9 i e d 1 3 f 1g 2 1 7 8 1 2 b 9 3 a 6 a 6 ",
   "b 5 a 6 2h 7 5 2 y 1 1 5 1y a v 4 4 2 3 4 2 1 6 7 1 3 16 2 5 b 18 4 q 6 b 3 1l 2 2 3 1k 1 1 9 ",
   "1 1 2 8 6 d a 6 a 6 e 2e 1c 7 1 1 5 1 a 3 r 9 b 3 w 4 2 2 1 3 1k 1 1 2 3 1 1 3 2 8 1c 8 2 5 f ",
   "3 1o 7 17 2 b b 1 d 1 7 4 1 6 1 3 2 1 5 5c 1s 7q 2 6 2 12 2 6 2 8 1 1 1 1 1 1 1 v 2 1h 1 f 1 ",
   "e 2 6 1 j 2 3 1 9 1 b 5 o 7 1d g 2 2 r 1 d 3 x 1r 3w 4 if p b l 1ec 2 w 1 9k 3 2 5 19 1 1 5 1 ",
   "2 1k 7 2 f n 9 7 1 7 1 7 1 7 1 7 1 7 1 7 1 7 x 2m y q 1 2h c 5y q c 4 16 6 g 1 2e 4 2t 5 17 1 ",
   "2m 1 2c c 1b 1 mlp 3 1j 9 9o k 1b 4 1 a w 2 28 2 6 8 5n 5 2 1 1 1 5 o g 1 3 1 4 1 p 2 5 4 a 6 ",
   "1k 8 1w a c o d 1 12 8 p b 2 b u 6 1c 1 2 4 2 2 g 1 b 4 7 1 p 1 15 6 2 2 2 b 3 1 8 1 1 2 a 2 ",
   "w 1 1f 1 1 3 2 2 5 2 1 1 1 o h 2 8 b 6 2 6 2 6 9 7 1 7 1 1o 4 39 1 2 1 4 3 a 6 8mc c n 4 1d ",
   "6is a6 2 2y 12 7 c 5 5 1 1 o 1 5 1 1 1 2 1 2 1 3h g cd 2 1i 7 1 w g g a m z 1 j 1 4 4 5 1 3r ",
   "4 4d 2 v 3 6 2 6 2 6 2 3 3 7 1 7 d 2 2 c 1 q 1 j 1 2 1 f 2 e y 3f 5 3 4 19 3 2g 1 d 3 1 1b 19 ",
   "3n t 3 1d g r 4 10 9 u 5 12 a u 1 11 4 e 16 4e 2 a 6 10 4 10 4 14 8 1g b c 1 f 1 7 1 2 1 b 1 ",
   "f 1 7 1 2 1v 8n 9 m a 8 o 6 1 16 1 9 1x 6 2 1 1 18 1 2 3 1 2 n 1 20 8 9 1c j 1 2 5 x 3 r 5 1 ",
   "1s 1k 4 k 2 1b f 4 1 3 1 t a 9 7 9 7 1s w 11 6 c 9 1i 3 t 2 r 5 q 7 4 c 7 28 21 1j 1f d 1f 7 ",
   "16 c a 86 v 1 16 3 1 2 2 26 14 8 m b 9 m i 4 4 12 s k n 9 1 1 1i f 7 4 u 1 2 2 1 c 1d 4 2 2 2 ",
   "1 4 e p 7 a 9 10 5 1 9 i 8 z 1 3 b 1g 9 a 4 2 1 g 1 k b i 1 s 3 2 1 1 2 6 1 2 1r 7 1 1 1 4 1 ",
   "f 1 b 6 1b 1 3 d a 8 2 1 8 2 2 2 m 1 7 1 2 1 5 3 1 1 1 1 4 2 2 2 3 2 1 c 7 4c 1k 8 2 3 1 1 l ",
   "1 1 1 3 u 1c 1 2 6 1 1 2 1 1 2 1 2 4 8 a 4m 1b 1 2 6 4 2 1 2 r 10 1f 8 2 1 1 2 4 b a 6 d j 17 ",
   "1 1 1 2 6 1 1 2 6 a 1i r 5 2 4 1 9 n 55 1b 9 1 2 1 2s 2b c 8 2 1 2 8 1 2 1 o 1 5 1 2 4 1 1 4 ",
   "1 3 9 a 1y 8 2 16 8 4 1 4 r 1 a 14 6 2 4 8 9 1 6 2 3 1a d 1 2 9 d 21 7 a 6u 9 1 12 e 1 1 6 a ",
   "t 3 w p 1 7 1 2 1 23 7 1 2 1 12 l 1 9 a 6 6 1 2 1 11 4 2 1 1 1 1 7 a 8m j 2 4 9 f 1 10 8 2 1 ",
   "1 1 n 2e 1 f 1e d pn 2u 33 1 5 b 5g 218 2r d ts h 6 33t g7 6nt ft 7 v 1 a 4 29 1 a 6 u 7 1 a ",
   "1c 7 f a a 1 7 1 l 5 j j4 2j 2t 23 5 1k b d 1s 4 c 2 e 4qg 8 ye 16 9 6w7 4 1 7 1 2 1 83 f 1 t ",
   "3 2 1 e 4 8 b0 1s4 2z 5 d 3 9 7 a 2 1 2 1 3ow 38 1o 6u a 13 2 1o 1 1 3 4 l 2 7 u 4 1p l 1u 3 ",
   "1 3e k c k c 2f 9 p 3r 2d 1 1z 1 2 2 1 2 2 2 4 1 c 1 1 1 7 1 1t 1 4 2 8 1 7 1 s 1 4 1 5 1 1 3 ",
   "7 1 9g 2 84 2 fm 1j 4 1e 8 1 e 1 7 vo v 6 6 79 1q 42 19 a 7 2 a 4 2 8w u i 18 4 a 5 1 cw s 4 ",
   "a km 7 1 4 1 2 1 f 1 5h 2 9 1c 1w 7 1 4 a 4 2 lt 1w 24 1p 5e 4 1 r 1 2 1 1 2 1 1 a 1 4 1 1 1 ",
   "1 6 1 4 1 1 1 1 1 1 3 1 2 1 1 2 1 1 1 1 1 1 1 1 1 1 2 1 1 2 4 1 7 1 4 1 4 1 1 1 a 1 h 5 3 1 5 ",
   "1 h 1g 2 7i 18 4 2s c f 2 f 1 f 1 11 a 4u 1k t d 18 4 9 7 2 e 6 4a rc 4 h 3 d 3 3b 4 2n 6 c 4 ",
   "1 f c 4 1k 8 a 6 14 8 u 2 2 26 9g c e 2 d 3 9 7 1a 1 7 8 e 4 9 7 9 7 43 1 1j 11 a sm wyo w ",
   "37e 6 66 2 4g2 e 5rl 2e7 f2 15u 3t7 5 38g"]

/-- The runs of the property Grapheme_Extend. -/
def graphemeExtendRuns : String :=
  String.join [
   "lc 34 7n 7 7b 19 1 1 1 2 1 2 1 1 20 b 1c l g 1 2t 7 2 6 2 2 1 4 z 1 u r 2j b 1m 9 9 1 o 4 1 9 ",
   "1 3 1 5 17 3 1o 8 16 o 1 w 1j 1 1 1 4 8 4 1 3 7 a 2 t 1 1m 1 1 1 2 4 8 1 9 1 a 2 q 1 2 2 1l 1 ",
   "4 2 4 2 2 3 3 1 u 2 3 1 b 2 1l 1 4 5 1 2 4 1 k 2 m 6 1 1 1m 1 1 2 1 4 8 1 7 3 a 2 u 1 1n 1 1 ",
   "1 c 1 9 1 14 1 3 1 1j 1 1 3 5 3 1 4 7 2 b 2 t 1 1m 1 2 1 2 1 3 1 5 2 7 2 b 2 s 2 1l 2 1 1 2 4 ",
   "8 1 9 1 a 2 t 1 20 1 4 1 2 3 1 1 8 1 29 1 2 7 c 8 2q 1 2 9 b 7 21 2 r 1 1 1 1 1 1j e 1 5 1 2 ",
   "5 b 1 10 9 1 2u 4 1 6 1 2 2 2 p 2 4 3 g 4 d 1 2 2 6 1 f 1 jj 3 qa 3 t 2 u 2 u 2 1s 2 1 7 8 1 ",
   "2 b 9 1 19 3 1 1 39 2 y 1 3a 3 4 2 9 1 6 3 63 2 2 1 1m 1 1 7 1 1 1 1 2 8 6 a 2 1 1c v 1d 4 1c ",
   "7 1 1 5 1 14 9 c 2 w 4 2 2 1 3 1k 1 1 2 3 1 1 3 1m 8 2 2 48 3 1 d 1 7 4 1 6 1 3 2 5i 1s ek 1 ",
   "5f x 2da 3 3x 1 2o w fe 6 2x 2 n9w 4 1 a w 2 28 2 7k 1 3 1 4 1 p 2 5 1 47 2 q i d 1 12 8 p b ",
   "1a 3 1c 1 2 4 2 2 13 1 1v 6 2 2 2 2 c 1 8 1 1b 1 1f 1 1 3 2 2 5 2 1 1 16 2 8 1 6m 1 2 1 4 1 ",
   "fn4 1 kh g g g a6 2 gt 1 6a 1 45 5 1ae 3 1 2 5 4 14 3 4 1 4l 2 fx 4 ar 2 28 3 1y b 1d 4 3f 1 ",
   "1i f 15 1 2 2 a 3 1d 4 2 2 7 1 1p 3 10 5 1 8 1q 1 c 2 1g 9 a 4 2 1 2n 3 2 1 1 2 6 1 2 1 4d 1 ",
   "3 8 l 2 1l 2 1 1 1 1 m 1 e 7 3 5 5f 8 2 3 1 1 n 1 29 1 2 6 1 1 2 1 1 2 1 2 6j 1 2 4 6 2 1 2 r ",
   "2 2d 8 2 1 1 2 2y 1 1 1 2 6 1 1 2t 3 2 4 1 5 77 9 1 2 6t 1 a 2 1 1 4 1 40 4 2 2 4 1 w a 14 6 ",
   "2 4 8 1 9 6 2 3 1a d 1 2 ba 7 1 6 1 1 2a m 2 7 1 2 1 2 3e 6 3 1 1 2 1 7 1 1 20 2 3 1 1 1 9n 2 ",
   "b 2 1g 5 5 1 1 1 459 1 6 f asa 5 1n 7 t4 1 1r 4 29 1 f5k 2 3mp 1a 2 n f2 1 1 3 4 5 8 8 2 7 u ",
   "4 44 3 1iz 1j 4 1e 8 1 e 1 m 5 1 f 11s 7 1 h 2 7 1 2 1 5 2s 1 4g 7 af 1 1p 4 e4 4 rk 7 31 7 ",
   "gzbp 2o 3k 6o"]

/-- The runs of the property Diacritic. -/
def diacriticRuns : String :=
  String.join [
   "2m 1 1 1 1z 1 6 1 4 1 2 2 dz 4f 1 8 5 6 h 2 4 1 9 2 71 5 5t 1 1j h 1 r 1 1 1 2 1 1 3q 8 4 2 ",
   "3q 2 4 2 3 3 1v r 2j b 1m b y 2 3i 8 15 a g s 1p 1 g 1 3 4 s 1 22 1 g 1 32 1 g 1 32 1 g 1 1b ",
   "3 1o 1 g 1 7 1 3b 1 32 1 g 1 32 1 g 1 31 2 g 1 3g 1 3g 6 1 1 2z 1 d 5 23 2 r 1 1 1 1 1 4 2 1u ",
   "3 1 2 1q 1 34 1 1 2 14 2 4 5 p 7 1 1 a 2 jl 3 qc 2 4z b 9 1 9n 3 8p 8 2 1 1c f 2 b 2w 1 f 1 ",
   "12 9 1i 2 3u 2 1s 6 2a p 4 1 6 1 2 3 1e 1r 2h c 11 b cd 1 1 3 b 3 d 3 d 3 d 2 2k0 3 8t 1 e2 6 ",
   "2x 4 2n 1 n76 1 c 2 1 1 s 2 2a 2 e y 2u 3 31 2 5m 1 r i 1l 4 10 1 2n 1 c 1 10 1 45 3 1t 4 1f ",
   "1 2s 5 9 3 3k 2 fn4 1 ld g 7i 1 1 1 1b 1 19 2 1v 1 l8 1 wv 6 1 16 1 9 mi 2 fv 6 d1 3 1y b 1d ",
   "4 5c 1 15 1 20 2 3c 2 1q 1 24 1 9 3 2w 2 4y 2 29 1 g 1 o 7 3 5 5p 1 3 1 3f 2 6z 2 3i 1 3a 2 ",
   "37 1 7h 2 76 2 4 1 4c 1 2b 1 i 1 29 1 bp 1 76 1 1 2 29 1 4hb f asa 5 1n 7 uw h 28 2 cn2 4 1 7 ",
   "1 2 64h 1a 2 n f4 3 3 6 8 8 2 7 u 4 2v6 1q 5e 7 af 1 1p 4 15s 7 31 3 1 3"]

/-- The runs of the property Extender. -/
def extenderRuns : String :=
  String.join [
   "53 1 ew 2 oe 1 c9 1 nu 1 kw 1 3j 1 1tv 1 1k 1 gz 1 b2 1 1w 1 3ux 1 17 5 2v 2 2l 3 lxy 1 16e 1 ",
   "qq 1 m 1 3t 1 30 1 l 2 gor 1 1lc 2 2ca 1 h4 3 y7 1 fxl 2 ws 2 1 1 me0 2 1l2 3"]

/-- The runs of the property Join_Control. -/
def joinControlRuns : String :=
  "6bw 2"

/-- The runs of the property Variation_Selector. -/
def variationSelectorRuns : String :=
  "4qz 3 1 1 19f4 g i9yo 6o"

/-- The runs of the property Default_Ignorable_Code_Point. -/
def defaultIgnorableCodePointRuns : String :=
  String.join [
   "4t 1 ip 1 jw 1 282 2 18z 2 2d 5 1kr 5 q 5 1d g 3ck 1 14ez g 6n 1 4g 1 27 9 119j 4 43z 8 h405 ",
   "35s"]

/-- The runs of the property Deprecated. -/
def deprecatedRuns : String :=
  "95 1 10p 1 1s3 1 1 1 1m1 2 1qd 6 jd 2 jh06 1"

/-- The runs of the property Noncharacter_Code_Point. -/
def noncharacterCodePointRuns : String :=
  String.join [
   "1e4w w em 2 1eke 2 1eke 2 1eke 2 1eke 2 1eke 2 1eke 2 1eke 2 1eke 2 1eke 2 1eke 2 1eke 2 1eke ",
   "2 1eke 2 1eke 2 1eke 2 1eke 2"]

/-- The runs of the property Bidi_Control. -/
def bidiControlRuns : String :=
  "17g 1 54h 2 q 5 1j 4"

/-- The runs of the property Bidi_Mirrored. -/
def bidiMirroredRuns : String :=
  String.join [
   "14 2 i 1 1 1 s 1 1 1 t 1 1 1 19 1 f 1 2v2 4 1gd 2 1wc 2 a 2 1i 2 e 2 4x 1 5c 4 3 6 3 1 3 2 3 ",
   "4 1 4 1 1 1 1 4 9 5 1 1 i 5 4 9 2 1 1 1 8 2 v 2 4 5 1 9 2 2 j 5 2 9 5 2 2 4 o 2 g 8 4 k 2 7 2 ",
   "u5 e 22 1 2 4 1 2 1 3 5 4 5 3 3 e b7 m 2 6 1 e 8 1 7 6 3 1 4 5 1 2 2 5 4 1 1 3 2 2 a 6 2 2 c ",
   "j 1 4 2 1 1 1 2 1 1 4 5 2 6 3 o 2 b 2 4 4 1 2 2 2 4 17 2 8 1 14 5 1 1 1 3 5 5 3 4 1 3 5 1 1 ",
   "74 1 eb 4 3 2 1 2 e 2 2 a 17 8 bv a 2 8 14ql 6 5 2 4i 2 i 1 1 1 s 1 1 1 t 1 1 1 1 2 1 2 16k7 ",
   "1 1l 1 1l 1 1l 1 1l 1"]

/-- The properties of this table by their names. -/
def graphemeProperties : List (List String × String) :=
  [(["Grapheme_Base", "Gr_Base"], graphemeBaseRuns),
   (["Grapheme_Extend", "Gr_Ext"], graphemeExtendRuns), (["Diacritic", "Dia"], diacriticRuns),
   (["Extender", "Ext"], extenderRuns), (["Join_Control", "Join_C"], joinControlRuns),
   (["Variation_Selector", "VS"], variationSelectorRuns),
   (["Default_Ignorable_Code_Point", "DI"], defaultIgnorableCodePointRuns),
   (["Deprecated", "Dep"], deprecatedRuns),
   (["Noncharacter_Code_Point", "NChar"], noncharacterCodePointRuns),
   (["Bidi_Control", "Bidi_C"], bidiControlRuns), (["Bidi_Mirrored", "Bidi_M"], bidiMirroredRuns)]

end FieldValidation.Unicode
