/-!
# Letters and identifiers

Properties of Unicode characters, each as the lengths in base 36 of the runs of code points
without it and with it, by turns from U+0000 on.
-/

namespace FieldValidation.Unicode

/-- The runs of the property ID_Start. -/
def idStartRuns : String :=
  String.join [
   "1t q 6 q 1b 1 a 1 4 1 5 n 1 v 1 cq 4 c e 5 7 1 1 1 3l 5 1 2 2 4 1 1 6 1 1 3 1 1 1 k 1 2b 1 3v ",
   "8 4m 1 12 2 1 6 15 1z r 4 4 19 17 z 2 1 2r 1 1 f 2 7 2 a 3 2 1 g 1 1 u t 2h b 1 o x 9 2 4 1 5 ",
   "m 4 1 9 1 3 1 n p 7 b 5 o 1 6 h 16 1m 1i 3 1 i 1 7 a f g 4 8 2 2 2 m 1 7 1 1 3 4 3 1 g 1 d 2 ",
   "1 3 e 2 a 1 8 6 4 2 2 m 1 7 1 2 1 2 1 2 v 4 1 1 j 3 g 9 1 3 1 m 1 7 1 2 1 5 3 1 i 1 f 2 n 1 b ",
   "8 2 2 2 m 1 7 1 2 1 5 3 1 u 2 1 3 f 1 h 1 1 6 3 3 1 4 3 2 1 1 1 2 3 2 3 3 3 c m 1 1g 8 1 3 1 ",
   "n 1 g 3 1 q 3 2 1 2 2 u 1 4 8 1 3 1 n 1 a 1 5 3 1 v 2 1 2 f 2 h 9 1 3 1 15 2 1 g 1 5 3 8 3 o ",
   "6 5 i 3 o 1 9 1 1 2 7 1m 1c 1 2 c 7 1m 2 1 1 1 5 1 o 1 1 1 a 1 2 9 1 2 5 1 1 l 4 w 1 1r 8 1 ",
   "10 r 5 37 17 k 1 g 6 4 4 3 1 3 2 7 3 4 d c 1 h 12 1 1 5 1 2 17 1 99 1 4 2 7 1 1 1 4 2 15 1 4 ",
   "2 x 1 4 2 7 1 1 1 4 2 f 1 1l 1 4 2 1v 11 g g 2e 2 6 3 h8 2 h 1 q 5 23 3 b 7 i d j e i e d 1 3 ",
   "f 1g z 1 4 1 1v 2h 7 15 1 1 5 1y a v 1d u 2 5 b 18 4 q 1i n 9 1h 2a 1 2l 1b h 8 1i u d 2 a 18 ",
   "q 10 15 3 a 10 2 9 7 17 2 3 15 4 1 6 1 2 3 1 5 5c 1s 7q 2 6 2 12 2 6 2 8 1 1 1 1 1 1 1 v 2 1h ",
   "1 7 1 1 3 3 1 7 3 4 2 6 4 d 5 3 1 7 38 1 d 1 g d 2t 1 4 1 2 a 1 1 2 6 6 1 1 1 1 1 1 g 2 4 5 5 ",
   "4 1 h 15 22f 6d 6 4 3 2 c 12 1 1 5 1 2 1k 7 1 g n 9 7 1 7 1 7 1 7 1 7 1 7 1 7 1 7 fa 3 p 9 7 ",
   "5 2 5 4 2e 4 5 1 2i 1 4 5 17 1 2m h w 1c g e8 534 1s h3h 1v 1a 2 7h 3 g a 2 k 1b g v 2 28 13 ",
   "9 2 2v 2 1s 5 2 1 1 1 5 o g 1 3 1 4 1 n t 1g e 1e 1q 6 3 1 1 2 b s a n p t 7 1b s 1 g 5 1 a a ",
   "5 1 15 n 3 1 8 k n 3 1 3 1e 1 1 3 2 2 5 2 1 1 1 o 3 2 b 7 3 c 6 2 6 2 6 9 7 1 7 1 17 1 e 6 37 ",
   "t 8mc c n 4 1d 6is a6 2 2y 12 7 c 5 5 1 1 a 1 d 1 5 1 1 1 2 1 2 1 30 x a3 i 1s 2 1i 14 c 38 5 ",
   "1 3r 10 q 6 q b 2h 3 6 2 6 2 6 2 3 z c 1 q 1 j 1 2 1 f 2 e y 3f 1x 1h 7f t 3 1d 1b w d u 5 12 ",
   "a u 2 10 4 8 1 5 16 4e i 10 4 10 4 14 8 1g c b 1 f 1 7 1 2 1 b 1 f 1 7 1 2 1v 8n 9 m a 8 o 6 ",
   "1 16 1 9 1x 6 2 1 1 18 1 2 3 1 2 n a n 9 v 1t j 1 2 a m a q 1y 1k 6 2 1s 1 f 4 1 3 1 t 16 t 3 ",
   "t z 8 1 s r 1i a m a j d i 32 21 1j 1f d 1f d 10 9o 16 6 2 26 t a 1 8 m 16 i 1a l r n c 1h 1l ",
   "2 2 1 d 19 w p q 10 t 1 2 1 8 z 3 1 c 1c e 4 l 1 1 1 z i 1 p j 2 1r 7 1 1 1 4 1 f 1 a 7 1b 12 ",
   "8 2 2 2 m 1 7 1 2 1 5 3 1 i 1 c 5 4e 1h i 4 k 3 u 1c k 2 1 1 54 1b 15 4 10 1c k 1 1n 17 d 1 ",
   "1z r 11 7 55 18 38 1s v 8 2 1 2 8 1 2 1 o f 1 1 1 2m 8 2 13 g 1 1 1 s 1 a 14 7 1 l 1 b 1a j 1 ",
   "i 21 7b 9 1 11 h 1 1d u 34 7 1 2 1 12 l 1 p 6 1 2 1 w e 1 93 j f 1 1 d 1 y 3g 1 27 pm 2u 33 h ",
   "5g 218 2p f ts h 6 33t g7 6nt ft 7 v h 27 h u i 1c g 4 v l 5 j j4 1s 3k 23 5 1 1u d 1s 2 1 1 ",
   "s 4qg 8 ye 16 9 6w7 4 1 7 1 2 1 83 f 1 t 3 2 1 e 4 8 b0 1s4 2z 5 d 3 9 7 a 4me 2d 1 1z 1 2 2 ",
   "1 2 2 2 4 1 c 1 1 1 7 1 1t 1 4 2 8 1 7 1 s 1 4 1 5 1 1 3 7 1 9g 2 p 1 p 1 v 1 p 1 v 1 p 1 v 1 ",
   "p 1 v 1 p 1 8 1f8 v 6 6 79 1q 42 19 a 7 g 1 8x u i 18 dg s l0 7 1 4 1 2 1 f 1 5h 1n 1w 7 1 xg ",
   "4 1 r 1 2 1 1 2 1 1 a 1 4 1 1 1 1 6 1 4 1 1 1 1 1 1 3 1 2 1 1 2 1 1 1 1 1 1 1 1 1 1 2 1 1 2 4 ",
   "1 7 1 4 1 4 1 1 1 a 1 h 5 3 1 5 1 h 3es wyo w 37e 6 66 2 4g2 e 5rl 2e7 f2 15u 3t7 5 38g"]

/-- The runs of the property ID_Continue. -/
def idContinueRuns : String :=
  String.join [
   "1c a 7 q 4 1 1 q 1b 1 a 1 1 1 2 1 5 n 1 v 1 cq 4 c e 5 7 1 1 1 h 39 1 2 2 4 1 1 6 5 1 1 1 k 1 ",
   "2b 1 3v 1 5 2 4m 1 12 2 1 6 15 8 19 1 1 1 2 1 2 1 1 8 r 4 4 t b 5 22 4 2u 1 8 2 a 1 j 2 1 g ",
   "1n 2 2t e 1i 4 1 2 1 2 1a i s 4 b 5 o 1 6 9 22 1 3l 2 a 1 j 1 8 2 2 2 m 1 7 1 1 3 4 2 9 2 2 2 ",
   "4 8 1 4 2 1 5 2 c a 1 1 1 2 3 1 6 4 2 2 m 1 7 1 2 1 2 1 2 2 1 1 5 4 2 2 3 3 1 7 4 1 1 7 g b 3 ",
   "1 9 1 3 1 m 1 7 1 2 1 5 2 a 1 3 1 3 2 1 f 4 2 a 9 7 1 3 1 8 2 2 2 m 1 7 1 2 1 5 2 9 2 2 2 3 7 ",
   "3 4 2 1 5 2 a 1 1 g 2 1 6 3 3 1 4 3 2 1 1 1 2 3 2 3 3 3 c 4 5 3 3 1 4 2 1 6 1 e a g d 1 3 1 n ",
   "1 g 2 9 1 3 1 4 7 2 1 3 2 1 2 4 2 a g 4 1 8 1 3 1 n 1 a 1 5 2 9 1 3 1 4 7 2 6 2 1 4 2 a 1 3 c ",
   "d 1 3 1 1f 1 3 1 5 5 4 7 5 2 a a 6 1 3 1 i 3 o 1 9 1 1 2 7 3 1 4 6 1 1 1 8 6 a 2 2 d 1m 5 f 1 ",
   "a 13 2 1 1 1 5 1 o 1 1 1 n 2 5 1 1 1 7 1 a 2 4 w 1 n 2 6 a b 1 1 1 1 1 4 a 1 10 4 k 1 i 1 10 ",
   "9 1 1l 22 6 26 2 12 1 1 5 1 2 17 1 99 1 4 2 7 1 1 1 4 2 15 1 4 2 x 1 4 2 7 1 1 1 4 2 f 1 1l 1 ",
   "4 2 1v 2 3 9 9 e g g 2e 2 6 3 h8 2 h 1 q 5 23 3 b 7 m 9 m b k c d 1 3 1 2 c 2c 3 1 4 2 2 a x ",
   "3 1 b 6 2h 7 17 5 1y a v 1 c 4 c a 14 2 5 b 18 4 q 6 b 11 s 4 1r 1 t 2 b 6 a d 1 8 e 1 g 1d ",
   "25 3 a h 9 c 38 c 1k 8 a 3 1d 2 9 7 17 2 3 g 3 1 13 5 eu 2 6 2 12 2 6 2 8 1 1 1 1 1 1 1 v 2 ",
   "1h 1 7 1 1 3 3 1 7 3 4 2 6 4 d 5 3 1 7 1u 2 j 1 s 1 d 1 g d 1f d 4 1 3 c h 1 4 1 2 a 1 1 2 6 ",
   "6 1 1 1 1 1 1 g 2 4 5 5 4 1 h 15 22f 6d 6 9 c 12 1 1 5 1 2 1k 7 1 f o 9 7 1 7 1 7 1 7 1 7 1 7 ",
   "1 7 1 7 1 w ed 3 p f 1 5 2 5 4 2e 2 7 1 2i 1 4 5 17 1 2m h w 1c g e8 534 1s h3h 1v 1a 2 7h 3 ",
   "s k 1c 4 a 1 37 11 9 2 2v 2 1s 5 2 1 1 1 5 o 1i 4 1 j 1g c 1y a a 6 o 3 1 1 1d 2 10 c t 3 1t ",
   "e b 6 v 1 1j 9 e 2 a 6 n 3 21 o 3 2 g 2 5 a 6 2 6 2 6 9 7 1 7 1 17 1 e 6 3f 1 2 2 a 6 8mc c n ",
   "4 1d 6is a6 2 2y 12 7 c 5 5 c 1 d 1 5 1 1 1 2 1 2 1 30 x a3 i 1s 2 1i 14 c 4 g g g 3 2 o 3 w ",
   "5 1 3r j a 7 q 4 1 1 q b 2h 3 6 2 6 2 6 2 3 z c 1 q 1 j 1 2 1 f 2 e y 3f 1x 1h 3s 1 3m t 3 1d ",
   "f 1 v w d u 5 17 5 u 2 10 4 8 1 5 16 4e 2 a 6 10 4 10 4 14 8 1g c b 1 f 1 7 1 2 1 b 1 f 1 7 1 ",
   "2 1v 8n 9 m a 8 o 6 1 16 1 9 1x 6 2 1 1 18 1 2 3 1 2 n a n 9 v 1t j 1 2 a m a q 1y 1k 6 2 1s ",
   "4 1 2 5 8 1 3 1 t 2 3 4 1 w t 3 t z 8 1 u p 1i a m a j d i 32 21 1j 1f d 1f d 14 8 a 92 16 1 ",
   "2 3 2 23 w a 1 8 x v m 16 l r n 9 1z v g 9 1o 7 1 d p 7 a 6 1h 1 a 4 4 8 10 2 1 9 1x 4 4 1 d ",
   "1 1 z i 1 11 6 4 1q 7 1 1 1 4 1 f 1 a 7 1n 5 a 6 4 1 8 2 2 2 m 1 7 1 2 1 5 1 a 2 2 2 3 2 1 6 ",
   "1 5 7 2 7 3 5 3v 23 5 a 4 4 u 1y 1 1 8 a 4m 1i 2 9 n 6 y 1t 3 1 b a 12 1l 7 a 1i r 2 f 4 a 6 ",
   "7 55 1n 2t 22 l 8 2 1 2 8 1 2 1 u 1 2 2 9 c a 1y 8 2 1a 2 8 1 2 r 1r 8 1 8 22 3 1 i 21 7b 9 1 ",
   "19 1 9 f a o u 2 m 1 e 21 7 1 2 1 18 3 1 1 2 1 9 8 a 6 6 1 2 1 11 1 2 1 6 7 a 8m n 9 h 1 15 3 ",
   "5 d a 2e 1 27 pm 2u 33 h 5g 218 2p f ts g m 33e g7 6nt ft 7 v 1 a 6 27 1 a 6 u 2 5 b 1j 9 4 c ",
   "a 9 l 5 j j4 1s 3k 23 4 1l 7 h 1s 2 1 2 b 2 e 4qg 8 ye 16 9 6w7 4 1 7 1 2 1 83 f 1 t 3 2 1 e ",
   "4 8 b0 1s4 2z 5 d 3 9 7 a 3 2 3mp 1a 2 n f2 5 3 6 8 8 2 7 u 4 44 3 cb 2d 1 1z 1 2 2 1 2 2 2 4 ",
   "1 c 1 1 1 7 1 1t 1 4 2 8 1 7 1 s 1 4 1 5 1 1 3 7 1 9g 2 p 1 p 1 v 1 p 1 v 1 p 1 v 1 p 1 v 1 p ",
   "1 8 2 1e e8 1j 4 1e 8 1 e 1 m 5 1 f uo v 6 6 5x 7 1 h 2 7 1 2 1 5 5 1q x 1 34 19 3 e 2 a 4 1 ",
   "8x v h 1m d2 16 km 7 1 4 1 2 1 f 1 5h b 7 15 24 4 a x2 4 1 r 1 2 1 1 2 1 1 a 1 4 1 1 1 1 6 1 ",
   "4 1 1 1 1 1 1 3 1 2 1 1 2 1 1 1 1 1 1 1 1 1 1 2 1 1 2 4 1 7 1 4 1 4 1 1 1 a 1 h 5 3 1 5 1 h ",
   "2lw a sm wyo w 37e 6 66 2 4g2 e 5rl 2e7 f2 15u 3t7 5 38g f9e8 6o"]

/-- The runs of the property XID_Start. -/
def xidStartRuns : String :=
  String.join [
   "1t q 6 q 1b 1 a 1 4 1 5 n 1 v 1 cq 4 c e 5 7 1 1 1 3l 5 1 2 3 3 1 1 6 1 1 3 1 1 1 k 1 2b 1 3v ",
   "8 4m 1 12 2 1 6 15 1z r 4 4 19 17 z 2 1 2r 1 1 f 2 7 2 a 3 2 1 g 1 1 u t 2h b 1 o x 9 2 4 1 5 ",
   "m 4 1 9 1 3 1 n p 7 b 5 o 1 6 h 16 1m 1i 3 1 i 1 7 a f g 4 8 2 2 2 m 1 7 1 1 3 4 3 1 g 1 d 2 ",
   "1 3 e 2 a 1 8 6 4 2 2 m 1 7 1 2 1 2 1 2 v 4 1 1 j 3 g 9 1 3 1 m 1 7 1 2 1 5 3 1 i 1 f 2 n 1 b ",
   "8 2 2 2 m 1 7 1 2 1 5 3 1 u 2 1 3 f 1 h 1 1 6 3 3 1 4 3 2 1 1 1 2 3 2 3 3 3 c m 1 1g 8 1 3 1 ",
   "n 1 g 3 1 q 3 2 1 2 2 u 1 4 8 1 3 1 n 1 a 1 5 3 1 v 2 1 2 f 2 h 9 1 3 1 15 2 1 g 1 5 3 8 3 o ",
   "6 5 i 3 o 1 9 1 1 2 7 1m 1c 1 1 d 7 1m 2 1 1 1 5 1 o 1 1 1 a 1 1 a 1 2 5 1 1 l 4 w 1 1r 8 1 ",
   "10 r 5 37 17 k 1 g 6 4 4 3 1 3 2 7 3 4 d c 1 h 12 1 1 5 1 2 17 1 99 1 4 2 7 1 1 1 4 2 15 1 4 ",
   "2 x 1 4 2 7 1 1 1 4 2 f 1 1l 1 4 2 1v 11 g g 2e 2 6 3 h8 2 h 1 q 5 23 3 b 7 i d j e i e d 1 3 ",
   "f 1g z 1 4 1 1v 2h 7 15 1 1 5 1y a v 1d u 2 5 b 18 4 q 1i n 9 1h 2a 1 2l 1b h 8 1i u d 2 a 18 ",
   "q 10 15 3 a 10 2 9 7 17 2 3 15 4 1 6 1 2 3 1 5 5c 1s 7q 2 6 2 12 2 6 2 8 1 1 1 1 1 1 1 v 2 1h ",
   "1 7 1 1 3 3 1 7 3 4 2 6 4 d 5 3 1 7 38 1 d 1 g d 2t 1 4 1 2 a 1 1 2 6 6 1 1 1 1 1 1 g 2 4 5 5 ",
   "4 1 h 15 22f 6d 6 4 3 2 c 12 1 1 5 1 2 1k 7 1 g n 9 7 1 7 1 7 1 7 1 7 1 7 1 7 1 7 fa 3 p 9 7 ",
   "5 2 5 4 2e 6 3 1 2i 1 4 5 17 1 2m h w 1c g e8 534 1s h3h 1v 1a 2 7h 3 g a 2 k 1b g v 2 28 13 ",
   "9 2 2v 2 1s 5 2 1 1 1 5 o g 1 3 1 4 1 n t 1g e 1e 1q 6 3 1 1 2 b s a n p t 7 1b s 1 g 5 1 a a ",
   "5 1 15 n 3 1 8 k n 3 1 3 1e 1 1 3 2 2 5 2 1 1 1 o 3 2 b 7 3 c 6 2 6 2 6 9 7 1 7 1 17 1 e 6 37 ",
   "t 8mc c n 4 1d 6is a6 2 2y 12 7 c 5 5 1 1 a 1 d 1 5 1 1 1 2 1 2 1 30 x 3v 6 62 i 1s 2 1i 14 a ",
   "3b 1 1 1 3 1 1 1 1 1 1 1 1 3i 10 q 6 q b 1k 2 v 3 6 2 6 2 6 2 3 z c 1 q 1 j 1 2 1 f 2 e y 3f ",
   "1x 1h 7f t 3 1d 1b w d u 5 12 a u 2 10 4 8 1 5 16 4e i 10 4 10 4 14 8 1g c b 1 f 1 7 1 2 1 b ",
   "1 f 1 7 1 2 1v 8n 9 m a 8 o 6 1 16 1 9 1x 6 2 1 1 18 1 2 3 1 2 n a n 9 v 1t j 1 2 a m a q 1y ",
   "1k 6 2 1s 1 f 4 1 3 1 t 16 t 3 t z 8 1 s r 1i a m a j d i 32 21 1j 1f d 1f d 10 9o 16 6 2 26 ",
   "t a 1 8 m 16 i 1a l r n c 1h 1l 2 2 1 d 19 w p q 10 t 1 2 1 8 z 3 1 c 1c e 4 l 1 1 1 z i 1 p ",
   "j 2 1r 7 1 1 1 4 1 f 1 a 7 1b 12 8 2 2 2 m 1 7 1 2 1 5 3 1 i 1 c 5 4e 1h i 4 k 3 u 1c k 2 1 1 ",
   "54 1b 15 4 10 1c k 1 1n 17 d 1 1z r 11 7 55 18 38 1s v 8 2 1 2 8 1 2 1 o f 1 1 1 2m 8 2 13 g ",
   "1 1 1 s 1 a 14 7 1 l 1 b 1a j 1 i 21 7b 9 1 11 h 1 1d u 34 7 1 2 1 12 l 1 p 6 1 2 1 w e 1 93 ",
   "j f 1 1 d 1 y 3g 1 27 pm 2u 33 h 5g 218 2p f ts h 6 33t g7 6nt ft 7 v h 27 h u i 1c g 4 v l 5 ",
   "j j4 1s 3k 23 5 1 1u d 1s 2 1 1 s 4qg 8 ye 16 9 6w7 4 1 7 1 2 1 83 f 1 t 3 2 1 e 4 8 b0 1s4 ",
   "2z 5 d 3 9 7 a 4me 2d 1 1z 1 2 2 1 2 2 2 4 1 c 1 1 1 7 1 1t 1 4 2 8 1 7 1 s 1 4 1 5 1 1 3 7 1 ",
   "9g 2 p 1 p 1 v 1 p 1 v 1 p 1 v 1 p 1 v 1 p 1 8 1f8 v 6 6 79 1q 42 19 a 7 g 1 8x u i 18 dg s ",
   "l0 7 1 4 1 2 1 f 1 5h 1n 1w 7 1 xg 4 1 r 1 2 1 1 2 1 1 a 1 4 1 1 1 1 6 1 4 1 1 1 1 1 1 3 1 2 ",
   "1 1 2 1 1 1 1 1 1 1 1 1 1 2 1 1 2 4 1 7 1 4 1 4 1 1 1 a 1 h 5 3 1 5 1 h 3es wyo w 37e 6 66 2 ",
   "4g2 e 5rl 2e7 f2 15u 3t7 5 38g"]

/-- The runs of the property XID_Continue. -/
def xidContinueRuns : String :=
  String.join [
   "1c a 7 q 4 1 1 q 1b 1 a 1 1 1 2 1 5 n 1 v 1 cq 4 c e 5 7 1 1 1 h 39 1 2 3 3 1 1 6 5 1 1 1 k 1 ",
   "2b 1 3v 1 5 2 4m 1 12 2 1 6 15 8 19 1 1 1 2 1 2 1 1 8 r 4 4 t b 5 22 4 2u 1 8 2 a 1 j 2 1 g ",
   "1n 2 2t e 1i 4 1 2 1 2 1a i s 4 b 5 o 1 6 9 22 1 3l 2 a 1 j 1 8 2 2 2 m 1 7 1 1 3 4 2 9 2 2 2 ",
   "4 8 1 4 2 1 5 2 c a 1 1 1 2 3 1 6 4 2 2 m 1 7 1 2 1 2 1 2 2 1 1 5 4 2 2 3 3 1 7 4 1 1 7 g b 3 ",
   "1 9 1 3 1 m 1 7 1 2 1 5 2 a 1 3 1 3 2 1 f 4 2 a 9 7 1 3 1 8 2 2 2 m 1 7 1 2 1 5 2 9 2 2 2 3 7 ",
   "3 4 2 1 5 2 a 1 1 g 2 1 6 3 3 1 4 3 2 1 1 1 2 3 2 3 3 3 c 4 5 3 3 1 4 2 1 6 1 e a g d 1 3 1 n ",
   "1 g 2 9 1 3 1 4 7 2 1 3 2 1 2 4 2 a g 4 1 8 1 3 1 n 1 a 1 5 2 9 1 3 1 4 7 2 6 2 1 4 2 a 1 3 c ",
   "d 1 3 1 1f 1 3 1 5 5 4 7 5 2 a a 6 1 3 1 i 3 o 1 9 1 1 2 7 3 1 4 6 1 1 1 8 6 a 2 2 d 1m 5 f 1 ",
   "a 13 2 1 1 1 5 1 o 1 1 1 n 2 5 1 1 1 7 1 a 2 4 w 1 n 2 6 a b 1 1 1 1 1 4 a 1 10 4 k 1 i 1 10 ",
   "9 1 1l 22 6 26 2 12 1 1 5 1 2 17 1 99 1 4 2 7 1 1 1 4 2 15 1 4 2 x 1 4 2 7 1 1 1 4 2 f 1 1l 1 ",
   "4 2 1v 2 3 9 9 e g g 2e 2 6 3 h8 2 h 1 q 5 23 3 b 7 m 9 m b k c d 1 3 1 2 c 2c 3 1 4 2 2 a x ",
   "3 1 b 6 2h 7 17 5 1y a v 1 c 4 c a 14 2 5 b 18 4 q 6 b 11 s 4 1r 1 t 2 b 6 a d 1 8 e 1 g 1d ",
   "25 3 a h 9 c 38 c 1k 8 a 3 1d 2 9 7 17 2 3 g 3 1 13 5 eu 2 6 2 12 2 6 2 8 1 1 1 1 1 1 1 v 2 ",
   "1h 1 7 1 1 3 3 1 7 3 4 2 6 4 d 5 3 1 7 1u 2 j 1 s 1 d 1 g d 1f d 4 1 3 c h 1 4 1 2 a 1 1 2 6 ",
   "6 1 1 1 1 1 1 g 2 4 5 5 4 1 h 15 22f 6d 6 9 c 12 1 1 5 1 2 1k 7 1 f o 9 7 1 7 1 7 1 7 1 7 1 7 ",
   "1 7 1 7 1 w ed 3 p f 1 5 2 5 4 2e 2 2 2 3 1 2i 1 4 5 17 1 2m h w 1c g e8 534 1s h3h 1v 1a 2 ",
   "7h 3 s k 1c 4 a 1 37 11 9 2 2v 2 1s 5 2 1 1 1 5 o 1i 4 1 j 1g c 1y a a 6 o 3 1 1 1d 2 10 c t ",
   "3 1t e b 6 v 1 1j 9 e 2 a 6 n 3 21 o 3 2 g 2 5 a 6 2 6 2 6 9 7 1 7 1 17 1 e 6 3f 1 2 2 a 6 ",
   "8mc c n 4 1d 6is a6 2 2y 12 7 c 5 5 c 1 d 1 5 1 1 1 2 1 2 1 30 x 3v 6 62 i 1s 2 1i 14 a 6 g g ",
   "g 3 2 o 3 x 1 1 1 3 1 1 1 1 1 1 1 1 3i j a 7 q 4 1 1 q b 2h 3 6 2 6 2 6 2 3 z c 1 q 1 j 1 2 1 ",
   "f 2 e y 3f 1x 1h 3s 1 3m t 3 1d f 1 v w d u 5 17 5 u 2 10 4 8 1 5 16 4e 2 a 6 10 4 10 4 14 8 ",
   "1g c b 1 f 1 7 1 2 1 b 1 f 1 7 1 2 1v 8n 9 m a 8 o 6 1 16 1 9 1x 6 2 1 1 18 1 2 3 1 2 n a n 9 ",
   "v 1t j 1 2 a m a q 1y 1k 6 2 1s 4 1 2 5 8 1 3 1 t 2 3 4 1 w t 3 t z 8 1 u p 1i a m a j d i 32 ",
   "21 1j 1f d 1f d 14 8 a 92 16 1 2 3 2 23 w a 1 8 x v m 16 l r n 9 1z v g 9 1o 7 1 d p 7 a 6 1h ",
   "1 a 4 4 8 10 2 1 9 1x 4 4 1 d 1 1 z i 1 11 6 4 1q 7 1 1 1 4 1 f 1 a 7 1n 5 a 6 4 1 8 2 2 2 m ",
   "1 7 1 2 1 5 1 a 2 2 2 3 2 1 6 1 5 7 2 7 3 5 3v 23 5 a 4 4 u 1y 1 1 8 a 4m 1i 2 9 n 6 y 1t 3 1 ",
   "b a 12 1l 7 a 1i r 2 f 4 a 6 7 55 1n 2t 22 l 8 2 1 2 8 1 2 1 u 1 2 2 9 c a 1y 8 2 1a 2 8 1 2 ",
   "r 1r 8 1 8 22 3 1 i 21 7b 9 1 19 1 9 f a o u 2 m 1 e 21 7 1 2 1 18 3 1 1 2 1 9 8 a 6 6 1 2 1 ",
   "11 1 2 1 6 7 a 8m n 9 h 1 15 3 5 d a 2e 1 27 pm 2u 33 h 5g 218 2p f ts g m 33e g7 6nt ft 7 v ",
   "1 a 6 27 1 a 6 u 2 5 b 1j 9 4 c a 9 l 5 j j4 1s 3k 23 4 1l 7 h 1s 2 1 2 b 2 e 4qg 8 ye 16 9 ",
   "6w7 4 1 7 1 2 1 83 f 1 t 3 2 1 e 4 8 b0 1s4 2z 5 d 3 9 7 a 3 2 3mp 1a 2 n f2 5 3 6 8 8 2 7 u ",
   "4 44 3 cb 2d 1 1z 1 2 2 1 2 2 2 4 1 c 1 1 1 7 1 1t 1 4 2 8 1 7 1 s 1 4 1 5 1 1 3 7 1 9g 2 p 1 ",
   "p 1 v 1 p 1 v 1 p 1 v 1 p 1 v 1 p 1 8 2 1e e8 1j 4 1e 8 1 e 1 m 5 1 f uo v 6 6 5x 7 1 h 2 7 1 ",
   "2 1 5 5 1q x 1 34 19 3 e 2 a 4 1 8x v h 1m d2 16 km 7 1 4 1 2 1 f 1 5h b 7 15 24 4 a x2 4 1 r ",
   "1 2 1 1 2 1 1 a 1 4 1 1 1 1 6 1 4 1 1 1 1 1 1 3 1 2 1 1 2 1 1 1 1 1 1 1 1 1 1 2 1 1 2 4 1 7 1 ",
   "4 1 4 1 1 1 a 1 h 5 3 1 5 1 h 2lw a sm wyo w 37e 6 66 2 4g2 e 5rl 2e7 f2 15u 3t7 5 38g f9e8 6o"]

/-- The runs of the property Alphabetic. -/
def alphabeticRuns : String :=
  String.join [
   "1t q 6 q 1b 1 a 1 4 1 5 n 1 v 1 cq 4 c e 5 7 1 1 1 2e 1 16 5 1 2 2 4 1 1 6 1 1 3 1 1 1 k 1 2b ",
   "1 3v 8 4m 1 12 2 1 6 15 13 e 1 1 1 2 1 2 1 1 8 r 4 4 t b 5 1k 1 7 e 2u 1 8 4 8 4 3 a 3 2 1 g ",
   "1c d 2t o x 9 2 4 1 5 o 2 j j p 7 b 5 o 1 6 h 16 a c 3 7 6 24 1 g 1 3 4 f d j 1 8 2 2 2 m 1 7 ",
   "1 1 3 4 3 8 2 2 2 2 1 1 8 1 4 2 1 5 c 2 a 1 4 3 1 6 4 2 2 m 1 7 1 2 1 2 1 2 4 5 4 2 2 2 4 1 7 ",
   "4 1 1 h 6 b 3 1 9 1 3 1 m 1 7 1 2 1 5 3 9 1 3 1 2 3 1 f 4 l 4 4 3 1 8 2 2 2 m 1 7 1 2 1 5 3 8 ",
   "2 2 2 2 9 2 4 2 1 5 d 1 g 2 1 6 3 3 1 4 3 2 1 1 1 2 3 2 3 3 3 c 4 5 3 3 1 3 3 1 6 1 14 d 1 3 ",
   "1 n 1 g 3 8 1 3 1 3 8 2 1 3 2 1 2 4 s 4 1 8 1 3 1 n 1 a 1 5 3 8 1 3 1 3 8 2 6 2 1 4 d 3 c d 1 ",
   "3 1 15 2 8 1 3 1 3 1 1 5 4 7 5 m 6 1 3 1 i 3 o 1 9 1 1 2 7 8 6 1 1 1 8 i 2 d 1m 5 7 6 1 1f 2 ",
   "1 1 1 5 1 o 1 1 1 j 1 3 2 5 1 1 6 1 e 4 w 1 1r 8 1 10 4 j 4 g 1 10 1v 1j 1 1 2 5 g 1s a 4 2 ",
   "12 1 1 5 1 2 17 1 99 1 4 2 7 1 1 1 4 2 15 1 4 2 x 1 4 2 7 1 1 1 4 2 f 1 1l 1 4 2 1v 11 g g 2e ",
   "2 6 3 h8 2 h 1 q 5 23 3 b 7 k b l c k c d 1 3 1 2 c 1g 2 j e 1 4 1 1v 2h 7 17 5 1y a v 1 c 4 ",
   "9 n u 2 5 b 18 4 q 1i s 4 1r 2 k 1e 1 n 2 b 3 1d 1g 1 f 1 8 1f 16 2 4 a 18 1 b e 1j m 3 a 10 ",
   "2 9 7 17 2 3 15 4 1 6 1 2 3 1 5 5c 13 e b 7q 2 6 2 12 2 6 2 8 1 1 1 1 1 1 1 v 2 1h 1 7 1 1 3 ",
   "3 1 7 3 4 2 6 4 d 5 3 1 7 38 1 d 1 g d 2t 1 4 1 2 a 1 1 3 5 6 1 1 1 1 1 1 4 1 b 2 4 5 5 4 1 h ",
   "15 ml 1g 1ee 6d 6 4 3 2 c 12 1 1 5 1 2 1k 7 1 g n 9 7 1 7 1 7 1 7 1 7 1 7 1 7 1 7 1 w 1b 1 d1 ",
   "3 p 9 7 5 2 5 4 2e 6 3 1 2i 1 4 5 17 1 2m h w 1c g e8 534 1s h3h 1v 1a 2 7h 3 g a 2 k 1b 5 8 ",
   "3 35 13 9 2 2v 2 1s 5 2 1 1 1 5 o k 1 x o 1g c 1w 1 1 18 6 3 1 1 3 a x 5 z d t 3 1f 1 c f 1 g ",
   "g a 5 1 1j 9 e i n 3 1x 1 1 1 1 o 3 2 g 2 4 b 6 2 6 2 6 9 7 1 7 1 17 1 e 6 3f l 8mc c n 4 1d ",
   "6is a6 2 2y 12 7 c 5 5 c 1 d 1 5 1 1 1 2 1 2 1 30 x a3 i 1s 2 1i 14 c 38 5 1 3r 10 q 6 q b 2h ",
   "3 6 2 6 2 6 2 3 z c 1 q 1 j 1 2 1 f 2 e y 3f 1x 1h 7f t 3 1d 1b w d u 5 17 5 u 2 10 4 8 1 5 ",
   "16 4e i 10 4 10 4 14 8 1g c b 1 f 1 7 1 2 1 b 1 f 1 7 1 2 1v 8n 9 m a 8 o 6 1 16 1 9 1x 6 2 1 ",
   "1 18 1 2 3 1 2 n a n 9 v 1t j 1 2 a m a q 1y 1k 6 2 1s 4 1 2 5 8 1 3 1 t 16 t 3 t z 8 1 s r ",
   "1i a m a j d i 32 21 1j 1f d 1f d 14 9k 16 1 2 3 2 26 t a 1 8 m 16 i 1a l r n 9 1y 17 5 a 1l ",
   "9 1 d p n 1f h 4 8 z 3 1 9 1s 1 4 9 2 a 1 1 1 z i 1 y 2 1 6 4 1q 7 1 1 1 4 1 f 1 a 7 1l n 4 1 ",
   "8 2 2 2 m 1 7 1 2 1 5 3 8 2 2 2 2 3 1 6 1 5 7 4c 1u 1 3 1 4 k 3 u 1u 2 2 1 1 54 1i 2 7 p 6 y ",
   "1r 1 1 3 1 1n 1i 2 1 1z r 2 e l 7 55 1l 2v 1s v 8 2 1 2 8 1 2 1 u 1 2 2 2 2 4 2l 8 2 1a 2 6 1 ",
   "1 1 2 r 1f 2 a h 20 5 1 i 21 7b 9 1 19 1 7 1 1 1d u 2 m 1 e 21 7 1 2 1 18 3 1 1 2 1 3 1 1 2 2 ",
   "o 6 1 2 1 11 1 2 1 4 1 1 93 n 9 h 1 15 3 3 33 1 27 pm 2u 33 h 5g 218 2p f ts h 6 33t g7 6nt ",
   "ft 7 v h 27 h u i 1c g 4 v l 5 j j4 1s 3k 23 4 1l 7 h 1s 2 1 1 c 2 e 4qg 8 ye 16 9 6w7 4 1 7 ",
   "1 2 1 83 f 1 t 3 2 1 e 4 8 b0 1s4 2z 5 d 3 9 7 a 4 1 4m9 2d 1 1z 1 2 2 1 2 2 2 4 1 c 1 1 1 7 ",
   "1 1t 1 4 2 8 1 7 1 s 1 4 1 5 1 1 3 7 1 9g 2 p 1 p 1 v 1 p 1 v 1 p 1 v 1 p 1 v 1 p 1 8 1f8 v 6 ",
   "6 5x 7 1 h 2 7 1 2 1 5 5 1q x 1 34 19 a 7 g 1 8x u i 18 dg s l0 7 1 4 1 2 1 f 1 5h 1n 1w 3 1 ",
   "3 1 xg 4 1 r 1 2 1 1 2 1 1 a 1 4 1 1 1 1 6 1 4 1 1 1 1 1 1 3 1 2 1 1 2 1 1 1 1 1 1 1 1 1 1 2 ",
   "1 1 2 4 1 7 1 4 1 4 1 1 1 a 1 h 5 3 1 5 1 h hg q 6 q 6 q 2uu wyo w 37e 6 66 2 4g2 e 5rl 2e7 ",
   "f2 15u 3t7 5 38g"]

/-- The runs of the property Ideographic. -/
def ideographicRuns : String :=
  String.join [
   "9hi 2 p 9 e 3 qt 534 1s g74 hkw a6 2 2y n4a 1 r 4qg 8 ye 16 9 76v b0 f7o wyo w 37e 6 66 2 4g2 ",
   "e 5rl 2e7 f2 15u 3t7 5 38g"]

/-- The runs of the property Unified_Ideograph. -/
def unifiedIdeographRuns : String :=
  "a9s 534 1s g74 hse 2 1 1 1 2 a 1 1 1 1 2 2 3 1fpy wyo w 37e 6 66 2 4g2 e 5rl 3z3 3t7 5 38g"

/-- The runs of the property Radical. -/
def radicalRuns : String :=
  "96o q 1 2h c 5y"

/-- The runs of the property IDS_Binary_Operator. -/
def idsBinaryOperatorRuns : String :=
  "9gw 2 2 8"

/-- The runs of the property IDS_Trinary_Operator. -/
def idsTrinaryOperatorRuns : String :=
  "9gy 2"

/-- The runs of the property Logical_Order_Exception. -/
def logicalOrderExceptionRuns : String :=
  "2tc 5 3f 5 25s 3 2 1 smy 2 2 1 1 2"

/-- The properties of this table by their names. -/
def letterProperties : List (List String × String) :=
  [(["ID_Start", "IDS"], idStartRuns), (["ID_Continue", "IDC"], idContinueRuns),
   (["XID_Start", "XIDS"], xidStartRuns), (["XID_Continue", "XIDC"], xidContinueRuns),
   (["Alphabetic", "Alpha"], alphabeticRuns), (["Ideographic", "Ideo"], ideographicRuns),
   (["Unified_Ideograph", "UIdeo"], unifiedIdeographRuns), (["Radical"], radicalRuns),
   (["IDS_Binary_Operator", "IDSB"], idsBinaryOperatorRuns),
   (["IDS_Trinary_Operator", "IDST"], idsTrinaryOperatorRuns),
   (["Logical_Order_Exception", "LOE"], logicalOrderExceptionRuns)]

end FieldValidation.Unicode
