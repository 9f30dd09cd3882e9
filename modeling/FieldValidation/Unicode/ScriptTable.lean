/-!
# Scripts

The scripts of Unicode: their names, the script of every code point, and the code points that
are used with other scripts than their own.
-/

namespace FieldValidation.Unicode

/-- The scripts by their short names, each with its other names. -/
def scriptNames : List (String × List String) :=
  [("Adlm", ["Adlam"]), ("Aghb", ["Caucasian_Albanian"]), ("Ahom", ["Ahom"]), ("Arab", ["Arabic"]),
   ("Armi", ["Imperial_Aramaic"]), ("Armn", ["Armenian"]), ("Avst", ["Avestan"]),
   ("Bali", ["Balinese"]), ("Bamu", ["Bamum"]), ("Bass", ["Bassa_Vah"]), ("Batk", ["Batak"]),
   ("Beng", ["Bengali"]), ("Bhks", ["Bhaiksuki"]), ("Bopo", ["Bopomofo"]), ("Brah", ["Brahmi"]),
   ("Brai", ["Braille"]), ("Bugi", ["Buginese"]), ("Buhd", ["Buhid"]), ("Cakm", ["Chakma"]),
   ("Cans", ["Canadian_Aboriginal"]), ("Cari", ["Carian"]), ("Cham", ["Cham"]),
   ("Cher", ["Cherokee"]), ("Chrs", ["Chorasmian"]), ("Copt", ["Coptic", "Qaac"]),
   ("Cpmn", ["Cypro_Minoan"]), ("Cprt", ["Cypriot"]), ("Cyrl", ["Cyrillic"]),
   ("Deva", ["Devanagari"]), ("Diak", ["Dives_Akuru"]), ("Dogr", ["Dogra"]), ("Dsrt", ["Deseret"]),
   ("Dupl", ["Duployan"]), ("Egyp", ["Egyptian_Hieroglyphs"]), ("Elba", ["Elbasan"]),
   ("Elym", ["Elymaic"]), ("Ethi", ["Ethiopic"]), ("Geor", ["Georgian"]), ("Glag", ["Glagolitic"]),
   ("Gong", ["Gunjala_Gondi"]), ("Gonm", ["Masaram_Gondi"]), ("Goth", ["Gothic"]),
   ("Gran", ["Grantha"]), ("Grek", ["Greek"]), ("Gujr", ["Gujarati"]), ("Guru", ["Gurmukhi"]),
   ("Hang", ["Hangul"]), ("Hani", ["Han"]), ("Hano", ["Hanunoo"]), ("Hatr", ["Hatran"]),
   ("Hebr", ["Hebrew"]), ("Hira", ["Hiragana"]), ("Hluw", ["Anatolian_Hieroglyphs"]),
   ("Hmng", ["Pahawh_Hmong"]), ("Hmnp", ["Nyiakeng_Puachue_Hmong"]), ("Hung", ["Old_Hungarian"]),
   ("Ital", ["Old_Italic"]), ("Java", ["Javanese"]), ("Kali", ["Kayah_Li"]), ("Kana", ["Katakana"]),
   ("Kawi", ["Kawi"]), ("Khar", ["Kharoshthi"]), ("Khmr", ["Khmer"]), ("Khoj", ["Khojki"]),
   ("Kits", ["Khitan_Small_Script"]), ("Knda", ["Kannada"]), ("Kthi", ["Kaithi"]),
   ("Lana", ["Tai_Tham"]), ("Laoo", ["Lao"]), ("Latn", ["Latin"]), ("Lepc", ["Lepcha"]),
   ("Limb", ["Limbu"]), ("Lina", ["Linear_A"]), ("Linb", ["Linear_B"]), ("Lisu", ["Lisu"]),
   ("Lyci", ["Lycian"]), ("Lydi", ["Lydian"]), ("Mahj", ["Mahajani"]), ("Maka", ["Makasar"]),
   ("Mand", ["Mandaic"]), ("Mani", ["Manichaean"]), ("Marc", ["Marchen"]),
   ("Medf", ["Medefaidrin"]), ("Mend", ["Mende_Kikakui"]), ("Merc", ["Meroitic_Cursive"]),
   ("Mero", ["Meroitic_Hieroglyphs"]), ("Mlym", ["Malayalam"]), ("Modi", ["Modi"]),
   ("Mong", ["Mongolian"]), ("Mroo", ["Mro"]), ("Mtei", ["Meetei_Mayek"]), ("Mult", ["Multani"]),
   ("Mymr", ["Myanmar"]), ("Nagm", ["Nag_Mundari"]), ("Nand", ["Nandinagari"]),
   ("Narb", ["Old_North_Arabian"]), ("Nbat", ["Nabataean"]), ("Newa", ["Newa"]), ("Nkoo", ["Nko"]),
   ("Nshu", ["Nushu"]), ("Ogam", ["Ogham"]), ("Olck", ["Ol_Chiki"]), ("Orkh", ["Old_Turkic"]),
   ("Orya", ["Oriya"]), ("Osge", ["Osage"]), ("Osma", ["Osmanya"]), ("Ougr", ["Old_Uyghur"]),
   ("Palm", ["Palmyrene"]), ("Pauc", ["Pau_Cin_Hau"]), ("Perm", ["Old_Permic"]),
   ("Phag", ["Phags_Pa"]), ("Phli", ["Inscriptional_Pahlavi"]), ("Phlp", ["Psalter_Pahlavi"]),
   ("Phnx", ["Phoenician"]), ("Plrd", ["Miao"]), ("Prti", ["Inscriptional_Parthian"]),
   ("Rjng", ["Rejang"]), ("Rohg", ["Hanifi_Rohingya"]), ("Runr", ["Runic"]),
   ("Samr", ["Samaritan"]), ("Sarb", ["Old_South_Arabian"]), ("Saur", ["Saurashtra"]),
   ("Sgnw", ["SignWriting"]), ("Shaw", ["Shavian"]), ("Shrd", ["Sharada"]), ("Sidd", ["Siddham"]),
   ("Sind", ["Khudawadi"]), ("Sinh", ["Sinhala"]), ("Sogd", ["Sogdian"]), ("Sogo", ["Old_Sogdian"]),
   ("Sora", ["Sora_Sompeng"]), ("Soyo", ["Soyombo"]), ("Sund", ["Sundanese"]),
   ("Sylo", ["Syloti_Nagri"]), ("Syrc", ["Syriac"]), ("Tagb", ["Tagbanwa"]), ("Takr", ["Takri"]),
   ("Tale", ["Tai_Le"]), ("Talu", ["New_Tai_Lue"]), ("Taml", ["Tamil"]), ("Tang", ["Tangut"]),
   ("Tavt", ["Tai_Viet"]), ("Telu", ["Telugu"]), ("Tfng", ["Tifinagh"]), ("Tglg", ["Tagalog"]),
   ("Thaa", ["Thaana"]), ("Thai", ["Thai"]), ("Tibt", ["Tibetan"]), ("Tirh", ["Tirhuta"]),
   ("Tnsa", ["Tangsa"]), ("Toto", ["Toto"]), ("Ugar", ["Ugaritic"]), ("Vaii", ["Vai"]),
   ("Vith", ["Vithkuqi"]), ("Wara", ["Warang_Citi"]), ("Wcho", ["Wancho"]),
   ("Xpeo", ["Old_Persian"]), ("Xsux", ["Cuneiform"]), ("Yezi", ["Yezidi"]), ("Yiii", ["Yi"]),
   ("Zanb", ["Zanabazar_Square"]), ("Zinh", ["Inherited", "Qaai"]), ("Zyyy", ["Common"]),
   ("Zzzz", ["Unknown"]), ("Hrkt", ["Katakana_Or_Hiragana"])]

/-- The runs of code points of one script, from U+0000 on: the length of a run in base 36, then
the short name of the script. -/
def scriptRuns : String :=
  String.join [
   "1t Zyyy q Latn 6 Zyyy q Latn 1b Zyyy 1 Latn f Zyyy 1 Latn 5 Zyyy n Latn 1 Zyyy v Latn 1 Zyyy ",
   "ch Latn 13 Zyyy 5 Latn 5 Zyyy 2 Bopo k Zyyy 34 Zinh 4 Grek 1 Zyyy 3 Grek 2 Zzzz 4 Grek 1 Zyyy ",
   "1 Grek 4 Zzzz 1 Grek 1 Zyyy 1 Grek 1 Zyyy 3 Grek 1 Zzzz 1 Grek 1 Zzzz k Grek 1 Zzzz 1r Grek e ",
   "Copt g Grek 3p Cyrl 2 Zinh 4p Cyrl 1 Zzzz 12 Armn 2 Zzzz 1e Armn 2 Zzzz 3 Armn 1 Zzzz 1j Hebr ",
   "8 Zzzz r Hebr 4 Zzzz 6 Hebr b Zzzz 5 Arab 1 Zyyy 6 Arab 1 Zyyy e Arab 1 Zyyy 3 Arab 1 Zyyy w ",
   "Arab 1 Zyyy a Arab b Zinh q Arab 1 Zinh 30 Arab 1 Zyyy y Arab e Syrc 1 Zzzz 1o Syrc 2 Zzzz 3 ",
   "Syrc 1c Arab 1e Thaa e Zzzz 1n Nkoo 2 Zzzz 3 Nkoo 1a Samr 2 Zzzz f Samr 1 Zzzz s Mand 2 Zzzz ",
   "1 Mand 1 Zzzz b Syrc 5 Zzzz v Arab 1 Zzzz 2 Arab 6 Zzzz 22 Arab 1 Zyyy t Arab 29 Deva 4 Zinh ",
   "f Deva 2 Zyyy q Deva 4 Beng 1 Zzzz 8 Beng 2 Zzzz 2 Beng 2 Zzzz m Beng 1 Zzzz 7 Beng 1 Zzzz 1 ",
   "Beng 3 Zzzz 4 Beng 2 Zzzz 9 Beng 2 Zzzz 2 Beng 2 Zzzz 4 Beng 8 Zzzz 1 Beng 4 Zzzz 2 Beng 1 ",
   "Zzzz 5 Beng 2 Zzzz p Beng 2 Zzzz 3 Guru 1 Zzzz 6 Guru 4 Zzzz 2 Guru 2 Zzzz m Guru 1 Zzzz 7 ",
   "Guru 1 Zzzz 2 Guru 1 Zzzz 2 Guru 1 Zzzz 2 Guru 2 Zzzz 1 Guru 1 Zzzz 5 Guru 4 Zzzz 2 Guru 2 ",
   "Zzzz 3 Guru 3 Zzzz 1 Guru 7 Zzzz 4 Guru 1 Zzzz 1 Guru 7 Zzzz h Guru a Zzzz 3 Gujr 1 Zzzz 9 ",
   "Gujr 1 Zzzz 3 Gujr 1 Zzzz m Gujr 1 Zzzz 7 Gujr 1 Zzzz 2 Gujr 1 Zzzz 5 Gujr 2 Zzzz a Gujr 1 ",
   "Zzzz 3 Gujr 1 Zzzz 3 Gujr 2 Zzzz 1 Gujr f Zzzz 4 Gujr 2 Zzzz c Gujr 7 Zzzz 7 Gujr 1 Zzzz 3 ",
   "Orya 1 Zzzz 8 Orya 2 Zzzz 2 Orya 2 Zzzz m Orya 1 Zzzz 7 Orya 1 Zzzz 2 Orya 1 Zzzz 5 Orya 2 ",
   "Zzzz 9 Orya 2 Zzzz 2 Orya 2 Zzzz 3 Orya 7 Zzzz 3 Orya 4 Zzzz 2 Orya 1 Zzzz 5 Orya 2 Zzzz i ",
   "Orya a Zzzz 2 Taml 1 Zzzz 6 Taml 3 Zzzz 3 Taml 1 Zzzz 4 Taml 3 Zzzz 2 Taml 1 Zzzz 1 Taml 1 ",
   "Zzzz 2 Taml 3 Zzzz 2 Taml 3 Zzzz 3 Taml 3 Zzzz c Taml 4 Zzzz 5 Taml 3 Zzzz 3 Taml 1 Zzzz 4 ",
   "Taml 2 Zzzz 1 Taml 6 Zzzz 1 Taml e Zzzz l Taml 5 Zzzz d Telu 1 Zzzz 3 Telu 1 Zzzz n Telu 1 ",
   "Zzzz g Telu 2 Zzzz 9 Telu 1 Zzzz 3 Telu 1 Zzzz 4 Telu 7 Zzzz 2 Telu 1 Zzzz 3 Telu 2 Zzzz 1 ",
   "Telu 2 Zzzz 4 Telu 2 Zzzz a Telu 7 Zzzz 9 Telu d Knda 1 Zzzz 3 Knda 1 Zzzz n Knda 1 Zzzz a ",
   "Knda 1 Zzzz 5 Knda 2 Zzzz 9 Knda 1 Zzzz 3 Knda 1 Zzzz 4 Knda 7 Zzzz 2 Knda 6 Zzzz 2 Knda 1 ",
   "Zzzz 4 Knda 2 Zzzz a Knda 1 Zzzz 3 Knda c Zzzz d Mlym 1 Zzzz 3 Mlym 1 Zzzz 1f Mlym 1 Zzzz 3 ",
   "Mlym 1 Zzzz 6 Mlym 4 Zzzz g Mlym 2 Zzzz q Mlym 1 Zzzz 3 Sinh 1 Zzzz i Sinh 3 Zzzz o Sinh 1 ",
   "Zzzz 9 Sinh 1 Zzzz 1 Sinh 2 Zzzz 7 Sinh 3 Zzzz 1 Sinh 4 Zzzz 6 Sinh 1 Zzzz 1 Sinh 1 Zzzz 8 ",
   "Sinh 6 Zzzz a Sinh 2 Zzzz 3 Sinh c Zzzz 1m Thai 4 Zzzz 1 Zyyy s Thai 11 Zzzz 2 Laoo 1 Zzzz 1 ",
   "Laoo 1 Zzzz 5 Laoo 1 Zzzz o Laoo 1 Zzzz 1 Laoo 1 Zzzz n Laoo 2 Zzzz 5 Laoo 1 Zzzz 1 Laoo 1 ",
   "Zzzz 7 Laoo 1 Zzzz a Laoo 2 Zzzz 4 Laoo w Zzzz 20 Tibt 1 Zzzz 10 Tibt 4 Zzzz 13 Tibt 1 Zzzz ",
   "10 Tibt 1 Zzzz f Tibt 1 Zzzz 7 Tibt 4 Zyyy 2 Tibt 11 Zzzz 4g Mymr 12 Geor 1 Zzzz 1 Geor 5 ",
   "Zzzz 1 Geor 2 Zzzz 17 Geor 1 Zyyy 4 Geor 74 Hang 21 Ethi 1 Zzzz 4 Ethi 2 Zzzz 7 Ethi 1 Zzzz 1 ",
   "Ethi 1 Zzzz 4 Ethi 2 Zzzz 15 Ethi 1 Zzzz 4 Ethi 2 Zzzz x Ethi 1 Zzzz 4 Ethi 2 Zzzz 7 Ethi 1 ",
   "Zzzz 1 Ethi 1 Zzzz 4 Ethi 2 Zzzz f Ethi 1 Zzzz 1l Ethi 1 Zzzz 4 Ethi 2 Zzzz 1v Ethi 2 Zzzz w ",
   "Ethi 3 Zzzz q Ethi 6 Zzzz 2e Cher 2 Zzzz 6 Cher 2 Zzzz hs Cans t Ogam 3 Zzzz 23 Runr 3 Zyyy b ",
   "Runr 7 Zzzz m Tglg 9 Zzzz 1 Tglg l Hano 2 Zyyy 9 Zzzz k Buhd c Zzzz d Tagb 1 Zzzz 3 Tagb 1 ",
   "Zzzz 2 Tagb c Zzzz 2m Khmr 2 Zzzz a Khmr 6 Zzzz a Khmr 6 Zzzz 2 Mong 2 Zyyy 1 Mong 1 Zyyy k ",
   "Mong 6 Zzzz 2h Mong 7 Zzzz 17 Mong 5 Zzzz 1y Cans a Zzzz v Limb 1 Zzzz c Limb 4 Zzzz c Limb 4 ",
   "Zzzz 1 Limb 3 Zzzz c Limb u Tale 2 Zzzz 5 Tale b Zzzz 18 Talu 4 Zzzz q Talu 6 Zzzz b Talu 3 ",
   "Zzzz 2 Talu w Khmr s Bugi 2 Zzzz 2 Bugi 1r Lana 1 Zzzz t Lana 2 Zzzz b Lana 6 Zzzz a Lana 6 ",
   "Zzzz e Lana 2 Zzzz v Zinh 1d Zzzz 25 Bali 3 Zzzz 1b Bali 1 Zzzz 1s Sund 1g Batk 8 Zzzz 4 Batk ",
   "1k Lepc 3 Zzzz f Lepc 3 Zzzz 3 Lepc 1c Olck 9 Cyrl 7 Zzzz 17 Geor 2 Zzzz 3 Geor 8 Sund 8 Zzzz ",
   "3 Zinh 1 Zyyy d Zinh 1 Zyyy 7 Zinh 4 Zyyy 1 Zinh 6 Zyyy 1 Zinh 3 Zyyy 2 Zinh 1 Zyyy 5 Zzzz 12 ",
   "Latn 5 Grek 1 Cyrl 1d Latn 5 Grek 4 Latn 5 Grek d Latn 1 Cyrl 1y Latn 1 Grek 1s Zinh 74 Latn ",
   "m Grek 2 Zzzz 6 Grek 2 Zzzz 12 Grek 2 Zzzz 6 Grek 2 Zzzz 8 Grek 1 Zzzz 1 Grek 1 Zzzz 1 Grek 1 ",
   "Zzzz 1 Grek 1 Zzzz v Grek 2 Zzzz 1h Grek 1 Zzzz f Grek 1 Zzzz e Grek 2 Zzzz 6 Grek 1 Zzzz j ",
   "Grek 2 Zzzz 3 Grek 1 Zzzz 9 Grek 1 Zzzz c Zyyy 2 Zinh 2f Zyyy 1 Zzzz b Zyyy 1 Latn 2 Zzzz b ",
   "Zyyy 1 Latn f Zyyy 1 Zzzz d Latn 3 Zzzz x Zyyy f Zzzz x Zinh f Zzzz 12 Zyyy 1 Grek 3 Zyyy 2 ",
   "Latn 6 Zyyy 1 Latn r Zyyy 1 Latn h Zyyy 15 Latn 3 Zyyy 4 Zzzz if Zyyy p Zzzz b Zyyy l Zzzz ps ",
   "Zyyy 74 Brai hg Zyyy 2 Zzzz w Zyyy 1 Zzzz 2x Zyyy 2o Glag w Latn 38 Copt 5 Zzzz 7 Copt 12 ",
   "Geor 1 Zzzz 1 Geor 5 Zzzz 1 Geor 2 Zzzz 1k Tfng 7 Zzzz 2 Tfng e Zzzz 1 Tfng n Ethi 9 Zzzz 7 ",
   "Ethi 1 Zzzz 7 Ethi 1 Zzzz 7 Ethi 1 Zzzz 7 Ethi 1 Zzzz 7 Ethi 1 Zzzz 7 Ethi 1 Zzzz 7 Ethi 1 ",
   "Zzzz 7 Ethi 1 Zzzz w Cyrl 2m Zyyy y Zzzz q Hani 1 Zzzz 2h Hani c Zzzz 5y Hani q Zzzz c Zyyy 4 ",
   "Zzzz 5 Zyyy 1 Hani 1 Zyyy 1 Hani p Zyyy 9 Hani 4 Zinh 2 Hang 8 Zyyy 4 Hani 4 Zyyy 1 Zzzz 2e ",
   "Hira 2 Zzzz 2 Zinh 2 Zyyy 3 Hira 1 Zyyy 2i Kana 2 Zyyy 3 Kana 5 Zzzz 17 Bopo 1 Zzzz 2m Hang 1 ",
   "Zzzz g Zyyy w Bopo 10 Zyyy c Zzzz g Kana v Hang 1 Zzzz 1s Zyyy v Hang 29 Zyyy 1b Kana 1 Zyyy ",
   "2g Kana 4o Zyyy 534 Hani 1s Zyyy g74 Hani wd Yiii 3 Zzzz 1j Yiii 9 Zzzz 1c Lisu 8c Vaii k ",
   "Zzzz 2o Cyrl 2g Bamu 8 Zzzz y Zyyy 2u Latn 3 Zyyy 1s Latn 5 Zzzz 2 Latn 1 Zzzz 1 Latn 1 Zzzz ",
   "5 Latn o Zzzz e Latn 19 Sylo 3 Zzzz a Zyyy 6 Zzzz 1k Phag 8 Zzzz 1y Saur 8 Zzzz c Saur 6 Zzzz ",
   "w Deva 1a Kali 1 Zyyy 1 Kali 10 Rjng b Zzzz 1 Rjng t Hang 3 Zzzz 26 Java 1 Zzzz 1 Zyyy a Java ",
   "4 Zzzz 2 Java v Mymr 1 Zzzz 1j Cham 9 Zzzz e Cham 2 Zzzz a Cham 2 Zzzz 4 Cham w Mymr 1v Tavt ",
   "o Zzzz 5 Tavt n Mtei a Zzzz 6 Ethi 2 Zzzz 6 Ethi 2 Zzzz 6 Ethi 9 Zzzz 7 Ethi 1 Zzzz 7 Ethi 1 ",
   "Zzzz 17 Latn 1 Zyyy 9 Latn 1 Grek 4 Latn 2 Zyyy 4 Zzzz 28 Cher 1a Mtei 2 Zzzz a Mtei 6 Zzzz ",
   "8mc Hang c Zzzz n Hang 4 Zzzz 1d Hang 6is Zzzz a6 Hani 2 Zzzz 2y Hani 12 Zzzz 7 Latn c Zzzz 5 ",
   "Armn 5 Zzzz q Hebr 1 Zzzz 5 Hebr 1 Zzzz 1 Hebr 1 Zzzz 2 Hebr 1 Zzzz 2 Hebr 1 Zzzz a Hebr 37 ",
   "Arab g Zzzz a3 Arab 2 Zyyy 28 Arab 2 Zzzz 1i Arab 7 Zzzz 1 Arab w Zzzz g Arab g Zinh a Zyyy 6 ",
   "Zzzz e Zinh 2 Cyrl z Zyyy 1 Zzzz j Zyyy 1 Zzzz 4 Zyyy 4 Zzzz 5 Arab 1 Zzzz 3r Arab 2 Zzzz 1 ",
   "Zyyy 1 Zzzz w Zyyy q Latn 6 Zyyy q Latn b Zyyy a Kana 1 Zyyy 19 Kana 2 Zyyy v Hang 3 Zzzz 6 ",
   "Hang 2 Zzzz 6 Hang 2 Zzzz 6 Hang 2 Zzzz 3 Hang 3 Zzzz 7 Zyyy 1 Zzzz 7 Zyyy a Zzzz 5 Zyyy 2 ",
   "Zzzz c Linb 1 Zzzz q Linb 1 Zzzz j Linb 1 Zzzz 2 Linb 1 Zzzz f Linb 2 Zzzz e Linb y Zzzz 3f ",
   "Linb 5 Zzzz 3 Zyyy 4 Zzzz 19 Zyyy 3 Zzzz 9 Zyyy 27 Grek 1 Zzzz d Zyyy 3 Zzzz 1 Grek 1b Zzzz ",
   "19 Zyyy 1 Zinh 3m Zzzz t Lyci 3 Zzzz 1d Cari f Zzzz 1 Zinh r Zyyy 4 Zzzz 10 Ital 9 Zzzz 3 ",
   "Ital r Goth 5 Zzzz 17 Perm 5 Zzzz u Ugar 1 Zzzz 1 Ugar 10 Xpeo 4 Zzzz e Xpeo 16 Zzzz 28 Dsrt ",
   "1c Shaw u Osma 2 Zzzz a Osma 6 Zzzz 10 Osge 4 Zzzz 10 Osge 4 Zzzz 14 Elba 8 Zzzz 1g Aghb b ",
   "Zzzz 1 Aghb b Vith 1 Zzzz f Vith 1 Zzzz 7 Vith 1 Zzzz 2 Vith 1 Zzzz b Vith 1 Zzzz f Vith 1 ",
   "Zzzz 7 Vith 1 Zzzz 2 Vith 1v Zzzz 8n Lina 9 Zzzz m Lina a Zzzz 8 Lina o Zzzz 6 Latn 1 Zzzz 16 ",
   "Latn 1 Zzzz 9 Latn 1x Zzzz 6 Cprt 2 Zzzz 1 Cprt 1 Zzzz 18 Cprt 1 Zzzz 2 Cprt 3 Zzzz 1 Cprt 2 ",
   "Zzzz 1 Cprt m Armi 1 Zzzz 9 Armi w Palm v Nbat 8 Zzzz 9 Nbat 1c Zzzz j Hatr 1 Zzzz 2 Hatr 5 ",
   "Zzzz 5 Hatr s Phnx 3 Zzzz 1 Phnx q Lydi 5 Zzzz 1 Lydi 1s Zzzz w Mero o Merc 4 Zzzz k Merc 2 ",
   "Zzzz 1a Merc 4 Khar 1 Zzzz 2 Khar 5 Zzzz 8 Khar 1 Zzzz 3 Khar 1 Zzzz t Khar 2 Zzzz 3 Khar 4 ",
   "Zzzz a Khar 7 Zzzz 9 Khar 7 Zzzz w Sarb w Narb w Zzzz 13 Mani 4 Zzzz c Mani 9 Zzzz 1i Avst 3 ",
   "Zzzz 7 Avst m Prti 2 Zzzz 8 Prti j Phli 5 Zzzz 8 Phli i Phlp 7 Zzzz 4 Phlp c Zzzz 7 Phlp 28 ",
   "Zzzz 21 Orkh 1j Zzzz 1f Hung d Zzzz 1f Hung 7 Zzzz 6 Hung 14 Rohg 8 Zzzz a Rohg 86 Zzzz v ",
   "Arab 1 Zzzz 16 Yezi 1 Zzzz 3 Yezi 2 Zzzz 2 Yezi 23 Zzzz 3 Arab 14 Sogo 8 Zzzz 16 Sogd m Zzzz ",
   "q Ougr 12 Zzzz s Chrs k Zzzz n Elym 9 Zzzz 26 Brah 4 Zzzz 10 Brah 9 Zzzz 1 Brah 1v Kthi a ",
   "Zzzz 1 Kthi 2 Zzzz p Sora 7 Zzzz a Sora 6 Zzzz 1h Cakm 1 Zzzz i Cakm 8 Zzzz 13 Mahj 9 Zzzz 2o ",
   "Shrd 1 Zzzz k Sinh b Zzzz i Khoj 1 Zzzz 1b Khoj 1q Zzzz 7 Mult 1 Zzzz 1 Mult 1 Zzzz 4 Mult 1 ",
   "Zzzz f Mult 1 Zzzz b Mult 6 Zzzz 1n Sind 5 Zzzz a Sind 6 Zzzz 4 Gran 1 Zzzz 8 Gran 2 Zzzz 2 ",
   "Gran 2 Zzzz m Gran 1 Zzzz 7 Gran 1 Zzzz 2 Gran 1 Zzzz 5 Gran 1 Zzzz 1 Zinh 9 Gran 2 Zzzz 2 ",
   "Gran 2 Zzzz 3 Gran 2 Zzzz 1 Gran 6 Zzzz 1 Gran 5 Zzzz 7 Gran 2 Zzzz 7 Gran 3 Zzzz 5 Gran 3v ",
   "Zzzz 2k Newa 1 Zzzz 5 Newa u Zzzz 20 Tirh 8 Zzzz a Tirh 4m Zzzz 1i Sidd 2 Zzzz 12 Sidd y Zzzz ",
   "1x Modi b Zzzz a Modi 6 Zzzz d Mong j Zzzz 1m Takr 6 Zzzz a Takr 1i Zzzz r Ahom 2 Zzzz f Ahom ",
   "4 Zzzz n Ahom 55 Zzzz 1o Dogr 2s Zzzz 2b Wara c Zzzz 1 Wara 7 Diak 2 Zzzz 1 Diak 2 Zzzz 8 ",
   "Diak 1 Zzzz 2 Diak 1 Zzzz u Diak 1 Zzzz 2 Diak 2 Zzzz c Diak 9 Zzzz a Diak 1y Zzzz 8 Nand 2 ",
   "Zzzz 1a Nand 2 Zzzz b Nand r Zzzz 20 Zanb 8 Zzzz 2b Soyo d Zzzz g Cans 1l Pauc 7 Zzzz a Deva ",
   "6u Zzzz 9 Bhks 1 Zzzz 19 Bhks 1 Zzzz e Bhks a Zzzz t Bhks 3 Zzzz w Marc 2 Zzzz m Marc 1 Zzzz ",
   "e Marc 21 Zzzz 7 Gonm 1 Zzzz 2 Gonm 1 Zzzz 18 Gonm 3 Zzzz 1 Gonm 1 Zzzz 2 Gonm 1 Zzzz 9 Gonm ",
   "8 Zzzz a Gonm 6 Zzzz 6 Gong 1 Zzzz 2 Gong 1 Zzzz 11 Gong 1 Zzzz 2 Gong 1 Zzzz 6 Gong 7 Zzzz a ",
   "Gong 8m Zzzz p Maka 7 Zzzz h Kawi 1 Zzzz 15 Kawi 3 Zzzz s Kawi 2e Zzzz 1 Lisu f Zzzz 1e Taml ",
   "d Zzzz 1 Taml pm Xsux 2u Zzzz 33 Xsux 1 Zzzz 5 Xsux b Zzzz 5g Xsux 218 Zzzz 2r Cpmn d Zzzz uu ",
   "Egyp 33e Zzzz g7 Hluw 6nt Zzzz ft Bamu 7 Zzzz v Mroo 1 Zzzz a Mroo 4 Zzzz 2 Mroo 27 Tnsa 1 ",
   "Zzzz a Tnsa 6 Zzzz u Bass 2 Zzzz 6 Bass a Zzzz 1y Hmng a Zzzz a Hmng 1 Zzzz 7 Hmng 1 Zzzz l ",
   "Hmng 5 Zzzz j Hmng j4 Zzzz 2j Medf 2t Zzzz 23 Plrd 4 Zzzz 1l Plrd 7 Zzzz h Plrd 1s Zzzz 1 ",
   "Tang 1 Nshu 2 Hani 1 Kits b Zzzz 2 Hani e Zzzz 4qg Tang 8 Zzzz lc Tang d2 Kits 16 Zzzz 9 Tang ",
   "6w7 Zzzz 4 Kana 1 Zzzz 7 Kana 1 Zzzz 2 Kana 1 Zzzz 1 Kana 7z Hira 3 Kana f Zzzz 1 Hira t Zzzz ",
   "3 Hira 2 Zzzz 1 Kana e Zzzz 4 Kana 8 Zzzz b0 Nshu 1s4 Zzzz 2z Dupl 5 Zzzz d Dupl 3 Zzzz 9 ",
   "Dupl 7 Zzzz a Dupl 2 Zzzz 4 Dupl 4 Zyyy 3mk Zzzz 1a Zinh 2 Zzzz n Zinh 9 Zzzz 38 Zyyy 1o Zzzz ",
   "6u Zyyy a Zzzz 13 Zyyy 2 Zzzz 1q Zyyy 3 Zinh h Zyyy 8 Zinh 2 Zyyy 7 Zinh u Zyyy 4 Zinh 1p ",
   "Zyyy l Zzzz 1y Grek 3e Zzzz k Zyyy c Zzzz k Zyyy c Zzzz 2f Zyyy 9 Zzzz p Zyyy 3r Zzzz 2d Zyyy ",
   "1 Zzzz 1z Zyyy 1 Zzzz 2 Zyyy 2 Zzzz 1 Zyyy 2 Zzzz 2 Zyyy 2 Zzzz 4 Zyyy 1 Zzzz c Zyyy 1 Zzzz 1 ",
   "Zyyy 1 Zzzz 7 Zyyy 1 Zzzz 1t Zyyy 1 Zzzz 4 Zyyy 2 Zzzz 8 Zyyy 1 Zzzz 7 Zyyy 1 Zzzz s Zyyy 1 ",
   "Zzzz 4 Zyyy 1 Zzzz 5 Zyyy 1 Zzzz 1 Zyyy 3 Zzzz 7 Zyyy 1 Zzzz 9g Zyyy 2 Zzzz 84 Zyyy 2 Zzzz 1e ",
   "Zyyy i4 Sgnw f Zzzz 5 Sgnw 1 Zzzz f Sgnw uo Zzzz v Latn 6 Zzzz 6 Latn 5x Zzzz 7 Glag 1 Zzzz h ",
   "Glag 2 Zzzz 7 Glag 1 Zzzz 2 Glag 1 Zzzz 5 Glag 5 Zzzz 1q Cyrl x Zzzz 1 Cyrl 34 Zzzz 19 Hmnp 3 ",
   "Zzzz e Hmnp 2 Zzzz a Hmnp 4 Zzzz 2 Hmnp 8w Zzzz v Toto h Zzzz 1m Wcho 5 Zzzz 1 Wcho cw Zzzz ",
   "16 Nagm km Zzzz 7 Ethi 1 Zzzz 4 Ethi 1 Zzzz 2 Ethi 1 Zzzz f Ethi 1 Zzzz 5h Mend 2 Zzzz g Mend ",
   "15 Zzzz 24 Adlm 4 Zzzz a Adlm 4 Zzzz 2 Adlm lt Zzzz 1w Zyyy 24 Zzzz 1p Zyyy 5e Zzzz 4 Arab 1 ",
   "Zzzz r Arab 1 Zzzz 2 Arab 1 Zzzz 1 Arab 2 Zzzz 1 Arab 1 Zzzz a Arab 1 Zzzz 4 Arab 1 Zzzz 1 ",
   "Arab 1 Zzzz 1 Arab 6 Zzzz 1 Arab 4 Zzzz 1 Arab 1 Zzzz 1 Arab 1 Zzzz 1 Arab 1 Zzzz 3 Arab 1 ",
   "Zzzz 2 Arab 1 Zzzz 1 Arab 2 Zzzz 1 Arab 1 Zzzz 1 Arab 1 Zzzz 1 Arab 1 Zzzz 1 Arab 1 Zzzz 1 ",
   "Arab 1 Zzzz 2 Arab 1 Zzzz 1 Arab 2 Zzzz 4 Arab 1 Zzzz 7 Arab 1 Zzzz 4 Arab 1 Zzzz 4 Arab 1 ",
   "Zzzz 1 Arab 1 Zzzz a Arab 1 Zzzz h Arab 5 Zzzz 3 Arab 1 Zzzz 5 Arab 1 Zzzz h Arab 1g Zzzz 2 ",
   "Arab 7i Zzzz 18 Zyyy 4 Zzzz 2s Zyyy c Zzzz f Zyyy 2 Zzzz f Zyyy 1 Zzzz f Zyyy 1 Zzzz 11 Zyyy ",
   "a Zzzz 4u Zyyy 1k Zzzz q Zyyy 1 Hira 2 Zyyy d Zzzz 18 Zyyy 4 Zzzz 9 Zyyy 7 Zzzz 2 Zyyy e Zzzz ",
   "6 Zyyy 4a Zzzz rc Zyyy 4 Zzzz h Zyyy 3 Zzzz d Zyyy 3 Zzzz 3b Zyyy 4 Zzzz 2n Zyyy 6 Zzzz c ",
   "Zyyy 4 Zzzz 1 Zyyy f Zzzz c Zyyy 4 Zzzz 1k Zyyy 8 Zzzz a Zyyy 6 Zzzz 14 Zyyy 8 Zzzz u Zyyy 2 ",
   "Zzzz 2 Zyyy 26 Zzzz 9g Zyyy c Zzzz e Zyyy 2 Zzzz d Zyyy 3 Zzzz 9 Zyyy 7 Zzzz 1a Zyyy 1 Zzzz 7 ",
   "Zyyy 8 Zzzz e Zyyy 4 Zzzz 9 Zyyy 7 Zzzz 9 Zyyy 7 Zzzz 43 Zyyy 1 Zzzz 1j Zyyy 11 Zzzz a Zyyy ",
   "sm Zzzz wyo Hani w Zzzz 37e Hani 6 Zzzz 66 Hani 2 Zzzz 4g2 Hani e Zzzz 5rl Hani 2e7 Zzzz f2 ",
   "Hani 15u Zzzz 3t7 Hani 5 Zzzz 38g Hani f975 Zzzz 1 Zyyy u Zzzz 2o Zyyy 3k Zzzz 6o Zinh 47bk ",
   "Zzzz"]

/-- The code points that are used with other scripts than their own, in runs: how many code
points are passed over, how many the run has, and the short names of the scripts. -/
def scriptExtensionRuns : String :=
  String.join [
   "n6 1 Grek 2 1 Grek t d Latn 7n 1 Cyrl.Perm 0 1 Cyrl.Glag 0 2 Cyrl.Latn 0 1 Cyrl.Glag as 1 ",
   "Arab.Nkoo.Rohg.Syrc.Thaa.Yezi e 1 Arab.Nkoo.Rohg.Syrc.Thaa.Yezi 0 1 Arab.Syrc.Thaa 2 1 ",
   "Adlm.Arab.Nkoo.Rohg.Syrc.Thaa.Yezi w 1 Adlm.Arab.Mand.Mani.Ougr.Phlp.Rohg.Sogd.Syrc a b ",
   "Arab.Syrc a a Arab.Thaa.Yezi 6 1 Arab.Syrc 2r 1 Arab.Rohg ho 1 ",
   "Beng.Deva.Gran.Gujr.Guru.Knda.Latn.Mlym.Orya.Shrd.Taml.Telu.Tirh 0 1 ",
   "Beng.Deva.Gran.Gujr.Guru.Knda.Latn.Mlym.Orya.Taml.Telu.Tirh h 1 ",
   "Beng.Deva.Dogr.Gong.Gonm.Gran.Gujr.Guru.Knda.Mahj.Mlym.Nand.Orya.Sind.Sinh.Sylo.Takr.",
   "Taml.Telu.Tirh ",
   "0 1 ",
   "Beng.Deva.Dogr.Gong.Gonm.Gran.Gujr.Guru.Knda.Limb.Mahj.Mlym.Nand.Orya.Sind.Sinh.Sylo.",
   "Takr.Taml.Telu.Tirh ",
   "0 a Deva.Dogr.Kthi.Mahj 3a a Beng.Cakm.Sylo 3a a Guru.Mult 3a a Gujr.Khoj 6u e Gran.Taml 6q a ",
   "Knda.Nand nk a Cakm.Mymr.Tale 4x 1 Geor.Latn 189 2 Buhd.Hano.Tagb.Tglg 5n 2 Mong.Phag 1 1 ",
   "Mong.Phag y2 1 Beng.Deva.Gran.Knda 0 1 Deva 0 1 Beng.Deva.Gran.Knda 0 1 Deva.Gran 0 1 Deva 0 ",
   "2 Beng.Deva 0 1 Deva.Shrd 0 1 Beng.Deva 0 1 Deva.Shrd 0 1 Deva.Knda.Mlym.Orya.Taml.Telu 0 1 ",
   "Deva 0 2 Deva.Shrd 0 2 Deva 0 1 Deva.Shrd 0 1 Beng.Deva 0 7 Deva 0 1 Deva.Nand 0 1 Beng.Deva ",
   "0 2 Deva 0 1 Beng.Deva 0 4 Deva 0 1 Beng.Deva.Gran.Knda.Nand.Orya.Telu.Tirh 0 1 Deva.Gran 0 1 ",
   "Deva.Gran.Knda 0 2 Beng.Deva 0 1 Beng 0 2 Deva.Gran 0 1 Nand 5h 2 Grek 1i 1 Cyrl.Syrc 1 1 ",
   "Syrc fo 1 Latn.Mong 5c 1 Deva.Gran.Latn 2mq 1 Cyrl.Glag cd 2 Bopo.Hang.Hani.Hira.Kana.Yiii 0 ",
   "1 Bopo.Hang.Hani.Hira.Kana 2 1 Hani 1 a Bopo.Hang.Hani.Hira.Kana.Yiii 1 1 ",
   "Bopo.Hang.Hani.Hira.Kana 0 8 Bopo.Hang.Hani.Hira.Kana.Yiii 0 4 Bopo.Hang.Hani.Hira.Kana a 4 ",
   "Bopo.Hani 2 1 Bopo.Hang.Hani.Hira.Kana 0 5 Hira.Kana 1 1 Bopo.Hang.Hani.Hira.Kana 4 2 ",
   "Hani.Hira.Kana 0 2 Hani 2h 4 Hira.Kana 3 1 Hira.Kana 2i 1 Bopo.Hang.Hani.Hira.Kana.Yiii 0 1 ",
   "Hira.Kana 43 g Hani w 10 Hani 1o 14 Hani 1k 1d Hani f c Hani 1f 1 Hani 2g p Hani a 5 Hani 2o ",
   "v Hani mls 1 Cyrl.Glag 40 8 Hani.Latn 88 3 ",
   "Deva.Dogr.Gujr.Guru.Khoj.Knda.Kthi.Mahj.Mlym.Modi.Nand.Sind.Takr.Tirh 0 3 ",
   "Deva.Dogr.Gujr.Guru.Khoj.Knda.Kthi.Mahj.Modi.Nand.Sind.Takr.Tirh 0 4 ",
   "Deva.Dogr.Gujr.Guru.Khoj.Kthi.Mahj.Modi.Sind.Takr.Tirh 53 1 Beng.Deva 1 1 Deva.Taml 1m 1 ",
   "Kali.Latn.Mymr 4g 1 Bugi.Java gha 2 Arab.Nkoo 4y 1 Arab.Thaa a 1 Arab.Thaa 1z 2 ",
   "Bopo.Hang.Hani.Hira.Kana 7u 5 Bopo.Hang.Hani.Hira.Kana.Yiii a 1 Hira.Kana 19 2 Hira.Kana 9s 2 ",
   "Cpmn.Cprt.Linb 0 1 Cprt.Linb 4 19 Cprt.Lina.Linb 3 9 Cprt.Linb bk s Arab.Copt 1km 1 Mani.Ougr ",
   "1la 1 Gran.Taml 1 1 Gran.Taml 1j 2 Gran.Taml 2hf 2 Gran.Taml 1 1 Gran.Taml uz0 4 Dupl 4ho i ",
   "Hani 63i 2 Hani"]

end FieldValidation.Unicode
