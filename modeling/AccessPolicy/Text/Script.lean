import AccessPolicy.Text.RangeTable
/-!
# Scripts of Unicode 17.0

Every assigned code point belongs to one script of the Unicode Character Database 17.0.0, by
the Script property: `Latin`, `Greek`, `Han` and so on, or `Common` for characters shared by
many scripts, such as digits and punctuation, or `Inherited` for marks that take the script of
their base. Private-use and unassigned code points belong to none.

A script is named by its long name and has a four-letter code; the table lists the ranges of
every script as a run table.
-/

namespace AccessPolicy.CharClass

def scripts : List (String × String) :=
  [("Adlm", "Adlam"), ("Ahom", "Ahom"), ("Hluw", "Anatolian_Hieroglyphs"), ("Arab", "Arabic"),
   ("Armn", "Armenian"), ("Avst", "Avestan"), ("Bali", "Balinese"), ("Bamu", "Bamum"),
   ("Bass", "Bassa_Vah"), ("Batk", "Batak"), ("Beng", "Bengali"), ("Berf", "Beria_Erfe"),
   ("Bhks", "Bhaiksuki"), ("Bopo", "Bopomofo"), ("Brah", "Brahmi"), ("Brai", "Braille"),
   ("Bugi", "Buginese"), ("Buhd", "Buhid"), ("Cans", "Canadian_Aboriginal"), ("Cari", "Carian"),
   ("Aghb", "Caucasian_Albanian"), ("Cakm", "Chakma"), ("Cham", "Cham"), ("Cher", "Cherokee"),
   ("Chrs", "Chorasmian"), ("Zyyy", "Common"), ("Copt", "Coptic"), ("Xsux", "Cuneiform"),
   ("Cprt", "Cypriot"), ("Cpmn", "Cypro_Minoan"), ("Cyrl", "Cyrillic"), ("Dsrt", "Deseret"),
   ("Deva", "Devanagari"), ("Diak", "Dives_Akuru"), ("Dogr", "Dogra"), ("Dupl", "Duployan"),
   ("Egyp", "Egyptian_Hieroglyphs"), ("Elba", "Elbasan"), ("Elym", "Elymaic"),
   ("Ethi", "Ethiopic"), ("Gara", "Garay"), ("Geor", "Georgian"), ("Glag", "Glagolitic"),
   ("Goth", "Gothic"), ("Gran", "Grantha"), ("Grek", "Greek"), ("Gujr", "Gujarati"),
   ("Gong", "Gunjala_Gondi"), ("Guru", "Gurmukhi"), ("Gukh", "Gurung_Khema"), ("Hani", "Han"),
   ("Hang", "Hangul"), ("Rohg", "Hanifi_Rohingya"), ("Hano", "Hanunoo"), ("Hatr", "Hatran"),
   ("Hebr", "Hebrew"), ("Hira", "Hiragana"), ("Armi", "Imperial_Aramaic"),
   ("Zinh", "Inherited"), ("Phli", "Inscriptional_Pahlavi"), ("Prti", "Inscriptional_Parthian"),
   ("Java", "Javanese"), ("Kthi", "Kaithi"), ("Knda", "Kannada"), ("Kana", "Katakana"),
   ("Kawi", "Kawi"), ("Kali", "Kayah_Li"), ("Khar", "Kharoshthi"),
   ("Kits", "Khitan_Small_Script"), ("Khmr", "Khmer"), ("Khoj", "Khojki"),
   ("Sind", "Khudawadi"), ("Krai", "Kirat_Rai"), ("Laoo", "Lao"), ("Latn", "Latin"),
   ("Lepc", "Lepcha"), ("Limb", "Limbu"), ("Lina", "Linear_A"), ("Linb", "Linear_B"),
   ("Lisu", "Lisu"), ("Lyci", "Lycian"), ("Lydi", "Lydian"), ("Mahj", "Mahajani"),
   ("Maka", "Makasar"), ("Mlym", "Malayalam"), ("Mand", "Mandaic"), ("Mani", "Manichaean"),
   ("Marc", "Marchen"), ("Gonm", "Masaram_Gondi"), ("Medf", "Medefaidrin"),
   ("Mtei", "Meetei_Mayek"), ("Mend", "Mende_Kikakui"), ("Merc", "Meroitic_Cursive"),
   ("Mero", "Meroitic_Hieroglyphs"), ("Plrd", "Miao"), ("Modi", "Modi"), ("Mong", "Mongolian"),
   ("Mroo", "Mro"), ("Mult", "Multani"), ("Mymr", "Myanmar"), ("Nbat", "Nabataean"),
   ("Nagm", "Nag_Mundari"), ("Nand", "Nandinagari"), ("Talu", "New_Tai_Lue"), ("Newa", "Newa"),
   ("Nkoo", "Nko"), ("Nshu", "Nushu"), ("Hmnp", "Nyiakeng_Puachue_Hmong"), ("Ogam", "Ogham"),
   ("Olck", "Ol_Chiki"), ("Onao", "Ol_Onal"), ("Hung", "Old_Hungarian"), ("Ital", "Old_Italic"),
   ("Narb", "Old_North_Arabian"), ("Perm", "Old_Permic"), ("Xpeo", "Old_Persian"),
   ("Sogo", "Old_Sogdian"), ("Sarb", "Old_South_Arabian"), ("Orkh", "Old_Turkic"),
   ("Ougr", "Old_Uyghur"), ("Orya", "Oriya"), ("Osge", "Osage"), ("Osma", "Osmanya"),
   ("Hmng", "Pahawh_Hmong"), ("Palm", "Palmyrene"), ("Pauc", "Pau_Cin_Hau"),
   ("Phag", "Phags_Pa"), ("Phnx", "Phoenician"), ("Phlp", "Psalter_Pahlavi"),
   ("Rjng", "Rejang"), ("Runr", "Runic"), ("Samr", "Samaritan"), ("Saur", "Saurashtra"),
   ("Shrd", "Sharada"), ("Shaw", "Shavian"), ("Sidd", "Siddham"), ("Sidt", "Sidetic"),
   ("Sgnw", "SignWriting"), ("Sinh", "Sinhala"), ("Sogd", "Sogdian"), ("Sora", "Sora_Sompeng"),
   ("Soyo", "Soyombo"), ("Sund", "Sundanese"), ("Sunu", "Sunuwar"), ("Sylo", "Syloti_Nagri"),
   ("Syrc", "Syriac"), ("Tglg", "Tagalog"), ("Tagb", "Tagbanwa"), ("Tale", "Tai_Le"),
   ("Lana", "Tai_Tham"), ("Tavt", "Tai_Viet"), ("Tayo", "Tai_Yo"), ("Takr", "Takri"),
   ("Taml", "Tamil"), ("Tnsa", "Tangsa"), ("Tang", "Tangut"), ("Telu", "Telugu"),
   ("Thaa", "Thaana"), ("Thai", "Thai"), ("Tibt", "Tibetan"), ("Tfng", "Tifinagh"),
   ("Tirh", "Tirhuta"), ("Todr", "Todhri"), ("Tols", "Tolong_Siki"), ("Toto", "Toto"),
   ("Tutg", "Tulu_Tigalari"), ("Ugar", "Ugaritic"), ("Vaii", "Vai"), ("Vith", "Vithkuqi"),
   ("Wcho", "Wancho"), ("Wara", "Warang_Citi"), ("Yezi", "Yezidi"), ("Yiii", "Yi"),
   ("Zanb", "Zanabazar_Square")]

def scriptText : String :=
  String.join
    ["1sZyyy pLatn 5Zyyy pLatn 1aZyyy Latn eZyyy Latn 4Zyyy mLatn Zyyy uLatn Zyyy cgLatn 12Zyyy ",
     "4Latn 4Zyyy 1Bopo jZyyy 33Zinh 3Grek Zyyy 2Grek 2>3Grek Zyyy Grek 4>Grek Zyyy Grek Zyyy ",
     "2Grek 1>Grek 1>jGrek 1>1qGrek dCopt fGrek 3oCyrl 1Zinh 4oCyrl 1>11Armn 2>1dArmn 2>2Armn ",
     "1>1iHebr 8>qHebr 4>5Hebr b>4Arab Zyyy 5Arab Zyyy dArab Zyyy 2Arab Zyyy vArab Zyyy 9Arab ",
     "aZinh pArab Zinh 2zArab Zyyy xArab dSyrc 1>1nSyrc 2>2Syrc 1bArab 1dThaa e>1mNkoo 2>2Nkoo ",
     "19Samr 2>eSamr 1>rMand 2>Mand 1>aSyrc 5>xArab 5>22Arab Zyyy sArab 28Deva 3Zinh eDeva 1Zyyy ",
     "pDeva 3Beng 1>7Beng 2>1Beng 2>lBeng 1>6Beng 1>Beng 3>3Beng 2>8Beng 2>1Beng 2>3Beng 8>Beng ",
     "4>1Beng 1>4Beng 2>oBeng 2>2Guru 1>5Guru 4>1Guru 2>lGuru 1>6Guru 1>1Guru 1>1Guru 1>1Guru ",
     "2>Guru 1>4Guru 4>1Guru 2>2Guru 3>Guru 7>3Guru 1>Guru 7>gGuru a>2Gujr 1>8Gujr 1>2Gujr ",
     "1>lGujr 1>6Gujr 1>1Gujr 1>4Gujr 2>9Gujr 1>2Gujr 1>2Gujr 2>Gujr f>3Gujr 2>bGujr 7>6Gujr ",
     "1>2Orya 1>7Orya 2>1Orya 2>lOrya 1>6Orya 1>1Orya 1>4Orya 2>8Orya 2>1Orya 2>2Orya 7>2Orya ",
     "4>1Orya 1>4Orya 2>hOrya a>1Taml 1>5Taml 3>2Taml 1>3Taml 3>1Taml 1>Taml 1>1Taml 3>1Taml ",
     "3>2Taml 3>bTaml 4>4Taml 3>2Taml 1>3Taml 2>Taml 6>Taml e>kTaml 5>cTelu 1>2Telu 1>mTelu ",
     "1>fTelu 2>8Telu 1>2Telu 1>3Telu 7>1Telu 1>2Telu 1>1Telu 2>3Telu 2>9Telu 7>8Telu cKnda ",
     "1>2Knda 1>mKnda 1>9Knda 1>4Knda 2>8Knda 1>2Knda 1>3Knda 7>1Knda 5>2Knda 1>3Knda 2>9Knda ",
     "1>2Knda c>cMlym 1>2Mlym 1>1eMlym 1>2Mlym 1>5Mlym 4>fMlym 2>pMlym 1>2Sinh 1>hSinh 3>nSinh ",
     "1>8Sinh 1>Sinh 2>6Sinh 3>Sinh 4>5Sinh 1>Sinh 1>7Sinh 6>9Sinh 2>2Sinh c>1lThai 4>Zyyy rThai ",
     "11>1Laoo 1>Laoo 1>4Laoo 1>nLaoo 1>Laoo 1>mLaoo 2>4Laoo 1>Laoo 1>6Laoo 1>9Laoo 2>3Laoo ",
     "w>1zTibt 1>zTibt 4>12Tibt 1>zTibt 1>eTibt 1>6Tibt 3Zyyy 1Tibt 11>4fMymr 11Geor 1>Geor ",
     "5>Geor 2>16Geor Zyyy 3Geor 73Hang 20Ethi 1>3Ethi 2>6Ethi 1>Ethi 1>3Ethi 2>14Ethi 1>3Ethi ",
     "2>wEthi 1>3Ethi 2>6Ethi 1>Ethi 1>3Ethi 2>eEthi 1>1kEthi 1>3Ethi 2>1uEthi 2>vEthi 3>pEthi ",
     "6>2dCher 2>5Cher 2>hrCans sOgam 3>22Runr 2Zyyy aRunr 7>lTglg 9>Tglg kHano 1Zyyy 9>jBuhd ",
     "c>cTagb 1>2Tagb 1>1Tagb c>2lKhmr 2>9Khmr 6>9Khmr 6>1Mong 1Zyyy Mong Zyyy jMong 6>2gMong ",
     "7>16Mong 5>1xCans a>uLimb 1>bLimb 4>bLimb 4>Limb 3>bLimb tTale 2>4Tale b>17Talu 4>pTalu ",
     "6>aTalu 3>1Talu vKhmr rBugi 2>1Bugi 1qLana 1>sLana 2>aLana 6>9Lana 6>dLana 2>19Zinh 2>bZinh ",
     "k>24Bali 1>1dBali 1rSund 1fBatk 8>3Batk 1jLepc 3>eLepc 3>2Lepc 1bOlck aCyrl 5>16Geor ",
     "2>2Geor 7Sund 8>2Zinh Zyyy cZinh Zyyy 6Zinh 3Zyyy Zinh 5Zyyy Zinh 2Zyyy 1Zinh Zyyy 5>11Latn ",
     "4Grek Cyrl 1cLatn 4Grek 3Latn 4Grek cLatn Cyrl 1xLatn Grek 1rZinh 73Latn lGrek 2>5Grek ",
     "2>11Grek 2>5Grek 2>7Grek 1>Grek 1>Grek 1>Grek 1>uGrek 2>1gGrek 1>eGrek 1>dGrek 2>5Grek ",
     "1>iGrek 2>2Grek 1>8Grek 1>bZyyy 1Zinh 2eZyyy 1>aZyyy Latn 2>aZyyy Latn eZyyy 1>cLatn ",
     "3>xZyyy e>wZinh f>11Zyyy Grek 2Zyyy 1Latn 5Zyyy Latn qZyyy Latn gZyyy 14Latn 2Zyyy 4>ihZyyy ",
     "m>aZyyy l>prZyyy 73Brai hfZyyy 2>3tZyyy 2nGlag vLatn 37Copt 5>6Copt 11Geor 1>Geor 5>Geor ",
     "2>1jTfng 7>1Tfng e>Tfng mEthi 9>6Ethi 1>6Ethi 1>6Ethi 1>6Ethi 1>6Ethi 1>6Ethi 1>6Ethi ",
     "1>6Ethi 1>vCyrl 2lZyyy y>pHani 1>2gHani c>5xHani q>kZyyy Hani Zyyy Hani oZyyy 8Hani 3Zinh ",
     "1Hang 7Zyyy 3Hani 3Zyyy 1>2dHira 2>1Zinh 1Zyyy 2Hira Zyyy 2hKana 1Zyyy 2Kana 5>16Bopo ",
     "1>2lHang 1>fZyyy vBopo 11Zyyy 9>Zyyy fKana uHang 1>1rZyyy uHang 28Zyyy 1aKana Zyyy 2fKana ",
     "4nZyyy 533Hani 1rZyyy g73Hani wcYiii 3>1iYiii 9>1bLisu 8bVaii k>2nCyrl 2fBamu 8>xZyyy ",
     "2tLatn 2Zyyy 29Latn k>eLatn 18Sylo 3>9Zyyy 6>1jPhag 8>1xSaur 8>bSaur 6>vDeva 19Kali Zyyy ",
     "Kali zRjng b>Rjng sHang 3>25Java 1>Zyyy 9Java 4>1Java uMymr 1>1iCham 9>dCham 2>9Cham ",
     "2>3Cham vMymr 1uTavt o>4Tavt mMtei a>5Ethi 2>5Ethi 2>5Ethi 9>6Ethi 1>6Ethi 1>16Latn Zyyy ",
     "8Latn Grek 3Latn 1Zyyy 4>27Cher 19Mtei 2>9Mtei 6>8mbHang c>mHang 4>1cHang 6is>a5Hani ",
     "2>2xHani 12>6Latn c>4Armn 5>pHebr 1>4Hebr 1>Hebr 1>1Hebr 1>1Hebr 1>9Hebr dpArab 1Zyyy ",
     "3zArab w>fArab fZinh 9Zyyy 6>dZinh 1Cyrl yZyyy 1>iZyyy 1>3Zyyy 4>4Arab 1>3qArab 2>Zyyy ",
     "1>vZyyy pLatn 5Zyyy pLatn aZyyy 9Kana Zyyy 18Kana 1Zyyy uHang 3>5Hang 2>5Hang 2>5Hang ",
     "2>2Hang 3>6Zyyy 1>6Zyyy a>4Zyyy 2>bLinb 1>pLinb 1>iLinb 1>1Linb 1>eLinb 2>dLinb y>3eLinb ",
     "5>2Zyyy 4>18Zyyy 3>8Zyyy 26Grek 1>cZyyy 3>Grek 1b>18Zyyy Zinh 3m>sLyci 3>1cCari f>Zinh ",
     "qZyyy 4>zItal 9>2Ital qGoth 5>16Perm 5>tUgar 1>Ugar zXpeo 4>dXpeo 16>27Dsrt 1bShaw tOsma ",
     "2>9Osma 6>zOsge 4>zOsge 4>13Elba 8>1fAghb b>Aghb aVith 1>eVith 1>6Vith 1>1Vith 1>aVith ",
     "1>eVith 1>6Vith 1>1Vith 3>1fTodr c>8mLina 9>lLina a>7Lina o>5Latn 1>15Latn 1>8Latn 1x>5Cprt ",
     "2>Cprt 1>17Cprt 1>1Cprt 3>Cprt 2>Cprt lArmi 1>8Armi vPalm uNbat 8>8Nbat 1c>iHatr 1>1Hatr ",
     "5>4Hatr rPhnx 3>Phnx pLydi 5>Lydi pSidt 12>vMero nMerc 4>jMerc 2>19Merc 3Khar 1>1Khar ",
     "5>7Khar 1>2Khar 1>sKhar 2>2Khar 4>9Khar 7>8Khar 7>vSarb vNarb w>12Mani 4>bMani 9>1hAvst ",
     "3>6Avst lPrti 2>7Prti iPhli 5>7Phli hPhlp 7>3Phlp c>6Phlp 28>20Orkh 1j>1eHung d>1eHung ",
     "7>5Hung 13Rohg 8>9Rohg 6>11Gara 3>sGara 8>1Gara 5s>uArab 1>15Yezi 1>2Yezi 2>1Yezi g>5Arab ",
     "8>8Arab x>5Arab 13Sogo 8>15Sogd m>pOugr 12>rChrs k>mElym 9>25Brah 4>zBrah 9>Brah 1uKthi ",
     "a>Kthi 2>oSora 7>9Sora 6>1gCakm 1>hCakm 8>12Mahj 9>2nShrd 1>jSinh b>hKhoj 1>1aKhoj 1q>6Mult ",
     "1>Mult 1>3Mult 1>eMult 1>aMult 6>1mSind 5>9Sind 6>3Gran 1>7Gran 2>1Gran 2>lGran 1>6Gran ",
     "1>1Gran 1>4Gran 1>Zinh 8Gran 2>1Gran 2>2Gran 2>Gran 6>Gran 5>6Gran 2>6Gran 3>4Gran b>9Tutg ",
     "1>Tutg 2>Tutg 1>11Tutg 1>9Tutg 1>Tutg 2>Tutg 1>3Tutg 1>9Tutg 1>1Tutg 8>1Tutg t>2jNewa ",
     "1>4Newa u>1zTirh 8>9Tirh 4m>1hSidd 2>11Sidd y>1wModi b>9Modi 6>cMong j>1lTakr 6>9Takr ",
     "6>jMymr s>qAhom 2>eAhom 4>mAhom 55>1nDogr 2s>2aWara c>Wara 6Diak 2>Diak 2>7Diak 1>1Diak ",
     "1>tDiak 1>1Diak 2>bDiak 9>9Diak 1y>7Nand 2>19Nand 2>aNand r>1zZanb 8>2aSoyo d>fCans 1kPauc ",
     "7>9Deva 2e>7Shrd 2g>xSunu e>9Sunu 6>8Bhks 1>18Bhks 1>dBhks a>sBhks 3>vMarc 2>lMarc 1>dMarc ",
     "21>6Gonm 1>1Gonm 1>17Gonm 3>Gonm 1>1Gonm 1>8Gonm 8>9Gonm 6>5Gong 1>1Gong 1>10Gong 1>1Gong ",
     "1>5Gong 7>9Gong 6>17Tols 4>9Tols 6u>oMaka 7>gKawi 1>14Kawi 3>sKawi 2d>Lisu f>1dTaml d>Taml ",
     "plXsux 2u>32Xsux 1>4Xsux b>5fXsux 218>2qCpmn d>utEgyp a>32yEgyp 5>g6Hluw 5a1>1lGukh ",
     "1c6>fsBamu 7>uMroo 1>9Mroo 4>1Mroo 26Tnsa 1>9Tnsa 6>tBass 2>5Bass a>1xHmng a>9Hmng 1>6Hmng ",
     "1>kHmng 5>iHmng c0>1lKrai 5i>2iMedf 5>oBerf 2>oBerf 18>22Plrd 4>1kPlrd 7>gPlrd 1s>Tang Nshu ",
     "1Hani Kits b>6Hani 9>5bzTang d1Kits 15>Kits uTang 2p>36Tang 6pp>3Kana 1>6Kana 1>1Kana ",
     "1>Kana 7yHira 2Kana f>Hira t>2Hira 2>Kana e>3Kana 8>azNshu 1s4>2yDupl 5>cDupl 3>8Dupl ",
     "7>9Dupl 2>3Dupl 3Zyyy 318>70Zyyy 3>c3Zyyy 6>mZyyy f>gZyyy f>19Zinh 2>mZinh 9>37Zyyy ",
     "1o>6tZyyy a>12Zyyy 2>1pZyyy 2Zinh gZyyy 7Zinh 1Zyyy 6Zinh tZyyy 3Zinh 1oZyyy l>1xGrek ",
     "3e>jZyyy c>jZyyy c>2eZyyy 9>oZyyy 3r>2cZyyy 1>1yZyyy 1>1Zyyy 2>Zyyy 2>1Zyyy 2>3Zyyy 1>bZyyy ",
     "1>Zyyy 1>6Zyyy 1>1sZyyy 1>3Zyyy 2>7Zyyy 1>6Zyyy 1>rZyyy 1>3Zyyy 1>4Zyyy 1>Zyyy 3>6Zyyy ",
     "1>9fZyyy 2>83Zyyy 2>1dZyyy i3Sgnw f>4Sgnw 1>eSgnw uo>uLatn 6>5Latn 5x>6Glag 1>gGlag 2>6Glag ",
     "1>1Glag 1>4Glag 5>1pCyrl x>Cyrl 34>18Hmnp 3>dHmnp 2>9Hmnp 4>1Hmnp 8w>uToto h>1lWcho 5>Wcho ",
     "cw>15Nagm 5y>16Onao 4>Onao 5c>uTayo 1>lTayo 8>1Tayo 68>6Ethi 1>3Ethi 1>1Ethi 1>eEthi ",
     "1>5gMend 2>fMend 15>23Adlm 4>9Adlm 4>1Adlm lt>1vZyyy 24>1oZyyy 5e>3Arab 1>qArab 1>1Arab ",
     "1>Arab 2>Arab 1>9Arab 1>3Arab 1>Arab 1>Arab 6>Arab 4>Arab 1>Arab 1>Arab 1>2Arab 1>1Arab ",
     "1>Arab 2>Arab 1>Arab 1>Arab 1>Arab 1>Arab 1>1Arab 1>Arab 2>3Arab 1>6Arab 1>3Arab 1>3Arab ",
     "1>Arab 1>9Arab 1>gArab 5>2Arab 1>4Arab 1>gArab 1g>1Arab 7i>17Zyyy 4>2rZyyy c>eZyyy 2>eZyyy ",
     "1>eZyyy 1>10Zyyy a>4tZyyy 1k>pZyyy Hira 1Zyyy d>17Zyyy 4>8Zyyy 7>1Zyyy e>5Zyyy 4a>rcZyyy ",
     "3>gZyyy 3>cZyyy 3>61Zyyy 6>bZyyy 4>Zyyy f>bZyyy 4>1jZyyy 8>9Zyyy 6>13Zyyy 8>tZyyy 2>bZyyy ",
     "4>1Zyyy e>8Zyyy 13>9jZyyy 8>dZyyy 2>cZyyy 3>aZyyy 3>1kZyyy 1>Zyyy 4>fZyyy 2>bZyyy 4>9Zyyy ",
     "7>42Zyyy 1>2uZyyy sl>wynHani w>3dpHani 2>4gdHani 2>5rkHani f>h9Hani 1wi>f1Hani 15u>3t6Hani ",
     "5>6jtHani f5vr>Zyyy u>2nZyyy 3k>6nZinh "]

def scriptTable : Array (Nat × Nat × String) :=
  readRuns scriptText

def scriptCode? (c : Char) : Option String :=
  labelAt? scriptTable c.toNat

end AccessPolicy.CharClass
