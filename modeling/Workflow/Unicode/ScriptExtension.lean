import Workflow.Unicode.Table

/-!
The scripts each character is used with, written as the difference from the script it belongs to.
-/

namespace Workflow.Unicode

/-- Every script, with the characters that are used to write it. -/
def scriptExtensions : List Entry := [
  { names := ["adlm", "adlam"]
    base := ["adlam"]
    plus := ["61F 640 204F 2E41"] },
  { names := ["ahom"]
    base := ["ahom"] },
  { names := ["hluw", "anatolianhieroglyphs"]
    base := ["anatolianhieroglyphs"] },
  { names := ["arab", "arabic"]
    base := ["arabic"]
    plus := ["60C 61B 61F 640 64B-655 670 204F 2E41 FD3E-FD3F 102E0-102FB"] },
  { names := ["armn", "armenian"]
    base := ["armenian"]
    plus := ["308"] },
  { names := ["avst", "avestan"]
    base := ["avestan"]
    plus := ["B7 2E30-2E31"] },
  { names := ["bali", "balinese"]
    base := ["balinese"] },
  { names := ["bamu", "bamum"]
    base := ["bamum"] },
  { names := ["bass", "bassavah"]
    base := ["bassavah"] },
  { names := ["batk", "batak"]
    base := ["batak"] },
  { names := ["beng", "bengali"]
    base := ["bengali"]
    plus := [
      "2BC 951-952 964-965 1CD0 1CD2 1CD5-1CD6 1CD8 1CE1 1CEA 1CED 1CF2 1CF5-1CF7 A8F1"] },
  { names := ["bhks", "bhaiksuki"]
    base := ["bhaiksuki"] },
  { names := ["bopo", "bopomofo"]
    base := ["bopomofo"]
    plus := [
      "2C7 2C9-2CB 2D9 3001-3003 3008-3011 3013-301F 302A-302D 3030 3037 30FB FE45-FE46",
      "FF61-FF65"] },
  { names := ["brah", "brahmi"]
    base := ["brahmi"] },
  { names := ["brai", "braille"]
    base := ["braille"] },
  { names := ["bugi", "buginese"]
    base := ["buginese"]
    plus := ["A9CF"] },
  { names := ["buhd", "buhid"]
    base := ["buhid"]
    plus := ["1735-1736"] },
  { names := ["cans", "canadianaboriginal"]
    base := ["canadianaboriginal"] },
  { names := ["cari", "carian"]
    base := ["carian"]
    plus := ["B7 205A 205D 2E31"] },
  { names := ["aghb", "caucasianalbanian"]
    base := ["caucasianalbanian"]
    plus := ["304 331 35E"] },
  { names := ["cakm", "chakma"]
    base := ["chakma"]
    plus := ["9E6-9EF 1040-1049"] },
  { names := ["cham"]
    base := ["cham"] },
  { names := ["cher", "cherokee"]
    base := ["cherokee"]
    plus := ["300-302 304 30B-30C 323-324 330-331"] },
  { names := ["chrs", "chorasmian"]
    base := ["chorasmian"] },
  { names := ["zyyy", "common"]
    base := ["common"]
    minus := [
      "B7 2BC 2C7 2C9-2CB 2CD 2D7 2D9 374 60C 61B 61F 640 964-965 10FB 16EB-16ED 1735-1736",
      "1802-1803 1805 1CD3 1CE1 1CE9-1CEC 1CEE-1CF3 1CF5-1CF7 1CFA 202F 204F 205A 205D 2E17",
      "2E30-2E31 2E3C 2E41 2E43 2FF0-2FFF 3001-3003 3006 3008-3011 3013-301F 3030-3035 3037",
      "303C-303F 309B-309C 30A0 30FB-30FC 3190-319F 31C0-31E5 31EF 3220-3247 3280-32B0",
      "32C0-32CB 32FF 3358-3370 337B-337F 33E0-33FE A700-A707 A830-A839 A92E A9CF FD3E-FD3F",
      "FE45-FE46 FF61-FF65 FF70 FF9E-FF9F 10100-10102 10107-10133 10137-1013F 102E1-102FB",
      "1BCA0-1BCA3 1D360-1D371 1F250-1F251"] },
  { names := ["copt", "qaac", "coptic"]
    base := ["coptic"]
    plus := ["B7 300 304-305 307 374-375 2E17 102E0-102FB"] },
  { names := ["xsux", "cuneiform"]
    base := ["cuneiform"] },
  { names := ["cprt", "cypriot"]
    base := ["cypriot"]
    plus := ["10100-10102 10107-10133 10137-1013F"] },
  { names := ["cpmn", "cyprominoan"]
    base := ["cyprominoan"]
    plus := ["10100-10101"] },
  { names := ["cyrl", "cyrillic"]
    base := ["cyrillic"]
    plus := ["2BC 300-302 304-308/2 30B 311 485-486 1DF8 2E43"] },
  { names := ["dsrt", "deseret"]
    base := ["deseret"] },
  { names := ["deva", "devanagari"]
    base := ["devanagari"]
    plus := ["2BC 951-952 964-965 1CD0-1CF6 1CF8-1CF9 20F0 A830-A839"] },
  { names := ["diak", "divesakuru"]
    base := ["divesakuru"] },
  { names := ["dogr", "dogra"]
    base := ["dogra"]
    plus := ["964-96F A830-A839"] },
  { names := ["dupl", "duployan"]
    base := ["duployan"]
    plus := ["B7 307-308 30A 323-324 2E3C 1BCA0-1BCA3"] },
  { names := ["egyp", "egyptianhieroglyphs"]
    base := ["egyptianhieroglyphs"] },
  { names := ["elba", "elbasan"]
    base := ["elbasan"]
    plus := ["B7 305"] },
  { names := ["elym", "elymaic"]
    base := ["elymaic"] },
  { names := ["ethi", "ethiopic"]
    base := ["ethiopic"]
    plus := ["30E"] },
  { names := ["gara", "garay"]
    base := ["garay"]
    plus := ["60C 61B 61F"] },
  { names := ["geor", "georgian"]
    base := ["georgian"]
    plus := ["B7 589 10FB 205A 2E31"] },
  { names := ["glag", "glagolitic"]
    base := ["glagolitic"]
    plus := ["B7 303 305 484 487 589 10FB 205A 2E43 A66F"] },
  { names := ["goth", "gothic"]
    base := ["gothic"]
    plus := ["B7 304-305 308 331"] },
  { names := ["gran", "grantha"]
    base := ["grantha"]
    plus := [
      "951-952 964-965 BE6-BF3 1CD0 1CD2-1CD3 1CF2-1CF4 1CF8-1CF9 20F0 1133B 11FD0-11FD1 11FD3"] },
  { names := ["grek", "greek"]
    base := ["greek"]
    plus := ["B7 300-301 304-308/2 313 342 345 374 1DC0-1DC1 205D"] },
  { names := ["gujr", "gujarati"]
    base := ["gujarati"]
    plus := ["951-952 964-965 A830-A839"] },
  { names := ["gong", "gunjalagondi"]
    base := ["gunjalagondi"]
    plus := ["B7 964-965"] },
  { names := ["guru", "gurmukhi"]
    base := ["gurmukhi"]
    plus := ["951-952 964-965 A830-A839"] },
  { names := ["gukh", "gurungkhema"]
    base := ["gurungkhema"]
    plus := ["965"] },
  { names := ["hani", "han"]
    base := ["han"]
    plus := [
      "B7 2FF0-2FFF 3001-3003 3006 3008-3011 3013-301F 302A-302D 3030 3037 303C-303F 30FB",
      "3190-319F 31C0-31E5 31EF 3220-3247 3280-32B0 32C0-32CB 32FF 3358-3370 337B-337F",
      "33E0-33FE A700-A707 FE45-FE46 FF61-FF65 1D360-1D371 1F250-1F251"] },
  { names := ["hang", "hangul"]
    base := ["hangul"]
    plus := ["3001-3003 3008-3011 3013-301F 3030 3037 30FB FE45-FE46 FF61-FF65"] },
  { names := ["rohg", "hanifirohingya"]
    base := ["hanifirohingya"]
    plus := ["60C 61B 61F 640 6D4"] },
  { names := ["hano", "hanunoo"]
    base := ["hanunoo"]
    plus := ["1735-1736"] },
  { names := ["hatr", "hatran"]
    base := ["hatran"] },
  { names := ["hebr", "hebrew"]
    base := ["hebrew"]
    plus := ["307-308"] },
  { names := ["hira", "hiragana"]
    base := ["hiragana"]
    plus := [
      "3001-3003 3008-3011 3013-301F 3030-3035 3037 303C-303D 3099-309C 30A0 30FB-30FC",
      "FE45-FE46 FF61-FF65 FF70 FF9E-FF9F"] },
  { names := ["armi", "imperialaramaic"]
    base := ["imperialaramaic"] },
  { names := ["qaai", "zinh", "inherited"]
    base := ["inherited"]
    minus := [
      "300-30E 310-311 313 320 323-325 32D-32E 330-331 342 345 358 35E 363-36F 485-486 64B-655",
      "670 951-952 1CD0-1CD2 1CD4-1CE0 1CE2-1CE8 1CED 1CF4 1CF8-1CF9 1DC0-1DC1 1DF8 1DFA 20F0",
      "302A-302D 3099-309A 102E0 1133B"] },
  { names := ["phli", "inscriptionalpahlavi"]
    base := ["inscriptionalpahlavi"] },
  { names := ["prti", "inscriptionalparthian"]
    base := ["inscriptionalparthian"] },
  { names := ["java", "javanese"]
    base := ["javanese"]
    plus := ["A9CF"] },
  { names := ["kthi", "kaithi"]
    base := ["kaithi"]
    plus := ["966-96F 2E31 A830-A839"] },
  { names := ["knda", "kannada"]
    base := ["kannada"]
    plus := ["951-952 964-965 1CD0 1CD2-1CD3 1CDA 1CF2 1CF4 A830-A835"] },
  { names := ["kana", "katakana"]
    base := ["katakana"]
    plus := [
      "305 323 3001-3003 3008-3011 3013-301F 3030-3035 3037 303C-303D 3099-309C 30A0 30FB-30FC",
      "FE45-FE46 FF61-FF65 FF70 FF9E-FF9F"] },
  { names := ["kawi"]
    base := ["kawi"] },
  { names := ["kali", "kayahli"]
    base := ["kayahli"]
    plus := ["A92E"] },
  { names := ["khar", "kharoshthi"]
    base := ["kharoshthi"] },
  { names := ["kits", "khitansmallscript"]
    base := ["khitansmallscript"] },
  { names := ["khmr", "khmer"]
    base := ["khmer"] },
  { names := ["khoj", "khojki"]
    base := ["khojki"]
    plus := ["AE6-AEF A830-A839"] },
  { names := ["sind", "khudawadi"]
    base := ["khudawadi"]
    plus := ["964-965 A830-A839"] },
  { names := ["krai", "kiratrai"]
    base := ["kiratrai"] },
  { names := ["laoo", "lao"]
    base := ["lao"] },
  { names := ["latn", "latin"]
    base := ["latin"]
    plus := [
      "B7 2BC 2C7 2C9-2CB 2CD 2D7 2D9 300-30E 310-311 313 320 323-325 32D-32E 330-331 358 35E",
      "363-36F 485-486 951-952 10FB 1DF8 202F 20F0 2E17 A700-A707 A92E"] },
  { names := ["lepc", "lepcha"]
    base := ["lepcha"] },
  { names := ["limb", "limbu"]
    base := ["limbu"]
    plus := ["965"] },
  { names := ["lina", "lineara"]
    base := ["lineara"]
    plus := ["10107-10133"] },
  { names := ["linb", "linearb"]
    base := ["linearb"]
    plus := ["10100-10102 10107-10133 10137-1013F"] },
  { names := ["lisu"]
    base := ["lisu"]
    plus := ["2BC 2CD 300A-300B"] },
  { names := ["lyci", "lycian"]
    base := ["lycian"]
    plus := ["205A"] },
  { names := ["lydi", "lydian"]
    base := ["lydian"]
    plus := ["B7 2E31"] },
  { names := ["mahj", "mahajani"]
    base := ["mahajani"]
    plus := ["B7 964-96F A830-A839"] },
  { names := ["maka", "makasar"]
    base := ["makasar"] },
  { names := ["mlym", "malayalam"]
    base := ["malayalam"]
    plus := ["951-952 964-965 1CDA 1CF2 A830-A832"] },
  { names := ["mand", "mandaic"]
    base := ["mandaic"]
    plus := ["640"] },
  { names := ["mani", "manichaean"]
    base := ["manichaean"]
    plus := ["640"] },
  { names := ["marc", "marchen"]
    base := ["marchen"] },
  { names := ["gonm", "masaramgondi"]
    base := ["masaramgondi"]
    plus := ["964-965"] },
  { names := ["medf", "medefaidrin"]
    base := ["medefaidrin"] },
  { names := ["mtei", "meeteimayek"]
    base := ["meeteimayek"] },
  { names := ["mend", "mendekikakui"]
    base := ["mendekikakui"] },
  { names := ["merc", "meroiticcursive"]
    base := ["meroiticcursive"] },
  { names := ["mero", "meroitichieroglyphs"]
    base := ["meroitichieroglyphs"]
    plus := ["205D"] },
  { names := ["plrd", "miao"]
    base := ["miao"] },
  { names := ["modi"]
    base := ["modi"]
    plus := ["A830-A839"] },
  { names := ["mong", "mongolian"]
    base := ["mongolian"]
    plus := ["1802-1803 1805 202F 3001-3002 3008-300B"] },
  { names := ["mroo", "mro"]
    base := ["mro"] },
  { names := ["mult", "multani"]
    base := ["multani"]
    plus := ["A66-A6F"] },
  { names := ["mymr", "myanmar"]
    base := ["myanmar"]
    plus := ["A92E"] },
  { names := ["nbat", "nabataean"]
    base := ["nabataean"] },
  { names := ["nagm", "nagmundari"]
    base := ["nagmundari"] },
  { names := ["nand", "nandinagari"]
    base := ["nandinagari"]
    plus := ["964-965 CE6-CEF 1CE9 1CF2 1CFA A830-A835"] },
  { names := ["talu", "newtailue"]
    base := ["newtailue"] },
  { names := ["newa"]
    base := ["newa"] },
  { names := ["nkoo", "nko"]
    base := ["nko"]
    plus := ["60C 61B 61F FD3E-FD3F"] },
  { names := ["nshu", "nushu"]
    base := ["nushu"] },
  { names := ["hmnp", "nyiakengpuachuehmong"]
    base := ["nyiakengpuachuehmong"] },
  { names := ["ogam", "ogham"]
    base := ["ogham"] },
  { names := ["olck", "olchiki"]
    base := ["olchiki"] },
  { names := ["onao", "olonal"]
    base := ["olonal"]
    plus := ["964-965"] },
  { names := ["hung", "oldhungarian"]
    base := ["oldhungarian"]
    plus := ["205A 205D 2E31 2E41"] },
  { names := ["ital", "olditalic"]
    base := ["olditalic"] },
  { names := ["narb", "oldnortharabian"]
    base := ["oldnortharabian"] },
  { names := ["perm", "oldpermic"]
    base := ["oldpermic"]
    plus := ["B7 300 306-308 313 483"] },
  { names := ["xpeo", "oldpersian"]
    base := ["oldpersian"] },
  { names := ["sogo", "oldsogdian"]
    base := ["oldsogdian"] },
  { names := ["sarb", "oldsoutharabian"]
    base := ["oldsoutharabian"] },
  { names := ["orkh", "oldturkic"]
    base := ["oldturkic"]
    plus := ["205A 2E30"] },
  { names := ["ougr", "olduyghur"]
    base := ["olduyghur"]
    plus := ["640 10AF2"] },
  { names := ["orya", "oriya"]
    base := ["oriya"]
    plus := ["951-952 964-965 1CDA 1CF2"] },
  { names := ["osge", "osage"]
    base := ["osage"]
    plus := ["301 304 30B 358"] },
  { names := ["osma", "osmanya"]
    base := ["osmanya"] },
  { names := ["hmng", "pahawhhmong"]
    base := ["pahawhhmong"] },
  { names := ["palm", "palmyrene"]
    base := ["palmyrene"] },
  { names := ["pauc", "paucinhau"]
    base := ["paucinhau"] },
  { names := ["phag", "phagspa"]
    base := ["phagspa"]
    plus := ["1802-1803 1805 202F 3002"] },
  { names := ["phnx", "phoenician"]
    base := ["phoenician"] },
  { names := ["phlp", "psalterpahlavi"]
    base := ["psalterpahlavi"]
    plus := ["640"] },
  { names := ["rjng", "rejang"]
    base := ["rejang"] },
  { names := ["runr", "runic"]
    base := ["runic"]
    plus := ["16EB-16ED"] },
  { names := ["samr", "samaritan"]
    base := ["samaritan"]
    plus := ["2E31"] },
  { names := ["saur", "saurashtra"]
    base := ["saurashtra"] },
  { names := ["shrd", "sharada"]
    base := ["sharada"]
    plus := ["951 1CD7 1CD9 1CDC-1CDD 1CE0 A830-A835 A838"] },
  { names := ["shaw", "shavian"]
    base := ["shavian"]
    plus := ["B7"] },
  { names := ["sidd", "siddham"]
    base := ["siddham"] },
  { names := ["sgnw", "signwriting"]
    base := ["signwriting"] },
  { names := ["sinh", "sinhala"]
    base := ["sinhala"]
    plus := ["964-965 1CF2"] },
  { names := ["sogd", "sogdian"]
    base := ["sogdian"]
    plus := ["640"] },
  { names := ["sora", "sorasompeng"]
    base := ["sorasompeng"] },
  { names := ["soyo", "soyombo"]
    base := ["soyombo"] },
  { names := ["sund", "sundanese"]
    base := ["sundanese"] },
  { names := ["sunu", "sunuwar"]
    base := ["sunuwar"]
    plus := ["300-301 303 30D 310 32D 331"] },
  { names := ["sylo", "sylotinagri"]
    base := ["sylotinagri"]
    plus := ["964-965 9E6-9EF"] },
  { names := ["syrc", "syriac"]
    base := ["syriac"]
    plus := [
      "303-304 307-308 30A 320 323-325 32D-32E 330 60C 61B-61C 61F 640 64B-655 670 1DF8 1DFA"] },
  { names := ["tglg", "tagalog"]
    base := ["tagalog"]
    plus := ["1735-1736"] },
  { names := ["tagb", "tagbanwa"]
    base := ["tagbanwa"]
    plus := ["1735-1736"] },
  { names := ["tale", "taile"]
    base := ["taile"]
    plus := ["300-301 307-308 30C 1040-1049"] },
  { names := ["lana", "taitham"]
    base := ["taitham"] },
  { names := ["tavt", "taiviet"]
    base := ["taiviet"] },
  { names := ["takr", "takri"]
    base := ["takri"]
    plus := ["964-965 A830-A839"] },
  { names := ["taml", "tamil"]
    base := ["tamil"]
    plus := ["951-952 964-965 1CDA A8F3 11301 11303 1133B-1133C"] },
  { names := ["tnsa", "tangsa"]
    base := ["tangsa"] },
  { names := ["tang", "tangut"]
    base := ["tangut"]
    plus := ["2FF0-2FFF 31EF"] },
  { names := ["telu", "telugu"]
    base := ["telugu"]
    plus := ["951-952 964-965 1CDA 1CF2"] },
  { names := ["thaa", "thaana"]
    base := ["thaana"]
    plus := ["60C 61B-61C 61F 660-669 FDF2 FDFD"] },
  { names := ["thai"]
    base := ["thai"]
    plus := ["2BC 2D7 303 331"] },
  { names := ["tibt", "tibetan"]
    base := ["tibetan"]
    plus := ["3008-300B"] },
  { names := ["tfng", "tifinagh"]
    base := ["tifinagh"]
    plus := ["302 304 307 309"] },
  { names := ["tirh", "tirhuta"]
    base := ["tirhuta"]
    plus := ["951-952 964-965 1CF2 A830-A839"] },
  { names := ["todr", "todhri"]
    base := ["todhri"]
    plus := ["301 304 307 311 313 35E"] },
  { names := ["toto"]
    base := ["toto"]
    plus := ["2BC"] },
  { names := ["tutg", "tulutigalari"]
    base := ["tulutigalari"]
    plus := ["CE6-CEF 1CF2 1CF4 A830-A835 A8F1"] },
  { names := ["ugar", "ugaritic"]
    base := ["ugaritic"] },
  { names := ["vaii", "vai"]
    base := ["vai"] },
  { names := ["vith", "vithkuqi"]
    base := ["vithkuqi"] },
  { names := ["wcho", "wancho"]
    base := ["wancho"] },
  { names := ["wara", "warangciti"]
    base := ["warangciti"] },
  { names := ["yezi", "yezidi"]
    base := ["yezidi"]
    plus := ["60C 61B 61F 660-669"] },
  { names := ["yiii", "yi"]
    base := ["yi"]
    plus := ["3001-3002 3008-3011 3014-301B 30FB FF61-FF65"] },
  { names := ["zanb", "zanabazarsquare"]
    base := ["zanabazarsquare"] }
]

end Workflow.Unicode
