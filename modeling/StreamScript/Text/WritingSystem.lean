import StreamScript.Text.Runs

/-!
# Writing systems

Every code point belongs to one writing system; marks and punctuation are mostly
common to all of them.  The assignment is stored as run-length text with the
four-letter codes of the writing systems as labels.

Some code points are shared by a few writing systems and no others.  They are
listed with those that share them; all other code points are used by the one
writing system they belong to.
-/

namespace StreamScript
namespace Text
namespace WritingSystem

/-- The writing systems: their codes, each with the other names it goes by. -/
def names : List (String × List String) :=
  [("Adlm", ["adlam"]), ("Aghb", ["caucasianalbanian"]), ("Ahom", []), ("Arab", ["arabic"]),
   ("Armi", ["imperialaramaic"]), ("Armn", ["armenian"]), ("Avst", ["avestan"]),
   ("Bali", ["balinese"]), ("Bamu", ["bamum"]), ("Bass", ["bassavah"]), ("Batk", ["batak"]),
   ("Beng", ["bengali"]), ("Bhks", ["bhaiksuki"]), ("Bopo", ["bopomofo"]), ("Brah", ["brahmi"]),
   ("Brai", ["braille"]), ("Bugi", ["buginese"]), ("Buhd", ["buhid"]), ("Cakm", ["chakma"]),
   ("Cans", ["canadianaboriginal"]), ("Cari", ["carian"]), ("Cham", []), ("Cher", ["cherokee"]),
   ("Chrs", ["chorasmian"]), ("Copt", ["coptic", "qaac"]), ("Cpmn", ["cyprominoan"]),
   ("Cprt", ["cypriot"]), ("Cyrl", ["cyrillic"]), ("Deva", ["devanagari"]),
   ("Diak", ["divesakuru"]), ("Dogr", ["dogra"]), ("Dsrt", ["deseret"]), ("Dupl", ["duployan"]),
   ("Egyp", ["egyptianhieroglyphs"]), ("Elba", ["elbasan"]), ("Elym", ["elymaic"]),
   ("Ethi", ["ethiopic"]), ("Gara", ["garay"]), ("Geor", ["georgian"]), ("Glag", ["glagolitic"]),
   ("Gong", ["gunjalagondi"]), ("Gonm", ["masaramgondi"]), ("Goth", ["gothic"]),
   ("Gran", ["grantha"]), ("Grek", ["greek"]), ("Gujr", ["gujarati"]), ("Gukh", ["gurungkhema"]),
   ("Guru", ["gurmukhi"]), ("Hang", ["hangul"]), ("Hani", ["han"]), ("Hano", ["hanunoo"]),
   ("Hatr", ["hatran"]), ("Hebr", ["hebrew"]), ("Hira", ["hiragana"]),
   ("Hluw", ["anatolianhieroglyphs"]), ("Hmng", ["pahawhhmong"]),
   ("Hmnp", ["nyiakengpuachuehmong"]), ("Hung", ["oldhungarian"]), ("Ital", ["olditalic"]),
   ("Java", ["javanese"]), ("Kali", ["kayahli"]), ("Kana", ["katakana"]), ("Kawi", []),
   ("Khar", ["kharoshthi"]), ("Khmr", ["khmer"]), ("Khoj", ["khojki"]),
   ("Kits", ["khitansmallscript"]), ("Knda", ["kannada"]), ("Krai", ["kiratrai"]),
   ("Kthi", ["kaithi"]), ("Lana", ["taitham"]), ("Laoo", ["lao"]), ("Latn", ["latin"]),
   ("Lepc", ["lepcha"]), ("Limb", ["limbu"]), ("Lina", ["lineara"]), ("Linb", ["linearb"]),
   ("Lisu", []), ("Lyci", ["lycian"]), ("Lydi", ["lydian"]), ("Mahj", ["mahajani"]),
   ("Maka", ["makasar"]), ("Mand", ["mandaic"]), ("Mani", ["manichaean"]), ("Marc", ["marchen"]),
   ("Medf", ["medefaidrin"]), ("Mend", ["mendekikakui"]), ("Merc", ["meroiticcursive"]),
   ("Mero", ["meroitichieroglyphs"]), ("Mlym", ["malayalam"]), ("Modi", []),
   ("Mong", ["mongolian"]), ("Mroo", ["mro"]), ("Mtei", ["meeteimayek"]), ("Mult", ["multani"]),
   ("Mymr", ["myanmar"]), ("Nagm", ["nagmundari"]), ("Nand", ["nandinagari"]),
   ("Narb", ["oldnortharabian"]), ("Nbat", ["nabataean"]), ("Newa", []), ("Nkoo", ["nko"]),
   ("Nshu", ["nushu"]), ("Ogam", ["ogham"]), ("Olck", ["olchiki"]), ("Onao", ["olonal"]),
   ("Orkh", ["oldturkic"]), ("Orya", ["oriya"]), ("Osge", ["osage"]), ("Osma", ["osmanya"]),
   ("Ougr", ["olduyghur"]), ("Palm", ["palmyrene"]), ("Pauc", ["paucinhau"]),
   ("Perm", ["oldpermic"]), ("Phag", ["phagspa"]), ("Phli", ["inscriptionalpahlavi"]),
   ("Phlp", ["psalterpahlavi"]), ("Phnx", ["phoenician"]), ("Plrd", ["miao"]),
   ("Prti", ["inscriptionalparthian"]), ("Rjng", ["rejang"]), ("Rohg", ["hanifirohingya"]),
   ("Runr", ["runic"]), ("Samr", ["samaritan"]), ("Sarb", ["oldsoutharabian"]),
   ("Saur", ["saurashtra"]), ("Sgnw", ["signwriting"]), ("Shaw", ["shavian"]),
   ("Shrd", ["sharada"]), ("Sidd", ["siddham"]), ("Sind", ["khudawadi"]), ("Sinh", ["sinhala"]),
   ("Sogd", ["sogdian"]), ("Sogo", ["oldsogdian"]), ("Sora", ["sorasompeng"]),
   ("Soyo", ["soyombo"]), ("Sund", ["sundanese"]), ("Sunu", ["sunuwar"]),
   ("Sylo", ["sylotinagri"]), ("Syrc", ["syriac"]), ("Tagb", ["tagbanwa"]), ("Takr", ["takri"]),
   ("Tale", ["taile"]), ("Talu", ["newtailue"]), ("Taml", ["tamil"]), ("Tang", ["tangut"]),
   ("Tavt", ["taiviet"]), ("Telu", ["telugu"]), ("Tfng", ["tifinagh"]), ("Tglg", ["tagalog"]),
   ("Thaa", ["thaana"]), ("Thai", []), ("Tibt", ["tibetan"]), ("Tirh", ["tirhuta"]),
   ("Tnsa", ["tangsa"]), ("Todr", ["todhri"]), ("Toto", []), ("Tutg", ["tulutigalari"]),
   ("Ugar", ["ugaritic"]), ("Vaii", ["vai"]), ("Vith", ["vithkuqi"]), ("Wara", ["warangciti"]),
   ("Wcho", ["wancho"]), ("Xpeo", ["oldpersian"]), ("Xsux", ["cuneiform"]), ("Yezi", ["yezidi"]),
   ("Yiii", ["yi"]), ("Zanb", ["zanabazarsquare"]), ("Zinh", ["inherited", "qaai"]),
   ("Zyyy", ["common"])]

/-- The run-length text of the whole code space. -/
def runText : List String :=
  ["Zyyy65Latn26Zyyy6Latn26Zyyy47LatnZyyy15LatnZyyy5Latn23ZyyyLatn31ZyyyLatn449Zyyy39Latn5",
   "Zyyy5Bopo2Zyyy20Zinh112Grek4ZyyyGrek3Zzzz2Grek4ZyyyGrekZzzz4GrekZyyyGrekZyyyGrek3Zzzz",
   "GrekZzzzGrek20ZzzzGrek63Copt14Grek16Cyrl133Zinh2Cyrl169ZzzzArmn38Zzzz2Armn50Zzzz2Armn3",
   "ZzzzHebr55Zzzz8Hebr27Zzzz4Hebr6Zzzz11Arab5ZyyyArab6ZyyyArab14ZyyyArab3ZyyyArab32Zyyy",
   "Arab10Zinh11Arab26ZinhArab108ZyyyArab34Syrc14ZzzzSyrc60Zzzz2Syrc3Arab48Thaa50Zzzz14",
   "Nkoo59Zzzz2Nkoo3Samr46Zzzz2Samr15ZzzzMand28Zzzz2MandZzzzSyrc11Zzzz5Arab31ZzzzArab2Zzzz5",
   "Arab75ZyyyArab29Deva81Zinh4Deva15Zyyy2Deva26Beng4ZzzzBeng8Zzzz2Beng2Zzzz2Beng22ZzzzBeng7",
   "ZzzzBengZzzz3Beng4Zzzz2Beng9Zzzz2Beng2Zzzz2Beng4Zzzz8BengZzzz4Beng2ZzzzBeng5Zzzz2Beng25",
   "Zzzz2Guru3ZzzzGuru6Zzzz4Guru2Zzzz2Guru22ZzzzGuru7ZzzzGuru2ZzzzGuru2ZzzzGuru2Zzzz2Guru",
   "ZzzzGuru5Zzzz4Guru2Zzzz2Guru3Zzzz3GuruZzzz7Guru4ZzzzGuruZzzz7Guru17Zzzz10Gujr3ZzzzGujr9",
   "ZzzzGujr3ZzzzGujr22ZzzzGujr7ZzzzGujr2ZzzzGujr5Zzzz2Gujr10ZzzzGujr3ZzzzGujr3Zzzz2Gujr",
   "Zzzz15Gujr4Zzzz2Gujr12Zzzz7Gujr7ZzzzOrya3ZzzzOrya8Zzzz2Orya2Zzzz2Orya22ZzzzOrya7Zzzz",
   "Orya2ZzzzOrya5Zzzz2Orya9Zzzz2Orya2Zzzz2Orya3Zzzz7Orya3Zzzz4Orya2ZzzzOrya5Zzzz2Orya18",
   "Zzzz10Taml2ZzzzTaml6Zzzz3Taml3ZzzzTaml4Zzzz3Taml2ZzzzTamlZzzzTaml2Zzzz3Taml2Zzzz3Taml3",
   "Zzzz3Taml12Zzzz4Taml5Zzzz3Taml3ZzzzTaml4Zzzz2TamlZzzz6TamlZzzz14Taml21Zzzz5Telu13Zzzz",
   "Telu3ZzzzTelu23ZzzzTelu16Zzzz2Telu9ZzzzTelu3ZzzzTelu4Zzzz7Telu2ZzzzTelu3Zzzz2TeluZzzz2",
   "Telu4Zzzz2Telu10Zzzz7Telu9Knda13ZzzzKnda3ZzzzKnda23ZzzzKnda10ZzzzKnda5Zzzz2Knda9Zzzz",
   "Knda3ZzzzKnda4Zzzz7Knda2Zzzz6Knda2ZzzzKnda4Zzzz2Knda10ZzzzKnda3Zzzz12Mlym13ZzzzMlym3Zzzz",
   "Mlym51ZzzzMlym3ZzzzMlym6Zzzz4Mlym16Zzzz2Mlym26ZzzzSinh3ZzzzSinh18Zzzz3Sinh24ZzzzSinh9",
   "ZzzzSinhZzzz2Sinh7Zzzz3SinhZzzz4Sinh6ZzzzSinhZzzzSinh8Zzzz6Sinh10Zzzz2Sinh3Zzzz12Thai58",
   "Zzzz4ZyyyThai28Zzzz37Laoo2ZzzzLaooZzzzLaoo5ZzzzLaoo24ZzzzLaooZzzzLaoo23Zzzz2Laoo5Zzzz",
   "LaooZzzzLaoo7ZzzzLaoo10Zzzz2Laoo4Zzzz32Tibt72ZzzzTibt36Zzzz4Tibt39ZzzzTibt36ZzzzTibt15",
   "ZzzzTibt7Zyyy4Tibt2Zzzz37Mymr160Geor38ZzzzGeorZzzz5GeorZzzz2Geor43ZyyyGeor4Hang256Ethi73",
   "ZzzzEthi4Zzzz2Ethi7ZzzzEthiZzzzEthi4Zzzz2Ethi41ZzzzEthi4Zzzz2Ethi33ZzzzEthi4Zzzz2Ethi7",
   "ZzzzEthiZzzzEthi4Zzzz2Ethi15ZzzzEthi57ZzzzEthi4Zzzz2Ethi67Zzzz2Ethi32Zzzz3Ethi26Zzzz6",
   "Cher86Zzzz2Cher6Zzzz2Cans640Ogam29Zzzz3Runr75Zyyy3Runr11Zzzz7Tglg22Zzzz9TglgHano21Zyyy2",
   "Zzzz9Buhd20Zzzz12Tagb13ZzzzTagb3ZzzzTagb2Zzzz12Khmr94Zzzz2Khmr10Zzzz6Khmr10Zzzz6Mong2",
   "Zyyy2MongZyyyMong20Zzzz6Mong89Zzzz7Mong43Zzzz5Cans70Zzzz10Limb31ZzzzLimb12Zzzz4Limb12",
   "Zzzz4LimbZzzz3Limb12Tale30Zzzz2Tale5Zzzz11Talu44Zzzz4Talu26Zzzz6Talu11Zzzz3Talu2Khmr32",
   "Bugi28Zzzz2Bugi2Lana63ZzzzLana29Zzzz2Lana11Zzzz6Lana10Zzzz6Lana14Zzzz2Zinh31Zzzz49Bali77",
   "ZzzzBali50Sund64Batk52Zzzz8Batk4Lepc56Zzzz3Lepc15Zzzz3Lepc3Olck48Cyrl11Zzzz5Geor43Zzzz2",
   "Geor3Sund8Zzzz8Zinh3ZyyyZinh13ZyyyZinh7Zyyy4ZinhZyyy6ZinhZyyy3Zinh2ZyyyZzzz5Latn38Grek5",
   "CyrlLatn49Grek5Latn4Grek5Latn13CyrlLatn70GrekZinh64Latn256Grek22Zzzz2Grek6Zzzz2Grek38",
   "Zzzz2Grek6Zzzz2Grek8ZzzzGrekZzzzGrekZzzzGrekZzzzGrek31Zzzz2Grek53ZzzzGrek15ZzzzGrek14",
   "Zzzz2Grek6ZzzzGrek19Zzzz2Grek3ZzzzGrek9ZzzzZyyy12Zinh2Zyyy87ZzzzZyyy11LatnZzzz2Zyyy11",
   "LatnZyyy15ZzzzLatn13Zzzz3Zyyy33Zzzz15Zinh33Zzzz15Zyyy38GrekZyyy3Latn2Zyyy6LatnZyyy27Latn",
   "Zyyy17Latn41Zyyy3Zzzz4Zyyy666Zzzz22Zyyy11Zzzz21Zyyy928Brai256Zyyy628Zzzz2Zyyy32Zzzz",
   "Zyyy105Glag96Latn32Copt116Zzzz5Copt7Geor38ZzzzGeorZzzz5GeorZzzz2Tfng56Zzzz7Tfng2Zzzz14",
   "TfngEthi23Zzzz9Ethi7ZzzzEthi7ZzzzEthi7ZzzzEthi7ZzzzEthi7ZzzzEthi7ZzzzEthi7ZzzzEthi7Zzzz",
   "Cyrl32Zyyy94Zzzz34Hani26ZzzzHani89Zzzz12Hani214Zzzz26Zyyy21HaniZyyyHaniZyyy25Hani9Zinh4",
   "Hang2Zyyy8Hani4Zyyy4ZzzzHira86Zzzz2Zinh2Zyyy2Hira3ZyyyKana90Zyyy2Kana3Zzzz5Bopo43Zzzz",
   "Hang94ZzzzZyyy16Bopo32Zyyy38Zzzz9ZyyyKana16Hang31ZzzzZyyy64Hang31Zyyy81Kana47ZyyyKana88",
   "Zyyy168Hani6592Zyyy64Hani20992Yiii1165Zzzz3Yiii55Zzzz9Lisu48Vaii300Zzzz20Cyrl96Bamu88",
   "Zzzz8Zyyy34Latn102Zyyy3Latn67Zzzz2Latn2ZzzzLatnZzzzLatn8Zzzz21Latn14Sylo45Zzzz3Zyyy10",
   "Zzzz6Phag56Zzzz8Saur70Zzzz8Saur12Zzzz6Deva32Kali46ZyyyKaliRjng36Zzzz11RjngHang29Zzzz3",
   "Java78ZzzzZyyyJava10Zzzz4Java2Mymr31ZzzzCham55Zzzz9Cham14Zzzz2Cham10Zzzz2Cham4Mymr32",
   "Tavt67Zzzz24Tavt5Mtei23Zzzz10Ethi6Zzzz2Ethi6Zzzz2Ethi6Zzzz9Ethi7ZzzzEthi7ZzzzLatn43Zyyy",
   "Latn9GrekLatn4Zyyy2Zzzz4Cher80Mtei46Zzzz2Mtei10Zzzz6Hang11172Zzzz12Hang23Zzzz4Hang49",
   "Zzzz8452Hani366Zzzz2Hani106Zzzz38Latn7Zzzz12Armn5Zzzz5Hebr26ZzzzHebr5ZzzzHebrZzzzHebr2",
   "ZzzzHebr2ZzzzHebr10Arab115Zzzz16Arab363Zyyy2Arab80Zzzz2Arab54Zzzz7ArabZzzz32Arab16Zinh16",
   "Zyyy10Zzzz6Zinh14Cyrl2Zyyy35ZzzzZyyy19ZzzzZyyy4Zzzz4Arab5ZzzzArab135Zzzz2ZyyyZzzzZyyy32",
   "Latn26Zyyy6Latn26Zyyy11Kana10ZyyyKana45Zyyy2Hang31Zzzz3Hang6Zzzz2Hang6Zzzz2Hang6Zzzz2",
   "Hang3Zzzz3Zyyy7ZzzzZyyy7Zzzz10Zyyy5Zzzz2Linb12ZzzzLinb26ZzzzLinb19ZzzzLinb2ZzzzLinb15",
   "Zzzz2Linb14Zzzz34Linb123Zzzz5Zyyy3Zzzz4Zyyy45Zzzz3Zyyy9Grek79ZzzzZyyy13Zzzz3GrekZzzz47",
   "Zyyy45ZinhZzzz130Lyci29Zzzz3Cari49Zzzz15ZinhZyyy27Zzzz4Ital36Zzzz9Ital3Goth27Zzzz5Perm43",
   "Zzzz5Ugar30ZzzzUgarXpeo36Zzzz4Xpeo14Zzzz42Dsrt80Shaw48Osma30Zzzz2Osma10Zzzz6Osge36Zzzz4",
   "Osge36Zzzz4Elba40Zzzz8Aghb52Zzzz11AghbVith11ZzzzVith15ZzzzVith7ZzzzVith2ZzzzVith11Zzzz",
   "Vith15ZzzzVith7ZzzzVith2Zzzz3Todr52Zzzz12Lina311Zzzz9Lina22Zzzz10Lina8Zzzz24Latn6Zzzz",
   "Latn42ZzzzLatn9Zzzz69Cprt6Zzzz2CprtZzzzCprt44ZzzzCprt2Zzzz3CprtZzzz2CprtArmi22ZzzzArmi9",
   "Palm32Nbat31Zzzz8Nbat9Zzzz48Hatr19ZzzzHatr2Zzzz5Hatr5Phnx28Zzzz3PhnxLydi26Zzzz5Lydi",
   "Zzzz64Mero32Merc24Zzzz4Merc20Zzzz2Merc46Khar4ZzzzKhar2Zzzz5Khar8ZzzzKhar3ZzzzKhar29Zzzz2",
   "Khar3Zzzz4Khar10Zzzz7Khar9Zzzz7Sarb32Narb32Zzzz32Mani39Zzzz4Mani12Zzzz9Avst54Zzzz3Avst7",
   "Prti22Zzzz2Prti8Phli19Zzzz5Phli8Phlp18Zzzz7Phlp4Zzzz12Phlp7Zzzz80Orkh73Zzzz55Hung51",
   "Zzzz13Hung51Zzzz7Hung6Rohg40Zzzz8Rohg10Zzzz6Gara38Zzzz3Gara29Zzzz8Gara2Zzzz208Arab31Zzzz",
   "Yezi42ZzzzYezi3Zzzz2Yezi2Zzzz16Arab3Zzzz55Arab4Sogo40Zzzz8Sogd42Zzzz22Ougr26Zzzz38Chrs28",
   "Zzzz20Elym23Zzzz9Brah78Zzzz4Brah36Zzzz9BrahKthi67Zzzz10KthiZzzz2Sora25Zzzz7Sora10Zzzz6",
   "Cakm53ZzzzCakm18Zzzz8Mahj39Zzzz9Shrd96ZzzzSinh20Zzzz11Khoj18ZzzzKhoj47Zzzz62Mult7Zzzz",
   "MultZzzzMult4ZzzzMult15ZzzzMult11Zzzz6Sind59Zzzz5Sind10Zzzz6Gran4ZzzzGran8Zzzz2Gran2",
   "Zzzz2Gran22ZzzzGran7ZzzzGran2ZzzzGran5ZzzzZinhGran9Zzzz2Gran2Zzzz2Gran3Zzzz2GranZzzz6",
   "GranZzzz5Gran7Zzzz2Gran7Zzzz3Gran5Zzzz11Tutg10ZzzzTutgZzzz2TutgZzzzTutg38ZzzzTutg10Zzzz",
   "TutgZzzz2TutgZzzzTutg4ZzzzTutg10ZzzzTutg2Zzzz8Tutg2Zzzz29Newa92ZzzzNewa5Zzzz30Tirh72",
   "Zzzz8Tirh10Zzzz166Sidd54Zzzz2Sidd38Zzzz34Modi69Zzzz11Modi10Zzzz6Mong13Zzzz19Takr58Zzzz6",
   "Takr10Zzzz6Mymr20Zzzz28Ahom27Zzzz2Ahom15Zzzz4Ahom23Zzzz185Dogr60Zzzz100Wara83Zzzz12Wara",
   "Diak7Zzzz2DiakZzzz2Diak8ZzzzDiak2ZzzzDiak30ZzzzDiak2Zzzz2Diak12Zzzz9Diak10Zzzz70Nand8",
   "Zzzz2Nand46Zzzz2Nand11Zzzz27Zanb72Zzzz8Soyo83Zzzz13Cans16Pauc57Zzzz7Deva10Zzzz182Sunu34",
   "Zzzz14Sunu10Zzzz6Bhks9ZzzzBhks45ZzzzBhks14Zzzz10Bhks29Zzzz3Marc32Zzzz2Marc22ZzzzMarc14",
   "Zzzz73Gonm7ZzzzGonm2ZzzzGonm44Zzzz3GonmZzzzGonm2ZzzzGonm9Zzzz8Gonm10Zzzz6Gong6ZzzzGong2",
   "ZzzzGong37ZzzzGong2ZzzzGong6Zzzz7Gong10Zzzz310Maka25Zzzz7Kawi17ZzzzKawi41Zzzz3Kawi29",
   "Zzzz85LisuZzzz15Taml50Zzzz13TamlXsux922Zzzz102Xsux111ZzzzXsux5Zzzz11Xsux196Zzzz2636",
   "Cpmn99Zzzz13Egyp1110Zzzz10Egyp3995Zzzz5Hluw583Zzzz6841Gukh58Zzzz1734Bamu569Zzzz7Mroo31",
   "ZzzzMroo10Zzzz4Mroo2Tnsa79ZzzzTnsa10Zzzz6Bass30Zzzz2Bass6Zzzz10Hmng70Zzzz10Hmng10Zzzz",
   "Hmng7ZzzzHmng21Zzzz5Hmng19Zzzz432Krai58Zzzz198Medf91Zzzz101Plrd75Zzzz4Plrd57Zzzz7Plrd17",
   "Zzzz64TangNshuHani2KitsZzzz11Hani2Zzzz14Tang6136Zzzz8Tang768Kits470Zzzz41KitsTang9",
   "Zzzz8935Kana4ZzzzKana7ZzzzKana2ZzzzKanaHira287Kana3Zzzz15HiraZzzz29Hira3Zzzz2KanaZzzz14",
   "Kana4Zzzz8Nshu396Zzzz2308Dupl107Zzzz5Dupl13Zzzz3Dupl9Zzzz7Dupl10Zzzz2Dupl4Zyyy4Zzzz3932",
   "Zyyy250Zzzz6Zyyy436Zzzz76Zinh46Zzzz2Zinh23Zzzz9Zyyy116Zzzz60Zyyy246Zzzz10Zyyy39Zzzz2",
   "Zyyy62Zinh3Zyyy17Zinh8Zyyy2Zinh7Zyyy30Zinh4Zyyy61Zzzz21Grek70Zzzz122Zyyy20Zzzz12Zyyy20",
   "Zzzz12Zyyy87Zzzz9Zyyy25Zzzz135Zyyy85ZzzzZyyy71ZzzzZyyy2Zzzz2ZyyyZzzz2Zyyy2Zzzz2Zyyy4Zzzz",
   "Zyyy12ZzzzZyyyZzzzZyyy7ZzzzZyyy65ZzzzZyyy4Zzzz2Zyyy8ZzzzZyyy7ZzzzZyyy28ZzzzZyyy4Zzzz",
   "Zyyy5ZzzzZyyyZzzz3Zyyy7ZzzzZyyy340Zzzz2Zyyy292Zzzz2Zyyy50Sgnw652Zzzz15Sgnw5ZzzzSgnw15",
   "Zzzz1104Latn31Zzzz6Latn6Zzzz213Glag7ZzzzGlag17Zzzz2Glag7ZzzzGlag2ZzzzGlag5Zzzz5Cyrl62",
   "Zzzz33CyrlZzzz112Hmnp45Zzzz3Hmnp14Zzzz2Hmnp10Zzzz4Hmnp2Zzzz320Toto31Zzzz17Wcho58Zzzz5",
   "WchoZzzz464Nagm42Zzzz214Onao43Zzzz4OnaoZzzz480Ethi7ZzzzEthi4ZzzzEthi2ZzzzEthi15Zzzz",
   "Mend197Zzzz2Mend16Zzzz41Adlm76Zzzz4Adlm10Zzzz4Adlm2Zzzz785Zyyy68Zzzz76Zyyy61Zzzz194Arab4",
   "ZzzzArab27ZzzzArab2ZzzzArabZzzz2ArabZzzzArab10ZzzzArab4ZzzzArabZzzzArabZzzz6ArabZzzz4",
   "ArabZzzzArabZzzzArabZzzzArab3ZzzzArab2ZzzzArabZzzz2ArabZzzzArabZzzzArabZzzzArabZzzzArab",
   "ZzzzArab2ZzzzArabZzzz2Arab4ZzzzArab7ZzzzArab4ZzzzArab4ZzzzArabZzzzArab10ZzzzArab17Zzzz5",
   "Arab3ZzzzArab5ZzzzArab17Zzzz52Arab2Zzzz270Zyyy44Zzzz4Zyyy100Zzzz12Zyyy15Zzzz2Zyyy15Zzzz",
   "Zyyy15ZzzzZyyy37Zzzz10Zyyy174Zzzz56Zyyy26HiraZyyy2Zzzz13Zyyy44Zzzz4Zyyy9Zzzz7Zyyy2Zzzz14",
   "Zyyy6Zzzz154Zyyy984Zzzz4Zyyy17Zzzz3Zyyy13Zzzz3Zyyy119Zzzz4Zyyy95Zzzz6Zyyy12Zzzz4Zyyy",
   "Zzzz15Zyyy12Zzzz4Zyyy56Zzzz8Zyyy10Zzzz6Zyyy40Zzzz8Zyyy30Zzzz2Zyyy12Zzzz4Zyyy2Zzzz62",
   "Zyyy340Zzzz12Zyyy14Zzzz2Zyyy13Zzzz3Zyyy10Zzzz5Zyyy56Zzzz7Zyyy15Zzzz2Zyyy11Zzzz6Zyyy9",
   "Zzzz7Zyyy147ZzzzZyyy102Zzzz1030Hani42720Zzzz32Hani4154Zzzz6Hani222Zzzz2Hani5762Zzzz14",
   "Hani7473Zzzz15Hani622Zzzz2466Hani542Zzzz1506Hani4939Zzzz5Hani4192Zzzz711761ZyyyZzzz30",
   "Zyyy96Zzzz128Zinh240Zzzz196112"]

/-- Code points that a few writing systems share: the codes of those, and the code points as
lengths that alternate between outside and inside. -/
def sharedText : List (String × String) :=
  [("Avst Cari Copt Dupl Elba Geor Glag Gong Goth Grek Hani Latn Lydi Mahj Perm Shaw", "183 1"),
   ("Beng Cyrl Deva Latn Lisu Thai Toto", "700 1"),
   ("Bopo Latn", "711 1 1 3 13 1"),
   ("Latn Lisu", "717 1"),
   ("Latn Thai", "727 1"),
   ("Cher Copt Cyrl Grek Latn Perm Sunu Tale", "768 1"),
   ("Cher Cyrl Grek Latn Osge Sunu Tale Todr", "769 1"),
   ("Cher Cyrl Latn Tfng", "770 1"),
   ("Glag Latn Sunu Syrc Thai", "771 1"),
   ("Aghb Cher Copt Cyrl Goth Grek Latn Osge Syrc Tfng Todr", "772 1"),
   ("Copt Elba Glag Goth Kana Latn", "773 1"),
   ("Cyrl Grek Latn Perm", "774 1"),
   ("Copt Dupl Hebr Latn Perm Syrc Tale Tfng Todr", "775 1"),
   ("Armn Cyrl Dupl Goth Grek Hebr Latn Perm Syrc Tale", "776 1"),
   ("Latn Tfng", "777 1"),
   ("Dupl Latn Syrc", "778 1"),
   ("Cher Cyrl Latn Osge", "779 1"),
   ("Cher Latn Tale", "780 1"),
   ("Latn Sunu", "781 1 2 1"),
   ("Ethi Latn", "782 1"),
   ("Cyrl Latn Todr", "785 1"),
   ("Grek Latn Perm Todr", "787 1"),
   ("Latn Syrc", "800 1 4 1 8 1"),
   ("Cher Dupl Kana Latn Syrc", "803 1"),
   ("Cher Dupl Latn Syrc", "804 1"),
   ("Latn Sunu Syrc", "813 1"),
   ("Cher Latn Syrc", "816 1"),
   ("Aghb Cher Goth Latn Sunu Thai", "817 1"),
   ("Grek", "834 1 2 1 6778 2"),
   ("Latn Osge", "856 1"),
   ("Aghb Latn Todr", "862 1"),
   ("Latn", "867 13"),
   ("Copt Grek", "884 2"),
   ("Cyrl Perm", "1155 1"),
   ("Cyrl Glag", "1156 1 2 1 10683 1 30763 1"),
   ("Cyrl Latn", "1157 2"),
   ("Armn Geor Glag", "1417 1"),
   ("Arab Gara Nkoo Rohg Syrc Thaa Yezi", "1548 1 14 1"),
   ("Arab Syrc Thaa", "1564 1"),
   ("Adlm Arab Gara Nkoo Rohg Syrc Thaa Yezi", "1567 1"),
   ("Adlm Arab Mand Mani Ougr Phlp Rohg Sogd Syrc", "1600 1"),
   ("Arab Syrc", "1611 11 26 1"),
   ("Arab Thaa Yezi", "1632 10"),
   ("Arab Rohg", "1748 1"),
   ("Beng Deva Gran Gujr Guru Knda Latn Mlym Orya Shrd Taml Telu Tirh", "2385 1"),
   ("Beng Deva Gran Gujr Guru Knda Latn Mlym Orya Taml Telu Tirh", "2386 1"),
   ("Beng Deva Dogr Gong Gonm Gran Gujr Guru Knda Mahj Mlym Nand Onao Orya Sind Sinh Sylo " ++
    "Takr Taml Telu Tirh", "2404 1"),
   ("Beng Deva Dogr Gong Gonm Gran Gujr Gukh Guru Knda Limb Mahj Mlym Nand Onao Orya Sind " ++
    "Sinh Sylo Takr Taml Telu Tirh", "2405 1"),
   ("Deva Dogr Kthi Mahj", "2406 10"),
   ("Beng Cakm Sylo", "2534 10"),
   ("Guru Mult", "2662 10"),
   ("Gujr Khoj", "2790 10"),
   ("Gran Taml", "3046 14 67341 1 1 1 55 2 3219 2 1 1"),
   ("Knda Nand Tutg", "3302 10"),
   ("Cakm Mymr Tale", "4160 10"),
   ("Geor Glag Latn", "4347 1"),
   ("Runr", "5867 3"),
   ("Buhd Hano Tagb Tglg", "5941 2"),
   ("Mong Phag", "6146 2 1 1"),
   ("Beng Deva Gran Knda", "7376 1 1 1"),
   ("Deva", "7377 1 2 1 6 1 2 2 2 7 2 2 1 4"),
   ("Deva Gran Knda", "7379 1"),
   ("Beng Deva", "7381 2 1 1 8 1 8 1 2 1 7 2"),
   ("Deva Shrd", "7383 1 1 1 2 2 2 1"),
   ("Deva Knda Mlym Orya Taml Telu", "7386 1"),
   ("Deva Nand", "7401 1"),
   ("Beng Deva Gran Knda Mlym Nand Orya Sinh Telu Tirh Tutg", "7410 1"),
   ("Deva Gran", "7411 1 4 2"),
   ("Deva Gran Knda Tutg", "7412 1"),
   ("Beng", "7415 1"),
   ("Nand", "7418 1"),
   ("Cyrl Latn Syrc", "7672 1"),
   ("Syrc", "7674 1"),
   ("Latn Mong Phag", "8239 1"),
   ("Adlm Arab", "8271 1"),
   ("Cari Geor Glag Hung Lyci Orkh", "8282 1"),
   ("Cari Grek Hung Mero", "8285 1"),
   ("Deva Gran Latn", "8432 1"),
   ("Copt Latn", "11799 1"),
   ("Avst Orkh", "11824 1"),
   ("Avst Cari Geor Hung Kthi Lydi Samr", "11825 1"),
   ("Dupl", "11836 1 101987 4"),
   ("Adlm Arab Hung", "11841 1"),
   ("Hani Tang", "12272 16 495 1"),
   ("Bopo Hang Hani Hira Kana Mong Yiii", "12289 1"),
   ("Bopo Hang Hani Hira Kana Mong Phag Yiii", "12290 1"),
   ("Bopo Hang Hani Hira Kana", "12291 1 15 1 8 4 16 1 6 1 52749 2"),
   ("Hani", "12294 1 55 2 336 16 32 38 58 40 56 49 15 12 51 1 88 25 10 5 96 31 106337 18 7902 2"),
   ("Bopo Hang Hani Hira Kana Mong Tibt Yiii", "12296 2"),
   ("Bopo Hang Hani Hira Kana Lisu Mong Tibt Yiii", "12298 2"),
   ("Bopo Hang Hani Hira Kana Yiii", "12300 6 2 8 223 1 52837 5"),
   ("Bopo Hani", "12330 4"),
   ("Hira Kana", "12337 5 99 4 3 1 91 1 52851 1 45 2"),
   ("Hani Hira Kana", "12348 2"),
   ("Hani Latn", "42752 8"),
   ("Deva Dogr Gujr Guru Khoj Knda Kthi Mahj Mlym Modi Nand Shrd Sind Takr Tirh Tutg", "43056 3"),
   ("Deva Dogr Gujr Guru Khoj Knda Kthi Mahj Modi Nand Shrd Sind Takr Tirh Tutg", "43059 3"),
   ("Deva Dogr Gujr Guru Khoj Kthi Mahj Modi Sind Takr Tirh", "43062 2 1 1"),
   ("Deva Dogr Gujr Guru Khoj Kthi Mahj Modi Shrd Sind Takr Tirh", "43064 1"),
   ("Beng Deva Tutg", "43249 1"),
   ("Deva Taml", "43251 1"),
   ("Kali Latn Mymr", "43310 1"),
   ("Bugi Java", "43471 1"),
   ("Arab Nkoo", "64830 2"),
   ("Arab Thaa", "65010 1 10 1"),
   ("Cpmn Cprt Linb", "65792 2"),
   ("Cprt Linb", "65794 1 52 9"),
   ("Cprt Lina Linb", "65799 45"),
   ("Arab Copt", "66272 28"),
   ("Mani Ougr", "68338 1")]

/-- The runs of the code space, from code point zero on. -/
def runs : Runs String :=
  Runs.ofText runText

/-- The code points that belong to the writing system of a code. -/
def set (code : String) : CodeSet :=
  runs.toSet (· == code)

/-- The code points that only a few writing systems share, with the codes of those. -/
def shared : List (List String × CodeSet) :=
  sharedText.map fun entry => (entry.1.splitOn " ", CodeSet.ofLengths [entry.2])

/-- The code points that the writing system of a code uses. -/
def users (code : String) : CodeSet :=
  let own := (set code).diff (.unions (shared.map (·.2)))
  let joint := (shared.filter fun entry => entry.1.contains code).map (·.2)
  own.union (.unions joint)

/-- The code that a name in small letters stands for. -/
def code? (name : String) : Option String :=
  (names.find? fun entry =>
    String.ofList (entry.1.toList.map Char.toLower) == name || entry.2.contains name).map (·.1)

end WritingSystem
end Text
end StreamScript
