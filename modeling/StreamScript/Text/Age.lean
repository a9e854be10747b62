import StreamScript.Text.Runs

/-!
# Ages of code points

The version of the character standard that first assigned a code point is its
age.  The ages are stored as run-length text.  A label is a capital letter for
the first number of the version, counted from `A` for one, and a small letter for
the second, counted from `a` for zero; `Zz` marks what is still unassigned.
-/

namespace StreamScript
namespace Text
namespace Age

/-- A version of the standard. -/
structure Version where
  major : Nat
  minor : Nat
  deriving DecidableEq, Repr

/-- The versions that assigned code points. -/
def versions : List Version :=
  [⟨1, 1⟩, ⟨2, 0⟩, ⟨2, 1⟩, ⟨3, 0⟩, ⟨3, 1⟩, ⟨3, 2⟩, ⟨4, 0⟩, ⟨4, 1⟩, ⟨5, 0⟩, ⟨5, 1⟩, ⟨5, 2⟩, ⟨6, 0⟩,
   ⟨6, 1⟩, ⟨6, 2⟩, ⟨6, 3⟩, ⟨7, 0⟩, ⟨8, 0⟩, ⟨9, 0⟩, ⟨10, 0⟩, ⟨11, 0⟩, ⟨12, 0⟩, ⟨12, 1⟩, ⟨13, 0⟩,
   ⟨14, 0⟩, ⟨15, 0⟩, ⟨15, 1⟩, ⟨16, 0⟩]

/-- The run-length text of the whole code space. -/
def runText : List String :=
  ["Ab502Ca4Ab30Ca8CcDaCa18Da3Db11Ea14Ab89Ca5Da2Ab47CaAb10Ca5Da17Ab70Ca9CcDa8Db5Da3Ab2CaCc13",
   "Eb4Ab2Eb2Zz2AbEa3AbGaZz4Ab7ZzAbZzAb20ZzAb44EbAb7CaCc2AbCaAbCaAbCaAbCaAb18Cb2CcDa5Db4Ca",
   "Ab12CaAb66CaAb12CaAb41EbCa2Cc2Ca4Ab53Cc2Ab2Cc2Ab2Cc2EaAb28Ca2Ab8Db2Ab2Ea6Cc16Ea4Eb16Ec2",
   "Fa2Ga8ZzAb38Zz2Ab7KaAb39KaAbCaZz2Ga2FbZzBa17DbBa13Ab10EaAb9BaDb3Zz8Ab27Zz4KaAb5Zz11Da4Fb",
   "GaEb5DbAbDa9Eb5AbFdNaDbAbFaAb26Eb5Ab19Ca3Da3Db6FaAb14Cc2Ab72Ca2Ab5CaAb15CaAb30Da2Ab10Ca5",
   "DaCa14ZzCa30Da3Ca27Zz2Da3Db30Eb18Ca49CcZz14Ea59Zz2Ka3Ec46Zz2Ec15ZzFa28Zz2FaZzJa11Zz5Na31",
   "ZzNa2Zz5PaNa8FbGaFb11Ga6Ha2NaIa8Ma10Na11KaIa15HaFb27GaEcAb3DaAb53Fa2Ab18EcFaAb5EcFa2Ab25",
   "Eb2Fa5GaEc2Ea2DbEa2GaAb3ZzAb8Zz2Ab2Zz2Ab22ZzAb7ZzAbZz3Ab4Zz2AbDaAb7Zz2Ab2Zz2Ab3DbZz8Ab",
   "Zz4Ab2ZzAb5Zz2Ab21EcJa2KaZz2DaAbDaZzAb6Zz4Ab2Zz2Ab22ZzAb7ZzAb2ZzAb2ZzAb2Zz2AbZzAb5Zz4Ab2",
   "Zz2Ab3Zz3EbZz7Ab4ZzAbZz7Ab15EbKaZz10Ab3ZzAb7DaAbZzAb3ZzAb22ZzAb7ZzAb2ZzAb5Zz2Ab10ZzAb3Zz",
   "Ab3Zz2AbZz15AbDa3Zz2Ab10FbDaZz7HaJa6ZzAb3ZzAb8Zz2Ab2Zz2Ab22ZzAb7ZzAb2ZzDaAb4Zz2Ab8EbZz2",
   "Ab2Zz2Ab3Zz7MaAb2Zz4Ab2ZzAb3Eb2Zz2Ab11DaFa6Zz10Ab2ZzAb6Zz3Ab3ZzAb4Zz3Ab2ZzAbZzAb2Zz3Ab2",
   "Zz3Ab3Zz3Ab8DbAb3Zz4Ab5Zz3Ab3ZzAb4Zz2EbZz6AbZz14DbAb12Da8Zz5GaAb3KaAb8ZzAb3ZzAb23ZzAb10",
   "GaAb5Zz2NaEbAb7ZzAb3ZzAb4Zz7Ab2ZzEb2HaZz2NaZz2Ab2Eb2Zz2Ab10Zz7LaEb8IaGaAb2KaAb8ZzAb3Zz",
   "Ab23ZzAb10ZzAb5Zz2Da2Ab7ZzAb3ZzAb4Zz7Ab2Zz6NaAbZzAb2Ea2Zz2Ab10ZzEa2OaZz12JaGaAb2MaAb8Zz",
   "Ab3ZzAb23FaAb16FaJa2EbAb6EbZzAb3ZzAb4FaIaZz4Ia3AbIa7HaAb2Eb2Zz2Ab10Eb6Ia3Eb7ZzMaCa2Zz",
   "Ca18Zz3Ca24ZzCa9ZzCaZz2Ca7Zz3CaZz4Ca6ZzCaZzCa8Zz6Ga10Zz2Ca3Zz12Ab58Zz4Ab29Zz37Ab2ZzAbZz",
   "LaAb2LaAbZzLaAbLa6Ab4LaAb7LaAb3ZzAbZzAbLa2Ab2LaAb13LaAb3Zz2Ab5ZzAbZzAb6OaZzAb10Zz2Ab2Fb2",
   "Zz32Ba72ZzBa33CaEb2Zz4Ba27Fa4Ba6CaBaZzBa21Ca3Ba7CaBaCa3ZzCa15ZzEbCaDb2Eb3Ec4Fa2Zz37Ca34",
   "EbCa5EbCa2EbCa7Eb3Ca4Eb6Ca26Eb64Ec4Eb2Ab38ZzFbZz5FbZz2Ab39Cc2Db2AbDbFb3Ab90Ec5Ab68Ec5",
   "Ab82Ec6Ca7DbCa63DbCaZzCa4Zz2Ca7ZzCaZzCa4Zz2Ca39DbCaZzCa4Zz2Ca31DbCaZzCa4Zz2Ca7ZzCaZzCa4",
   "Zz2Ca7DbCa7ZzCa23DbCa31DbCaZzCa4Zz2Ca7DbCa39DbCa19Zz2Fa2Db2Ca28Zz3Db26Zz6Ca85HaZz2Ha6Zz2",
   "EcCa630Ec9Ca29Zz3Ca81Ga8Zz7Cc13NaCc7NaZz9NaCc23Zz9Cc20Zz12Cc13ZzCc3ZzCc2Zz12Ca93DaZz2",
   "Ca10Zz6Da10Zz6Ca15NaCa10Zz6Ca88KaZz7Ca42EbZz5Ec70Zz10Da29Ga2ZzDa12Zz4Da12Zz4DaZz3Da42Zz2",
   "Da5Zz11Db42Ec2Zz4Db26Zz6Db10EcZz3Db2Da32Db28Zz2Db2Ec63ZzEc29Zz2Ec11Zz6Ec10Zz6Ec14Zz2Ga15",
   "Ma2Na14Zz49Ea76NaZzPa2Ea45Na2PaEb43Fb3Eb12Fb6Fa52Zz8Fa4Eb56Zz3Eb15Zz3Eb51Ia9Pa2Zz5Ka43",
   "Zz2Ka3Fb8Zz8Ec35Fb4JaGa2LaZz5Da108Db88Ea7Eb28Ga15Ja4NaIaFaEcEa2Ab155BaEb4Ab90Eb6Ab22Zz2",
   "Ab6Zz2Ab38Zz2Ab6Zz2Ab8ZzAbZzAbZzAbZzAb31Zz2Ab53ZzAb15ZzAb14Zz2Ab6ZzAb19Zz2Ab3ZzAb9ZzAb47",
   "CaAb23CcCa6Cc5Da2Db2CcDb7Cc5EbZzFd4Ab7CcZz2Ab27ZzDb5Fa8Zz3Ab11BaBbCa3Cc2Db4Ec3FaFcGa3Ha",
   "JaNaZz15Ab18Ca2Cc7DbEa4EbZz15Ab57Ca2DaDbCc15DbEa2EbEc3Ab48CaEaEb4EcHa2Zz4Ab91Ca9Cc12",
   "Ab242Cc14AbCaAb121CaCcCa30Cc52Da2Db11Ea12EcFa11Ga7Ia4JaAb37Ca2Pa3Zz22Ab11Zz21Ab139Cc20Da",
   "Ab150Cc10Ab80Ca8Cc8Ab20Da2Cc2DbCaAb86Ca2Cc12Db2Cc10Da8Db11EbEc2Da2Db16EaEb10Ec3Eb4Ec10Fa",
   "Ec19FaEcFa4Ec24GaAb4FaAb4Fa2Ab28FaAb35FaAbFaAb4Fa3AbEcAb7Fa2Ab7Cc14Ab31Fa3Ab24FaAb14Fa",
   "Db7Ea4FbEbFbFa2Cc28Eb4Cc16Ca256Cc512Da14Db6Ea7Eb5Ea4Eb41Ga3Eb5Ec5Ga26Zz2Ga32ZzMaGa34Ka3",
   "Ga12LaGa8JaKa25Ha4Ka15LaDb47NaDb47NaEa13Eb3EcEb3Ea4Eb6Ec2Db107Ec7Fb2Zz5Db45ZzFbZz5FbZz2",
   "Db54Fb2Zz7DbFaZz14FaDb23Zz9Db7ZzDb7ZzDb7ZzDb7ZzDb7ZzDb7ZzDb7ZzDb7ZzEb32Db24Eb4Db2Eb19Ec",
   "Fb10Ga7Ia2Ja5Ka5LaMa3Na11Zz34Ca26ZzCa89Zz12Ca214Zz26Ca12Ob4Ab56Ca3Cc3CaAbZzAb84Cc2Zz2Ab6",
   "Cc2Ab94CcZz5Ab40EbJaKaZzAb94ZzAb16Ca24Fa3Ma5Db16Eb20Pa2Zz9ObCc16Ab29Da2ZzAb36Ec12DaCc15",
   "Ab28Da2DbAb50Cc15Ab12Da4Ab47LbAb119Da4Ab99Da2Ab31DaCa6582Ma10Da64Ab20902Db22Eb8Ec8FbHa9",
   "Ja21Ka5Ma13Na3Ca1165Zz3Ca18Cc2Ca16CcCa12CcCa3CcCaZz9Ec48Eb300Zz20Eb32Fa2Eb18Fb8Eb28Ga6Ha",
   "FbEc88Zz8Db23Ea4Eb5Ea2Eb107Fa2HaFa2Fb2Ga12Fa10FbGa3IaKaGa2Ha6Ka2La6Na2La5Ma4Pa3Zz2Na2Zz",
   "NaZzNa5Pa3Zz21Na3Ma2GaFb2FaEb5Db44MaZz3Ec10Zz6Ea56Zz8Eb69IaZz8Eb12Zz6Ec28Ha2Ka2Eb84Zz11",
   "EbEc29Zz3Ec78ZzEc11Zz4Ec2Ga31ZzEb55Zz9Eb14Zz2Eb10Zz2Eb4Ec28Ga4Ec67Zz24Ec5Fb23Zz10Fa6Zz2",
   "Fa6Zz2Fa6Zz9Fa7ZzFa7ZzGa48Ha4Ga2La2Ma4Zz4Ha80Ec46Zz2Ec10Zz6Ba11172Zz12Ec23Zz4Ec49Zz4",
   "Ba2048Ab6702Fb2Cc59Ec3Zz2Db106Zz38Ab7Zz12Ab5Zz5CaAb25ZzAb5ZzAbZzAb2ZzAb2ZzAb108Fa16Na",
   "Zz16Ab365Na16Ab64Zz2Ab54Zz7NaCb32Ab12CcDaNa2Cc16Db10Zz6Ab4Eb3Ga7Ha2Ab21Cc2Da2Ab10ZzAb19",
   "ZzAb4Zz4Ab3CcAbZzAb135Zz2AbZzAb94Cc2Ab94Zz3Ab6Zz2Ab6Zz2Ab6Zz2Ab3Zz3Ab7ZzAb7Zz10Ca3BbAb3",
   "Da12ZzDa26ZzDa19ZzDa2ZzDa15Zz2Da14Zz34Da123Zz5Da3Zz4Da45Zz3Da9Db75Ga2Ia2ZzEb12MaZz3Ga",
   "Zz47Eb46Zz130Eb29Zz3Eb49Zz15Ga28Zz4Cb31GaCb4Zz9Ja3Cb27Zz5Ga43Zz5Da30ZzDaDb36Zz4Db14Zz42",
   "Cb38Da2Cb38Da80Zz2Da10Zz6Ia36Zz4Ia36Zz4Ga40Zz8Ga52Zz11GaNa11ZzNa15ZzNa7ZzNa2ZzNa11ZzNa15",
   "ZzNa7ZzNa2Zz3Pa52Zz12Ga311Zz9Ga22Zz10Ga8Zz24Na6ZzNa42ZzNa9Zz69Da6Zz2DaZzDa44ZzDa2Zz3Da",
   "Zz2DaEc22ZzEc9Ga63Zz8Ga9Zz48Ha19ZzHa2Zz5Ha5Ea26Ec2Zz3EaEb26Zz5EbZz64Fb56Zz4Ha2Fb2Ha16Zz2",
   "Ha46Db4ZzDb2Zz5Db8ZzDb3ZzDb27Ka2Zz2Db3Zz4Db9KaZz7Db9Zz7Ec32Ga32Zz32Ga39Zz4Ga12Zz9Ec54Zz3",
   "Ec29Zz2Ec27Zz5Ec8Ga18Zz7Ga4Zz12Ga7Zz80Ec73Zz55Ha51Zz13Ha51Zz7Ha6Ka40Zz8Ka10Zz6Pa38Zz3",
   "Pa29Zz8Pa2Zz208Ec31ZzMa42ZzMa3Zz2Ma2Zz16Pa3Zz55PaOa3Ka40Zz8Ka42Zz22Na26Zz38Ma28Zz20La23",
   "Zz9Fa78Zz4Fa30Na6Zz9GaEc66NaZz10KaZz2Fb25Zz7Fb10Zz6Fb53ZzFb14Ka3MaZz8Ga39Zz9Fb73Ha4GaMa2",
   "Fb10GaHa5ZzGa20Zz11Ga18ZzGa43IaOa3Zz62Ha7ZzHaZzHa4ZzHa15ZzHa11Zz6Ga59Zz5Ga10Zz6HaGa3Zz",
   "Ga8Zz2Ga2Zz2Ga22ZzGa7ZzGa2ZzGa5ZzKaGa9Zz2Ga2Zz2Ga3Zz2HaZz6GaZz5Ga7Zz2Ga7Zz3Ga5Zz11Pa10Zz",
   "PaZz2PaZzPa38ZzPa10ZzPaZz2PaZzPa4ZzPa10ZzPa2Zz8Pa2Zz29Ia90MaIaZzIaKaLaMa2Zz30Ga72Zz8Ga10",
   "Zz166Ga54Zz2Ga18Ha20Zz34Ga69Zz11Ga10Zz6Ia13Zz19Fb56LaNaZz6Fb10Zz6Pa20Zz28Ha26KaZz2Ha15",
   "Zz4Ha16Na7Zz185Ka60Zz100Ga83Zz12GaMa7Zz2MaZz2Ma8ZzMa2ZzMa30ZzMa2Zz2Ma12Zz9Ma10Zz70La8Zz2",
   "La46Zz2La11Zz27Ja72Zz8Ja52La2Ja23KaJa5Zz13Na16Ga57Zz7Oa10Zz182Pa34Zz14Pa10Zz6Ia9ZzIa45Zz",
   "Ia14Zz10Ia29Zz3Ia32Zz2Ia22ZzIa14Zz73Ja7ZzJa2ZzJa44Zz3JaZzJa2ZzJa9Zz8Ja10Zz6Ka6ZzKa2Zz",
   "Ka37ZzKa2ZzKa6Zz7Ka10Zz310Ka25Zz7Oa17ZzOa41Zz3Oa28PaZz85MaZz15La50Zz13LaEa879Ga42HaZz102",
   "Ea99Ga12ZzEa4GaZz11Ha196Zz2636Na99Zz13Ec1071OaLa9Oa29Zz10Pa3995Zz5Ha583Zz6841Pa58Zz1734",
   "Fa569Zz7Ga31ZzGa10Zz4Ga2Na79ZzNa10Zz6Ga30Zz2Ga6Zz10Ga70Zz10Ga10ZzGa7ZzGa21Zz5Ga19Zz432",
   "Pa58Zz198Ka91Zz101Fb69La6Zz4LaFb47La9Zz7Fb17Zz64IaJaLa2MaZz11Ma2Zz14Ia6125Ka5La6Zz8Ia755",
   "Ma483Zz41PaMa9Zz8935Na4ZzNa7ZzNa2ZzFa2Ja285Na4Zz15OaZz29La3Zz2OaZz14La4Zz8Ja396Zz2308",
   "Ga107Zz5Ga13Zz3Ga9Zz7Ga10Zz2Ga8Zz3932Pa250Zz6Pa436Zz76Na46Zz2Na23Zz9Na116Zz60Cb246Zz10",
   "Cb39Zz2EbCb180Ha11Na2Zz21Db70Zz122Oa20Zz12Ka20Zz12Da87Zz9Ea18Ka7Zz135Cb85ZzCb71ZzCb2Zz2",
   "CbZz2Cb2Zz2Cb4ZzCb12ZzCbZzCb4DaCb2ZzCb65ZzCb4Zz2Cb8ZzCb7ZzCb28ZzCb4ZzCb5ZzCbZz3Cb7Zz",
   "Cb338Db2Zz2Cb290Ea2Zz2Cb50Ha652Zz15Ha5ZzHa15Zz1104Na31Zz6Oa6Zz213Ia7ZzIa17Zz2Ia7ZzIa2Zz",
   "Ia5Zz5Oa62Zz33OaZz112La45Zz3La14Zz2La10Zz4La2Zz320Na31Zz17La58Zz5LaZz464Oa42Zz214Pa43Zz4",
   "PaZz480Na7ZzNa4ZzNa2ZzNa15ZzGa197Zz2Ga16Zz41Ia75LaZz4Ia10Zz4Ia2Zz785Ka68Zz76La61Zz194Fb4",
   "ZzFb27ZzFb2ZzFbZz2FbZzFb10ZzFb4ZzFbZzFbZz6FbZz4FbZzFbZzFbZzFb3ZzFb2ZzFbZz2FbZzFbZzFbZzFb",
   "ZzFbZzFb2ZzFbZz2Fb4ZzFb7ZzFb4ZzFb4ZzFbZzFb10ZzFb17Zz5Fb3ZzFb5ZzFb17Zz52Fb2Zz270Eb44Zz4",
   "Eb100Zz12Fa15Zz2Fa14GaZzFa15ZzFa15Ga22Zz10Ec11Ga2Ma3Ec31KaFaEcFa11EcFaEcFa2EcFa3EcFa3Ec5",
   "Fa8EcFa7EcFa10Fb2LaMa3Fa9EcFaEc2Fa2EcFa10Ec4Fa2EcFa10Ia18MaZz56Fa26EcFa2Zz13Ec34Fa9IaZz4",
   "Ec9Zz7Fa2Zz14Ja6Zz154Fa33Ga12Ha3Fa6GaFa70GaHa2Fa20Ga12Fa37GaFa5Ga4Ha5Ga12Fa17Ga7Ha8Fa63",
   "GaFaGaFa182GaFa4Ga2HaFa62Ga2Fb4Ga7Ha5Fa24Ga18IaGa41IaGa86Fa5FbFa16FbFa3FbFaFbFaFbFaFbFa3",
   "FbFa6Fb2Fa4FbFaFb2Fa4FbFa12Ga2Ha2Fa11Ga48Fa70Ga10HaIa2Ja2LaMa2Zz4OaNa3Ga13Zz3Ga4Ia3Ja2Ka",
   "LaMa2Zz3Fa116Oa3Zz4Oa5Ga85Ka4OaZz6La12Zz4NaZz15Ga12Zz4Ga56Zz8Ga10Zz6Ga40Zz8Ga30Zz2Ma2",
   "Pa10Zz4Pa2Zz62Ja12MaLa3Ha9Ia6JaIa8Ja8IaJa2Ia12LaIa12JaKa3Ia15Ja13Ka5LaMaKa4Ma2NaKaLaKa4",
   "Ha5Ia13Ja6Ka11Ma2La6Ma3La2Ka10La6HaKa2La8MaNaLa3Ja23Ka25La84Zz12Ka14Zz2La4MaOa3La3Na2Zz3",
   "La3Ma4Oa2PaZz5PaLa6Ma19Na4Oa3Ma7Na4Oa3PaOaMa3Na3PaZz7Oa2Ma7Na3Oa2PaZz2PaNa8OaPaZz6Na7Oa2",
   "Zz7Ma147ZzMa55Pa37Ma10Zz1028Ba2Cb42711Ma7Na2Zz32Ec4149Na4OaZz6Fa222Zz2Ha5762Zz14Ja7473",
   "Zz15Ob622Zz2466Cb542Zz1504Ba2Ma4939Zz5Oa4192Zz56398Ba2Zz65534Ba2Zz65534Ba2Zz65534Ba2",
   "Zz65534Ba2Zz65534Ba2Zz65534Ba2Zz65534Ba2Zz65534Ba2Zz65534Ba2Zz65534Ba2ZzCbZz30Cb96Zz128",
   "Da240Zz65038Ba131074"]

/-- The version that a label stands for. -/
def ofLabel (label : String) : Option Version :=
  match label.toList with
  | [major, minor] =>
      let version : Version := ⟨major.toNat - 0x40, minor.toNat - 0x61⟩
      if versions.contains version then some version else none
  | _ => none

/-- The runs of the code space, from code point zero on. -/
def runs : Runs (Option Version) :=
  (Runs.ofText runText).relabel ofLabel

/-- Whether a version is another or precedes it. -/
def Version.upTo (v w : Version) : Bool :=
  v.major < w.major || (v.major == w.major && v.minor ≤ w.minor)

/-- The code points that a version of the standard knows. -/
def set (version : Version) : CodeSet :=
  runs.toSet fun age => age.any (·.upTo version)

/-- The version a name in small letters stands for: its two numbers with a full stop between
them, or a `v` with the numbers behind it. -/
def version? (name : String) : Option Version :=
  versions.find? fun v =>
    let major := v.major.repr
    let minor := v.minor.repr
    name == major ++ "." ++ minor || name == "v" ++ major ++ minor

end Age
end Text
end StreamScript
