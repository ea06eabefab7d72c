import Kurbu5Pkinit.Reference.Client

/-!
# A post-quantum client of the recorded realm

Alice with an ML-DSA-44 certificate. What her key signs is recorded beside the
rest: a request with the ML-KEM-512 key and one with the P-256 key, neither
with a freshness token.
-/

set_option autoImplicit false

namespace Kurbu5Pkinit.Reference

open Library

/-- `alice@EXAMPLE.COM` with an ML-DSA-44 key, issued by the CA. -/
def pqCertDer : Bytes :=
  [0x308206893082062EA003020102020104300A06082A8648CE3D040302300D310B,
   0x300906035504030C024341301E170D3236313131393031323334335A170D3336,
   0x313131363031323334335A3010310E300C06035504030C05616C696365308205,
   0x32300B0609608648016503040311038205210045633AA70B611B708CC8308A80,
   0x85C130EF01756BBB3EA9D88735C1965E7B00C21FC61D88A011D2AF07156D6865,
   0xD46C13886F270172A3905FA4599A78CBB0B7538F835C6AB9E28CFDE841DF2877,
   0xE941D12FFB17DF5D2047EC643C9CFC7609ACC9FBF1AD0CCABA46589659F3B6C2,
   0xC63CB3E02BED244E74708CEEA8682DBDD2B172E148817F35AD22BFDF22D24F43,
   0x5D2B8F00CD2BAC74F6A8F4BC739A4B01BFFC5BA41FC2BACCA784B44F66C3BFED,
   0x25A712B1DD411B84C993F3AEDAACB592C19E8003E95196A9FF51FABD232433F9,
   0xE2E1F727090E82ED5721AFE566963DF9CEE6D3B1496C8EE3722489A4D9817AF0,
   0x314EDD0C2AF94C05A76024667E2CA8FA241C58F6CCE2DEB41EC379A8141FE438,
   0xC8C19D3DD8410CAEEDB2D2D9A6971C2F31A9A81F557845A25680A1DD25C375C5,
   0xF099F798169B58DDB85C7BC8FD89E4FC927C04FBB437FD4C2EF966CA25766B57,
   0x94A3D972F6DC6EC76299AA27DC9E0AEB1BC358BC549539DB3370DD72D703AB06,
   0xD9DEB09903FBFD698CF81BFC8D270B6EDBED98610DC86518D2AB16F95BBE5736,
   0xF62B494DB84C15E415F764CB2CE4B56D1188A524D825D460CC3F42289B364620,
   0xD9ABD0910EC13B45832430428F8767B028527F102615F5C36FD9A6C76447D4A3,
   0xEC34E39D5C3764966A0F699A5478AC31D73205C01F023CBD28C71BF9C1F704AB,
   0x43330C1DDAEABD7CC4086C58C13347AFA66915ECE50D3A3E628C1207772FC4DD,
   0x430E24501BF85F906BB8EB310F48C211F23CA7E7A274F48835ACE39D0AF2AB6B,
   0xBB86245C92382AA94BC85B1092EE4F3BF52E2454A5C5BD3BB3A67B06385D6B0E,
   0xED83513699E9B47DBD95FE06B847D46ECBC0BEF4EE86E296EE7F30B49B94FDDA,
   0x53744DAE8F45E3F3C8F8FA2AB95CA02872EFA3C427BDB82410CA8E0E004BBB53,
   0x38A6F0BF27631F7F2307F4F3E0D0BFB4B8DD7B3A6589E0458A8C1A15B4D8D10D,
   0x4DF436D265435DCFDEBDD475F468651DF7614714268BCE68F7F2E7E9423C0E20,
   0x2C702A7AE31446F2DE2D885CE88B0F703F9EE57691F17B136BAD69E6C870F756,
   0x7F5654ABDE38A6EFD52B8AA8F2650C4A6F9126E2E810B3365BAF1800E6514898,
   0xF270A507E4783A7C6FDE5BF39EBA7579270449C802EB3A205811479FFDAEE1E2,
   0xD5171E80937F6C8691D6BFAEDE7C013F11D042445FB3125078B915C72B8700DD,
   0xF3634D116AE4AE7A111E136EC7C14D70AD1AD41E3C457ED1455690CAC170357D,
   0xE166A7C427FF76875BC2D2BEC962E6F3C5D74FEAABF3C83E7C5486C8DA750B1A,
   0xFF28A6BF704A76F8B69F0CC615285567256DFAEFE7AB51778B0EB0D534E663A8,
   0x254E0486608F0EA652E8BD207FBBEE1133CC5B1FFA18CE00AEB0BC0542BF1F01,
   0x9D9F0158345CCCE16B3681295793294C009740CEF9DB334453B4D7663AD57EFE,
   0x2E4BFEDD59A7A1A062D7ED75476A58D238F69B42F671E8FE97FCECF05A060EF6,
   0xFAFE21E91E2888970870E70E017D8B2EB0B9E38E97EE1D1771570C5E39E44119,
   0x85761D977BBF17CA0077BC03FD38F53B5A2AC6AA9CC1D39D57032E8016A968B2,
   0x3726DF5108D5CBC56E81D1C70C55184D38BA1C07328FB33E8AB3D8D857F074B0,
   0x309B138872147E518840FAA4784C02B2E449A797C36185291538B52D2BE8DCA6,
   0xC574F13742638F246A224AC44B5AF8B4A246C7234E70386557E5BFB35C5EE33D,
   0x49EEEADAA015C1436902BAD6850A27916810462A4945B3632F3048F3D68A45FE,
   0x9AAF8E557741516AD843FF613FBF736EFD245CBAC42DF37513F272EDEC53A876,
   0xE40CB8B0795B91262BF82C9FF06E134A18D18F6F0DC27C62F39722FB1FB876A4,
   0x8F354698829E0C0AD55BAD76D1E810EC7EF747A381A030819D300B0603551D0F,
   0x04040302078030120603551D25040B300906072B060105020304303A0603551D,
   0x1104333031A02F06062B0601050202A0253023A00D1B0B4558414D504C452E43,
   0x4F4DA1123010A003020101A10930071B05616C696365301D0603551D0E041604,
   0x142BEBB48EEAF58C86E96912AE62777A7999034A29301F0603551D2304183016,
   0x8014A8C974AB8FF33F5C01A3A8B904F68E1C7CD9F966300A06082A8648CE3D04,
   0x03020349003046022100A0928B4ABA324D9646B77A02B98DF69C67E764677E89,
   0xDE15DC0F2D4627BCD4590221008CC18D38871368EC76F23F0C23FE40C5FE1D12].flatMap (bytesOfNat 32) ++
  bytesOfNat 13 0x70E21FCCE73496FB1554E17A3A

/-- A seed. -/
def pqPrivateKey : PrivateKey :=
  ⟨bytesOfNat 32 0xDDC6782CFE1B5D5225800966FD10326D06352C90BAE6E6CB195E8B148456C284⟩

/-! ## Requests -/

def plainAuthenticator : PkAuthenticator :=
  { (dhAuthPack firstToken).pkAuthenticator with freshnessToken := none }

def plainDhAuthPack : AuthPack :=
  { dhAuthPack firstToken with pkAuthenticator := plainAuthenticator }

def plainKemAuthPack : AuthPack where
  pkAuthenticator := plainAuthenticator
  clientPublicValue := some (.other clientKemSpki)
  supportedCmsTypes := none
  clientDhNonce := none
  supportedKdfs := some [⟨ID_ALG_HKDF_WITH_SHA512⟩]

def plainDhAuthPackDigest : Bytes :=
  [0x3B766E3837875E6A956E349A27CC558268396F640131B4D3DDC8E371FECAB7BB,
   0xC066ACF4D322AC1CE05A7C79B0896AE15458F1AE416A7548A5FE5F8B72B32052].flatMap (bytesOfNat 32)

def plainKemAuthPackDigest : Bytes :=
  [0x663ED5BB8E949A8906D8C54ECF42D2C629F0832F43FE977FC4A6CF6745DF193D,
   0xF55FD36C5461D0C4366BD6CAF059054682EF028F36DBAB1347BEF43EA4E3A876].flatMap (bytesOfNat 32)

def plainDhSignature : Bytes :=
  [0xC648EA1A3985EF14118DB158ADEC1D276B9518CB443DC61578A8BA8B3C9C2152,
   0xD5F70110C57ED536078EAAF5947C960478611559BFCC7668F39393FAB62CA99E,
   0xD3932255C94C03E5EF36C4453164478D9AE75A13D9EFE1C7267A0661A440F150,
   0xBB49353D045B40168D0C8127BD178359A21765829CE32827796FDDC68EF46110,
   0x84B6D1365812ABFF7BD2D6E645E4BD0E9F24979A662850B3E5AE7D2D2D970EAF,
   0xC2D54B85867B8B772C88A0A9181F33429E6527A5EA2C3F112A7CC09E62955F79,
   0xE3F99354B4942E524345E3560562B24F67CEF9534C960C5FDD06168250CF8F17,
   0xE45CAB4C1EFB2BE359CA1CB08AA4FA810C314E6FC26B5CF7DBAC0930AC44111D,
   0xE94F7F29F5D018A54B43AD12D4073EE6E60969481533D1062A53D3A2453587C9,
   0x44D3EBBB9C2C648FBB0DC57C35F55A44C3F4DB15A7A7EFD2C796198F444B7EDF,
   0xC33FF399C9D973C6460D0A2AABBB0A0B8CA4460652044466F2303F69C384DD24,
   0x56936EA626AFAD3F9C85AE4CE72C179C660F843D30EAA9F2BD6F38C38757F53C,
   0xA14FFB3190BFB79A1CA7C40FC42056C00553A66C6FAEC9A1D14DFA2A62F94DE1,
   0xAD2F486CD5A7D3FB3EE7D07E5130E229624C0813CD6EE01690A46782DEEE5E08,
   0x9E58482923E058CE31C45D0E0BD0FA8C488F741E2B015F8BC3904B6D99F6E098,
   0x5E274EBFD69504BAC9D9B810319B23F8D84C958AAA10239C7A67C331F495366C,
   0x4E80101114DDED4F00A4483E1C61F081E8A96044D1D7BE2E34593F911F659E87,
   0xEB8AF6BE31FA953F42541B4B7F89CD652B29504B70CFB8EA928C8B3F615CFB45,
   0x8BB54228075505B71E70456BFB37C37E783FCF249CA2392BBF9DDF4C6384FF7D,
   0x6165273E5EC40FC0B608DD528ACB0B041635C9D59307E859FA96DBB4680FAFB8,
   0xE7BE5CD23104FD35C74FB97F517BD2EE93EED75B258A9A823CA3075EF2CFB145,
   0x87D4DE104E51DAE93E387773A504DFF47E3EA9FCF8CCFC8D84332D87C7B83F8C,
   0x646A3F282AFFC25CB4676978E3D8255F3D722C0ED1B5D48F0B9AC9967611DF62,
   0x89165F5FF3A2BA32F70AE710481564F75875FE3616AAB48AF7C43842F7CFA83B,
   0xC8836E35768F0608EA59AA1B8330B6789D8229A2F31D6CA892C91C3219652880,
   0x7B8FEBAB81046B270AC1EDD4D62D9BEBBF726435008A037DB40CD8CE29175D74,
   0x6CD90B8B39CD59F125D1F86F942B08119CBF0D3D725258E5DD2FEF4F0199474A,
   0xD4AE829C36AAD290A84D090A71F63D98D24677EEFB59D50DBC7A63252D8058BC,
   0x63B0ACD7DEE4C36375AC12CA1F60ACD15C074536EB2DFB633C649DFE9531028E,
   0xE61C4D5C7524B51ED5048BC49FA6ED5EC6CF77C4FE62A9B2C4E28C087F3F2FA0,
   0xF62716C4E72833491DBC29C02021126504B512409AE60DCDD11D238544F1732B,
   0xF6AD792C06712C4EE8A02FCECE53D8E59612879C868C3675083CD4138E323761,
   0x6F8BAAA17AF1955364962D10374FC0229EDAE3056929532EE1EF3E9090B36E9F,
   0xED9319BCFC18E3EAF335E8C3146CBC913ADBDDB5E078F0ADCB00D21B787E17F0,
   0x60B0221C788974C01C2268E2C5BB725C0037844CC17A0A08FC4D79F3C8D2465D,
   0xEC73C1DF50A5893FD66EBC542D94611DA9ACD0916806FED5846D582F39A6803C,
   0x9E10C52FDE338759808BECC6AAA1BB66777711A9F5C1CCF0DB254693D124EEE7,
   0xF15051FF9A90780405C1AC8F4D4BF00F3451E0A9AE11C455010D98E0E484B3DA,
   0x04E14844B11D4756DB58940509176FCA0105FA13D8E4F7CA8BA435800F182B9B,
   0x5C6A2ABC3B2402C77A8705EE54E2BC34D9A1C1D170900F29AB468B39081FB4E5,
   0xDF49B3C8A216655057D1A1BFC982FA27989021F02AE5C23FD221DC1D680F22E4,
   0xD157185D01A885D9B7E17B6EF7C5328B821455B6A96A989BFBCF8B031C0F464E,
   0x042AA97353BE340FBE611E8C9B58562DCF1FC125ECE1BC65C92DF2C10D8E39DE,
   0x0E8F003A92AD76C5EDC37E57E0C65C4E03F9D900C174990CF0642F51D5D66CC8,
   0xD0182EB99363A430BE0E7B42A9AF085D7670552F5355C37E94A16A225FFC89D6,
   0x459564D3880C425B6202B97EBAF16B0C99F8C8BE4D2C3C6D719D799B54528359,
   0x7E0E377FDB071A011CB8C30255AF30DAC2E3480674B2B3573E6FE6C3BC48AEDB,
   0x5ED854E667012C8B9C69469818589A821D7E67BC2FB6ADF083673E8197461FC5,
   0xE9BE5F5497A6DA3B5114CC6935B0136DFA1BC0540B1DDA5BE2BCF9223FF13B06,
   0xDF8173C72BF08CEFC00BCD4E55D6753B8D551D7AEF76B19DCE94C617D4D94A7B,
   0xE12971B9A3ECCB6F07BB636DCAC9C7075AAA1751E586488E46369828C05C4E79,
   0x6878E26EA1EFE42EEC31FE9FD48996AD27A189FE00348A96189661D6884BD7A8,
   0x22F172B5DD1F5289917CC83D7353074FD2B5AAFAB3AB0C7DE15C9C062D37EAEF,
   0x506070355C2A507D591194DDE60E8651C5386FCEB7191FECEFF184DEC1ABF384,
   0xD066E7D7BCB629B9C2581BE8EC5E767A44430BF1322B8A18EB3BDB43FC71E5A6,
   0x6C54923AB6FDE6426553ED058D0C35C8E583E6D172A172F84CCE27A2C2C58E60,
   0x5256A64B15291F1A0DA795C34ABD71D7EBEA9D3017A87015DC8C4381CD6EF183,
   0xDBBAB71F1D9CE70C0B149A79DAFFB8FB37E49D1D81D06558126C1F914A81D6A9,
   0x364EBC621B17CEDDE70A7A743DCB40E5283B5AAC9756EB32F1C8AA81FE6105E0,
   0xE886B2997D8BD5CB16EA36AAFFA505A96B4E2050B6C750A15ACD4EF0C0AB731A,
   0x007D456A0DDE59C826EE2645C58F1CBAB3C81DB536D88D631B7FE8E334080E95,
   0xA733174742FC40E71F4FAAF5A5170F99B423F027255C8E1F5D3AB2D993849E5F,
   0x5B39201FE96D33320E9FCF1CE8849C2229B92DD11D96469A3B55E0922CBB4C44,
   0x6D7E6F9B600350AC497C1ACC8446ACC4C082F8C1688431DF7633DDEFBD422A82,
   0xA6713397AB24477F4C7DE29CC9FFFB7B8AC519B32A7BF06D8AA4BCEB30BA3815,
   0xAF3341237685A02A46113857051DDBDEF8E76236DE07F626B74BE0A3B35E5AE5,
   0x8296203D1ED7F4EF6723F7339AF8D92FD64A73F3FB2A2219C57130790C70F179,
   0xD335579A36843A184ED3487EF59B17E657B9F56E2C02B83E63EFB2B7DF28226D,
   0x5FE511DBE425F73E57330D2F00B8999314BDA317822D758E0DD5D29E586B53EC,
   0x235D4775B2A5AA77862AF260811071C50AA3C3AFE52ED290EEBD7E3DE9A38E43,
   0x34629DF61737FC26E1A04FC8FA51E8C325D6DA8985EA09DD6B95A36C4EB28FAB,
   0x06CFC3C33913BA538F7D76E158560CD5FF7BA7303E1EF2DFFF32F9F3D3635298,
   0x9E843BEFC938EF2BF2E1E5DA858713D83DEDA7BAE03BFB41A035E6A02B9F3ECD,
   0x051429373D545D667B7C8791959698C7D2D9DBE105080D292F48495DB3B7B8BB,
   0xD3F6000D1A434B50565B96AFB0CED3EEFB06131E202C3C45465F638D8E999FA8].flatMap (bytesOfNat 32) ++
  bytesOfNat 20 0xD2E3E7F000000000000000000000000014223144

def plainKemSignature : Bytes :=
  [0xB4E2DA51AF59DD5F1993EDBFAE4915EA85BF6A6740CC51B1F73CACF26C76EE34,
   0x2A71A438AA2C486B66A62641C952DFC080E535DD20D4FC7DBFD89286326E5757,
   0x813A607027B7F4DA33F6481723B7EF8A7E5DCD25831C3813E98D240BB747EC76,
   0x1F49CE8D30A9672A0D3E176E4C802ED933A572A496C60368C9903B51B0DA7CD9,
   0x71FFB69C7573EFDC83D6199EB184073015AC3A54D0595D3691BF1B69EBAE35BF,
   0x03D8A18D725941A2BCB79754E6B924C61CE6CD79F2465F5568F52DE79A0C5D52,
   0xEA0689478AEAEBF12393953AEBF01E3ABA9EE4DE96084B056DFE67E0C41BEEFE,
   0xA151A29E795579E6FE838A272C602ADD8039B0C0230509A0A22A42CE90930266,
   0x046E2CC038986F411714FDD7EDBCC3DFC76DD38E2E444D662AE6677D8C8504D9,
   0xCCE8970BA2481F79420597656DACC654C6619F609B9C726E8DB6C55F3704FFDA,
   0x2A33176A5B141E811BAB1FB8A0577713205A92C4EA441425FF05B82FCF82641C,
   0xB74EEBBE6ACB689E40CFC2740791EA7EC2753D349BA080674C8C371A0E9A3219,
   0x3304998715811FA92616587EDA2E251C00EBA35F455F5BC205681BABD90814D2,
   0x36605FFA057BC77B2AE16A8D11D5210A7D61442898E0CC98C558FA9525932742,
   0x1CC36EB5CFD7D31BFC2ECBB9AB23648F83B5573929770AC3AB8DE88A13E4580D,
   0x1A2902D215097072DC871B481295507F7FEBF00AA837BB796FAA8F93FE707F35,
   0xE4E350E284431087E952F6812AB5EA1E5674279F0970A135BACB713567654B1B,
   0xE8F7B2651561FF8CA5BB7E838E808966A0F40A8EC6EFF0C4AB07C2224A047EF9,
   0x1A0D252F4A277D6955A5F81F2E0CF275B17E8745CF3D8ED4676D19E6168C8CAB,
   0xDC4CCC18371142AF0EA73E0B7F6FEFC9B1BD9B7248F294E094D21621DCBE2D6A,
   0x8C4F711A1A45F63A7ADBE2C246A1973DA10C1863DFBF99440D17DB5CF770AA4C,
   0x079CCF3E22330F3955EEFBB99199DCB6E2EAB3967F965FD97DE2D24933087286,
   0xB9031B41A11C972B64F08923D29B9C317E0A1E6EC7CD588B8F1A4AC6F8CB0AF0,
   0xF07F5A200FE69B5430CEE0A50DAAC5ACFCC2E5984234D733D87A1AFAAB7EB5FD,
   0xEBB8A726C874FEFBE65D702616E327DFE136673A8BF54F4B0BF70CAE3F91699A,
   0xF842130327E4AD2EFB6D283DA9A1A42A0E8E6D3EFB719809F9D4CB379BD19E2D,
   0x2770BC5765DE22A7E441CFD7721C0BD2C914CB8C3C63774218C13EE894869EA5,
   0xDC68AC163B1CC17CE12B6140230539D3E9DDB243B7C1D065D1FFF50BF8386D4A,
   0x6253154BA6F3CE662C097095D0B7B559EBF1F40FC830A5B223A0A0A9BC8276C9,
   0x1C310B63CFA73FFEF32C38216719D8CFCBFA8EB8476E5B82C7698359A1DEA099,
   0x58836DC89820A28002DCB91D41722F016D3AB00D6C3592EEC344B9B32E8DA56C,
   0xB5E35C7BAE365C0B5841DF255B36C6BDE26AF34A2C4B567B615EB5E66B168CDA,
   0xDB7419843E5F3484BE0B04670BACDB555BB0D39ECD94489698564F988F692608,
   0x3E00F4833E7A9D0AE6BBEC323F0197441732B53490836B7D334DAE41CB16F250,
   0x95C5D14B374D2CDE534B8292D0A5E3493986B96C089699F1A44FAD383F99A6A2,
   0x1A3CC890B4C9339401EB67D33C4948D98DAC3E4B889143563EB6DB81A325E843,
   0xFA5D86624F468BD40163653D93242702C4E65AAD79FFF41D0950AC285E9151BF,
   0x809C1E035C8B78106F4CBAD796FFD289E98F9F792DA55EF59F8E73B5E6977384,
   0x3FCA18CC1C701260E670094F8832FAFA524B5D55ACAFFDF250B7DFF001EC83D9,
   0xE73607DFDF1531FF8B1AA981F9061FC1AB1FD6EA496B2BF338E8938C66A418B0,
   0x090F7D0BB831BABECF04C5CA92F557AE6D75139173970C7B7949DC46E7E87B75,
   0x8D058FE58E519F5C4CBA9563D11F648D127F3E1D89635281A39898E7FC0AB66B,
   0xC1A8057F9598BAA661BD1605A1B75B55B6BB59A5F9C86E73BA3F5AF1C400F09C,
   0x73399CF5BF4AB3D9B52FDEB7AA46D18CD23865454B47DB8658BED4DF6EA1B333,
   0x09C9D7ADF4A952AD2DEE0B2A33C61B2AD29C5C3ADC25D56A4B1C9108F499658A,
   0xAEBFF2DDF8459E4E095803C42CC418B2C7C67820BEC691AA23A77E1F65D3080A,
   0x0BF3E7408BB0C21C29FB1670DBDE1DE3F87334AAFC683CD564A0FE10308A7207,
   0x9F7C581FAFDB6B47F6A2703C669FF902808843BFD53CD4A8B7FC19DAA5B8B267,
   0xEE4A8560B746B15FD24137B0E31B15FE9ADD8623AFFA10FF0185CA0EA90C68A6,
   0xA39033299DDC301510E36447BC75320CA0725E30BAC25767382656DCE06E57D4,
   0x1D5F94CD0442ED3FD29D97611431224989C2D63E0DCF834DC0499983701311F1,
   0x31A19A1B390DE966D94E24AC25873AAEA5AA998EBD0E997EF26B2BDA451C1780,
   0x59C53E56934D6BC4B6DFB92054E504A9F323C19D76A55AE554BE19E82D6DE909,
   0x1732869E6C0050555F4363CBFACF66CCCF015B2CEA01BC481B9DB6F86A9B6829,
   0xEDA76669351430190C8F29C36DD363028805E76C604567A5D0E586FE22CE69BD,
   0xC0F100BC5B0418E05C90E99F43964B755DE2DCECA78C630961E7C6FCECF24526,
   0x53AC25F8FF3738D04B7064B0307FB69B7E3FF3ADB84CE17CD9073318BAA97B1F,
   0xAE2383E8911CE5A67420B618E0CF0BA64C6DC6497983EC7B64CCB92FAFAB664E,
   0x7AE0E72FCC1B83D1D86A43BBFAB0493323FF6E6BFA3055F31BF177E0EDD2352C,
   0xB991CDFF47041DF720508015AD53A8CCC11C1F4AC52A1C4A807AF5E4287EC84A,
   0x5D2476F89ECAE99428476068442B6922E02D569BB973F166E78CA403731B5F83,
   0x539510EACFBCEEEB21FC768FFA6AB254EEBD3ECA0B4F4134CB7ECFDCD33ACD5F,
   0x621D28623283A59C6647BBC2743FA867ACB5D85AAEF0FB9A259BC789E44BDA4D,
   0x9A79CC681717552BBA26483073AD9221A07F926769A8EC53D17AACCFD0D1FB7D,
   0x60F410C9AFA69B1A0CFB93196347F8711AD861505F701B26937F098135E49FF0,
   0x154085E105731F8E3A8797362B861E7E95487C17269711BB45B9945ABB481269,
   0x9C056B7C9BA900A66A08109377D30C9E47D14C86CDB9D119179E77C3F58B4B27,
   0x05E3184F9724B71061EA3ACFA3E88BF2AEF58BD5F0FC8C839FE4759D64A079F4,
   0x73A5D1DBB25FE8AE41D3F315C82017EDB9E40ECFD82E400C799B5B9B2EA24BAD,
   0x5AFCC29AB0FCD337FEDAF33C807E4C7724B1FC489B814FB591B134DC5A01FA03,
   0xACDA99AEAE5DC6AE8691485275DA1177695C4BC609118D99B45D9798D32E381A,
   0xD45A844840CE86E96C77F0AD03DD49126459DCADAFAB272EFEFB31E68F7DE4E5,
   0x83FB2DB51FD523E5B1C6CEEAB993AC36F4ACAC24803DECED0B683C1CFC4380D3,
   0x001415191C2223546390AAADC8CADFE4E7EBEFF119202D2F46556D6E84919EA5,
   0xC3C7E2F4041012323B3F494D656989ADBCCFDCEAEBFE061D2C434753586897A0].flatMap (bytesOfNat 32) ++
  bytesOfNat 20 0xA4BCC4C7C9CEE8F1000000000000000014243648

/-! ## The recording -/

def pqDigests : List (Bytes × Bytes) :=
  [(writeAuthPack plainKemAuthPack, plainKemAuthPackDigest),
   (writeAuthPack plainDhAuthPack, plainDhAuthPackDigest)]

def pqSignatures : List (Bytes × Bytes) :=
  [(setOf (signedAttributes ID_PKINIT_AUTH_DATA plainKemAuthPackDigest), plainKemSignature),
   (setOf (signedAttributes ID_PKINIT_AUTH_DATA plainDhAuthPackDigest), plainDhSignature)]

/-- A codec that does not read back what it wrote. -/
def unchecked {α : Type} (write : α → Bytes) (read : Reader α) : Codec α :=
  ⟨read.whole, fun value => .ok (write value)⟩

/-- The recording, with what the ML-DSA key signs, and envelopes of any size. -/
def pqRecorded : Platform :=
  { recorded with
    synta := { recorded.synta with
      contentInfo := unchecked writeContentInfo readContentInfo
      signedData := unchecked writeSignedData readSignedData
      paPkAsReq := unchecked writePaPkAsReq readPaPkAsReq
      explicitTag := fun n raw => .ok (explicitly n raw) }
    crypto := { recorded.crypto with
      hashData := fun name data =>
        if name = "sha512" then recalled pqDigests data else recorded.crypto.hashData name data
      signatureAlgorithmDer := fun key hash =>
        if key = pqPrivateKey then
          .ok (writeAlgorithmIdentifier ⟨ID_ML_DSA_44, none⟩)
        else
          recorded.crypto.signatureAlgorithmDer key hash
      signTbs := fun instant key hash message =>
        if key = pqPrivateKey then
          recalled pqSignatures message
        else
          recorded.crypto.signTbs instant key hash message } }

/-! ## The client -/

/-- Post-quantum, and without a KEM in its configuration. -/
def pqClient : PkinitClientState :=
  .new ⟨pqCertDer, some pqPrivateKey, []⟩ trustStore clientConfig

/-- Error data that offers ML-KEM-768 alone. -/
def offerOtherKem : ClientCall :=
  .handleTryagainTypedData
    [(TD_DH_PARAMETERS, sequence (writeAlgorithmIdentifier ⟨ID_ML_KEM_768, none⟩))]

def pqMachine : Machine PkinitClientState ClientCall ClientAnswer := clientMachine pqRecorded

/-- Asked with ML-KEM-512, moved to ML-KEM-768, offered P-256, and asked. -/
def weakeningCalls : List ClientCall :=
  [offerKem, sendRequest, offerOtherKem, offerGroup, sendRequest]

end Kurbu5Pkinit.Reference
