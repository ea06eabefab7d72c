import Kurbu5Pkinit.Identity
import Kurbu5Pkinit.Reference.Provider
import Kurbu5Pkinit.TrustProto

/-!
# A recorded exchange

One small realm: a CA, a client `alice@EXAMPLE.COM`, the realm's KDC, and an
exchange on P-256 between them with what the provider computed in it. The
messages of the exchange are not part of the recording: the model builds them.
-/

set_option autoImplicit false

namespace Kurbu5Pkinit.Reference

open Library

/-! ## Certificates -/

/-- The certificate of the CA. -/
def caCertDer : Bytes :=
  [0x3082014A3081F1A003020102020101300A06082A8648CE3D040302300D310B30,
   0x0906035504030C024341301E170D3236313131393031323334335A170D333631,
   0x3131363031323334335A300D310B300906035504030C0243413059301306072A,
   0x8648CE3D020106082A8648CE3D030107034200042EB97EF0E4E573B75169C7E5,
   0x71D0BA361BE7A897862B1C78A0490ED1B1E3B40CEC4620571D41F5A0F443DEA1,
   0xDB11A2AC81082BD064BD2B80EBE392A6C5B81EFDA3423040300F0603551D1301,
   0x01FF040530030101FF300E0603551D0F0101FF040403020106301D0603551D0E,
   0x04160414A8C974AB8FF33F5C01A3A8B904F68E1C7CD9F966300A06082A8648CE,
   0x3D0403020348003045022100B67C3720FDA3288C7FD30036AB3E39190D075129,
   0x7ACCD14C75C82C2A3F7B895102201AE8292D0C88D06B0C76E16571BD9019077F].flatMap (bytesOfNat 32) ++
  bytesOfNat 14 0x61FE528C34E8015EF1029248A04D

/-- The client's certificate: `alice@EXAMPLE.COM`, for client authentication. -/
def aliceCertDer : Bytes :=
  [0x308201AE30820153A003020102020102300A06082A8648CE3D040302300D310B,
   0x300906035504030C024341301E170D3236313131393031323334335A170D3336,
   0x313131363031323334335A3010310E300C06035504030C05616C696365305930,
   0x1306072A8648CE3D020106082A8648CE3D030107034200045B9284D584C6F154,
   0xA06297F17530B2E4ED7D5B1F01071B38BEFC1BC25CCB8DC2C9EE72994486FF5C,
   0x3F22B8E29B02536B99BE06E3A875C76141EC279EB9716A11A381A030819D300B,
   0x0603551D0F04040302078030120603551D25040B300906072B06010502030430,
   0x3A0603551D1104333031A02F06062B0601050202A0253023A00D1B0B4558414D,
   0x504C452E434F4DA1123010A003020101A10930071B05616C696365301D060355,
   0x1D0E04160414F1F8C55ED705D4D6C9BC905E1D5D0F4CCE9FF6D9301F0603551D,
   0x23041830168014A8C974AB8FF33F5C01A3A8B904F68E1C7CD9F966300A06082A,
   0x8648CE3D0403020349003046022100CBF1520EEFA61B877B9210FC8446E41EA8,
   0xACEFB2CD85D7BFA1245930FB148807022100AF0DEDA04ED5564A807A29E69CC5].flatMap (bytesOfNat 32) ++
  bytesOfNat 18 0x58F1DD54A9B29ED2B5D6BF6BE51D5805EF1A

/-- The KDC's certificate: `krbtgt/EXAMPLE.COM@EXAMPLE.COM`, for a KDC. -/
def kdcCertDer : Bytes :=
  [0x308201B93082015FA003020102020103300A06082A8648CE3D040302300D310B,
   0x300906035504030C024341301E170D3236313131393031323334335A170D3336,
   0x313131363031323334335A300E310C300A06035504030C034B44433059301306,
   0x072A8648CE3D020106082A8648CE3D030107034200045143FCC9ED44E855BB28,
   0x506CF35AFD9EA11608AEC9150738FFDE172940F2798C63200098DB3914C2D25C,
   0xCFF6E3FDCC2809E28C009AA8073C748A4D04525BAD20A381AE3081AB300B0603,
   0x551D0F04040302078030120603551D25040B300906072B060105020305304806,
   0x03551D110441303FA03D06062B0601050202A0333031A00D1B0B4558414D504C,
   0x452E434F4DA120301EA003020102A11730151B066B72627467741B0B4558414D,
   0x504C452E434F4D301D0603551D0E04160414B43C3045C31183564833FE9296EB,
   0x034A9B4C83B4301F0603551D23041830168014A8C974AB8FF33F5C01A3A8B904,
   0xF68E1C7CD9F966300A06082A8648CE3D040302034800304502205CF55C275D2C,
   0x61E9DE81FEC0D2C1FDB9126856D54E1DD637F62DDFA916F61C3E0221009EDCC5].flatMap (bytesOfNat 32) ++
  bytesOfNat 29 0x1E0840459790F0649154CE4E9F87E8BEDAA462AAE3DD51943FF26ED887

/-! ## Keys -/

/-- The client's P-256 key, the KDC's, and the secret of the two. -/
def clientDhSpki : Bytes :=
  [0x3059301306072A8648CE3D020106082A8648CE3D03010703420004A05AA1BD73,
   0xBBFD93104209572DCD4A0DDE386D57B8B3D5C6BE6A9251FC681EB7E72B77B29F].flatMap (bytesOfNat 32) ++
  bytesOfNat 27 0xF095D479FDB5D57F6929361DBCF34236807DAFE50B1F70DA50A148

def kdcDhSpki : Bytes :=
  [0x3059301306072A8648CE3D020106082A8648CE3D030107034200044942F222F8,
   0x19F53CC3A2B3640F4A91F94F607EA4F70A4927B8382E65F569B275FC04D2D915].flatMap (bytesOfNat 32) ++
  bytesOfNat 27 0x71A653C3D85A760D8221CE0486E890BE9C00C8D1575CFE1275F69A

def dhSecret : Bytes :=
  [0x07E0F7C46BFF94F66D2528351DDE72A1BDDDBF613D3C5CABDF149B340602554F].flatMap (bytesOfNat 32)

/-- The client's ML-KEM-512 key. -/
def clientKemSpki : Bytes :=
  [0x30820332300B0609608648016503040401038203210097A62FB94A78A6D52807,
   0xF87C275512F7672C3045636F12ADF21932C07073B78A1AD147AFBF5384A7D2A7,
   0x90602E8BC138AA715CB4B6C11C88C5D2F4A4EB536608EC9D97CC6F5EE909B6D1,
   0xA099FAB4CA569754303D94391F13A1AE89AA2D3FC6985CF763809C2C2404CFD2,
   0x286DB95CAA82F51F5D835F1AFCB3D4C1BA8B650E4642C491C77A3A5111E9617B,
   0xD3F539D510890109988E93A327736AD8146C894AA544772F03BCC23BD59AD2C3,
   0x09C620831D33858A13431FCBC419285C35965040249A92F84E53FB0123508A08,
   0x14BA98CBA5101148236CCEFC1B5D9618AC3E0A746CA6A1CC7B12BB349FA3CB37,
   0xD3885DB2712A4E62970A6C59039B708C38AF6821BDC562043A6C934C57B537E8,
   0x0883139ACB1C30EB9C47C9A40E1512A2689154E22C86B3C32B13DC9B03FC7124,
   0x3C5FCBE386914A0AAEC6A6CE49AA67E0AD155698771343E53A4C0D3225484843,
   0x2EDB6F658819707331DDA864A83418F4D54839F53F1F54A65E5C992F6A9E1214,
   0x2B0AE52D2F66B4735C72456455FF9A16D43876C3676AE0F2201C8363FBEB4FE0,
   0xB1117980A0FF9772198608FDE442F22627C2738FABA4AFC6C37FC7691ED9B66A,
   0x418732ACB94D1B6CCC99099D2B7B52FBDC9CD3A2AE41163D46DAB349473058E8,
   0x9EAB701179E495AA3340F7BC55A7A475F59CA0637A9FE0840667B46D74B07B42,
   0x5050B22441722005D38AA8EAC50B262B77E2F075DE890722B44FA2E05A8C8469,
   0x29FB2A2F96474B076B72DB153E986184EA20D05B41DA0B24AA00C2B03AB084FC,
   0x1557CC1B7AE061FA5B659BD004B8F8402E69711F67ADBD3A4341564973339875,
   0x49B98748B0461A4B9D170B80B599A4862F25E80166CC8D9DE6186B150D1C603F,
   0x6B4BCC13F6993816A777B7AA930B408502C4E9B115D94BBFA7014C0B536D1366,
   0x440CB87F4CECC4937518400B4DB5C03C192483C20AA591B1244BDB556A597896,
   0x0733EE5AB412BAC77DB86E2BE645EF134DBCC14195B8A22268A92923A8FA6252,
   0xEB5751FDBB65C826BBBB643A38177B811374F4FCC71F194B2DB769E75C0478A7,
   0x7B4548778B785A0CB359942267DADC66796BC6E05036FB1E523B778A77F1A636].flatMap (bytesOfNat 32) ++
  bytesOfNat 22 0xBD90A22A68DFA2A7B43DEE14A9FBBAD81A5E8FE0056B

/-- The client's ML-KEM-1024 key. -/
def strongKemSpki : Bytes :=
  [0x30820632300B060960864801650304040303820621000946C5F4836E5FAB432F,
   0x1C79C4DAA1CFAC9573B77D23443B85965F08B08153A2B67C6099EE00A6536907,
   0xDF5701CA7A0ABDC78511408A97860BC779CE3455B4B583B74FF66ACB607B182B,
   0x8A1E67295E250FF681CF2549B56695CCA5B9C0FB08A65CC96C9D163316A96A43,
   0xFA10B1F056E25B85D7E0147C10804ACB651DC8739A475C57209B665A637C3018,
   0xEC857D1E292CB8B8249A6B2BF6732D3B4935DBE853C2EB908146A5077CA84450,
   0x2E19C9905CF817CB189928A066C847743E455446466B78439FEDA4CAF66A8CFC,
   0x291462B41CA86C001E1B6B964A717C8A4BE800CF610A974B426CF0E05D2EA77F,
   0x9AB699BF55516F73A42D6C54EB8171E3FB4858479B8827424F8075C027AD2DD0,
   0x030423B592CC8F5CE680673A772A9707DAA5BBCAD8519AE94EE8312C36D82276,
   0x31AD0E807900533980156D1CF02854A8CA22E3C73BC8A56B58025A177B9160C2,
   0xEBB04F8118B2E0A4974B4C72CC28C31B10B0E7964963E488BD147549E0C668A1,
   0x8B5371A15563893422C6CDD3236A0226ED578139F0A7C0B82EAF22781F8A9750,
   0xC60EF8CA18128A643105636659882EEA7D2E545B929CA9109380B47911204015,
   0x07D28487271950C7247EF3339DC6A881E9415E84238C8BB5B0869FAAC28D0AF7,
   0x1C27135579259CAC3600D322C1A9C5434656992742BD858A0FD090675ED73FB6,
   0x8089B6F1C22779385D865FCBA2B846AB3B2B9648C95B87E73240D888A2736A68,
   0x86C750B7871F6765A526569138098869411BC3F349CBC02C74BC1940D92A2340,
   0x674AA7115C196C69E2246CD816322241FAE46F2E1AA1BFC77E72956D247367E1,
   0x2BC4578302EA0C5AB1844687D397B4A74DAB34392A6C793C739BD1365787DC38,
   0xBB2A8F1C708F89D2C77C297E8D7A621E33CD98F4B0BA33280798B9058CC71871,
   0x98C51A400B5C7F85258DB6F162F48CB4B3E68B6B739EA166AFB962C5F9D091C6,
   0xF30C1CDC958ED13B36B06D796AC171E1CB63B6B34A85A715FAA28F3B12EC9607,
   0x192A8477D93B63BBACEE5796F0533D80A099E6C810AA023A29AA8DEA290B1077,
   0xB2A10C12CD905944886027EAC553207C812874EDC41E04D37D5F9923CC7AABFA,
   0x3715C0253B92178EE934355416976CF1AA7512AED18AA687869F21AC5CDE810D,
   0x4D68B79796B18BD00610EC2B22E29B8E292A0EE4947D87AA95869F7FE7342A6C,
   0x3317D73F560CA8C4716800DCAD0A8486E0D2B62ED392465377E56C1B5952BD1F,
   0x38C9A3DB84F4DA4724518ED0793534C5436FC54168C9C9404271E83325810192,
   0xC41B6283ABC0F0BC390D488A1578C0720949E72717687A5949091B6D12B66C62,
   0x010171A6005A29FDB7A51229C5DC77A510E0721F33B05F42C95911BDC177B39F,
   0x2416B7376312B7633F4A8B72D8A7F6338D840351B2205D3F54B45359BC1F8579,
   0xC2BB1783A62484A86AFD882688954BFAC46045C73B94591A6498775E75162E88,
   0x60B4862267CC4A74B7B4655231E8D15AEB71C36AF861F3AB5D89557A1B448265,
   0xDB78AFD9CD3508631FD507CCC9CDB8E33505155EDF5C59A130827F64C99B110A,
   0x391C0194D9040B2563B6B307E896811AD748760BC670880087D9214C283AB7D7,
   0x6EF0B4A9B3F20D8F8311700B5A55B490F0E8966D08CB60FB8291B21B3DA71B24,
   0xBB47C9C99AA48855B4A1BB1E8305D5813283F20E83177D208812DD4C4D1A79C3,
   0x916117AC66A51B0A41B26A0BB91A7F6688AE27E852F0660B6CE55AC2657EEBB8,
   0x07125017B9513B5704287CD8ACEAC702BCFA7B6C8826A7E0B000459882034F74,
   0x55349216A629A3642B0B0861916781169E0CA56D47A28523E2573687A9074A69,
   0x948C10FCF5576C6A63B5B02208C009276577D05467F5C97C4737B29E136013BC,
   0x2F67B8649784815630A35BE7C4EA0A1BD3C670D51635F4FA6AEB9217F8976F28,
   0xAC3B718380D45765DA02BF76B8246DD78EEA86816202870D648E558333BA5132,
   0x589A4D6CDA34F0CB3A2D72A62CC045F48C39A203CAC5E5A566B4780A626E4C65,
   0xA4B9D504042B85ABA7B068D45B2E28C5283A9865948743F8870F9017D43C0FB6,
   0x8B3A58BB4E4C2C3377365229593BB7184F2867349234BFC1A29E7DF63F92B7B8,
   0x5F591D395C763A3476D8B62866F071F3A575E0A60C425C442BCA9082707D287B,
   0x0103D11777156C67C142B1C531FCD9BD2570C620953E8919B1EED611254CC74E].flatMap (bytesOfNat 32) ++
  bytesOfNat 22 0xBF136E556BCFF98936DBD767DC8B053A8DA236758EC5

/-! ## Signatures and digests -/

/-- The client's signatures of two requests and the KDC's of a reply. -/
def firstRequestSignature : Bytes :=
  [0x3046022100AB0E717CEFE150818F7FEBB5B30DA95E6A17CC0EC68C85A343354D,
   0xB594D34087022100EECE28BD89486EBCC2B0913011A8213F5E514D16D614EC54].flatMap (bytesOfNat 32) ++
  bytesOfNat 8 0xF0AD6F96E96721A0

def secondRequestSignature : Bytes :=
  [0x3045022100B729D3F520E23823888DE18A8C6F40628AA5DCF91C240BC137E52B,
   0xE987A69FAF02204D6AEE5561A397068450D4B2784FCA95183B6A2F76819DDC79].flatMap (bytesOfNat 32) ++
  bytesOfNat 7 0x4CC67DE83B0913

def dhReplySignature : Bytes :=
  [0x3044022013899522D3A95D3342935B537722AC1A59FF697AD53DD4903D97252C,
   0x08E1D86902205B2BA98E8F2121BBBBA696DC4944497590321D2D553896E31CED].flatMap (bytesOfNat 32) ++
  bytesOfNat 6 0x40DF6E7C933E

/-- The digests those signatures are about. -/
def firstAuthPackDigest : Bytes :=
  [0x33BD318E1ED4E4E95F847826678E9217A025C5768F35565E8C332A47EDE331A6].flatMap (bytesOfNat 32)

def secondAuthPackDigest : Bytes :=
  [0xB79254FB5EFF671FA74A45BFCB89C1F0172687FE5DFB0DE55F7DC470825192E4].flatMap (bytesOfNat 32)

def kdcDhKeyInfoDigest : Bytes :=
  [0x6F3F99B4400F06D2AEF79F95DEF4E80DB9E9269D52B45B077BA40C88B88E3729].flatMap (bytesOfNat 32)

/-- The public key of a certificate of this CA, by where it begins. -/
def certificateSpki (start : Nat) (certDer : Bytes) : Bytes :=
  (certDer.drop start).take 91

/-- A P-256 key as it stands in a key file. -/
def ecPrivateKeyDer (secret spki : Bytes) : Bytes :=
  sequence (writeInteger 0 ++
    writeAlgorithmIdentifier ⟨ID_EC_PUBLIC_KEY, some (.objectIdentifier SECP256R1)⟩ ++
    writeOctets (sequence (writeInteger 1 ++ writeOctets secret ++
      explicitly 1 (writeBitString ⟨spki.drop 26, 0⟩))))

/-- The client's key, which it loads from a file; the others are handles of
the provider. -/
def alicePrivateKey : PrivateKey :=
  ⟨ecPrivateKeyDer
    (bytesOfNat 32 0x707B372272AC85E65987401AC9D3FBB6F1731D13CBB9919EA24A9EBB52C13CE0)
    (certificateSpki 93 aliceCertDer)⟩

def kdcPrivateKey : PrivateKey :=
  ⟨bytesOfNat 32 0x1B2BC738784F1A344E1FC9B3C06430D6B99FB915D9141899604DA4E7C8984919⟩

def clientDhPrivateKey : PrivateKey :=
  ⟨bytesOfNat 32 0x22148B20982A490D250153944516E2E03619C0733C2BAFAD0FB052A3367B43ED⟩

def kdcDhPrivateKey : PrivateKey :=
  ⟨bytesOfNat 32 0x7056C22A362D5267E076B989E5F1B90C6592C7DF4203CC47A75B1DD96B025A79⟩

/-- Seeds. -/
def clientKemPrivateKey : PrivateKey :=
  ⟨bytesOfNat 32 0x04B11163750EC97B879F9E566B6B4E3117A65774E6C42543B5E7BDA382A41DD9 ++
    bytesOfNat 32 0x791F894794B50B1D91B7DD77D4890E2877559CC6FB719D9920FEE05D21E1F902⟩

def strongKemPrivateKey : PrivateKey :=
  ⟨bytesOfNat 32 0xED0E8A2AAF073ED704A3E11BC0AD04A4977D7A968A8469C63E59B785907F2DA2 ++
    bytesOfNat 32 0x9C8F7A65F17E59E28BEC15925E413B606F77D7994337F6233410CB101B101ABF⟩

/-! ## Messages -/

/-- The client's clock and draw, and the KDC's. -/
def clientInstant : Instant := ⟨1800000000, 1⟩
def kdcInstant : Instant := ⟨1800000000, 2⟩

def requestNonce : Int32 := -2
def requestBody : Bytes := asciiBytes "kdc-req-body"
def asReqDer : Bytes := asciiBytes "as-req"
def kdcName : String := "krbtgt/EXAMPLE.COM@EXAMPLE.COM"
def anonymousName : String := "WELLKNOWN/ANONYMOUS@WELLKNOWN:ANONYMOUS"

def requestBodySha1 : Bytes :=
  bytesOfNat 20 0x09B7BE3209DCD36C111961153EB3A8B4B29E04C5

def requestBodySha256 : Bytes :=
  bytesOfNat 32 0x1512726FEC9073581195A4CB585784799DC176DF856C9ED7CC4392E32E81C787

/-- The body of another request. -/
def otherBody : Bytes := asciiBytes "another-kdc-req-body"

def otherBodySha1 : Bytes :=
  bytesOfNat 20 0x50DB33EB085DB04D306F130D144FB335AFE17C8F

def otherBodySha256 : Bytes :=
  bytesOfNat 32 0x2068DC4272CC5A529E379823D3F86D1FB8E86BE842F73C0D976297CB24B87392

def caCertSha256 : Bytes :=
  bytesOfNat 32 0x506BFF171891BBA1DAD2D925BC315474D08D14D9E8B5E9154164AFAB209C4219

def clientDhNonce : Bytes :=
  bytesOfNat 32 0x7532BDF5B2F8909B8DAE8CD308F37663679F3B596E9D494D750CDCD55F057FBB

def serverDhNonce : Bytes :=
  bytesOfNat 32 0xBC6CD414DA1BB9A94CAEEA483AE8F43DF89A804155A8E77E752D38507C44205F

/-- The `AuthPack` of a DH request with this freshness token. -/
def dhAuthPack (freshnessToken : Bytes) : AuthPack where
  pkAuthenticator := {
    cusec := 0
    ctime := ⟨1800000000⟩
    nonce := encodeNonce requestNonce
    paChecksum := some requestBodySha1
    freshnessToken := some freshnessToken
    paChecksum2 := some ⟨requestBodySha256, ⟨ID_SHA256, none⟩⟩ }
  clientPublicValue := some (.other clientDhSpki)
  supportedCmsTypes := none
  clientDhNonce := some clientDhNonce
  supportedKdfs := some [⟨ID_PKINIT_KDF_AH_SHA256⟩, ⟨ID_PKINIT_KDF_AH_SHA512⟩,
    ⟨ID_PKINIT_KDF_AH_SHA1⟩]

def dhAuthPackDer (freshnessToken : Bytes) : Bytes :=
  writeAuthPack (dhAuthPack freshnessToken)

def firstToken : Bytes := asciiBytes "first-token"
def secondToken : Bytes := asciiBytes "second-token"

/-- The attributes a signature covers. -/
def signedAttributes (contentType : Oid) (digest : Bytes) : Bytes :=
  (sorted [
    writeAttribute ⟨PKCS9_CONTENT_TYPE, setOf (writeOid contentType)⟩,
    writeAttribute ⟨PKCS9_MESSAGE_DIGEST, setOf (writeOctets digest)⟩]).flatten

def ID_PKINIT_SAN : Oid := [1, 3, 6, 1, 5, 2, 2]
def COMMON_NAME : Oid := [2, 5, 4, 3]

/-- An `AuthPack` or a reply's content, signed. -/
def signedEnvelope (certDer : Bytes) (serialNumber : Int) (contentType : Oid)
    (content digest signature : Bytes) : Bytes :=
  writeContentInfo ⟨ID_SIGNED_DATA, explicitly 0 (writeSignedData {
    version := 3
    digestAlgorithms := [⟨ID_SHA256, none⟩]
    encapContentInfo := ⟨contentType, some content⟩
    certificates := some certDer
    signerInfos := [{
      version := 1
      sid := writeIssuerAndSerialNumber ⟨[[(COMMON_NAME, .utf8String "CA")]], serialNumber⟩
      digestAlgorithm := ⟨ID_SHA256, none⟩
      signedAttrs := some (signedAttributes contentType digest)
      signatureAlgorithm := ⟨Recording.ECDSA_WITH_SHA256, none⟩
      signature := signature }] })⟩

/-- The client's envelopes under the two tokens, and the requests around them. -/
def firstSignedAuthPack : Bytes :=
  signedEnvelope aliceCertDer 2 ID_PKINIT_AUTH_DATA (dhAuthPackDer firstToken)
    firstAuthPackDigest firstRequestSignature

def secondSignedAuthPack : Bytes :=
  signedEnvelope aliceCertDer 2 ID_PKINIT_AUTH_DATA (dhAuthPackDer secondToken)
    secondAuthPackDigest secondRequestSignature

def firstRequest : Bytes := writePaPkAsReq { signedAuthPack := firstSignedAuthPack }
def secondRequest : Bytes := writePaPkAsReq { signedAuthPack := secondSignedAuthPack }

/-- What the KDC signs of its P-256 key. -/
def kdcDhKeyInfoDer : Bytes :=
  writeKdcDhKeyInfo ⟨⟨kdcDhSpki.drop 26, 0⟩, encodeNonce requestNonce, none⟩

def signedKdcDh : Bytes :=
  signedEnvelope kdcCertDer 3 ID_PKINIT_DHKEY_DATA kdcDhKeyInfoDer kdcDhKeyInfoDigest
    dhReplySignature

/-- The KDC's reply on the DH path, with a chosen function. -/
def dhReply (kdf : Option Oid) : Bytes :=
  writePaPkAsRep (.dhInfo {
    dhSignedData := signedKdcDh
    serverDhNonce := some serverDhNonce
    kdf := kdf.map KdfAlgorithmId.mk })

/-- The reply key by `id-pkinit-kdf-ah-sha256`. -/
def dhReplyKey : Bytes :=
  bytesOfNat 32 0x19C5E5894D017321E4BC724F006D45A01F7F0C35C646EA8BEE9148A969481FD9

def dhOtherInfo : Bytes :=
  writeOtherInfo {
    algorithmId := ⟨ID_PKINIT_KDF_AH_SHA256, none⟩
    partyUInfo := Recording.writePrincipal NT_WELLKNOWN ["WELLKNOWN", "ANONYMOUS"]
      "WELLKNOWN:ANONYMOUS"
    partyVInfo := Recording.writePrincipal 2 ["krbtgt", "EXAMPLE.COM"] "EXAMPLE.COM"
    suppPubInfo := some (writePkinitSuppPubInfo
      ⟨18, asReqDer, dhReply (some ID_PKINIT_KDF_AH_SHA256)⟩) }

/-- The name of a certificate's subject, as its `OtherName` spells it. -/
def sanOf (type : Int) (components : List String) : Bytes :=
  writeOtherName ⟨ID_PKINIT_SAN, .other (Recording.writePrincipal type components "EXAMPLE.COM")⟩

/-! ## Files -/

def aliceCertPem : Bytes := writePem "CERTIFICATE" aliceCertDer
def aliceKeyPem : Bytes := writePem "PRIVATE KEY" alicePrivateKey.handle

/-! ## The recording -/

def recording : Recording where
  digests := [
    (("sha1", requestBody), requestBodySha1),
    (("sha256", requestBody), requestBodySha256),
    (("sha1", otherBody), otherBodySha1),
    (("sha256", otherBody), otherBodySha256),
    (("sha256", dhAuthPackDer firstToken), firstAuthPackDigest),
    (("sha256", dhAuthPackDer secondToken), secondAuthPackDigest),
    (("sha256", kdcDhKeyInfoDer), kdcDhKeyInfoDigest),
    (("sha256", caCertDer), caCertSha256)]
  signers := [
    (alicePrivateKey, certificateSpki 93 aliceCertDer),
    (kdcPrivateKey, certificateSpki 91 kdcCertDer)]
  signatures := [
    ((certificateSpki 93 aliceCertDer,
      setOf (signedAttributes ID_PKINIT_AUTH_DATA firstAuthPackDigest)), firstRequestSignature),
    ((certificateSpki 93 aliceCertDer,
      setOf (signedAttributes ID_PKINIT_AUTH_DATA secondAuthPackDigest)), secondRequestSignature),
    ((certificateSpki 91 kdcCertDer,
      setOf (signedAttributes ID_PKINIT_DHKEY_DATA kdcDhKeyInfoDigest)), dhReplySignature)]
  ecKeys := [⟨1, clientDhPrivateKey, clientDhSpki⟩, ⟨2, kdcDhPrivateKey, kdcDhSpki⟩]
  secrets := [((clientDhSpki, kdcDhSpki), dhSecret)]
  kemKeys := [("ML-KEM-512", ⟨1, clientKemPrivateKey, clientKemSpki⟩),
    ("ML-KEM-1024", ⟨1, strongKemPrivateKey, strongKemSpki⟩)]
  encapsulations := []
  random := [((1, 32), clientDhNonce), ((2, 32), serverDhNonce)]
  derivations := [(("SHA2-256", dhSecret, dhOtherInfo, 32), dhReplyKey)]
  extractions := []
  expansions := []
  paths := [(aliceCertDer, [caCertDer]), (kdcCertDer, [caCertDer])]
  principals := [
    (kdcName, (⟨2, [asciiBytes "krbtgt", asciiBytes "EXAMPLE.COM"]⟩,
      some (asciiBytes "EXAMPLE.COM"))),
    (anonymousName, (⟨11, [asciiBytes "WELLKNOWN", asciiBytes "ANONYMOUS"]⟩,
      some (asciiBytes "WELLKNOWN:ANONYMOUS")))]
  sanPrincipals := [
    (sanOf 1 ["alice"], "alice@EXAMPLE.COM"),
    (sanOf 2 ["krbtgt", "EXAMPLE.COM"], kdcName)]
  files := [("/etc/pki/alice.pem", aliceCertPem), ("/etc/pki/alice.key", aliceKeyPem)]
  blocks := [(aliceCertPem, [("CERTIFICATE", aliceCertDer)]),
    (aliceKeyPem, [("PRIVATE KEY", alicePrivateKey.handle)])]

def recorded : Platform := recording.platform

/-! ## The parties -/

def aliceIdentity : PkinitIdentity := ⟨aliceCertDer, some alicePrivateKey, []⟩
def kdcIdentity : PkinitIdentity := ⟨kdcCertDer, some kdcPrivateKey, []⟩
def trustStore : TrustStore := { anchors := [caCertDer] }

/-! ## What the recording keeps -/

/-- No two recorded inputs of a hash have one digest. -/
theorem hashData_injective {name : String} {data data' digest : Bytes}
    (left : recorded.crypto.hashData name data = .ok digest)
    (right : recorded.crypto.hashData name data' = .ok digest) : data = data' := by
  have distinct : (recording.digests.map fun entry => (entry.1.1, entry.2)).Nodup := by
    decide
  have same := List.inj_on_of_nodup_map distinct (mem_of_recalled left) (mem_of_recalled right) rfl
  cases same
  rfl

/-! ## Certificates as text -/

def standardBase64 : Base64Engine where
  encode data := String.ofList (Base64.encode data)
  decode text := okOr (Base64.decode text.toList) "invalid base64"

theorem standardBase64_standard : standardBase64.Standard where
  roundTrips := by
    intro data
    simp only [standardBase64, String.toList_ofList, Base64.decode_encode, okOr_some]
  alphabet := by
    intro data c member
    rw [standardBase64, String.toList_ofList] at member
    exact Base64.inAlphabet_of_mem_encode member

end Kurbu5Pkinit.Reference
