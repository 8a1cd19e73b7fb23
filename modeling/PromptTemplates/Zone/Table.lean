import PromptTemplates.Zone.Basic

/-!
# The zones that are known

The recorded history of each zone, from the public time zone database.
-/

namespace PromptTemplates.Zone

/-- Pairs each change with the period that its index names. -/
def history (periods : List Period) (changes : List (Int × Nat)) : List (Int × Period) :=
  changes.filterMap fun (t, i) => periods[i]?.map fun p => (t, p)

/-- A zone whose clocks never change. -/
def unchanging (name abbreviation : String) (offset : Int) : Zone :=
  { name, initial := ⟨offset, abbreviation⟩, changes := [], tail := .steady }

def newYork : Zone where
  name := "America/New_York"
  initial := ⟨-17762, "LMT"⟩
  changes := history
    [⟨-18000, "EST"⟩, ⟨-14400, "EDT"⟩, ⟨-14400, "EWT"⟩, ⟨-14400, "EPT"⟩]
    [(-2717650800, 0), (-1633280400, 1), (-1615140000, 0), (-1601830800, 1), (-1583690400, 0),
     (-1570381200, 1), (-1551636000, 0), (-1536512400, 1), (-1523210400, 0), (-1504458000, 1),
     (-1491760800, 0), (-1473008400, 1), (-1459706400, 0), (-1441558800, 1), (-1428256800, 0),
     (-1410109200, 1), (-1396807200, 0), (-1378659600, 1), (-1365357600, 0), (-1347210000, 1),
     (-1333908000, 0), (-1315155600, 1), (-1301853600, 0), (-1283706000, 1), (-1270404000, 0),
     (-1252256400, 1), (-1238954400, 0), (-1220806800, 1), (-1207504800, 0), (-1189357200, 1),
     (-1176055200, 0), (-1157302800, 1), (-1144605600, 0), (-1125853200, 1), (-1112551200, 0),
     (-1094403600, 1), (-1081101600, 0), (-1062954000, 1), (-1049652000, 0), (-1031504400, 1),
     (-1018202400, 0), (-1000054800, 1), (-986752800, 0), (-968000400, 1), (-955303200, 0),
     (-936550800, 1), (-923248800, 0), (-905101200, 1), (-891799200, 0), (-880218000, 2),
     (-769395600, 3), (-765396000, 0), (-747248400, 1), (-733946400, 0), (-715798800, 1),
     (-702496800, 0), (-684349200, 1), (-671047200, 0), (-652899600, 1), (-639597600, 0),
     (-620845200, 1), (-608148000, 0), (-589395600, 1), (-576093600, 0), (-557946000, 1),
     (-544644000, 0), (-526496400, 1), (-513194400, 0), (-495046800, 1), (-481744800, 0),
     (-463597200, 1), (-447271200, 0), (-431542800, 1), (-415821600, 0), (-400093200, 1),
     (-384372000, 0), (-368643600, 1), (-352922400, 0), (-337194000, 1), (-321472800, 0),
     (-305744400, 1), (-289418400, 0), (-273690000, 1), (-257968800, 0), (-242240400, 1),
     (-226519200, 0), (-210790800, 1), (-195069600, 0), (-179341200, 1), (-163620000, 0),
     (-147891600, 1), (-131565600, 0), (-116442000, 1), (-100116000, 0), (-84387600, 1),
     (-68666400, 0), (-52938000, 1), (-37216800, 0), (-21488400, 1), (-5767200, 0),
     (9961200, 1), (25682400, 0), (41410800, 1), (57736800, 0), (73465200, 1), (89186400, 0),
     (104914800, 1), (120636000, 0), (126687600, 1), (152085600, 0), (162370800, 1),
     (183535200, 0), (199263600, 1), (215589600, 0), (230713200, 1), (247039200, 0),
     (262767600, 1), (278488800, 0), (294217200, 1), (309938400, 0), (325666800, 1),
     (341388000, 0), (357116400, 1), (372837600, 0), (388566000, 1), (404892000, 0),
     (420015600, 1), (436341600, 0), (452070000, 1), (467791200, 0), (483519600, 1),
     (499240800, 0), (514969200, 1), (530690400, 0), (544604400, 1), (562140000, 0),
     (576054000, 1), (594194400, 0), (607503600, 1), (625644000, 0), (638953200, 1),
     (657093600, 0), (671007600, 1), (688543200, 0), (702457200, 1), (719992800, 0),
     (733906800, 1), (752047200, 0), (765356400, 1), (783496800, 0), (796806000, 1),
     (814946400, 0), (828860400, 1), (846396000, 0), (860310000, 1), (877845600, 0),
     (891759600, 1), (909295200, 0), (923209200, 1), (941349600, 0), (954658800, 1),
     (972799200, 0), (986108400, 1), (1004248800, 0), (1018162800, 1), (1035698400, 0),
     (1049612400, 1), (1067148000, 0), (1081062000, 1), (1099202400, 0), (1112511600, 1),
     (1130652000, 0), (1143961200, 1), (1162101600, 0), (1173596400, 1), (1194156000, 0)]
  tail := .yearly ⟨-18000, "EST"⟩ ⟨-14400, "EDT"⟩ ⟨3, 2, 0, 7200⟩ ⟨11, 1, 0, 7200⟩

def chicago : Zone where
  name := "America/Chicago"
  initial := ⟨-21036, "LMT"⟩
  changes := history
    [⟨-21600, "CST"⟩, ⟨-18000, "CDT"⟩, ⟨-18000, "EST"⟩, ⟨-18000, "CWT"⟩, ⟨-18000, "CPT"⟩]
    [(-2717647200, 0), (-1633276800, 1), (-1615136400, 0), (-1601827200, 1), (-1583686800, 0),
     (-1563724800, 1), (-1551632400, 0), (-1538928000, 1), (-1520182800, 0), (-1504454400, 1),
     (-1491757200, 0), (-1473004800, 1), (-1459702800, 0), (-1441555200, 1), (-1428253200, 0),
     (-1410105600, 1), (-1396803600, 0), (-1378656000, 1), (-1365354000, 0), (-1347206400, 1),
     (-1333904400, 0), (-1315152000, 1), (-1301850000, 0), (-1283702400, 1), (-1270400400, 0),
     (-1252252800, 1), (-1238950800, 0), (-1220803200, 1), (-1207501200, 0), (-1189353600, 1),
     (-1176051600, 0), (-1157299200, 1), (-1144602000, 0), (-1125849600, 1), (-1112547600, 0),
     (-1094400000, 1), (-1081098000, 0), (-1067788800, 2), (-1045414800, 0), (-1031500800, 1),
     (-1018198800, 0), (-1000051200, 1), (-986749200, 0), (-967996800, 1), (-955299600, 0),
     (-936547200, 1), (-923245200, 0), (-905097600, 1), (-891795600, 0), (-880214400, 3),
     (-769395600, 4), (-765392400, 0), (-747244800, 1), (-733942800, 0), (-715795200, 1),
     (-702493200, 0), (-684345600, 1), (-671043600, 0), (-652896000, 1), (-639594000, 0),
     (-620841600, 1), (-608144400, 0), (-589392000, 1), (-576090000, 0), (-557942400, 1),
     (-544640400, 0), (-526492800, 1), (-513190800, 0), (-495043200, 1), (-481741200, 0),
     (-463593600, 1), (-447267600, 0), (-431539200, 1), (-415818000, 0), (-400089600, 1),
     (-384368400, 0), (-368640000, 1), (-352918800, 0), (-337190400, 1), (-321469200, 0),
     (-305740800, 1), (-289414800, 0), (-273686400, 1), (-257965200, 0), (-242236800, 1),
     (-226515600, 0), (-210787200, 1), (-195066000, 0), (-179337600, 1), (-163616400, 0),
     (-147888000, 1), (-131562000, 0), (-116438400, 1), (-100112400, 0), (-84384000, 1),
     (-68662800, 0), (-52934400, 1), (-37213200, 0), (-21484800, 1), (-5763600, 0),
     (9964800, 1), (25686000, 0), (41414400, 1), (57740400, 0), (73468800, 1), (89190000, 0),
     (104918400, 1), (120639600, 0), (126691200, 1), (152089200, 0), (162374400, 1),
     (183538800, 0), (199267200, 1), (215593200, 0), (230716800, 1), (247042800, 0),
     (262771200, 1), (278492400, 0), (294220800, 1), (309942000, 0), (325670400, 1),
     (341391600, 0), (357120000, 1), (372841200, 0), (388569600, 1), (404895600, 0),
     (420019200, 1), (436345200, 0), (452073600, 1), (467794800, 0), (483523200, 1),
     (499244400, 0), (514972800, 1), (530694000, 0), (544608000, 1), (562143600, 0),
     (576057600, 1), (594198000, 0), (607507200, 1), (625647600, 0), (638956800, 1),
     (657097200, 0), (671011200, 1), (688546800, 0), (702460800, 1), (719996400, 0),
     (733910400, 1), (752050800, 0), (765360000, 1), (783500400, 0), (796809600, 1),
     (814950000, 0), (828864000, 1), (846399600, 0), (860313600, 1), (877849200, 0),
     (891763200, 1), (909298800, 0), (923212800, 1), (941353200, 0), (954662400, 1),
     (972802800, 0), (986112000, 1), (1004252400, 0), (1018166400, 1), (1035702000, 0),
     (1049616000, 1), (1067151600, 0), (1081065600, 1), (1099206000, 0), (1112515200, 1),
     (1130655600, 0), (1143964800, 1), (1162105200, 0), (1173600000, 1), (1194159600, 0)]
  tail := .yearly ⟨-21600, "CST"⟩ ⟨-18000, "CDT"⟩ ⟨3, 2, 0, 7200⟩ ⟨11, 1, 0, 7200⟩

def denver : Zone where
  name := "America/Denver"
  initial := ⟨-25196, "LMT"⟩
  changes := history
    [⟨-25200, "MST"⟩, ⟨-21600, "MDT"⟩, ⟨-21600, "MWT"⟩, ⟨-21600, "MPT"⟩]
    [(-2717643600, 0), (-1633273200, 1), (-1615132800, 0), (-1601823600, 1), (-1583683200, 0),
     (-1570374000, 1), (-1551628800, 0), (-1538924400, 1), (-1534089600, 0), (-880210800, 2),
     (-769395600, 3), (-765388800, 0), (-147884400, 1), (-131558400, 0), (-116434800, 1),
     (-100108800, 0), (-84380400, 1), (-68659200, 0), (-52930800, 1), (-37209600, 0),
     (-21481200, 1), (-5760000, 0), (9968400, 1), (25689600, 0), (41418000, 1), (57744000, 0),
     (73472400, 1), (89193600, 0), (104922000, 1), (120643200, 0), (126694800, 1),
     (152092800, 0), (162378000, 1), (183542400, 0), (199270800, 1), (215596800, 0),
     (230720400, 1), (247046400, 0), (262774800, 1), (278496000, 0), (294224400, 1),
     (309945600, 0), (325674000, 1), (341395200, 0), (357123600, 1), (372844800, 0),
     (388573200, 1), (404899200, 0), (420022800, 1), (436348800, 0), (452077200, 1),
     (467798400, 0), (483526800, 1), (499248000, 0), (514976400, 1), (530697600, 0),
     (544611600, 1), (562147200, 0), (576061200, 1), (594201600, 0), (607510800, 1),
     (625651200, 0), (638960400, 1), (657100800, 0), (671014800, 1), (688550400, 0),
     (702464400, 1), (720000000, 0), (733914000, 1), (752054400, 0), (765363600, 1),
     (783504000, 0), (796813200, 1), (814953600, 0), (828867600, 1), (846403200, 0),
     (860317200, 1), (877852800, 0), (891766800, 1), (909302400, 0), (923216400, 1),
     (941356800, 0), (954666000, 1), (972806400, 0), (986115600, 1), (1004256000, 0),
     (1018170000, 1), (1035705600, 0), (1049619600, 1), (1067155200, 0), (1081069200, 1),
     (1099209600, 0), (1112518800, 1), (1130659200, 0), (1143968400, 1), (1162108800, 0),
     (1173603600, 1), (1194163200, 0)]
  tail := .yearly ⟨-25200, "MST"⟩ ⟨-21600, "MDT"⟩ ⟨3, 2, 0, 7200⟩ ⟨11, 1, 0, 7200⟩

def phoenix : Zone where
  name := "America/Phoenix"
  initial := ⟨-26898, "LMT"⟩
  changes := history
    [⟨-25200, "MST"⟩, ⟨-21600, "MDT"⟩, ⟨-21600, "MWT"⟩]
    [(-2717643600, 0), (-1633273200, 1), (-1615132800, 0), (-1601823600, 1), (-1583683200, 0),
     (-880210800, 2), (-820519140, 0), (-812653140, 2), (-796845540, 0), (-84380400, 1),
     (-68659200, 0)]
  tail := .steady

def losAngeles : Zone where
  name := "America/Los_Angeles"
  initial := ⟨-28378, "LMT"⟩
  changes := history
    [⟨-28800, "PST"⟩, ⟨-25200, "PDT"⟩, ⟨-25200, "PWT"⟩, ⟨-25200, "PPT"⟩]
    [(-2717640000, 0), (-1633269600, 1), (-1615129200, 0), (-1601820000, 1), (-1583679600, 0),
     (-880207200, 2), (-769395600, 3), (-765385200, 0), (-687967140, 1), (-662655600, 0),
     (-620838000, 1), (-608137200, 0), (-589388400, 1), (-576082800, 0), (-557938800, 1),
     (-544633200, 0), (-526489200, 1), (-513183600, 0), (-495039600, 1), (-481734000, 0),
     (-463590000, 1), (-450284400, 0), (-431535600, 1), (-418230000, 0), (-400086000, 1),
     (-386780400, 0), (-368636400, 1), (-355330800, 0), (-337186800, 1), (-323881200, 0),
     (-305737200, 1), (-292431600, 0), (-273682800, 1), (-260982000, 0), (-242233200, 1),
     (-226508400, 0), (-210783600, 1), (-195058800, 0), (-179334000, 1), (-163609200, 0),
     (-147884400, 1), (-131554800, 0), (-116434800, 1), (-100105200, 0), (-84376800, 1),
     (-68655600, 0), (-52927200, 1), (-37206000, 0), (-21477600, 1), (-5756400, 0),
     (9972000, 1), (25693200, 0), (41421600, 1), (57747600, 0), (73476000, 1), (89197200, 0),
     (104925600, 1), (120646800, 0), (126698400, 1), (152096400, 0), (162381600, 1),
     (183546000, 0), (199274400, 1), (215600400, 0), (230724000, 1), (247050000, 0),
     (262778400, 1), (278499600, 0), (294228000, 1), (309949200, 0), (325677600, 1),
     (341398800, 0), (357127200, 1), (372848400, 0), (388576800, 1), (404902800, 0),
     (420026400, 1), (436352400, 0), (452080800, 1), (467802000, 0), (483530400, 1),
     (499251600, 0), (514980000, 1), (530701200, 0), (544615200, 1), (562150800, 0),
     (576064800, 1), (594205200, 0), (607514400, 1), (625654800, 0), (638964000, 1),
     (657104400, 0), (671018400, 1), (688554000, 0), (702468000, 1), (720003600, 0),
     (733917600, 1), (752058000, 0), (765367200, 1), (783507600, 0), (796816800, 1),
     (814957200, 0), (828871200, 1), (846406800, 0), (860320800, 1), (877856400, 0),
     (891770400, 1), (909306000, 0), (923220000, 1), (941360400, 0), (954669600, 1),
     (972810000, 0), (986119200, 1), (1004259600, 0), (1018173600, 1), (1035709200, 0),
     (1049623200, 1), (1067158800, 0), (1081072800, 1), (1099213200, 0), (1112522400, 1),
     (1130662800, 0), (1143972000, 1), (1162112400, 0), (1173607200, 1), (1194166800, 0)]
  tail := .yearly ⟨-28800, "PST"⟩ ⟨-25200, "PDT"⟩ ⟨3, 2, 0, 7200⟩ ⟨11, 1, 0, 7200⟩

def anchorage : Zone where
  name := "America/Anchorage"
  initial := ⟨50424, "LMT"⟩
  changes := history
    [⟨-35976, "LMT"⟩, ⟨-36000, "AST"⟩, ⟨-32400, "AWT"⟩, ⟨-32400, "APT"⟩, ⟨-36000, "AHST"⟩, ⟨-32400, "AHDT"⟩, ⟨-32400, "YST"⟩, ⟨-32400, "AKST"⟩, ⟨-28800, "AKDT"⟩]
    [(-3225223727, 0), (-2188951224, 1), (-880200000, 2), (-769395600, 3), (-765378000, 1),
     (-86882400, 4), (-21470400, 5), (-5749200, 4), (9979200, 5), (25700400, 4),
     (41428800, 5), (57754800, 4), (73483200, 5), (89204400, 4), (104932800, 5),
     (120654000, 4), (126705600, 5), (152103600, 4), (162388800, 5), (183553200, 4),
     (199281600, 5), (215607600, 4), (230731200, 5), (247057200, 4), (262785600, 5),
     (278506800, 4), (294235200, 5), (309956400, 4), (325684800, 5), (341406000, 4),
     (357134400, 5), (372855600, 4), (388584000, 5), (404910000, 4), (420033600, 5),
     (436359600, 6), (439030800, 7), (452084400, 8), (467805600, 7), (483534000, 8),
     (499255200, 7), (514983600, 8), (530704800, 7), (544618800, 8), (562154400, 7),
     (576068400, 8), (594208800, 7), (607518000, 8), (625658400, 7), (638967600, 8),
     (657108000, 7), (671022000, 8), (688557600, 7), (702471600, 8), (720007200, 7),
     (733921200, 8), (752061600, 7), (765370800, 8), (783511200, 7), (796820400, 8),
     (814960800, 7), (828874800, 8), (846410400, 7), (860324400, 8), (877860000, 7),
     (891774000, 8), (909309600, 7), (923223600, 8), (941364000, 7), (954673200, 8),
     (972813600, 7), (986122800, 8), (1004263200, 7), (1018177200, 8), (1035712800, 7),
     (1049626800, 8), (1067162400, 7), (1081076400, 8), (1099216800, 7), (1112526000, 8),
     (1130666400, 7), (1143975600, 8), (1162116000, 7), (1173610800, 8), (1194170400, 7)]
  tail := .yearly ⟨-32400, "AKST"⟩ ⟨-28800, "AKDT"⟩ ⟨3, 2, 0, 7200⟩ ⟨11, 1, 0, 7200⟩

def honolulu : Zone where
  name := "Pacific/Honolulu"
  initial := ⟨-37886, "LMT"⟩
  changes := history
    [⟨-37800, "HST"⟩, ⟨-34200, "HDT"⟩, ⟨-34200, "HWT"⟩, ⟨-34200, "HPT"⟩, ⟨-36000, "HST"⟩]
    [(-2334101314, 0), (-1157283000, 1), (-1155436200, 0), (-880198200, 2), (-769395600, 3),
     (-765376200, 0), (-712150200, 4)]
  tail := .steady

def london : Zone where
  name := "Europe/London"
  initial := ⟨-75, "LMT"⟩
  changes := history
    [⟨0, "GMT"⟩, ⟨3600, "BST"⟩, ⟨7200, "BDST"⟩]
    [(-3852662325, 0), (-1691964000, 1), (-1680472800, 0), (-1664143200, 1), (-1650146400, 0),
     (-1633903200, 1), (-1617487200, 0), (-1601848800, 1), (-1586037600, 0), (-1570399200, 1),
     (-1552168800, 0), (-1538344800, 1), (-1522533600, 0), (-1507500000, 1), (-1490565600, 0),
     (-1473631200, 1), (-1460930400, 0), (-1442786400, 1), (-1428876000, 0), (-1410732000, 1),
     (-1396216800, 0), (-1379282400, 1), (-1364767200, 0), (-1348437600, 1), (-1333317600, 0),
     (-1315778400, 1), (-1301263200, 0), (-1284328800, 1), (-1269813600, 0), (-1253484000, 1),
     (-1238364000, 0), (-1221429600, 1), (-1206914400, 0), (-1189980000, 1), (-1175464800, 0),
     (-1159135200, 1), (-1143410400, 0), (-1126476000, 1), (-1111960800, 0), (-1095631200, 1),
     (-1080511200, 0), (-1063576800, 1), (-1049061600, 0), (-1032127200, 1), (-1017612000, 0),
     (-1001282400, 1), (-986162400, 0), (-969228000, 1), (-950479200, 0), (-942012000, 1),
     (-904518000, 2), (-896050800, 1), (-875487600, 2), (-864601200, 1), (-844038000, 2),
     (-832546800, 1), (-812588400, 2), (-798073200, 1), (-781052400, 2), (-772066800, 1),
     (-764805600, 0), (-748476000, 1), (-733356000, 0), (-719445600, 1), (-717030000, 2),
     (-706748400, 1), (-699487200, 0), (-687996000, 1), (-668037600, 0), (-654732000, 1),
     (-636588000, 0), (-622072800, 1), (-605743200, 0), (-590623200, 1), (-574293600, 0),
     (-558568800, 1), (-542239200, 0), (-527119200, 1), (-512604000, 0), (-496274400, 1),
     (-481154400, 0), (-464220000, 1), (-449704800, 0), (-432165600, 1), (-417650400, 0),
     (-401320800, 1), (-386200800, 0), (-369266400, 1), (-354751200, 0), (-337816800, 1),
     (-323301600, 0), (-306972000, 1), (-291852000, 0), (-276732000, 1), (-257983200, 0),
     (-245282400, 1), (-226533600, 0), (-213228000, 1), (-195084000, 0), (-182383200, 1),
     (-163634400, 0), (-150933600, 1), (-132184800, 0), (-119484000, 1), (-100735200, 0),
     (-88034400, 1), (-68680800, 0), (-59004000, 1), (-37242000, 1), (57722400, 0),
     (69818400, 1), (89172000, 0), (101268000, 1), (120621600, 0), (132717600, 1),
     (152071200, 0), (164167200, 1), (183520800, 0), (196221600, 1), (214970400, 0),
     (227671200, 1), (246420000, 0), (259120800, 1), (278474400, 0), (290570400, 1),
     (309924000, 0), (322020000, 1), (341373600, 0), (354675600, 1), (372819600, 0),
     (386125200, 1), (404269200, 0), (417574800, 1), (435718800, 0), (449024400, 1),
     (467773200, 0), (481078800, 1), (499222800, 0), (512528400, 1), (530672400, 0),
     (543978000, 1), (562122000, 0), (575427600, 1), (593571600, 0), (606877200, 1),
     (625626000, 0), (638326800, 1), (657075600, 0), (670381200, 1), (688525200, 0),
     (701830800, 1), (719974800, 0), (733280400, 1), (751424400, 0), (764730000, 1),
     (782874000, 0), (796179600, 1), (814323600, 0), (828234000, 1), (846378000, 0)]
  tail := .yearly ⟨0, "GMT"⟩ ⟨3600, "BST"⟩ ⟨3, 5, 0, 3600⟩ ⟨10, 5, 0, 7200⟩

def berlin : Zone where
  name := "Europe/Berlin"
  initial := ⟨3208, "LMT"⟩
  changes := history
    [⟨3600, "CET"⟩, ⟨7200, "CEST"⟩, ⟨10800, "CEMT"⟩]
    [(-2422054408, 0), (-1693706400, 1), (-1680483600, 0), (-1663455600, 1), (-1650150000, 0),
     (-1632006000, 1), (-1618700400, 0), (-938905200, 1), (-857257200, 0), (-844556400, 1),
     (-828226800, 0), (-812502000, 1), (-796777200, 0), (-781052400, 1), (-776563200, 2),
     (-765936000, 1), (-761180400, 0), (-748479600, 1), (-733273200, 0), (-717631200, 1),
     (-714610800, 2), (-710380800, 1), (-701910000, 0), (-684975600, 1), (-670460400, 0),
     (-654130800, 1), (-639010800, 0), (323830800, 1), (338950800, 0), (354675600, 1),
     (370400400, 0), (386125200, 1), (401850000, 0), (417574800, 1), (433299600, 0),
     (449024400, 1), (465354000, 0), (481078800, 1), (496803600, 0), (512528400, 1),
     (528253200, 0), (543978000, 1), (559702800, 0), (575427600, 1), (591152400, 0),
     (606877200, 1), (622602000, 0), (638326800, 1), (654656400, 0), (670381200, 1),
     (686106000, 0), (701830800, 1), (717555600, 0), (733280400, 1), (749005200, 0),
     (764730000, 1), (780454800, 0), (796179600, 1), (811904400, 0), (828234000, 1),
     (846378000, 0)]
  tail := .yearly ⟨3600, "CET"⟩ ⟨7200, "CEST"⟩ ⟨3, 5, 0, 7200⟩ ⟨10, 5, 0, 10800⟩

def tokyo : Zone where
  name := "Asia/Tokyo"
  initial := ⟨33539, "LMT"⟩
  changes := history
    [⟨32400, "JST"⟩, ⟨36000, "JDT"⟩]
    [(-2587712400, 0), (-683802000, 1), (-672310800, 0), (-654771600, 1), (-640861200, 0),
     (-620298000, 1), (-609411600, 0), (-588848400, 1), (-577962000, 0)]
  tail := .steady

def kolkata : Zone where
  name := "Asia/Kolkata"
  initial := ⟨21208, "LMT"⟩
  changes := history
    [⟨21200, "HMT"⟩, ⟨19270, "MMT"⟩, ⟨19800, "IST"⟩, ⟨23400, "+0630"⟩]
    [(-3645237208, 0), (-3155694800, 1), (-2019705670, 2), (-891581400, 3), (-872058600, 2),
     (-862637400, 3), (-764145000, 2)]
  tail := .steady

def kathmandu : Zone where
  name := "Asia/Kathmandu"
  initial := ⟨20476, "LMT"⟩
  changes := history
    [⟨19800, "+0530"⟩, ⟨20700, "+0545"⟩]
    [(-1577943676, 0), (504901800, 1)]
  tail := .steady

def sydney : Zone where
  name := "Australia/Sydney"
  initial := ⟨36292, "LMT"⟩
  changes := history
    [⟨36000, "AEST"⟩, ⟨39600, "AEDT"⟩]
    [(-2364113092, 0), (-1672560000, 1), (-1665388800, 0), (-883641600, 1), (-876124800, 0),
     (-860400000, 1), (-844675200, 0), (-828345600, 1), (-813225600, 0), (57686400, 1),
     (67968000, 0), (89136000, 1), (100022400, 0), (120585600, 1), (131472000, 0),
     (152035200, 1), (162921600, 0), (183484800, 1), (194976000, 0), (215539200, 1),
     (226425600, 0), (246988800, 1), (257875200, 0), (278438400, 1), (289324800, 0),
     (309888000, 1), (320774400, 0), (341337600, 1), (352224000, 0), (372787200, 1),
     (386697600, 0), (404841600, 1), (415728000, 0), (436291200, 1), (447177600, 0),
     (467740800, 1), (478627200, 0), (499190400, 1), (511286400, 0), (530035200, 1),
     (542736000, 0), (562089600, 1), (574790400, 0), (594144000, 1), (606240000, 0),
     (625593600, 1), (636480000, 0), (657043200, 1), (667929600, 0), (688492800, 1),
     (699379200, 0), (719942400, 1), (731433600, 0), (751996800, 1), (762883200, 0),
     (783446400, 1), (794332800, 0), (814896000, 1), (828201600, 0), (846345600, 1),
     (859651200, 0), (877795200, 1), (891100800, 0), (909244800, 1), (922550400, 0),
     (941299200, 1), (954000000, 0), (967305600, 1), (985449600, 0), (1004198400, 1),
     (1017504000, 0), (1035648000, 1), (1048953600, 0), (1067097600, 1), (1080403200, 0),
     (1099152000, 1), (1111852800, 0), (1130601600, 1), (1143907200, 0), (1162051200, 1),
     (1174752000, 0), (1193500800, 1), (1207411200, 0), (1223136000, 1)]
  tail := .yearly ⟨36000, "AEST"⟩ ⟨39600, "AEDT"⟩ ⟨10, 1, 0, 7200⟩ ⟨4, 1, 0, 10800⟩

/-- All zones that can be named. -/
def all : List Zone :=
  [unchanging "UTC" "UTC" 0,
   unchanging "Etc/UTC" "UTC" 0,
   unchanging "GMT" "GMT" 0,
   unchanging "EST" "EST" (-18000),
   unchanging "Etc/GMT+5" "-05" (-18000),
   newYork, chicago, denver, phoenix, losAngeles,
   anchorage, honolulu, london, berlin, tokyo,
   kolkata, kathmandu, sydney]

/-- The zone with this exact name. -/
def find? (name : String) : Option Zone := all.find? fun z => z.name == name

end PromptTemplates.Zone
