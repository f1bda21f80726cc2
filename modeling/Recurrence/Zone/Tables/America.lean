import Recurrence.Zone.OffsetTable
/-!
Offsets of zones in America, with changes up to the end of 2099.
-/
namespace Recurrence.Zone.Tables

/-- The offsets of America/New_York. -/
def newYork : OffsetTable :=
  ⟨-17762,
   [⟨-2717650800, -18000⟩, ⟨-1633280400, -14400⟩, ⟨-1615140000, -18000⟩, ⟨-1601830800, -14400⟩,
    ⟨-1583690400, -18000⟩, ⟨-1570381200, -14400⟩, ⟨-1551636000, -18000⟩, ⟨-1536512400, -14400⟩,
    ⟨-1523210400, -18000⟩, ⟨-1504458000, -14400⟩, ⟨-1491760800, -18000⟩, ⟨-1473008400, -14400⟩,
    ⟨-1459706400, -18000⟩, ⟨-1441558800, -14400⟩, ⟨-1428256800, -18000⟩, ⟨-1410109200, -14400⟩,
    ⟨-1396807200, -18000⟩, ⟨-1378659600, -14400⟩, ⟨-1365357600, -18000⟩, ⟨-1347210000, -14400⟩,
    ⟨-1333908000, -18000⟩, ⟨-1315155600, -14400⟩, ⟨-1301853600, -18000⟩, ⟨-1283706000, -14400⟩,
    ⟨-1270404000, -18000⟩, ⟨-1252256400, -14400⟩, ⟨-1238954400, -18000⟩, ⟨-1220806800, -14400⟩,
    ⟨-1207504800, -18000⟩, ⟨-1189357200, -14400⟩, ⟨-1176055200, -18000⟩, ⟨-1157302800, -14400⟩,
    ⟨-1144605600, -18000⟩, ⟨-1125853200, -14400⟩, ⟨-1112551200, -18000⟩, ⟨-1094403600, -14400⟩,
    ⟨-1081101600, -18000⟩, ⟨-1062954000, -14400⟩, ⟨-1049652000, -18000⟩, ⟨-1031504400, -14400⟩,
    ⟨-1018202400, -18000⟩, ⟨-1000054800, -14400⟩, ⟨-986752800, -18000⟩, ⟨-968000400, -14400⟩,
    ⟨-955303200, -18000⟩, ⟨-936550800, -14400⟩, ⟨-923248800, -18000⟩, ⟨-905101200, -14400⟩,
    ⟨-891799200, -18000⟩, ⟨-880218000, -14400⟩, ⟨-765396000, -18000⟩, ⟨-747248400, -14400⟩,
    ⟨-733946400, -18000⟩, ⟨-715798800, -14400⟩, ⟨-702496800, -18000⟩, ⟨-684349200, -14400⟩,
    ⟨-671047200, -18000⟩, ⟨-652899600, -14400⟩, ⟨-639597600, -18000⟩, ⟨-620845200, -14400⟩,
    ⟨-608148000, -18000⟩, ⟨-589395600, -14400⟩, ⟨-576093600, -18000⟩, ⟨-557946000, -14400⟩,
    ⟨-544644000, -18000⟩, ⟨-526496400, -14400⟩, ⟨-513194400, -18000⟩, ⟨-495046800, -14400⟩,
    ⟨-481744800, -18000⟩, ⟨-463597200, -14400⟩, ⟨-447271200, -18000⟩, ⟨-431542800, -14400⟩,
    ⟨-415821600, -18000⟩, ⟨-400093200, -14400⟩, ⟨-384372000, -18000⟩, ⟨-368643600, -14400⟩,
    ⟨-352922400, -18000⟩, ⟨-337194000, -14400⟩, ⟨-321472800, -18000⟩, ⟨-305744400, -14400⟩,
    ⟨-289418400, -18000⟩, ⟨-273690000, -14400⟩, ⟨-257968800, -18000⟩, ⟨-242240400, -14400⟩,
    ⟨-226519200, -18000⟩, ⟨-210790800, -14400⟩, ⟨-195069600, -18000⟩, ⟨-179341200, -14400⟩,
    ⟨-163620000, -18000⟩, ⟨-147891600, -14400⟩, ⟨-131565600, -18000⟩, ⟨-116442000, -14400⟩,
    ⟨-100116000, -18000⟩, ⟨-84387600, -14400⟩, ⟨-68666400, -18000⟩, ⟨-52938000, -14400⟩,
    ⟨-37216800, -18000⟩, ⟨-21488400, -14400⟩, ⟨-5767200, -18000⟩, ⟨9961200, -14400⟩,
    ⟨25682400, -18000⟩, ⟨41410800, -14400⟩, ⟨57736800, -18000⟩, ⟨73465200, -14400⟩,
    ⟨89186400, -18000⟩, ⟨104914800, -14400⟩, ⟨120636000, -18000⟩, ⟨126687600, -14400⟩,
    ⟨152085600, -18000⟩, ⟨162370800, -14400⟩, ⟨183535200, -18000⟩, ⟨199263600, -14400⟩,
    ⟨215589600, -18000⟩, ⟨230713200, -14400⟩, ⟨247039200, -18000⟩, ⟨262767600, -14400⟩,
    ⟨278488800, -18000⟩, ⟨294217200, -14400⟩, ⟨309938400, -18000⟩, ⟨325666800, -14400⟩,
    ⟨341388000, -18000⟩, ⟨357116400, -14400⟩, ⟨372837600, -18000⟩, ⟨388566000, -14400⟩,
    ⟨404892000, -18000⟩, ⟨420015600, -14400⟩, ⟨436341600, -18000⟩, ⟨452070000, -14400⟩,
    ⟨467791200, -18000⟩, ⟨483519600, -14400⟩, ⟨499240800, -18000⟩, ⟨514969200, -14400⟩,
    ⟨530690400, -18000⟩, ⟨544604400, -14400⟩, ⟨562140000, -18000⟩, ⟨576054000, -14400⟩,
    ⟨594194400, -18000⟩, ⟨607503600, -14400⟩, ⟨625644000, -18000⟩, ⟨638953200, -14400⟩,
    ⟨657093600, -18000⟩, ⟨671007600, -14400⟩, ⟨688543200, -18000⟩, ⟨702457200, -14400⟩,
    ⟨719992800, -18000⟩, ⟨733906800, -14400⟩, ⟨752047200, -18000⟩, ⟨765356400, -14400⟩,
    ⟨783496800, -18000⟩, ⟨796806000, -14400⟩, ⟨814946400, -18000⟩, ⟨828860400, -14400⟩,
    ⟨846396000, -18000⟩, ⟨860310000, -14400⟩, ⟨877845600, -18000⟩, ⟨891759600, -14400⟩,
    ⟨909295200, -18000⟩, ⟨923209200, -14400⟩, ⟨941349600, -18000⟩, ⟨954658800, -14400⟩,
    ⟨972799200, -18000⟩, ⟨986108400, -14400⟩, ⟨1004248800, -18000⟩, ⟨1018162800, -14400⟩,
    ⟨1035698400, -18000⟩, ⟨1049612400, -14400⟩, ⟨1067148000, -18000⟩, ⟨1081062000, -14400⟩,
    ⟨1099202400, -18000⟩, ⟨1112511600, -14400⟩, ⟨1130652000, -18000⟩, ⟨1143961200, -14400⟩,
    ⟨1162101600, -18000⟩, ⟨1173596400, -14400⟩, ⟨1194156000, -18000⟩, ⟨1205046000, -14400⟩,
    ⟨1225605600, -18000⟩, ⟨1236495600, -14400⟩, ⟨1257055200, -18000⟩, ⟨1268550000, -14400⟩,
    ⟨1289109600, -18000⟩, ⟨1299999600, -14400⟩, ⟨1320559200, -18000⟩, ⟨1331449200, -14400⟩,
    ⟨1352008800, -18000⟩, ⟨1362898800, -14400⟩, ⟨1383458400, -18000⟩, ⟨1394348400, -14400⟩,
    ⟨1414908000, -18000⟩, ⟨1425798000, -14400⟩, ⟨1446357600, -18000⟩, ⟨1457852400, -14400⟩,
    ⟨1478412000, -18000⟩, ⟨1489302000, -14400⟩, ⟨1509861600, -18000⟩, ⟨1520751600, -14400⟩,
    ⟨1541311200, -18000⟩, ⟨1552201200, -14400⟩, ⟨1572760800, -18000⟩, ⟨1583650800, -14400⟩,
    ⟨1604210400, -18000⟩, ⟨1615705200, -14400⟩, ⟨1636264800, -18000⟩, ⟨1647154800, -14400⟩,
    ⟨1667714400, -18000⟩, ⟨1678604400, -14400⟩, ⟨1699164000, -18000⟩, ⟨1710054000, -14400⟩,
    ⟨1730613600, -18000⟩, ⟨1741503600, -14400⟩, ⟨1762063200, -18000⟩, ⟨1772953200, -14400⟩,
    ⟨1793512800, -18000⟩, ⟨1805007600, -14400⟩, ⟨1825567200, -18000⟩, ⟨1836457200, -14400⟩,
    ⟨1857016800, -18000⟩, ⟨1867906800, -14400⟩, ⟨1888466400, -18000⟩, ⟨1899356400, -14400⟩,
    ⟨1919916000, -18000⟩, ⟨1930806000, -14400⟩, ⟨1951365600, -18000⟩, ⟨1962860400, -14400⟩,
    ⟨1983420000, -18000⟩, ⟨1994310000, -14400⟩, ⟨2014869600, -18000⟩, ⟨2025759600, -14400⟩,
    ⟨2046319200, -18000⟩, ⟨2057209200, -14400⟩, ⟨2077768800, -18000⟩, ⟨2088658800, -14400⟩,
    ⟨2109218400, -18000⟩, ⟨2120108400, -14400⟩, ⟨2140668000, -18000⟩, ⟨2152162800, -14400⟩,
    ⟨2172722400, -18000⟩, ⟨2183612400, -14400⟩, ⟨2204172000, -18000⟩, ⟨2215062000, -14400⟩,
    ⟨2235621600, -18000⟩, ⟨2246511600, -14400⟩, ⟨2267071200, -18000⟩, ⟨2277961200, -14400⟩,
    ⟨2298520800, -18000⟩, ⟨2309410800, -14400⟩, ⟨2329970400, -18000⟩, ⟨2341465200, -14400⟩,
    ⟨2362024800, -18000⟩, ⟨2372914800, -14400⟩, ⟨2393474400, -18000⟩, ⟨2404364400, -14400⟩,
    ⟨2424924000, -18000⟩, ⟨2435814000, -14400⟩, ⟨2456373600, -18000⟩, ⟨2467263600, -14400⟩,
    ⟨2487823200, -18000⟩, ⟨2499318000, -14400⟩, ⟨2519877600, -18000⟩, ⟨2530767600, -14400⟩,
    ⟨2551327200, -18000⟩, ⟨2562217200, -14400⟩, ⟨2582776800, -18000⟩, ⟨2593666800, -14400⟩,
    ⟨2614226400, -18000⟩, ⟨2625116400, -14400⟩, ⟨2645676000, -18000⟩, ⟨2656566000, -14400⟩,
    ⟨2677125600, -18000⟩, ⟨2688620400, -14400⟩, ⟨2709180000, -18000⟩, ⟨2720070000, -14400⟩,
    ⟨2740629600, -18000⟩, ⟨2751519600, -14400⟩, ⟨2772079200, -18000⟩, ⟨2782969200, -14400⟩,
    ⟨2803528800, -18000⟩, ⟨2814418800, -14400⟩, ⟨2834978400, -18000⟩, ⟨2846473200, -14400⟩,
    ⟨2867032800, -18000⟩, ⟨2877922800, -14400⟩, ⟨2898482400, -18000⟩, ⟨2909372400, -14400⟩,
    ⟨2929932000, -18000⟩, ⟨2940822000, -14400⟩, ⟨2961381600, -18000⟩, ⟨2972271600, -14400⟩,
    ⟨2992831200, -18000⟩, ⟨3003721200, -14400⟩, ⟨3024280800, -18000⟩, ⟨3035775600, -14400⟩,
    ⟨3056335200, -18000⟩, ⟨3067225200, -14400⟩, ⟨3087784800, -18000⟩, ⟨3098674800, -14400⟩,
    ⟨3119234400, -18000⟩, ⟨3130124400, -14400⟩, ⟨3150684000, -18000⟩, ⟨3161574000, -14400⟩,
    ⟨3182133600, -18000⟩, ⟨3193023600, -14400⟩, ⟨3213583200, -18000⟩, ⟨3225078000, -14400⟩,
    ⟨3245637600, -18000⟩, ⟨3256527600, -14400⟩, ⟨3277087200, -18000⟩, ⟨3287977200, -14400⟩,
    ⟨3308536800, -18000⟩, ⟨3319426800, -14400⟩, ⟨3339986400, -18000⟩, ⟨3350876400, -14400⟩,
    ⟨3371436000, -18000⟩, ⟨3382930800, -14400⟩, ⟨3403490400, -18000⟩, ⟨3414380400, -14400⟩,
    ⟨3434940000, -18000⟩, ⟨3445830000, -14400⟩, ⟨3466389600, -18000⟩, ⟨3477279600, -14400⟩,
    ⟨3497839200, -18000⟩, ⟨3508729200, -14400⟩, ⟨3529288800, -18000⟩, ⟨3540178800, -14400⟩,
    ⟨3560738400, -18000⟩, ⟨3572233200, -14400⟩, ⟨3592792800, -18000⟩, ⟨3603682800, -14400⟩,
    ⟨3624242400, -18000⟩, ⟨3635132400, -14400⟩, ⟨3655692000, -18000⟩, ⟨3666582000, -14400⟩,
    ⟨3687141600, -18000⟩, ⟨3698031600, -14400⟩, ⟨3718591200, -18000⟩, ⟨3730086000, -14400⟩,
    ⟨3750645600, -18000⟩, ⟨3761535600, -14400⟩, ⟨3782095200, -18000⟩, ⟨3792985200, -14400⟩,
    ⟨3813544800, -18000⟩, ⟨3824434800, -14400⟩, ⟨3844994400, -18000⟩, ⟨3855884400, -14400⟩,
    ⟨3876444000, -18000⟩, ⟨3887334000, -14400⟩, ⟨3907893600, -18000⟩, ⟨3919388400, -14400⟩,
    ⟨3939948000, -18000⟩, ⟨3950838000, -14400⟩, ⟨3971397600, -18000⟩, ⟨3982287600, -14400⟩,
    ⟨4002847200, -18000⟩, ⟨4013737200, -14400⟩, ⟨4034296800, -18000⟩, ⟨4045186800, -14400⟩,
    ⟨4065746400, -18000⟩, ⟨4076636400, -14400⟩, ⟨4097196000, -18000⟩]⟩

/-- The offsets of America/Chicago. -/
def chicago : OffsetTable :=
  ⟨-21036,
   [⟨-2717647200, -21600⟩, ⟨-1633276800, -18000⟩, ⟨-1615136400, -21600⟩, ⟨-1601827200, -18000⟩,
    ⟨-1583686800, -21600⟩, ⟨-1563724800, -18000⟩, ⟨-1551632400, -21600⟩, ⟨-1538928000, -18000⟩,
    ⟨-1520182800, -21600⟩, ⟨-1504454400, -18000⟩, ⟨-1491757200, -21600⟩, ⟨-1473004800, -18000⟩,
    ⟨-1459702800, -21600⟩, ⟨-1441555200, -18000⟩, ⟨-1428253200, -21600⟩, ⟨-1410105600, -18000⟩,
    ⟨-1396803600, -21600⟩, ⟨-1378656000, -18000⟩, ⟨-1365354000, -21600⟩, ⟨-1347206400, -18000⟩,
    ⟨-1333904400, -21600⟩, ⟨-1315152000, -18000⟩, ⟨-1301850000, -21600⟩, ⟨-1283702400, -18000⟩,
    ⟨-1270400400, -21600⟩, ⟨-1252252800, -18000⟩, ⟨-1238950800, -21600⟩, ⟨-1220803200, -18000⟩,
    ⟨-1207501200, -21600⟩, ⟨-1189353600, -18000⟩, ⟨-1176051600, -21600⟩, ⟨-1157299200, -18000⟩,
    ⟨-1144602000, -21600⟩, ⟨-1125849600, -18000⟩, ⟨-1112547600, -21600⟩, ⟨-1094400000, -18000⟩,
    ⟨-1081098000, -21600⟩, ⟨-1067788800, -18000⟩, ⟨-1045414800, -21600⟩, ⟨-1031500800, -18000⟩,
    ⟨-1018198800, -21600⟩, ⟨-1000051200, -18000⟩, ⟨-986749200, -21600⟩, ⟨-967996800, -18000⟩,
    ⟨-955299600, -21600⟩, ⟨-936547200, -18000⟩, ⟨-923245200, -21600⟩, ⟨-905097600, -18000⟩,
    ⟨-891795600, -21600⟩, ⟨-880214400, -18000⟩, ⟨-765392400, -21600⟩, ⟨-747244800, -18000⟩,
    ⟨-733942800, -21600⟩, ⟨-715795200, -18000⟩, ⟨-702493200, -21600⟩, ⟨-684345600, -18000⟩,
    ⟨-671043600, -21600⟩, ⟨-652896000, -18000⟩, ⟨-639594000, -21600⟩, ⟨-620841600, -18000⟩,
    ⟨-608144400, -21600⟩, ⟨-589392000, -18000⟩, ⟨-576090000, -21600⟩, ⟨-557942400, -18000⟩,
    ⟨-544640400, -21600⟩, ⟨-526492800, -18000⟩, ⟨-513190800, -21600⟩, ⟨-495043200, -18000⟩,
    ⟨-481741200, -21600⟩, ⟨-463593600, -18000⟩, ⟨-447267600, -21600⟩, ⟨-431539200, -18000⟩,
    ⟨-415818000, -21600⟩, ⟨-400089600, -18000⟩, ⟨-384368400, -21600⟩, ⟨-368640000, -18000⟩,
    ⟨-352918800, -21600⟩, ⟨-337190400, -18000⟩, ⟨-321469200, -21600⟩, ⟨-305740800, -18000⟩,
    ⟨-289414800, -21600⟩, ⟨-273686400, -18000⟩, ⟨-257965200, -21600⟩, ⟨-242236800, -18000⟩,
    ⟨-226515600, -21600⟩, ⟨-210787200, -18000⟩, ⟨-195066000, -21600⟩, ⟨-179337600, -18000⟩,
    ⟨-163616400, -21600⟩, ⟨-147888000, -18000⟩, ⟨-131562000, -21600⟩, ⟨-116438400, -18000⟩,
    ⟨-100112400, -21600⟩, ⟨-84384000, -18000⟩, ⟨-68662800, -21600⟩, ⟨-52934400, -18000⟩,
    ⟨-37213200, -21600⟩, ⟨-21484800, -18000⟩, ⟨-5763600, -21600⟩, ⟨9964800, -18000⟩,
    ⟨25686000, -21600⟩, ⟨41414400, -18000⟩, ⟨57740400, -21600⟩, ⟨73468800, -18000⟩,
    ⟨89190000, -21600⟩, ⟨104918400, -18000⟩, ⟨120639600, -21600⟩, ⟨126691200, -18000⟩,
    ⟨152089200, -21600⟩, ⟨162374400, -18000⟩, ⟨183538800, -21600⟩, ⟨199267200, -18000⟩,
    ⟨215593200, -21600⟩, ⟨230716800, -18000⟩, ⟨247042800, -21600⟩, ⟨262771200, -18000⟩,
    ⟨278492400, -21600⟩, ⟨294220800, -18000⟩, ⟨309942000, -21600⟩, ⟨325670400, -18000⟩,
    ⟨341391600, -21600⟩, ⟨357120000, -18000⟩, ⟨372841200, -21600⟩, ⟨388569600, -18000⟩,
    ⟨404895600, -21600⟩, ⟨420019200, -18000⟩, ⟨436345200, -21600⟩, ⟨452073600, -18000⟩,
    ⟨467794800, -21600⟩, ⟨483523200, -18000⟩, ⟨499244400, -21600⟩, ⟨514972800, -18000⟩,
    ⟨530694000, -21600⟩, ⟨544608000, -18000⟩, ⟨562143600, -21600⟩, ⟨576057600, -18000⟩,
    ⟨594198000, -21600⟩, ⟨607507200, -18000⟩, ⟨625647600, -21600⟩, ⟨638956800, -18000⟩,
    ⟨657097200, -21600⟩, ⟨671011200, -18000⟩, ⟨688546800, -21600⟩, ⟨702460800, -18000⟩,
    ⟨719996400, -21600⟩, ⟨733910400, -18000⟩, ⟨752050800, -21600⟩, ⟨765360000, -18000⟩,
    ⟨783500400, -21600⟩, ⟨796809600, -18000⟩, ⟨814950000, -21600⟩, ⟨828864000, -18000⟩,
    ⟨846399600, -21600⟩, ⟨860313600, -18000⟩, ⟨877849200, -21600⟩, ⟨891763200, -18000⟩,
    ⟨909298800, -21600⟩, ⟨923212800, -18000⟩, ⟨941353200, -21600⟩, ⟨954662400, -18000⟩,
    ⟨972802800, -21600⟩, ⟨986112000, -18000⟩, ⟨1004252400, -21600⟩, ⟨1018166400, -18000⟩,
    ⟨1035702000, -21600⟩, ⟨1049616000, -18000⟩, ⟨1067151600, -21600⟩, ⟨1081065600, -18000⟩,
    ⟨1099206000, -21600⟩, ⟨1112515200, -18000⟩, ⟨1130655600, -21600⟩, ⟨1143964800, -18000⟩,
    ⟨1162105200, -21600⟩, ⟨1173600000, -18000⟩, ⟨1194159600, -21600⟩, ⟨1205049600, -18000⟩,
    ⟨1225609200, -21600⟩, ⟨1236499200, -18000⟩, ⟨1257058800, -21600⟩, ⟨1268553600, -18000⟩,
    ⟨1289113200, -21600⟩, ⟨1300003200, -18000⟩, ⟨1320562800, -21600⟩, ⟨1331452800, -18000⟩,
    ⟨1352012400, -21600⟩, ⟨1362902400, -18000⟩, ⟨1383462000, -21600⟩, ⟨1394352000, -18000⟩,
    ⟨1414911600, -21600⟩, ⟨1425801600, -18000⟩, ⟨1446361200, -21600⟩, ⟨1457856000, -18000⟩,
    ⟨1478415600, -21600⟩, ⟨1489305600, -18000⟩, ⟨1509865200, -21600⟩, ⟨1520755200, -18000⟩,
    ⟨1541314800, -21600⟩, ⟨1552204800, -18000⟩, ⟨1572764400, -21600⟩, ⟨1583654400, -18000⟩,
    ⟨1604214000, -21600⟩, ⟨1615708800, -18000⟩, ⟨1636268400, -21600⟩, ⟨1647158400, -18000⟩,
    ⟨1667718000, -21600⟩, ⟨1678608000, -18000⟩, ⟨1699167600, -21600⟩, ⟨1710057600, -18000⟩,
    ⟨1730617200, -21600⟩, ⟨1741507200, -18000⟩, ⟨1762066800, -21600⟩, ⟨1772956800, -18000⟩,
    ⟨1793516400, -21600⟩, ⟨1805011200, -18000⟩, ⟨1825570800, -21600⟩, ⟨1836460800, -18000⟩,
    ⟨1857020400, -21600⟩, ⟨1867910400, -18000⟩, ⟨1888470000, -21600⟩, ⟨1899360000, -18000⟩,
    ⟨1919919600, -21600⟩, ⟨1930809600, -18000⟩, ⟨1951369200, -21600⟩, ⟨1962864000, -18000⟩,
    ⟨1983423600, -21600⟩, ⟨1994313600, -18000⟩, ⟨2014873200, -21600⟩, ⟨2025763200, -18000⟩,
    ⟨2046322800, -21600⟩, ⟨2057212800, -18000⟩, ⟨2077772400, -21600⟩, ⟨2088662400, -18000⟩,
    ⟨2109222000, -21600⟩, ⟨2120112000, -18000⟩, ⟨2140671600, -21600⟩, ⟨2152166400, -18000⟩,
    ⟨2172726000, -21600⟩, ⟨2183616000, -18000⟩, ⟨2204175600, -21600⟩, ⟨2215065600, -18000⟩,
    ⟨2235625200, -21600⟩, ⟨2246515200, -18000⟩, ⟨2267074800, -21600⟩, ⟨2277964800, -18000⟩,
    ⟨2298524400, -21600⟩, ⟨2309414400, -18000⟩, ⟨2329974000, -21600⟩, ⟨2341468800, -18000⟩,
    ⟨2362028400, -21600⟩, ⟨2372918400, -18000⟩, ⟨2393478000, -21600⟩, ⟨2404368000, -18000⟩,
    ⟨2424927600, -21600⟩, ⟨2435817600, -18000⟩, ⟨2456377200, -21600⟩, ⟨2467267200, -18000⟩,
    ⟨2487826800, -21600⟩, ⟨2499321600, -18000⟩, ⟨2519881200, -21600⟩, ⟨2530771200, -18000⟩,
    ⟨2551330800, -21600⟩, ⟨2562220800, -18000⟩, ⟨2582780400, -21600⟩, ⟨2593670400, -18000⟩,
    ⟨2614230000, -21600⟩, ⟨2625120000, -18000⟩, ⟨2645679600, -21600⟩, ⟨2656569600, -18000⟩,
    ⟨2677129200, -21600⟩, ⟨2688624000, -18000⟩, ⟨2709183600, -21600⟩, ⟨2720073600, -18000⟩,
    ⟨2740633200, -21600⟩, ⟨2751523200, -18000⟩, ⟨2772082800, -21600⟩, ⟨2782972800, -18000⟩,
    ⟨2803532400, -21600⟩, ⟨2814422400, -18000⟩, ⟨2834982000, -21600⟩, ⟨2846476800, -18000⟩,
    ⟨2867036400, -21600⟩, ⟨2877926400, -18000⟩, ⟨2898486000, -21600⟩, ⟨2909376000, -18000⟩,
    ⟨2929935600, -21600⟩, ⟨2940825600, -18000⟩, ⟨2961385200, -21600⟩, ⟨2972275200, -18000⟩,
    ⟨2992834800, -21600⟩, ⟨3003724800, -18000⟩, ⟨3024284400, -21600⟩, ⟨3035779200, -18000⟩,
    ⟨3056338800, -21600⟩, ⟨3067228800, -18000⟩, ⟨3087788400, -21600⟩, ⟨3098678400, -18000⟩,
    ⟨3119238000, -21600⟩, ⟨3130128000, -18000⟩, ⟨3150687600, -21600⟩, ⟨3161577600, -18000⟩,
    ⟨3182137200, -21600⟩, ⟨3193027200, -18000⟩, ⟨3213586800, -21600⟩, ⟨3225081600, -18000⟩,
    ⟨3245641200, -21600⟩, ⟨3256531200, -18000⟩, ⟨3277090800, -21600⟩, ⟨3287980800, -18000⟩,
    ⟨3308540400, -21600⟩, ⟨3319430400, -18000⟩, ⟨3339990000, -21600⟩, ⟨3350880000, -18000⟩,
    ⟨3371439600, -21600⟩, ⟨3382934400, -18000⟩, ⟨3403494000, -21600⟩, ⟨3414384000, -18000⟩,
    ⟨3434943600, -21600⟩, ⟨3445833600, -18000⟩, ⟨3466393200, -21600⟩, ⟨3477283200, -18000⟩,
    ⟨3497842800, -21600⟩, ⟨3508732800, -18000⟩, ⟨3529292400, -21600⟩, ⟨3540182400, -18000⟩,
    ⟨3560742000, -21600⟩, ⟨3572236800, -18000⟩, ⟨3592796400, -21600⟩, ⟨3603686400, -18000⟩,
    ⟨3624246000, -21600⟩, ⟨3635136000, -18000⟩, ⟨3655695600, -21600⟩, ⟨3666585600, -18000⟩,
    ⟨3687145200, -21600⟩, ⟨3698035200, -18000⟩, ⟨3718594800, -21600⟩, ⟨3730089600, -18000⟩,
    ⟨3750649200, -21600⟩, ⟨3761539200, -18000⟩, ⟨3782098800, -21600⟩, ⟨3792988800, -18000⟩,
    ⟨3813548400, -21600⟩, ⟨3824438400, -18000⟩, ⟨3844998000, -21600⟩, ⟨3855888000, -18000⟩,
    ⟨3876447600, -21600⟩, ⟨3887337600, -18000⟩, ⟨3907897200, -21600⟩, ⟨3919392000, -18000⟩,
    ⟨3939951600, -21600⟩, ⟨3950841600, -18000⟩, ⟨3971401200, -21600⟩, ⟨3982291200, -18000⟩,
    ⟨4002850800, -21600⟩, ⟨4013740800, -18000⟩, ⟨4034300400, -21600⟩, ⟨4045190400, -18000⟩,
    ⟨4065750000, -21600⟩, ⟨4076640000, -18000⟩, ⟨4097199600, -21600⟩]⟩

/-- The offsets of America/Denver. -/
def denver : OffsetTable :=
  ⟨-25196,
   [⟨-2717643600, -25200⟩, ⟨-1633273200, -21600⟩, ⟨-1615132800, -25200⟩, ⟨-1601823600, -21600⟩,
    ⟨-1583683200, -25200⟩, ⟨-1570374000, -21600⟩, ⟨-1551628800, -25200⟩, ⟨-1538924400, -21600⟩,
    ⟨-1534089600, -25200⟩, ⟨-880210800, -21600⟩, ⟨-765388800, -25200⟩, ⟨-147884400, -21600⟩,
    ⟨-131558400, -25200⟩, ⟨-116434800, -21600⟩, ⟨-100108800, -25200⟩, ⟨-84380400, -21600⟩,
    ⟨-68659200, -25200⟩, ⟨-52930800, -21600⟩, ⟨-37209600, -25200⟩, ⟨-21481200, -21600⟩,
    ⟨-5760000, -25200⟩, ⟨9968400, -21600⟩, ⟨25689600, -25200⟩, ⟨41418000, -21600⟩,
    ⟨57744000, -25200⟩, ⟨73472400, -21600⟩, ⟨89193600, -25200⟩, ⟨104922000, -21600⟩,
    ⟨120643200, -25200⟩, ⟨126694800, -21600⟩, ⟨152092800, -25200⟩, ⟨162378000, -21600⟩,
    ⟨183542400, -25200⟩, ⟨199270800, -21600⟩, ⟨215596800, -25200⟩, ⟨230720400, -21600⟩,
    ⟨247046400, -25200⟩, ⟨262774800, -21600⟩, ⟨278496000, -25200⟩, ⟨294224400, -21600⟩,
    ⟨309945600, -25200⟩, ⟨325674000, -21600⟩, ⟨341395200, -25200⟩, ⟨357123600, -21600⟩,
    ⟨372844800, -25200⟩, ⟨388573200, -21600⟩, ⟨404899200, -25200⟩, ⟨420022800, -21600⟩,
    ⟨436348800, -25200⟩, ⟨452077200, -21600⟩, ⟨467798400, -25200⟩, ⟨483526800, -21600⟩,
    ⟨499248000, -25200⟩, ⟨514976400, -21600⟩, ⟨530697600, -25200⟩, ⟨544611600, -21600⟩,
    ⟨562147200, -25200⟩, ⟨576061200, -21600⟩, ⟨594201600, -25200⟩, ⟨607510800, -21600⟩,
    ⟨625651200, -25200⟩, ⟨638960400, -21600⟩, ⟨657100800, -25200⟩, ⟨671014800, -21600⟩,
    ⟨688550400, -25200⟩, ⟨702464400, -21600⟩, ⟨720000000, -25200⟩, ⟨733914000, -21600⟩,
    ⟨752054400, -25200⟩, ⟨765363600, -21600⟩, ⟨783504000, -25200⟩, ⟨796813200, -21600⟩,
    ⟨814953600, -25200⟩, ⟨828867600, -21600⟩, ⟨846403200, -25200⟩, ⟨860317200, -21600⟩,
    ⟨877852800, -25200⟩, ⟨891766800, -21600⟩, ⟨909302400, -25200⟩, ⟨923216400, -21600⟩,
    ⟨941356800, -25200⟩, ⟨954666000, -21600⟩, ⟨972806400, -25200⟩, ⟨986115600, -21600⟩,
    ⟨1004256000, -25200⟩, ⟨1018170000, -21600⟩, ⟨1035705600, -25200⟩, ⟨1049619600, -21600⟩,
    ⟨1067155200, -25200⟩, ⟨1081069200, -21600⟩, ⟨1099209600, -25200⟩, ⟨1112518800, -21600⟩,
    ⟨1130659200, -25200⟩, ⟨1143968400, -21600⟩, ⟨1162108800, -25200⟩, ⟨1173603600, -21600⟩,
    ⟨1194163200, -25200⟩, ⟨1205053200, -21600⟩, ⟨1225612800, -25200⟩, ⟨1236502800, -21600⟩,
    ⟨1257062400, -25200⟩, ⟨1268557200, -21600⟩, ⟨1289116800, -25200⟩, ⟨1300006800, -21600⟩,
    ⟨1320566400, -25200⟩, ⟨1331456400, -21600⟩, ⟨1352016000, -25200⟩, ⟨1362906000, -21600⟩,
    ⟨1383465600, -25200⟩, ⟨1394355600, -21600⟩, ⟨1414915200, -25200⟩, ⟨1425805200, -21600⟩,
    ⟨1446364800, -25200⟩, ⟨1457859600, -21600⟩, ⟨1478419200, -25200⟩, ⟨1489309200, -21600⟩,
    ⟨1509868800, -25200⟩, ⟨1520758800, -21600⟩, ⟨1541318400, -25200⟩, ⟨1552208400, -21600⟩,
    ⟨1572768000, -25200⟩, ⟨1583658000, -21600⟩, ⟨1604217600, -25200⟩, ⟨1615712400, -21600⟩,
    ⟨1636272000, -25200⟩, ⟨1647162000, -21600⟩, ⟨1667721600, -25200⟩, ⟨1678611600, -21600⟩,
    ⟨1699171200, -25200⟩, ⟨1710061200, -21600⟩, ⟨1730620800, -25200⟩, ⟨1741510800, -21600⟩,
    ⟨1762070400, -25200⟩, ⟨1772960400, -21600⟩, ⟨1793520000, -25200⟩, ⟨1805014800, -21600⟩,
    ⟨1825574400, -25200⟩, ⟨1836464400, -21600⟩, ⟨1857024000, -25200⟩, ⟨1867914000, -21600⟩,
    ⟨1888473600, -25200⟩, ⟨1899363600, -21600⟩, ⟨1919923200, -25200⟩, ⟨1930813200, -21600⟩,
    ⟨1951372800, -25200⟩, ⟨1962867600, -21600⟩, ⟨1983427200, -25200⟩, ⟨1994317200, -21600⟩,
    ⟨2014876800, -25200⟩, ⟨2025766800, -21600⟩, ⟨2046326400, -25200⟩, ⟨2057216400, -21600⟩,
    ⟨2077776000, -25200⟩, ⟨2088666000, -21600⟩, ⟨2109225600, -25200⟩, ⟨2120115600, -21600⟩,
    ⟨2140675200, -25200⟩, ⟨2152170000, -21600⟩, ⟨2172729600, -25200⟩, ⟨2183619600, -21600⟩,
    ⟨2204179200, -25200⟩, ⟨2215069200, -21600⟩, ⟨2235628800, -25200⟩, ⟨2246518800, -21600⟩,
    ⟨2267078400, -25200⟩, ⟨2277968400, -21600⟩, ⟨2298528000, -25200⟩, ⟨2309418000, -21600⟩,
    ⟨2329977600, -25200⟩, ⟨2341472400, -21600⟩, ⟨2362032000, -25200⟩, ⟨2372922000, -21600⟩,
    ⟨2393481600, -25200⟩, ⟨2404371600, -21600⟩, ⟨2424931200, -25200⟩, ⟨2435821200, -21600⟩,
    ⟨2456380800, -25200⟩, ⟨2467270800, -21600⟩, ⟨2487830400, -25200⟩, ⟨2499325200, -21600⟩,
    ⟨2519884800, -25200⟩, ⟨2530774800, -21600⟩, ⟨2551334400, -25200⟩, ⟨2562224400, -21600⟩,
    ⟨2582784000, -25200⟩, ⟨2593674000, -21600⟩, ⟨2614233600, -25200⟩, ⟨2625123600, -21600⟩,
    ⟨2645683200, -25200⟩, ⟨2656573200, -21600⟩, ⟨2677132800, -25200⟩, ⟨2688627600, -21600⟩,
    ⟨2709187200, -25200⟩, ⟨2720077200, -21600⟩, ⟨2740636800, -25200⟩, ⟨2751526800, -21600⟩,
    ⟨2772086400, -25200⟩, ⟨2782976400, -21600⟩, ⟨2803536000, -25200⟩, ⟨2814426000, -21600⟩,
    ⟨2834985600, -25200⟩, ⟨2846480400, -21600⟩, ⟨2867040000, -25200⟩, ⟨2877930000, -21600⟩,
    ⟨2898489600, -25200⟩, ⟨2909379600, -21600⟩, ⟨2929939200, -25200⟩, ⟨2940829200, -21600⟩,
    ⟨2961388800, -25200⟩, ⟨2972278800, -21600⟩, ⟨2992838400, -25200⟩, ⟨3003728400, -21600⟩,
    ⟨3024288000, -25200⟩, ⟨3035782800, -21600⟩, ⟨3056342400, -25200⟩, ⟨3067232400, -21600⟩,
    ⟨3087792000, -25200⟩, ⟨3098682000, -21600⟩, ⟨3119241600, -25200⟩, ⟨3130131600, -21600⟩,
    ⟨3150691200, -25200⟩, ⟨3161581200, -21600⟩, ⟨3182140800, -25200⟩, ⟨3193030800, -21600⟩,
    ⟨3213590400, -25200⟩, ⟨3225085200, -21600⟩, ⟨3245644800, -25200⟩, ⟨3256534800, -21600⟩,
    ⟨3277094400, -25200⟩, ⟨3287984400, -21600⟩, ⟨3308544000, -25200⟩, ⟨3319434000, -21600⟩,
    ⟨3339993600, -25200⟩, ⟨3350883600, -21600⟩, ⟨3371443200, -25200⟩, ⟨3382938000, -21600⟩,
    ⟨3403497600, -25200⟩, ⟨3414387600, -21600⟩, ⟨3434947200, -25200⟩, ⟨3445837200, -21600⟩,
    ⟨3466396800, -25200⟩, ⟨3477286800, -21600⟩, ⟨3497846400, -25200⟩, ⟨3508736400, -21600⟩,
    ⟨3529296000, -25200⟩, ⟨3540186000, -21600⟩, ⟨3560745600, -25200⟩, ⟨3572240400, -21600⟩,
    ⟨3592800000, -25200⟩, ⟨3603690000, -21600⟩, ⟨3624249600, -25200⟩, ⟨3635139600, -21600⟩,
    ⟨3655699200, -25200⟩, ⟨3666589200, -21600⟩, ⟨3687148800, -25200⟩, ⟨3698038800, -21600⟩,
    ⟨3718598400, -25200⟩, ⟨3730093200, -21600⟩, ⟨3750652800, -25200⟩, ⟨3761542800, -21600⟩,
    ⟨3782102400, -25200⟩, ⟨3792992400, -21600⟩, ⟨3813552000, -25200⟩, ⟨3824442000, -21600⟩,
    ⟨3845001600, -25200⟩, ⟨3855891600, -21600⟩, ⟨3876451200, -25200⟩, ⟨3887341200, -21600⟩,
    ⟨3907900800, -25200⟩, ⟨3919395600, -21600⟩, ⟨3939955200, -25200⟩, ⟨3950845200, -21600⟩,
    ⟨3971404800, -25200⟩, ⟨3982294800, -21600⟩, ⟨4002854400, -25200⟩, ⟨4013744400, -21600⟩,
    ⟨4034304000, -25200⟩, ⟨4045194000, -21600⟩, ⟨4065753600, -25200⟩, ⟨4076643600, -21600⟩,
    ⟨4097203200, -25200⟩]⟩

/-- The offsets of America/Los_Angeles. -/
def losAngeles : OffsetTable :=
  ⟨-28378,
   [⟨-2717640000, -28800⟩, ⟨-1633269600, -25200⟩, ⟨-1615129200, -28800⟩, ⟨-1601820000, -25200⟩,
    ⟨-1583679600, -28800⟩, ⟨-880207200, -25200⟩, ⟨-765385200, -28800⟩, ⟨-687967140, -25200⟩,
    ⟨-662655600, -28800⟩, ⟨-620838000, -25200⟩, ⟨-608137200, -28800⟩, ⟨-589388400, -25200⟩,
    ⟨-576082800, -28800⟩, ⟨-557938800, -25200⟩, ⟨-544633200, -28800⟩, ⟨-526489200, -25200⟩,
    ⟨-513183600, -28800⟩, ⟨-495039600, -25200⟩, ⟨-481734000, -28800⟩, ⟨-463590000, -25200⟩,
    ⟨-450284400, -28800⟩, ⟨-431535600, -25200⟩, ⟨-418230000, -28800⟩, ⟨-400086000, -25200⟩,
    ⟨-386780400, -28800⟩, ⟨-368636400, -25200⟩, ⟨-355330800, -28800⟩, ⟨-337186800, -25200⟩,
    ⟨-323881200, -28800⟩, ⟨-305737200, -25200⟩, ⟨-292431600, -28800⟩, ⟨-273682800, -25200⟩,
    ⟨-260982000, -28800⟩, ⟨-242233200, -25200⟩, ⟨-226508400, -28800⟩, ⟨-210783600, -25200⟩,
    ⟨-195058800, -28800⟩, ⟨-179334000, -25200⟩, ⟨-163609200, -28800⟩, ⟨-147884400, -25200⟩,
    ⟨-131554800, -28800⟩, ⟨-116434800, -25200⟩, ⟨-100105200, -28800⟩, ⟨-84376800, -25200⟩,
    ⟨-68655600, -28800⟩, ⟨-52927200, -25200⟩, ⟨-37206000, -28800⟩, ⟨-21477600, -25200⟩,
    ⟨-5756400, -28800⟩, ⟨9972000, -25200⟩, ⟨25693200, -28800⟩, ⟨41421600, -25200⟩,
    ⟨57747600, -28800⟩, ⟨73476000, -25200⟩, ⟨89197200, -28800⟩, ⟨104925600, -25200⟩,
    ⟨120646800, -28800⟩, ⟨126698400, -25200⟩, ⟨152096400, -28800⟩, ⟨162381600, -25200⟩,
    ⟨183546000, -28800⟩, ⟨199274400, -25200⟩, ⟨215600400, -28800⟩, ⟨230724000, -25200⟩,
    ⟨247050000, -28800⟩, ⟨262778400, -25200⟩, ⟨278499600, -28800⟩, ⟨294228000, -25200⟩,
    ⟨309949200, -28800⟩, ⟨325677600, -25200⟩, ⟨341398800, -28800⟩, ⟨357127200, -25200⟩,
    ⟨372848400, -28800⟩, ⟨388576800, -25200⟩, ⟨404902800, -28800⟩, ⟨420026400, -25200⟩,
    ⟨436352400, -28800⟩, ⟨452080800, -25200⟩, ⟨467802000, -28800⟩, ⟨483530400, -25200⟩,
    ⟨499251600, -28800⟩, ⟨514980000, -25200⟩, ⟨530701200, -28800⟩, ⟨544615200, -25200⟩,
    ⟨562150800, -28800⟩, ⟨576064800, -25200⟩, ⟨594205200, -28800⟩, ⟨607514400, -25200⟩,
    ⟨625654800, -28800⟩, ⟨638964000, -25200⟩, ⟨657104400, -28800⟩, ⟨671018400, -25200⟩,
    ⟨688554000, -28800⟩, ⟨702468000, -25200⟩, ⟨720003600, -28800⟩, ⟨733917600, -25200⟩,
    ⟨752058000, -28800⟩, ⟨765367200, -25200⟩, ⟨783507600, -28800⟩, ⟨796816800, -25200⟩,
    ⟨814957200, -28800⟩, ⟨828871200, -25200⟩, ⟨846406800, -28800⟩, ⟨860320800, -25200⟩,
    ⟨877856400, -28800⟩, ⟨891770400, -25200⟩, ⟨909306000, -28800⟩, ⟨923220000, -25200⟩,
    ⟨941360400, -28800⟩, ⟨954669600, -25200⟩, ⟨972810000, -28800⟩, ⟨986119200, -25200⟩,
    ⟨1004259600, -28800⟩, ⟨1018173600, -25200⟩, ⟨1035709200, -28800⟩, ⟨1049623200, -25200⟩,
    ⟨1067158800, -28800⟩, ⟨1081072800, -25200⟩, ⟨1099213200, -28800⟩, ⟨1112522400, -25200⟩,
    ⟨1130662800, -28800⟩, ⟨1143972000, -25200⟩, ⟨1162112400, -28800⟩, ⟨1173607200, -25200⟩,
    ⟨1194166800, -28800⟩, ⟨1205056800, -25200⟩, ⟨1225616400, -28800⟩, ⟨1236506400, -25200⟩,
    ⟨1257066000, -28800⟩, ⟨1268560800, -25200⟩, ⟨1289120400, -28800⟩, ⟨1300010400, -25200⟩,
    ⟨1320570000, -28800⟩, ⟨1331460000, -25200⟩, ⟨1352019600, -28800⟩, ⟨1362909600, -25200⟩,
    ⟨1383469200, -28800⟩, ⟨1394359200, -25200⟩, ⟨1414918800, -28800⟩, ⟨1425808800, -25200⟩,
    ⟨1446368400, -28800⟩, ⟨1457863200, -25200⟩, ⟨1478422800, -28800⟩, ⟨1489312800, -25200⟩,
    ⟨1509872400, -28800⟩, ⟨1520762400, -25200⟩, ⟨1541322000, -28800⟩, ⟨1552212000, -25200⟩,
    ⟨1572771600, -28800⟩, ⟨1583661600, -25200⟩, ⟨1604221200, -28800⟩, ⟨1615716000, -25200⟩,
    ⟨1636275600, -28800⟩, ⟨1647165600, -25200⟩, ⟨1667725200, -28800⟩, ⟨1678615200, -25200⟩,
    ⟨1699174800, -28800⟩, ⟨1710064800, -25200⟩, ⟨1730624400, -28800⟩, ⟨1741514400, -25200⟩,
    ⟨1762074000, -28800⟩, ⟨1772964000, -25200⟩, ⟨1793523600, -28800⟩, ⟨1805018400, -25200⟩,
    ⟨1825578000, -28800⟩, ⟨1836468000, -25200⟩, ⟨1857027600, -28800⟩, ⟨1867917600, -25200⟩,
    ⟨1888477200, -28800⟩, ⟨1899367200, -25200⟩, ⟨1919926800, -28800⟩, ⟨1930816800, -25200⟩,
    ⟨1951376400, -28800⟩, ⟨1962871200, -25200⟩, ⟨1983430800, -28800⟩, ⟨1994320800, -25200⟩,
    ⟨2014880400, -28800⟩, ⟨2025770400, -25200⟩, ⟨2046330000, -28800⟩, ⟨2057220000, -25200⟩,
    ⟨2077779600, -28800⟩, ⟨2088669600, -25200⟩, ⟨2109229200, -28800⟩, ⟨2120119200, -25200⟩,
    ⟨2140678800, -28800⟩, ⟨2152173600, -25200⟩, ⟨2172733200, -28800⟩, ⟨2183623200, -25200⟩,
    ⟨2204182800, -28800⟩, ⟨2215072800, -25200⟩, ⟨2235632400, -28800⟩, ⟨2246522400, -25200⟩,
    ⟨2267082000, -28800⟩, ⟨2277972000, -25200⟩, ⟨2298531600, -28800⟩, ⟨2309421600, -25200⟩,
    ⟨2329981200, -28800⟩, ⟨2341476000, -25200⟩, ⟨2362035600, -28800⟩, ⟨2372925600, -25200⟩,
    ⟨2393485200, -28800⟩, ⟨2404375200, -25200⟩, ⟨2424934800, -28800⟩, ⟨2435824800, -25200⟩,
    ⟨2456384400, -28800⟩, ⟨2467274400, -25200⟩, ⟨2487834000, -28800⟩, ⟨2499328800, -25200⟩,
    ⟨2519888400, -28800⟩, ⟨2530778400, -25200⟩, ⟨2551338000, -28800⟩, ⟨2562228000, -25200⟩,
    ⟨2582787600, -28800⟩, ⟨2593677600, -25200⟩, ⟨2614237200, -28800⟩, ⟨2625127200, -25200⟩,
    ⟨2645686800, -28800⟩, ⟨2656576800, -25200⟩, ⟨2677136400, -28800⟩, ⟨2688631200, -25200⟩,
    ⟨2709190800, -28800⟩, ⟨2720080800, -25200⟩, ⟨2740640400, -28800⟩, ⟨2751530400, -25200⟩,
    ⟨2772090000, -28800⟩, ⟨2782980000, -25200⟩, ⟨2803539600, -28800⟩, ⟨2814429600, -25200⟩,
    ⟨2834989200, -28800⟩, ⟨2846484000, -25200⟩, ⟨2867043600, -28800⟩, ⟨2877933600, -25200⟩,
    ⟨2898493200, -28800⟩, ⟨2909383200, -25200⟩, ⟨2929942800, -28800⟩, ⟨2940832800, -25200⟩,
    ⟨2961392400, -28800⟩, ⟨2972282400, -25200⟩, ⟨2992842000, -28800⟩, ⟨3003732000, -25200⟩,
    ⟨3024291600, -28800⟩, ⟨3035786400, -25200⟩, ⟨3056346000, -28800⟩, ⟨3067236000, -25200⟩,
    ⟨3087795600, -28800⟩, ⟨3098685600, -25200⟩, ⟨3119245200, -28800⟩, ⟨3130135200, -25200⟩,
    ⟨3150694800, -28800⟩, ⟨3161584800, -25200⟩, ⟨3182144400, -28800⟩, ⟨3193034400, -25200⟩,
    ⟨3213594000, -28800⟩, ⟨3225088800, -25200⟩, ⟨3245648400, -28800⟩, ⟨3256538400, -25200⟩,
    ⟨3277098000, -28800⟩, ⟨3287988000, -25200⟩, ⟨3308547600, -28800⟩, ⟨3319437600, -25200⟩,
    ⟨3339997200, -28800⟩, ⟨3350887200, -25200⟩, ⟨3371446800, -28800⟩, ⟨3382941600, -25200⟩,
    ⟨3403501200, -28800⟩, ⟨3414391200, -25200⟩, ⟨3434950800, -28800⟩, ⟨3445840800, -25200⟩,
    ⟨3466400400, -28800⟩, ⟨3477290400, -25200⟩, ⟨3497850000, -28800⟩, ⟨3508740000, -25200⟩,
    ⟨3529299600, -28800⟩, ⟨3540189600, -25200⟩, ⟨3560749200, -28800⟩, ⟨3572244000, -25200⟩,
    ⟨3592803600, -28800⟩, ⟨3603693600, -25200⟩, ⟨3624253200, -28800⟩, ⟨3635143200, -25200⟩,
    ⟨3655702800, -28800⟩, ⟨3666592800, -25200⟩, ⟨3687152400, -28800⟩, ⟨3698042400, -25200⟩,
    ⟨3718602000, -28800⟩, ⟨3730096800, -25200⟩, ⟨3750656400, -28800⟩, ⟨3761546400, -25200⟩,
    ⟨3782106000, -28800⟩, ⟨3792996000, -25200⟩, ⟨3813555600, -28800⟩, ⟨3824445600, -25200⟩,
    ⟨3845005200, -28800⟩, ⟨3855895200, -25200⟩, ⟨3876454800, -28800⟩, ⟨3887344800, -25200⟩,
    ⟨3907904400, -28800⟩, ⟨3919399200, -25200⟩, ⟨3939958800, -28800⟩, ⟨3950848800, -25200⟩,
    ⟨3971408400, -28800⟩, ⟨3982298400, -25200⟩, ⟨4002858000, -28800⟩, ⟨4013748000, -25200⟩,
    ⟨4034307600, -28800⟩, ⟨4045197600, -25200⟩, ⟨4065757200, -28800⟩, ⟨4076647200, -25200⟩,
    ⟨4097206800, -28800⟩]⟩

/-- The offsets of America/Panama. -/
def panama : OffsetTable :=
  ⟨-19088,
   [⟨-2524502512, -19176⟩, ⟨-1946918424, -18000⟩]⟩

/-- The offsets of America/Sao_Paulo. -/
def saoPaulo : OffsetTable :=
  ⟨-11188,
   [⟨-1767214412, -10800⟩, ⟨-1206957600, -7200⟩, ⟨-1191362400, -10800⟩, ⟨-1175374800, -7200⟩,
    ⟨-1159826400, -10800⟩, ⟨-633819600, -7200⟩, ⟨-622069200, -10800⟩, ⟨-602283600, -7200⟩,
    ⟨-591832800, -10800⟩, ⟨-570747600, -7200⟩, ⟨-560210400, -10800⟩, ⟨-539125200, -7200⟩,
    ⟨-531352800, -10800⟩, ⟨-195426000, -7200⟩, ⟨-184197600, -10800⟩, ⟨-155163600, -7200⟩,
    ⟨-150069600, -10800⟩, ⟨-128898000, -7200⟩, ⟨-121125600, -10800⟩, ⟨-99954000, -7200⟩,
    ⟨-89589600, -10800⟩, ⟨-68418000, -7200⟩, ⟨-57967200, -10800⟩, ⟨499748400, -7200⟩,
    ⟨511236000, -10800⟩, ⟨530593200, -7200⟩, ⟨540266400, -10800⟩, ⟨562129200, -7200⟩,
    ⟨571197600, -10800⟩, ⟨592974000, -7200⟩, ⟨602042400, -10800⟩, ⟨624423600, -7200⟩,
    ⟨634701600, -10800⟩, ⟨656478000, -7200⟩, ⟨666756000, -10800⟩, ⟨687927600, -7200⟩,
    ⟨697600800, -10800⟩, ⟨719982000, -7200⟩, ⟨728445600, -10800⟩, ⟨750826800, -7200⟩,
    ⟨761709600, -10800⟩, ⟨782276400, -7200⟩, ⟨793159200, -10800⟩, ⟨813726000, -7200⟩,
    ⟨824004000, -10800⟩, ⟨844570800, -7200⟩, ⟨856058400, -10800⟩, ⟨876106800, -7200⟩,
    ⟨888717600, -10800⟩, ⟨908074800, -7200⟩, ⟨919562400, -10800⟩, ⟨938919600, -7200⟩,
    ⟨951616800, -10800⟩, ⟨970974000, -7200⟩, ⟨982461600, -10800⟩, ⟨1003028400, -7200⟩,
    ⟨1013911200, -10800⟩, ⟨1036292400, -7200⟩, ⟨1045360800, -10800⟩, ⟨1066532400, -7200⟩,
    ⟨1076810400, -10800⟩, ⟨1099364400, -7200⟩, ⟨1108864800, -10800⟩, ⟨1129431600, -7200⟩,
    ⟨1140314400, -10800⟩, ⟨1162695600, -7200⟩, ⟨1172368800, -10800⟩, ⟨1192330800, -7200⟩,
    ⟨1203213600, -10800⟩, ⟨1224385200, -7200⟩, ⟨1234663200, -10800⟩, ⟨1255834800, -7200⟩,
    ⟨1266717600, -10800⟩, ⟨1287284400, -7200⟩, ⟨1298167200, -10800⟩, ⟨1318734000, -7200⟩,
    ⟨1330221600, -10800⟩, ⟨1350788400, -7200⟩, ⟨1361066400, -10800⟩, ⟨1382238000, -7200⟩,
    ⟨1392516000, -10800⟩, ⟨1413687600, -7200⟩, ⟨1424570400, -10800⟩, ⟨1445137200, -7200⟩,
    ⟨1456020000, -10800⟩, ⟨1476586800, -7200⟩, ⟨1487469600, -10800⟩, ⟨1508036400, -7200⟩,
    ⟨1518919200, -10800⟩, ⟨1541300400, -7200⟩, ⟨1550368800, -10800⟩]⟩

end Recurrence.Zone.Tables
