import Recurrence.Zone.OffsetTable
/-!
Offsets of zones in Oceania, with changes up to the end of 2099.
-/
namespace Recurrence.Zone.Tables

/-- The offsets of Pacific/Apia. -/
def apia : OffsetTable :=
  ⟨45184,
   [⟨-2445424384, -41216⟩, ⟨-1861878784, -41400⟩, ⟨-631110600, -39600⟩, ⟨1285498800, -36000⟩,
    ⟨1301752800, -39600⟩, ⟨1316872800, -36000⟩, ⟨1325239200, 50400⟩, ⟨1333202400, 46800⟩,
    ⟨1348927200, 50400⟩, ⟨1365256800, 46800⟩, ⟨1380376800, 50400⟩, ⟨1396706400, 46800⟩,
    ⟨1411826400, 50400⟩, ⟨1428156000, 46800⟩, ⟨1443276000, 50400⟩, ⟨1459605600, 46800⟩,
    ⟨1474725600, 50400⟩, ⟨1491055200, 46800⟩, ⟨1506175200, 50400⟩, ⟨1522504800, 46800⟩,
    ⟨1538229600, 50400⟩, ⟨1554559200, 46800⟩, ⟨1569679200, 50400⟩, ⟨1586008800, 46800⟩,
    ⟨1601128800, 50400⟩, ⟨1617458400, 46800⟩]⟩

/-- The offsets of Australia/Lord_Howe. -/
def lordHowe : OffsetTable :=
  ⟨38180,
   [⟨-2364114980, 36000⟩, ⟨352216800, 37800⟩, ⟨372785400, 41400⟩, ⟨384273000, 37800⟩,
    ⟨404839800, 41400⟩, ⟨415722600, 37800⟩, ⟨436289400, 41400⟩, ⟨447172200, 37800⟩,
    ⟨467739000, 41400⟩, ⟨478621800, 37800⟩, ⟨499188600, 39600⟩, ⟨511282800, 37800⟩,
    ⟨530033400, 39600⟩, ⟨542732400, 37800⟩, ⟨562087800, 39600⟩, ⟨574786800, 37800⟩,
    ⟨594142200, 39600⟩, ⟨606236400, 37800⟩, ⟨625591800, 39600⟩, ⟨636476400, 37800⟩,
    ⟨657041400, 39600⟩, ⟨667926000, 37800⟩, ⟨688491000, 39600⟩, ⟨699375600, 37800⟩,
    ⟨719940600, 39600⟩, ⟨731430000, 37800⟩, ⟨751995000, 39600⟩, ⟨762879600, 37800⟩,
    ⟨783444600, 39600⟩, ⟨794329200, 37800⟩, ⟨814894200, 39600⟩, ⟨828198000, 37800⟩,
    ⟨846343800, 39600⟩, ⟨859647600, 37800⟩, ⟨877793400, 39600⟩, ⟨891097200, 37800⟩,
    ⟨909243000, 39600⟩, ⟨922546800, 37800⟩, ⟨941297400, 39600⟩, ⟨953996400, 37800⟩,
    ⟨967303800, 39600⟩, ⟨985446000, 37800⟩, ⟨1004196600, 39600⟩, ⟨1017500400, 37800⟩,
    ⟨1035646200, 39600⟩, ⟨1048950000, 37800⟩, ⟨1067095800, 39600⟩, ⟨1080399600, 37800⟩,
    ⟨1099150200, 39600⟩, ⟨1111849200, 37800⟩, ⟨1130599800, 39600⟩, ⟨1143903600, 37800⟩,
    ⟨1162049400, 39600⟩, ⟨1174748400, 37800⟩, ⟨1193499000, 39600⟩, ⟨1207407600, 37800⟩,
    ⟨1223134200, 39600⟩, ⟨1238857200, 37800⟩, ⟨1254583800, 39600⟩, ⟨1270306800, 37800⟩,
    ⟨1286033400, 39600⟩, ⟨1301756400, 37800⟩, ⟨1317483000, 39600⟩, ⟨1333206000, 37800⟩,
    ⟨1349537400, 39600⟩, ⟨1365260400, 37800⟩, ⟨1380987000, 39600⟩, ⟨1396710000, 37800⟩,
    ⟨1412436600, 39600⟩, ⟨1428159600, 37800⟩, ⟨1443886200, 39600⟩, ⟨1459609200, 37800⟩,
    ⟨1475335800, 39600⟩, ⟨1491058800, 37800⟩, ⟨1506785400, 39600⟩, ⟨1522508400, 37800⟩,
    ⟨1538839800, 39600⟩, ⟨1554562800, 37800⟩, ⟨1570289400, 39600⟩, ⟨1586012400, 37800⟩,
    ⟨1601739000, 39600⟩, ⟨1617462000, 37800⟩, ⟨1633188600, 39600⟩, ⟨1648911600, 37800⟩,
    ⟨1664638200, 39600⟩, ⟨1680361200, 37800⟩, ⟨1696087800, 39600⟩, ⟨1712415600, 37800⟩,
    ⟨1728142200, 39600⟩, ⟨1743865200, 37800⟩, ⟨1759591800, 39600⟩, ⟨1775314800, 37800⟩,
    ⟨1791041400, 39600⟩, ⟨1806764400, 37800⟩, ⟨1822491000, 39600⟩, ⟨1838214000, 37800⟩,
    ⟨1853940600, 39600⟩, ⟨1869663600, 37800⟩, ⟨1885995000, 39600⟩, ⟨1901718000, 37800⟩,
    ⟨1917444600, 39600⟩, ⟨1933167600, 37800⟩, ⟨1948894200, 39600⟩, ⟨1964617200, 37800⟩,
    ⟨1980343800, 39600⟩, ⟨1996066800, 37800⟩, ⟨2011793400, 39600⟩, ⟨2027516400, 37800⟩,
    ⟨2043243000, 39600⟩, ⟨2058966000, 37800⟩, ⟨2075297400, 39600⟩, ⟨2091020400, 37800⟩,
    ⟨2106747000, 39600⟩, ⟨2122470000, 37800⟩, ⟨2138196600, 39600⟩, ⟨2153919600, 37800⟩,
    ⟨2169646200, 39600⟩, ⟨2185369200, 37800⟩, ⟨2201095800, 39600⟩, ⟨2216818800, 37800⟩,
    ⟨2233150200, 39600⟩, ⟨2248873200, 37800⟩, ⟨2264599800, 39600⟩, ⟨2280322800, 37800⟩,
    ⟨2296049400, 39600⟩, ⟨2311772400, 37800⟩, ⟨2327499000, 39600⟩, ⟨2343222000, 37800⟩,
    ⟨2358948600, 39600⟩, ⟨2374671600, 37800⟩, ⟨2390398200, 39600⟩, ⟨2406121200, 37800⟩,
    ⟨2422452600, 39600⟩, ⟨2438175600, 37800⟩, ⟨2453902200, 39600⟩, ⟨2469625200, 37800⟩,
    ⟨2485351800, 39600⟩, ⟨2501074800, 37800⟩, ⟨2516801400, 39600⟩, ⟨2532524400, 37800⟩,
    ⟨2548251000, 39600⟩, ⟨2563974000, 37800⟩, ⟨2579700600, 39600⟩, ⟨2596028400, 37800⟩,
    ⟨2611755000, 39600⟩, ⟨2627478000, 37800⟩, ⟨2643204600, 39600⟩, ⟨2658927600, 37800⟩,
    ⟨2674654200, 39600⟩, ⟨2690377200, 37800⟩, ⟨2706103800, 39600⟩, ⟨2721826800, 37800⟩,
    ⟨2737553400, 39600⟩, ⟨2753276400, 37800⟩, ⟨2769607800, 39600⟩, ⟨2785330800, 37800⟩,
    ⟨2801057400, 39600⟩, ⟨2816780400, 37800⟩, ⟨2832507000, 39600⟩, ⟨2848230000, 37800⟩,
    ⟨2863956600, 39600⟩, ⟨2879679600, 37800⟩, ⟨2895406200, 39600⟩, ⟨2911129200, 37800⟩,
    ⟨2926855800, 39600⟩, ⟨2942578800, 37800⟩, ⟨2958910200, 39600⟩, ⟨2974633200, 37800⟩,
    ⟨2990359800, 39600⟩, ⟨3006082800, 37800⟩, ⟨3021809400, 39600⟩, ⟨3037532400, 37800⟩,
    ⟨3053259000, 39600⟩, ⟨3068982000, 37800⟩, ⟨3084708600, 39600⟩, ⟨3100431600, 37800⟩,
    ⟨3116763000, 39600⟩, ⟨3132486000, 37800⟩, ⟨3148212600, 39600⟩, ⟨3163935600, 37800⟩,
    ⟨3179662200, 39600⟩, ⟨3195385200, 37800⟩, ⟨3211111800, 39600⟩, ⟨3226834800, 37800⟩,
    ⟨3242561400, 39600⟩, ⟨3258284400, 37800⟩, ⟨3274011000, 39600⟩, ⟨3289734000, 37800⟩,
    ⟨3306065400, 39600⟩, ⟨3321788400, 37800⟩, ⟨3337515000, 39600⟩, ⟨3353238000, 37800⟩,
    ⟨3368964600, 39600⟩, ⟨3384687600, 37800⟩, ⟨3400414200, 39600⟩, ⟨3416137200, 37800⟩,
    ⟨3431863800, 39600⟩, ⟨3447586800, 37800⟩, ⟨3463313400, 39600⟩, ⟨3479641200, 37800⟩,
    ⟨3495367800, 39600⟩, ⟨3511090800, 37800⟩, ⟨3526817400, 39600⟩, ⟨3542540400, 37800⟩,
    ⟨3558267000, 39600⟩, ⟨3573990000, 37800⟩, ⟨3589716600, 39600⟩, ⟨3605439600, 37800⟩,
    ⟨3621166200, 39600⟩, ⟨3636889200, 37800⟩, ⟨3653220600, 39600⟩, ⟨3668943600, 37800⟩,
    ⟨3684670200, 39600⟩, ⟨3700393200, 37800⟩, ⟨3716119800, 39600⟩, ⟨3731842800, 37800⟩,
    ⟨3747569400, 39600⟩, ⟨3763292400, 37800⟩, ⟨3779019000, 39600⟩, ⟨3794742000, 37800⟩,
    ⟨3810468600, 39600⟩, ⟨3826191600, 37800⟩, ⟨3842523000, 39600⟩, ⟨3858246000, 37800⟩,
    ⟨3873972600, 39600⟩, ⟨3889695600, 37800⟩, ⟨3905422200, 39600⟩, ⟨3921145200, 37800⟩,
    ⟨3936871800, 39600⟩, ⟨3952594800, 37800⟩, ⟨3968321400, 39600⟩, ⟨3984044400, 37800⟩,
    ⟨4000375800, 39600⟩, ⟨4016098800, 37800⟩, ⟨4031825400, 39600⟩, ⟨4047548400, 37800⟩,
    ⟨4063275000, 39600⟩, ⟨4078998000, 37800⟩, ⟨4094724600, 39600⟩]⟩

/-- The offsets of Australia/Sydney. -/
def sydney : OffsetTable :=
  ⟨36292,
   [⟨-2364113092, 36000⟩, ⟨-1672560000, 39600⟩, ⟨-1665388800, 36000⟩, ⟨-883641600, 39600⟩,
    ⟨-876124800, 36000⟩, ⟨-860400000, 39600⟩, ⟨-844675200, 36000⟩, ⟨-828345600, 39600⟩,
    ⟨-813225600, 36000⟩, ⟨57686400, 39600⟩, ⟨67968000, 36000⟩, ⟨89136000, 39600⟩,
    ⟨100022400, 36000⟩, ⟨120585600, 39600⟩, ⟨131472000, 36000⟩, ⟨152035200, 39600⟩,
    ⟨162921600, 36000⟩, ⟨183484800, 39600⟩, ⟨194976000, 36000⟩, ⟨215539200, 39600⟩,
    ⟨226425600, 36000⟩, ⟨246988800, 39600⟩, ⟨257875200, 36000⟩, ⟨278438400, 39600⟩,
    ⟨289324800, 36000⟩, ⟨309888000, 39600⟩, ⟨320774400, 36000⟩, ⟨341337600, 39600⟩,
    ⟨352224000, 36000⟩, ⟨372787200, 39600⟩, ⟨386697600, 36000⟩, ⟨404841600, 39600⟩,
    ⟨415728000, 36000⟩, ⟨436291200, 39600⟩, ⟨447177600, 36000⟩, ⟨467740800, 39600⟩,
    ⟨478627200, 36000⟩, ⟨499190400, 39600⟩, ⟨511286400, 36000⟩, ⟨530035200, 39600⟩,
    ⟨542736000, 36000⟩, ⟨562089600, 39600⟩, ⟨574790400, 36000⟩, ⟨594144000, 39600⟩,
    ⟨606240000, 36000⟩, ⟨625593600, 39600⟩, ⟨636480000, 36000⟩, ⟨657043200, 39600⟩,
    ⟨667929600, 36000⟩, ⟨688492800, 39600⟩, ⟨699379200, 36000⟩, ⟨719942400, 39600⟩,
    ⟨731433600, 36000⟩, ⟨751996800, 39600⟩, ⟨762883200, 36000⟩, ⟨783446400, 39600⟩,
    ⟨794332800, 36000⟩, ⟨814896000, 39600⟩, ⟨828201600, 36000⟩, ⟨846345600, 39600⟩,
    ⟨859651200, 36000⟩, ⟨877795200, 39600⟩, ⟨891100800, 36000⟩, ⟨909244800, 39600⟩,
    ⟨922550400, 36000⟩, ⟨941299200, 39600⟩, ⟨954000000, 36000⟩, ⟨967305600, 39600⟩,
    ⟨985449600, 36000⟩, ⟨1004198400, 39600⟩, ⟨1017504000, 36000⟩, ⟨1035648000, 39600⟩,
    ⟨1048953600, 36000⟩, ⟨1067097600, 39600⟩, ⟨1080403200, 36000⟩, ⟨1099152000, 39600⟩,
    ⟨1111852800, 36000⟩, ⟨1130601600, 39600⟩, ⟨1143907200, 36000⟩, ⟨1162051200, 39600⟩,
    ⟨1174752000, 36000⟩, ⟨1193500800, 39600⟩, ⟨1207411200, 36000⟩, ⟨1223136000, 39600⟩,
    ⟨1238860800, 36000⟩, ⟨1254585600, 39600⟩, ⟨1270310400, 36000⟩, ⟨1286035200, 39600⟩,
    ⟨1301760000, 36000⟩, ⟨1317484800, 39600⟩, ⟨1333209600, 36000⟩, ⟨1349539200, 39600⟩,
    ⟨1365264000, 36000⟩, ⟨1380988800, 39600⟩, ⟨1396713600, 36000⟩, ⟨1412438400, 39600⟩,
    ⟨1428163200, 36000⟩, ⟨1443888000, 39600⟩, ⟨1459612800, 36000⟩, ⟨1475337600, 39600⟩,
    ⟨1491062400, 36000⟩, ⟨1506787200, 39600⟩, ⟨1522512000, 36000⟩, ⟨1538841600, 39600⟩,
    ⟨1554566400, 36000⟩, ⟨1570291200, 39600⟩, ⟨1586016000, 36000⟩, ⟨1601740800, 39600⟩,
    ⟨1617465600, 36000⟩, ⟨1633190400, 39600⟩, ⟨1648915200, 36000⟩, ⟨1664640000, 39600⟩,
    ⟨1680364800, 36000⟩, ⟨1696089600, 39600⟩, ⟨1712419200, 36000⟩, ⟨1728144000, 39600⟩,
    ⟨1743868800, 36000⟩, ⟨1759593600, 39600⟩, ⟨1775318400, 36000⟩, ⟨1791043200, 39600⟩,
    ⟨1806768000, 36000⟩, ⟨1822492800, 39600⟩, ⟨1838217600, 36000⟩, ⟨1853942400, 39600⟩,
    ⟨1869667200, 36000⟩, ⟨1885996800, 39600⟩, ⟨1901721600, 36000⟩, ⟨1917446400, 39600⟩,
    ⟨1933171200, 36000⟩, ⟨1948896000, 39600⟩, ⟨1964620800, 36000⟩, ⟨1980345600, 39600⟩,
    ⟨1996070400, 36000⟩, ⟨2011795200, 39600⟩, ⟨2027520000, 36000⟩, ⟨2043244800, 39600⟩,
    ⟨2058969600, 36000⟩, ⟨2075299200, 39600⟩, ⟨2091024000, 36000⟩, ⟨2106748800, 39600⟩,
    ⟨2122473600, 36000⟩, ⟨2138198400, 39600⟩, ⟨2153923200, 36000⟩, ⟨2169648000, 39600⟩,
    ⟨2185372800, 36000⟩, ⟨2201097600, 39600⟩, ⟨2216822400, 36000⟩, ⟨2233152000, 39600⟩,
    ⟨2248876800, 36000⟩, ⟨2264601600, 39600⟩, ⟨2280326400, 36000⟩, ⟨2296051200, 39600⟩,
    ⟨2311776000, 36000⟩, ⟨2327500800, 39600⟩, ⟨2343225600, 36000⟩, ⟨2358950400, 39600⟩,
    ⟨2374675200, 36000⟩, ⟨2390400000, 39600⟩, ⟨2406124800, 36000⟩, ⟨2422454400, 39600⟩,
    ⟨2438179200, 36000⟩, ⟨2453904000, 39600⟩, ⟨2469628800, 36000⟩, ⟨2485353600, 39600⟩,
    ⟨2501078400, 36000⟩, ⟨2516803200, 39600⟩, ⟨2532528000, 36000⟩, ⟨2548252800, 39600⟩,
    ⟨2563977600, 36000⟩, ⟨2579702400, 39600⟩, ⟨2596032000, 36000⟩, ⟨2611756800, 39600⟩,
    ⟨2627481600, 36000⟩, ⟨2643206400, 39600⟩, ⟨2658931200, 36000⟩, ⟨2674656000, 39600⟩,
    ⟨2690380800, 36000⟩, ⟨2706105600, 39600⟩, ⟨2721830400, 36000⟩, ⟨2737555200, 39600⟩,
    ⟨2753280000, 36000⟩, ⟨2769609600, 39600⟩, ⟨2785334400, 36000⟩, ⟨2801059200, 39600⟩,
    ⟨2816784000, 36000⟩, ⟨2832508800, 39600⟩, ⟨2848233600, 36000⟩, ⟨2863958400, 39600⟩,
    ⟨2879683200, 36000⟩, ⟨2895408000, 39600⟩, ⟨2911132800, 36000⟩, ⟨2926857600, 39600⟩,
    ⟨2942582400, 36000⟩, ⟨2958912000, 39600⟩, ⟨2974636800, 36000⟩, ⟨2990361600, 39600⟩,
    ⟨3006086400, 36000⟩, ⟨3021811200, 39600⟩, ⟨3037536000, 36000⟩, ⟨3053260800, 39600⟩,
    ⟨3068985600, 36000⟩, ⟨3084710400, 39600⟩, ⟨3100435200, 36000⟩, ⟨3116764800, 39600⟩,
    ⟨3132489600, 36000⟩, ⟨3148214400, 39600⟩, ⟨3163939200, 36000⟩, ⟨3179664000, 39600⟩,
    ⟨3195388800, 36000⟩, ⟨3211113600, 39600⟩, ⟨3226838400, 36000⟩, ⟨3242563200, 39600⟩,
    ⟨3258288000, 36000⟩, ⟨3274012800, 39600⟩, ⟨3289737600, 36000⟩, ⟨3306067200, 39600⟩,
    ⟨3321792000, 36000⟩, ⟨3337516800, 39600⟩, ⟨3353241600, 36000⟩, ⟨3368966400, 39600⟩,
    ⟨3384691200, 36000⟩, ⟨3400416000, 39600⟩, ⟨3416140800, 36000⟩, ⟨3431865600, 39600⟩,
    ⟨3447590400, 36000⟩, ⟨3463315200, 39600⟩, ⟨3479644800, 36000⟩, ⟨3495369600, 39600⟩,
    ⟨3511094400, 36000⟩, ⟨3526819200, 39600⟩, ⟨3542544000, 36000⟩, ⟨3558268800, 39600⟩,
    ⟨3573993600, 36000⟩, ⟨3589718400, 39600⟩, ⟨3605443200, 36000⟩, ⟨3621168000, 39600⟩,
    ⟨3636892800, 36000⟩, ⟨3653222400, 39600⟩, ⟨3668947200, 36000⟩, ⟨3684672000, 39600⟩,
    ⟨3700396800, 36000⟩, ⟨3716121600, 39600⟩, ⟨3731846400, 36000⟩, ⟨3747571200, 39600⟩,
    ⟨3763296000, 36000⟩, ⟨3779020800, 39600⟩, ⟨3794745600, 36000⟩, ⟨3810470400, 39600⟩,
    ⟨3826195200, 36000⟩, ⟨3842524800, 39600⟩, ⟨3858249600, 36000⟩, ⟨3873974400, 39600⟩,
    ⟨3889699200, 36000⟩, ⟨3905424000, 39600⟩, ⟨3921148800, 36000⟩, ⟨3936873600, 39600⟩,
    ⟨3952598400, 36000⟩, ⟨3968323200, 39600⟩, ⟨3984048000, 36000⟩, ⟨4000377600, 39600⟩,
    ⟨4016102400, 36000⟩, ⟨4031827200, 39600⟩, ⟨4047552000, 36000⟩, ⟨4063276800, 39600⟩,
    ⟨4079001600, 36000⟩, ⟨4094726400, 39600⟩]⟩

end Recurrence.Zone.Tables
