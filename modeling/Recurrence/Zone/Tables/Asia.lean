import Recurrence.Zone.OffsetTable
/-!
Offsets of zones in Asia, with changes up to the end of 2099.
-/
namespace Recurrence.Zone.Tables

/-- The offsets of Asia/Jerusalem. -/
def jerusalem : OffsetTable :=
  ⟨8454,
   [⟨-2840149254, 8440⟩, ⟨-1641003640, 7200⟩, ⟨-933638400, 10800⟩, ⟨-923097600, 7200⟩,
    ⟨-919036800, 10800⟩, ⟨-857347200, 7200⟩, ⟨-844300800, 10800⟩, ⟨-825811200, 7200⟩,
    ⟨-812678400, 10800⟩, ⟨-794188800, 7200⟩, ⟨-779846400, 10800⟩, ⟨-762652800, 7200⟩,
    ⟨-748310400, 10800⟩, ⟨-731116800, 7200⟩, ⟨-681955200, 14400⟩, ⟨-673228800, 10800⟩,
    ⟨-667958400, 7200⟩, ⟨-652320000, 10800⟩, ⟨-636422400, 7200⟩, ⟨-622080000, 10800⟩,
    ⟨-608947200, 7200⟩, ⟨-591840000, 10800⟩, ⟨-572486400, 7200⟩, ⟨-558576000, 10800⟩,
    ⟨-542851200, 7200⟩, ⟨-527731200, 10800⟩, ⟨-514425600, 7200⟩, ⟨-490838400, 10800⟩,
    ⟨-482976000, 7200⟩, ⟨-459388800, 10800⟩, ⟨-451526400, 7200⟩, ⟨-428544000, 10800⟩,
    ⟨-418262400, 7200⟩, ⟨-400118400, 10800⟩, ⟨-387417600, 7200⟩, ⟨142380000, 10800⟩,
    ⟨150843600, 7200⟩, ⟨167176800, 10800⟩, ⟨178664400, 7200⟩, ⟨334101600, 10800⟩,
    ⟨337730400, 7200⟩, ⟨452642400, 10800⟩, ⟨462319200, 7200⟩, ⟨482277600, 10800⟩,
    ⟨494370000, 7200⟩, ⟨516751200, 10800⟩, ⟨526424400, 7200⟩, ⟨545436000, 10800⟩,
    ⟨558478800, 7200⟩, ⟨576626400, 10800⟩, ⟨589323600, 7200⟩, ⟨609890400, 10800⟩,
    ⟨620773200, 7200⟩, ⟨638316000, 10800⟩, ⟨651618000, 7200⟩, ⟨669765600, 10800⟩,
    ⟨683672400, 7200⟩, ⟨701820000, 10800⟩, ⟨715726800, 7200⟩, ⟨733701600, 10800⟩,
    ⟨747176400, 7200⟩, ⟨765151200, 10800⟩, ⟨778021200, 7200⟩, ⟨796600800, 10800⟩,
    ⟨810075600, 7200⟩, ⟨826840800, 10800⟩, ⟨842821200, 7200⟩, ⟨858895200, 10800⟩,
    ⟨874184400, 7200⟩, ⟨890344800, 10800⟩, ⟨905029200, 7200⟩, ⟨923011200, 10800⟩,
    ⟨936313200, 7200⟩, ⟨955670400, 10800⟩, ⟨970783200, 7200⟩, ⟨986770800, 10800⟩,
    ⟨1001282400, 7200⟩, ⟨1017356400, 10800⟩, ⟨1033941600, 7200⟩, ⟨1048806000, 10800⟩,
    ⟨1065132000, 7200⟩, ⟨1081292400, 10800⟩, ⟨1095804000, 7200⟩, ⟨1112313600, 10800⟩,
    ⟨1128812400, 7200⟩, ⟨1143763200, 10800⟩, ⟨1159657200, 7200⟩, ⟨1175212800, 10800⟩,
    ⟨1189897200, 7200⟩, ⟨1206662400, 10800⟩, ⟨1223161200, 7200⟩, ⟨1238112000, 10800⟩,
    ⟨1254006000, 7200⟩, ⟨1269561600, 10800⟩, ⟨1284246000, 7200⟩, ⟨1301616000, 10800⟩,
    ⟨1317510000, 7200⟩, ⟨1333065600, 10800⟩, ⟨1348354800, 7200⟩, ⟨1364515200, 10800⟩,
    ⟨1382828400, 7200⟩, ⟨1395964800, 10800⟩, ⟨1414278000, 7200⟩, ⟨1427414400, 10800⟩,
    ⟨1445727600, 7200⟩, ⟨1458864000, 10800⟩, ⟨1477782000, 7200⟩, ⟨1490313600, 10800⟩,
    ⟨1509231600, 7200⟩, ⟨1521763200, 10800⟩, ⟨1540681200, 7200⟩, ⟨1553817600, 10800⟩,
    ⟨1572130800, 7200⟩, ⟨1585267200, 10800⟩, ⟨1603580400, 7200⟩, ⟨1616716800, 10800⟩,
    ⟨1635634800, 7200⟩, ⟨1648166400, 10800⟩, ⟨1667084400, 7200⟩, ⟨1679616000, 10800⟩,
    ⟨1698534000, 7200⟩, ⟨1711670400, 10800⟩, ⟨1729983600, 7200⟩, ⟨1743120000, 10800⟩,
    ⟨1761433200, 7200⟩, ⟨1774569600, 10800⟩, ⟨1792882800, 7200⟩, ⟨1806019200, 10800⟩,
    ⟨1824937200, 7200⟩, ⟨1837468800, 10800⟩, ⟨1856386800, 7200⟩, ⟨1868918400, 10800⟩,
    ⟨1887836400, 7200⟩, ⟨1900972800, 10800⟩, ⟨1919286000, 7200⟩, ⟨1932422400, 10800⟩,
    ⟨1950735600, 7200⟩, ⟨1963872000, 10800⟩, ⟨1982790000, 7200⟩, ⟨1995321600, 10800⟩,
    ⟨2014239600, 7200⟩, ⟨2026771200, 10800⟩, ⟨2045689200, 7200⟩, ⟨2058220800, 10800⟩,
    ⟨2077138800, 7200⟩, ⟨2090275200, 10800⟩, ⟨2108588400, 7200⟩, ⟨2121724800, 10800⟩,
    ⟨2140038000, 7200⟩, ⟨2153174400, 10800⟩, ⟨2172092400, 7200⟩, ⟨2184624000, 10800⟩,
    ⟨2203542000, 7200⟩, ⟨2216073600, 10800⟩, ⟨2234991600, 7200⟩, ⟨2248128000, 10800⟩,
    ⟨2266441200, 7200⟩, ⟨2279577600, 10800⟩, ⟨2297890800, 7200⟩, ⟨2311027200, 10800⟩,
    ⟨2329340400, 7200⟩, ⟨2342476800, 10800⟩, ⟨2361394800, 7200⟩, ⟨2373926400, 10800⟩,
    ⟨2392844400, 7200⟩, ⟨2405376000, 10800⟩, ⟨2424294000, 7200⟩, ⟨2437430400, 10800⟩,
    ⟨2455743600, 7200⟩, ⟨2468880000, 10800⟩, ⟨2487193200, 7200⟩, ⟨2500329600, 10800⟩,
    ⟨2519247600, 7200⟩, ⟨2531779200, 10800⟩, ⟨2550697200, 7200⟩, ⟨2563228800, 10800⟩,
    ⟨2582146800, 7200⟩, ⟨2595283200, 10800⟩, ⟨2613596400, 7200⟩, ⟨2626732800, 10800⟩,
    ⟨2645046000, 7200⟩, ⟨2658182400, 10800⟩, ⟨2676495600, 7200⟩, ⟨2689632000, 10800⟩,
    ⟨2708550000, 7200⟩, ⟨2721081600, 10800⟩, ⟨2739999600, 7200⟩, ⟨2752531200, 10800⟩,
    ⟨2771449200, 7200⟩, ⟨2784585600, 10800⟩, ⟨2802898800, 7200⟩, ⟨2816035200, 10800⟩,
    ⟨2834348400, 7200⟩, ⟨2847484800, 10800⟩, ⟨2866402800, 7200⟩, ⟨2878934400, 10800⟩,
    ⟨2897852400, 7200⟩, ⟨2910384000, 10800⟩, ⟨2929302000, 7200⟩, ⟨2941833600, 10800⟩,
    ⟨2960751600, 7200⟩, ⟨2973888000, 10800⟩, ⟨2992201200, 7200⟩, ⟨3005337600, 10800⟩,
    ⟨3023650800, 7200⟩, ⟨3036787200, 10800⟩, ⟨3055705200, 7200⟩, ⟨3068236800, 10800⟩,
    ⟨3087154800, 7200⟩, ⟨3099686400, 10800⟩, ⟨3118604400, 7200⟩, ⟨3131740800, 10800⟩,
    ⟨3150054000, 7200⟩, ⟨3163190400, 10800⟩, ⟨3181503600, 7200⟩, ⟨3194640000, 10800⟩,
    ⟨3212953200, 7200⟩, ⟨3226089600, 10800⟩, ⟨3245007600, 7200⟩, ⟨3257539200, 10800⟩,
    ⟨3276457200, 7200⟩, ⟨3288988800, 10800⟩, ⟨3307906800, 7200⟩, ⟨3321043200, 10800⟩,
    ⟨3339356400, 7200⟩, ⟨3352492800, 10800⟩, ⟨3370806000, 7200⟩, ⟨3383942400, 10800⟩,
    ⟨3402860400, 7200⟩, ⟨3415392000, 10800⟩, ⟨3434310000, 7200⟩, ⟨3446841600, 10800⟩,
    ⟨3465759600, 7200⟩, ⟨3478896000, 10800⟩, ⟨3497209200, 7200⟩, ⟨3510345600, 10800⟩,
    ⟨3528658800, 7200⟩, ⟨3541795200, 10800⟩, ⟨3560108400, 7200⟩, ⟨3573244800, 10800⟩,
    ⟨3592162800, 7200⟩, ⟨3604694400, 10800⟩, ⟨3623612400, 7200⟩, ⟨3636144000, 10800⟩,
    ⟨3655062000, 7200⟩, ⟨3668198400, 10800⟩, ⟨3686511600, 7200⟩, ⟨3699648000, 10800⟩,
    ⟨3717961200, 7200⟩, ⟨3731097600, 10800⟩, ⟨3750015600, 7200⟩, ⟨3762547200, 10800⟩,
    ⟨3781465200, 7200⟩, ⟨3793996800, 10800⟩, ⟨3812914800, 7200⟩, ⟨3825446400, 10800⟩,
    ⟨3844364400, 7200⟩, ⟨3857500800, 10800⟩, ⟨3875814000, 7200⟩, ⟨3888950400, 10800⟩,
    ⟨3907263600, 7200⟩, ⟨3920400000, 10800⟩, ⟨3939318000, 7200⟩, ⟨3951849600, 10800⟩,
    ⟨3970767600, 7200⟩, ⟨3983299200, 10800⟩, ⟨4002217200, 7200⟩, ⟨4015353600, 10800⟩,
    ⟨4033666800, 7200⟩, ⟨4046803200, 10800⟩, ⟨4065116400, 7200⟩, ⟨4078252800, 10800⟩,
    ⟨4096566000, 7200⟩]⟩

/-- The offsets of Asia/Kolkata. -/
def kolkata : OffsetTable :=
  ⟨21208,
   [⟨-3645237208, 21200⟩, ⟨-3155694800, 19270⟩, ⟨-2019705670, 19800⟩, ⟨-891581400, 23400⟩,
    ⟨-872058600, 19800⟩, ⟨-862637400, 23400⟩, ⟨-764145000, 19800⟩]⟩

/-- The offsets of Asia/Shanghai. -/
def shanghai : OffsetTable :=
  ⟨29143,
   [⟨-2177481943, 28800⟩, ⟨-1600675200, 32400⟩, ⟨-1585904400, 28800⟩, ⟨-933667200, 32400⟩,
    ⟨-922093200, 28800⟩, ⟨-908870400, 32400⟩, ⟨-888829200, 28800⟩, ⟨-881049600, 32400⟩,
    ⟨-767869200, 28800⟩, ⟨-745833600, 32400⟩, ⟨-733827600, 28800⟩, ⟨-716889600, 32400⟩,
    ⟨-699613200, 28800⟩, ⟨-683884800, 32400⟩, ⟨-670669200, 28800⟩, ⟨-652348800, 32400⟩,
    ⟨-650019600, 28800⟩, ⟨515527200, 32400⟩, ⟨527014800, 28800⟩, ⟨545162400, 32400⟩,
    ⟨558464400, 28800⟩, ⟨577216800, 32400⟩, ⟨589914000, 28800⟩, ⟨608666400, 32400⟩,
    ⟨621968400, 28800⟩, ⟨640116000, 32400⟩, ⟨653418000, 28800⟩, ⟨671565600, 32400⟩,
    ⟨684867600, 28800⟩]⟩

/-- The offsets of Asia/Tokyo. -/
def tokyo : OffsetTable :=
  ⟨33539,
   [⟨-2587712400, 32400⟩, ⟨-683802000, 36000⟩, ⟨-672310800, 32400⟩, ⟨-654771600, 36000⟩,
    ⟨-640861200, 32400⟩, ⟨-620298000, 36000⟩, ⟨-609411600, 32400⟩, ⟨-588848400, 36000⟩,
    ⟨-577962000, 32400⟩]⟩

end Recurrence.Zone.Tables
