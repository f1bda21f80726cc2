import Recurrence.Zone.OffsetTable
/-!
Offsets of zones in Europe, with changes up to the end of 2099.
-/
namespace Recurrence.Zone.Tables

/-- The offsets of Europe/Berlin. -/
def berlin : OffsetTable :=
  ⟨3208,
   [⟨-2422054408, 3600⟩, ⟨-1693706400, 7200⟩, ⟨-1680483600, 3600⟩, ⟨-1663455600, 7200⟩,
    ⟨-1650150000, 3600⟩, ⟨-1632006000, 7200⟩, ⟨-1618700400, 3600⟩, ⟨-938905200, 7200⟩,
    ⟨-857257200, 3600⟩, ⟨-844556400, 7200⟩, ⟨-828226800, 3600⟩, ⟨-812502000, 7200⟩,
    ⟨-796777200, 3600⟩, ⟨-781052400, 7200⟩, ⟨-776563200, 10800⟩, ⟨-765936000, 7200⟩,
    ⟨-761180400, 3600⟩, ⟨-748479600, 7200⟩, ⟨-733273200, 3600⟩, ⟨-717631200, 7200⟩,
    ⟨-714610800, 10800⟩, ⟨-710380800, 7200⟩, ⟨-701910000, 3600⟩, ⟨-684975600, 7200⟩,
    ⟨-670460400, 3600⟩, ⟨-654130800, 7200⟩, ⟨-639010800, 3600⟩, ⟨323830800, 7200⟩,
    ⟨338950800, 3600⟩, ⟨354675600, 7200⟩, ⟨370400400, 3600⟩, ⟨386125200, 7200⟩,
    ⟨401850000, 3600⟩, ⟨417574800, 7200⟩, ⟨433299600, 3600⟩, ⟨449024400, 7200⟩,
    ⟨465354000, 3600⟩, ⟨481078800, 7200⟩, ⟨496803600, 3600⟩, ⟨512528400, 7200⟩,
    ⟨528253200, 3600⟩, ⟨543978000, 7200⟩, ⟨559702800, 3600⟩, ⟨575427600, 7200⟩,
    ⟨591152400, 3600⟩, ⟨606877200, 7200⟩, ⟨622602000, 3600⟩, ⟨638326800, 7200⟩,
    ⟨654656400, 3600⟩, ⟨670381200, 7200⟩, ⟨686106000, 3600⟩, ⟨701830800, 7200⟩,
    ⟨717555600, 3600⟩, ⟨733280400, 7200⟩, ⟨749005200, 3600⟩, ⟨764730000, 7200⟩,
    ⟨780454800, 3600⟩, ⟨796179600, 7200⟩, ⟨811904400, 3600⟩, ⟨828234000, 7200⟩,
    ⟨846378000, 3600⟩, ⟨859683600, 7200⟩, ⟨877827600, 3600⟩, ⟨891133200, 7200⟩,
    ⟨909277200, 3600⟩, ⟨922582800, 7200⟩, ⟨941331600, 3600⟩, ⟨954032400, 7200⟩,
    ⟨972781200, 3600⟩, ⟨985482000, 7200⟩, ⟨1004230800, 3600⟩, ⟨1017536400, 7200⟩,
    ⟨1035680400, 3600⟩, ⟨1048986000, 7200⟩, ⟨1067130000, 3600⟩, ⟨1080435600, 7200⟩,
    ⟨1099184400, 3600⟩, ⟨1111885200, 7200⟩, ⟨1130634000, 3600⟩, ⟨1143334800, 7200⟩,
    ⟨1162083600, 3600⟩, ⟨1174784400, 7200⟩, ⟨1193533200, 3600⟩, ⟨1206838800, 7200⟩,
    ⟨1224982800, 3600⟩, ⟨1238288400, 7200⟩, ⟨1256432400, 3600⟩, ⟨1269738000, 7200⟩,
    ⟨1288486800, 3600⟩, ⟨1301187600, 7200⟩, ⟨1319936400, 3600⟩, ⟨1332637200, 7200⟩,
    ⟨1351386000, 3600⟩, ⟨1364691600, 7200⟩, ⟨1382835600, 3600⟩, ⟨1396141200, 7200⟩,
    ⟨1414285200, 3600⟩, ⟨1427590800, 7200⟩, ⟨1445734800, 3600⟩, ⟨1459040400, 7200⟩,
    ⟨1477789200, 3600⟩, ⟨1490490000, 7200⟩, ⟨1509238800, 3600⟩, ⟨1521939600, 7200⟩,
    ⟨1540688400, 3600⟩, ⟨1553994000, 7200⟩, ⟨1572138000, 3600⟩, ⟨1585443600, 7200⟩,
    ⟨1603587600, 3600⟩, ⟨1616893200, 7200⟩, ⟨1635642000, 3600⟩, ⟨1648342800, 7200⟩,
    ⟨1667091600, 3600⟩, ⟨1679792400, 7200⟩, ⟨1698541200, 3600⟩, ⟨1711846800, 7200⟩,
    ⟨1729990800, 3600⟩, ⟨1743296400, 7200⟩, ⟨1761440400, 3600⟩, ⟨1774746000, 7200⟩,
    ⟨1792890000, 3600⟩, ⟨1806195600, 7200⟩, ⟨1824944400, 3600⟩, ⟨1837645200, 7200⟩,
    ⟨1856394000, 3600⟩, ⟨1869094800, 7200⟩, ⟨1887843600, 3600⟩, ⟨1901149200, 7200⟩,
    ⟨1919293200, 3600⟩, ⟨1932598800, 7200⟩, ⟨1950742800, 3600⟩, ⟨1964048400, 7200⟩,
    ⟨1982797200, 3600⟩, ⟨1995498000, 7200⟩, ⟨2014246800, 3600⟩, ⟨2026947600, 7200⟩,
    ⟨2045696400, 3600⟩, ⟨2058397200, 7200⟩, ⟨2077146000, 3600⟩, ⟨2090451600, 7200⟩,
    ⟨2108595600, 3600⟩, ⟨2121901200, 7200⟩, ⟨2140045200, 3600⟩, ⟨2153350800, 7200⟩,
    ⟨2172099600, 3600⟩, ⟨2184800400, 7200⟩, ⟨2203549200, 3600⟩, ⟨2216250000, 7200⟩,
    ⟨2234998800, 3600⟩, ⟨2248304400, 7200⟩, ⟨2266448400, 3600⟩, ⟨2279754000, 7200⟩,
    ⟨2297898000, 3600⟩, ⟨2311203600, 7200⟩, ⟨2329347600, 3600⟩, ⟨2342653200, 7200⟩,
    ⟨2361402000, 3600⟩, ⟨2374102800, 7200⟩, ⟨2392851600, 3600⟩, ⟨2405552400, 7200⟩,
    ⟨2424301200, 3600⟩, ⟨2437606800, 7200⟩, ⟨2455750800, 3600⟩, ⟨2469056400, 7200⟩,
    ⟨2487200400, 3600⟩, ⟨2500506000, 7200⟩, ⟨2519254800, 3600⟩, ⟨2531955600, 7200⟩,
    ⟨2550704400, 3600⟩, ⟨2563405200, 7200⟩, ⟨2582154000, 3600⟩, ⟨2595459600, 7200⟩,
    ⟨2613603600, 3600⟩, ⟨2626909200, 7200⟩, ⟨2645053200, 3600⟩, ⟨2658358800, 7200⟩,
    ⟨2676502800, 3600⟩, ⟨2689808400, 7200⟩, ⟨2708557200, 3600⟩, ⟨2721258000, 7200⟩,
    ⟨2740006800, 3600⟩, ⟨2752707600, 7200⟩, ⟨2771456400, 3600⟩, ⟨2784762000, 7200⟩,
    ⟨2802906000, 3600⟩, ⟨2816211600, 7200⟩, ⟨2834355600, 3600⟩, ⟨2847661200, 7200⟩,
    ⟨2866410000, 3600⟩, ⟨2879110800, 7200⟩, ⟨2897859600, 3600⟩, ⟨2910560400, 7200⟩,
    ⟨2929309200, 3600⟩, ⟨2942010000, 7200⟩, ⟨2960758800, 3600⟩, ⟨2974064400, 7200⟩,
    ⟨2992208400, 3600⟩, ⟨3005514000, 7200⟩, ⟨3023658000, 3600⟩, ⟨3036963600, 7200⟩,
    ⟨3055712400, 3600⟩, ⟨3068413200, 7200⟩, ⟨3087162000, 3600⟩, ⟨3099862800, 7200⟩,
    ⟨3118611600, 3600⟩, ⟨3131917200, 7200⟩, ⟨3150061200, 3600⟩, ⟨3163366800, 7200⟩,
    ⟨3181510800, 3600⟩, ⟨3194816400, 7200⟩, ⟨3212960400, 3600⟩, ⟨3226266000, 7200⟩,
    ⟨3245014800, 3600⟩, ⟨3257715600, 7200⟩, ⟨3276464400, 3600⟩, ⟨3289165200, 7200⟩,
    ⟨3307914000, 3600⟩, ⟨3321219600, 7200⟩, ⟨3339363600, 3600⟩, ⟨3352669200, 7200⟩,
    ⟨3370813200, 3600⟩, ⟨3384118800, 7200⟩, ⟨3402867600, 3600⟩, ⟨3415568400, 7200⟩,
    ⟨3434317200, 3600⟩, ⟨3447018000, 7200⟩, ⟨3465766800, 3600⟩, ⟨3479072400, 7200⟩,
    ⟨3497216400, 3600⟩, ⟨3510522000, 7200⟩, ⟨3528666000, 3600⟩, ⟨3541971600, 7200⟩,
    ⟨3560115600, 3600⟩, ⟨3573421200, 7200⟩, ⟨3592170000, 3600⟩, ⟨3604870800, 7200⟩,
    ⟨3623619600, 3600⟩, ⟨3636320400, 7200⟩, ⟨3655069200, 3600⟩, ⟨3668374800, 7200⟩,
    ⟨3686518800, 3600⟩, ⟨3699824400, 7200⟩, ⟨3717968400, 3600⟩, ⟨3731274000, 7200⟩,
    ⟨3750022800, 3600⟩, ⟨3762723600, 7200⟩, ⟨3781472400, 3600⟩, ⟨3794173200, 7200⟩,
    ⟨3812922000, 3600⟩, ⟨3825622800, 7200⟩, ⟨3844371600, 3600⟩, ⟨3857677200, 7200⟩,
    ⟨3875821200, 3600⟩, ⟨3889126800, 7200⟩, ⟨3907270800, 3600⟩, ⟨3920576400, 7200⟩,
    ⟨3939325200, 3600⟩, ⟨3952026000, 7200⟩, ⟨3970774800, 3600⟩, ⟨3983475600, 7200⟩,
    ⟨4002224400, 3600⟩, ⟨4015530000, 7200⟩, ⟨4033674000, 3600⟩, ⟨4046979600, 7200⟩,
    ⟨4065123600, 3600⟩, ⟨4078429200, 7200⟩, ⟨4096573200, 3600⟩]⟩

/-- The offsets of Europe/Kyiv. -/
def kyiv : OffsetTable :=
  ⟨7324,
   [⟨-1441159324, 7200⟩, ⟨-1247536800, 10800⟩, ⟨-892522800, 7200⟩, ⟨-857257200, 3600⟩,
    ⟨-844556400, 7200⟩, ⟨-828226800, 3600⟩, ⟨-825382800, 10800⟩, ⟨354920400, 14400⟩,
    ⟨370728000, 10800⟩, ⟨386456400, 14400⟩, ⟨402264000, 10800⟩, ⟨417992400, 14400⟩,
    ⟨433800000, 10800⟩, ⟨449614800, 14400⟩, ⟨465346800, 10800⟩, ⟨481071600, 14400⟩,
    ⟨496796400, 10800⟩, ⟨512521200, 14400⟩, ⟨528246000, 10800⟩, ⟨543970800, 14400⟩,
    ⟨559695600, 10800⟩, ⟨575420400, 14400⟩, ⟨591145200, 10800⟩, ⟨606870000, 14400⟩,
    ⟨622594800, 10800⟩, ⟨638319600, 14400⟩, ⟨646783200, 10800⟩, ⟨686102400, 7200⟩,
    ⟨701827200, 10800⟩, ⟨717552000, 7200⟩, ⟨733276800, 10800⟩, ⟨749001600, 7200⟩,
    ⟨764726400, 10800⟩, ⟨780451200, 7200⟩, ⟨796176000, 10800⟩, ⟨811900800, 7200⟩,
    ⟨828230400, 10800⟩, ⟨846378000, 7200⟩, ⟨859683600, 10800⟩, ⟨877827600, 7200⟩,
    ⟨891133200, 10800⟩, ⟨909277200, 7200⟩, ⟨922582800, 10800⟩, ⟨941331600, 7200⟩,
    ⟨954032400, 10800⟩, ⟨972781200, 7200⟩, ⟨985482000, 10800⟩, ⟨1004230800, 7200⟩,
    ⟨1017536400, 10800⟩, ⟨1035680400, 7200⟩, ⟨1048986000, 10800⟩, ⟨1067130000, 7200⟩,
    ⟨1080435600, 10800⟩, ⟨1099184400, 7200⟩, ⟨1111885200, 10800⟩, ⟨1130634000, 7200⟩,
    ⟨1143334800, 10800⟩, ⟨1162083600, 7200⟩, ⟨1174784400, 10800⟩, ⟨1193533200, 7200⟩,
    ⟨1206838800, 10800⟩, ⟨1224982800, 7200⟩, ⟨1238288400, 10800⟩, ⟨1256432400, 7200⟩,
    ⟨1269738000, 10800⟩, ⟨1288486800, 7200⟩, ⟨1301187600, 10800⟩, ⟨1319936400, 7200⟩,
    ⟨1332637200, 10800⟩, ⟨1351386000, 7200⟩, ⟨1364691600, 10800⟩, ⟨1382835600, 7200⟩,
    ⟨1396141200, 10800⟩, ⟨1414285200, 7200⟩, ⟨1427590800, 10800⟩, ⟨1445734800, 7200⟩,
    ⟨1459040400, 10800⟩, ⟨1477789200, 7200⟩, ⟨1490490000, 10800⟩, ⟨1509238800, 7200⟩,
    ⟨1521939600, 10800⟩, ⟨1540688400, 7200⟩, ⟨1553994000, 10800⟩, ⟨1572138000, 7200⟩,
    ⟨1585443600, 10800⟩, ⟨1603587600, 7200⟩, ⟨1616893200, 10800⟩, ⟨1635642000, 7200⟩,
    ⟨1648342800, 10800⟩, ⟨1667091600, 7200⟩, ⟨1679792400, 10800⟩, ⟨1698541200, 7200⟩,
    ⟨1711846800, 10800⟩, ⟨1729990800, 7200⟩, ⟨1743296400, 10800⟩, ⟨1761440400, 7200⟩,
    ⟨1774746000, 10800⟩, ⟨1792890000, 7200⟩, ⟨1806195600, 10800⟩, ⟨1824944400, 7200⟩,
    ⟨1837645200, 10800⟩, ⟨1856394000, 7200⟩, ⟨1869094800, 10800⟩, ⟨1887843600, 7200⟩,
    ⟨1901149200, 10800⟩, ⟨1919293200, 7200⟩, ⟨1932598800, 10800⟩, ⟨1950742800, 7200⟩,
    ⟨1964048400, 10800⟩, ⟨1982797200, 7200⟩, ⟨1995498000, 10800⟩, ⟨2014246800, 7200⟩,
    ⟨2026947600, 10800⟩, ⟨2045696400, 7200⟩, ⟨2058397200, 10800⟩, ⟨2077146000, 7200⟩,
    ⟨2090451600, 10800⟩, ⟨2108595600, 7200⟩, ⟨2121901200, 10800⟩, ⟨2140045200, 7200⟩,
    ⟨2153350800, 10800⟩, ⟨2172099600, 7200⟩, ⟨2184800400, 10800⟩, ⟨2203549200, 7200⟩,
    ⟨2216250000, 10800⟩, ⟨2234998800, 7200⟩, ⟨2248304400, 10800⟩, ⟨2266448400, 7200⟩,
    ⟨2279754000, 10800⟩, ⟨2297898000, 7200⟩, ⟨2311203600, 10800⟩, ⟨2329347600, 7200⟩,
    ⟨2342653200, 10800⟩, ⟨2361402000, 7200⟩, ⟨2374102800, 10800⟩, ⟨2392851600, 7200⟩,
    ⟨2405552400, 10800⟩, ⟨2424301200, 7200⟩, ⟨2437606800, 10800⟩, ⟨2455750800, 7200⟩,
    ⟨2469056400, 10800⟩, ⟨2487200400, 7200⟩, ⟨2500506000, 10800⟩, ⟨2519254800, 7200⟩,
    ⟨2531955600, 10800⟩, ⟨2550704400, 7200⟩, ⟨2563405200, 10800⟩, ⟨2582154000, 7200⟩,
    ⟨2595459600, 10800⟩, ⟨2613603600, 7200⟩, ⟨2626909200, 10800⟩, ⟨2645053200, 7200⟩,
    ⟨2658358800, 10800⟩, ⟨2676502800, 7200⟩, ⟨2689808400, 10800⟩, ⟨2708557200, 7200⟩,
    ⟨2721258000, 10800⟩, ⟨2740006800, 7200⟩, ⟨2752707600, 10800⟩, ⟨2771456400, 7200⟩,
    ⟨2784762000, 10800⟩, ⟨2802906000, 7200⟩, ⟨2816211600, 10800⟩, ⟨2834355600, 7200⟩,
    ⟨2847661200, 10800⟩, ⟨2866410000, 7200⟩, ⟨2879110800, 10800⟩, ⟨2897859600, 7200⟩,
    ⟨2910560400, 10800⟩, ⟨2929309200, 7200⟩, ⟨2942010000, 10800⟩, ⟨2960758800, 7200⟩,
    ⟨2974064400, 10800⟩, ⟨2992208400, 7200⟩, ⟨3005514000, 10800⟩, ⟨3023658000, 7200⟩,
    ⟨3036963600, 10800⟩, ⟨3055712400, 7200⟩, ⟨3068413200, 10800⟩, ⟨3087162000, 7200⟩,
    ⟨3099862800, 10800⟩, ⟨3118611600, 7200⟩, ⟨3131917200, 10800⟩, ⟨3150061200, 7200⟩,
    ⟨3163366800, 10800⟩, ⟨3181510800, 7200⟩, ⟨3194816400, 10800⟩, ⟨3212960400, 7200⟩,
    ⟨3226266000, 10800⟩, ⟨3245014800, 7200⟩, ⟨3257715600, 10800⟩, ⟨3276464400, 7200⟩,
    ⟨3289165200, 10800⟩, ⟨3307914000, 7200⟩, ⟨3321219600, 10800⟩, ⟨3339363600, 7200⟩,
    ⟨3352669200, 10800⟩, ⟨3370813200, 7200⟩, ⟨3384118800, 10800⟩, ⟨3402867600, 7200⟩,
    ⟨3415568400, 10800⟩, ⟨3434317200, 7200⟩, ⟨3447018000, 10800⟩, ⟨3465766800, 7200⟩,
    ⟨3479072400, 10800⟩, ⟨3497216400, 7200⟩, ⟨3510522000, 10800⟩, ⟨3528666000, 7200⟩,
    ⟨3541971600, 10800⟩, ⟨3560115600, 7200⟩, ⟨3573421200, 10800⟩, ⟨3592170000, 7200⟩,
    ⟨3604870800, 10800⟩, ⟨3623619600, 7200⟩, ⟨3636320400, 10800⟩, ⟨3655069200, 7200⟩,
    ⟨3668374800, 10800⟩, ⟨3686518800, 7200⟩, ⟨3699824400, 10800⟩, ⟨3717968400, 7200⟩,
    ⟨3731274000, 10800⟩, ⟨3750022800, 7200⟩, ⟨3762723600, 10800⟩, ⟨3781472400, 7200⟩,
    ⟨3794173200, 10800⟩, ⟨3812922000, 7200⟩, ⟨3825622800, 10800⟩, ⟨3844371600, 7200⟩,
    ⟨3857677200, 10800⟩, ⟨3875821200, 7200⟩, ⟨3889126800, 10800⟩, ⟨3907270800, 7200⟩,
    ⟨3920576400, 10800⟩, ⟨3939325200, 7200⟩, ⟨3952026000, 10800⟩, ⟨3970774800, 7200⟩,
    ⟨3983475600, 10800⟩, ⟨4002224400, 7200⟩, ⟨4015530000, 10800⟩, ⟨4033674000, 7200⟩,
    ⟨4046979600, 10800⟩, ⟨4065123600, 7200⟩, ⟨4078429200, 10800⟩, ⟨4096573200, 7200⟩]⟩

/-- The offsets of Europe/London. -/
def london : OffsetTable :=
  ⟨-75,
   [⟨-3852662325, 0⟩, ⟨-1691964000, 3600⟩, ⟨-1680472800, 0⟩, ⟨-1664143200, 3600⟩,
    ⟨-1650146400, 0⟩, ⟨-1633903200, 3600⟩, ⟨-1617487200, 0⟩, ⟨-1601848800, 3600⟩,
    ⟨-1586037600, 0⟩, ⟨-1570399200, 3600⟩, ⟨-1552168800, 0⟩, ⟨-1538344800, 3600⟩,
    ⟨-1522533600, 0⟩, ⟨-1507500000, 3600⟩, ⟨-1490565600, 0⟩, ⟨-1473631200, 3600⟩,
    ⟨-1460930400, 0⟩, ⟨-1442786400, 3600⟩, ⟨-1428876000, 0⟩, ⟨-1410732000, 3600⟩,
    ⟨-1396216800, 0⟩, ⟨-1379282400, 3600⟩, ⟨-1364767200, 0⟩, ⟨-1348437600, 3600⟩,
    ⟨-1333317600, 0⟩, ⟨-1315778400, 3600⟩, ⟨-1301263200, 0⟩, ⟨-1284328800, 3600⟩,
    ⟨-1269813600, 0⟩, ⟨-1253484000, 3600⟩, ⟨-1238364000, 0⟩, ⟨-1221429600, 3600⟩,
    ⟨-1206914400, 0⟩, ⟨-1189980000, 3600⟩, ⟨-1175464800, 0⟩, ⟨-1159135200, 3600⟩,
    ⟨-1143410400, 0⟩, ⟨-1126476000, 3600⟩, ⟨-1111960800, 0⟩, ⟨-1095631200, 3600⟩,
    ⟨-1080511200, 0⟩, ⟨-1063576800, 3600⟩, ⟨-1049061600, 0⟩, ⟨-1032127200, 3600⟩,
    ⟨-1017612000, 0⟩, ⟨-1001282400, 3600⟩, ⟨-986162400, 0⟩, ⟨-969228000, 3600⟩, ⟨-950479200, 0⟩,
    ⟨-942012000, 3600⟩, ⟨-904518000, 7200⟩, ⟨-896050800, 3600⟩, ⟨-875487600, 7200⟩,
    ⟨-864601200, 3600⟩, ⟨-844038000, 7200⟩, ⟨-832546800, 3600⟩, ⟨-812588400, 7200⟩,
    ⟨-798073200, 3600⟩, ⟨-781052400, 7200⟩, ⟨-772066800, 3600⟩, ⟨-764805600, 0⟩,
    ⟨-748476000, 3600⟩, ⟨-733356000, 0⟩, ⟨-719445600, 3600⟩, ⟨-717030000, 7200⟩,
    ⟨-706748400, 3600⟩, ⟨-699487200, 0⟩, ⟨-687996000, 3600⟩, ⟨-668037600, 0⟩, ⟨-654732000, 3600⟩,
    ⟨-636588000, 0⟩, ⟨-622072800, 3600⟩, ⟨-605743200, 0⟩, ⟨-590623200, 3600⟩, ⟨-574293600, 0⟩,
    ⟨-558568800, 3600⟩, ⟨-542239200, 0⟩, ⟨-527119200, 3600⟩, ⟨-512604000, 0⟩, ⟨-496274400, 3600⟩,
    ⟨-481154400, 0⟩, ⟨-464220000, 3600⟩, ⟨-449704800, 0⟩, ⟨-432165600, 3600⟩, ⟨-417650400, 0⟩,
    ⟨-401320800, 3600⟩, ⟨-386200800, 0⟩, ⟨-369266400, 3600⟩, ⟨-354751200, 0⟩, ⟨-337816800, 3600⟩,
    ⟨-323301600, 0⟩, ⟨-306972000, 3600⟩, ⟨-291852000, 0⟩, ⟨-276732000, 3600⟩, ⟨-257983200, 0⟩,
    ⟨-245282400, 3600⟩, ⟨-226533600, 0⟩, ⟨-213228000, 3600⟩, ⟨-195084000, 0⟩, ⟨-182383200, 3600⟩,
    ⟨-163634400, 0⟩, ⟨-150933600, 3600⟩, ⟨-132184800, 0⟩, ⟨-119484000, 3600⟩, ⟨-100735200, 0⟩,
    ⟨-88034400, 3600⟩, ⟨-68680800, 0⟩, ⟨-59004000, 3600⟩, ⟨57722400, 0⟩, ⟨69818400, 3600⟩,
    ⟨89172000, 0⟩, ⟨101268000, 3600⟩, ⟨120621600, 0⟩, ⟨132717600, 3600⟩, ⟨152071200, 0⟩,
    ⟨164167200, 3600⟩, ⟨183520800, 0⟩, ⟨196221600, 3600⟩, ⟨214970400, 0⟩, ⟨227671200, 3600⟩,
    ⟨246420000, 0⟩, ⟨259120800, 3600⟩, ⟨278474400, 0⟩, ⟨290570400, 3600⟩, ⟨309924000, 0⟩,
    ⟨322020000, 3600⟩, ⟨341373600, 0⟩, ⟨354675600, 3600⟩, ⟨372819600, 0⟩, ⟨386125200, 3600⟩,
    ⟨404269200, 0⟩, ⟨417574800, 3600⟩, ⟨435718800, 0⟩, ⟨449024400, 3600⟩, ⟨467773200, 0⟩,
    ⟨481078800, 3600⟩, ⟨499222800, 0⟩, ⟨512528400, 3600⟩, ⟨530672400, 0⟩, ⟨543978000, 3600⟩,
    ⟨562122000, 0⟩, ⟨575427600, 3600⟩, ⟨593571600, 0⟩, ⟨606877200, 3600⟩, ⟨625626000, 0⟩,
    ⟨638326800, 3600⟩, ⟨657075600, 0⟩, ⟨670381200, 3600⟩, ⟨688525200, 0⟩, ⟨701830800, 3600⟩,
    ⟨719974800, 0⟩, ⟨733280400, 3600⟩, ⟨751424400, 0⟩, ⟨764730000, 3600⟩, ⟨782874000, 0⟩,
    ⟨796179600, 3600⟩, ⟨814323600, 0⟩, ⟨828234000, 3600⟩, ⟨846378000, 0⟩, ⟨859683600, 3600⟩,
    ⟨877827600, 0⟩, ⟨891133200, 3600⟩, ⟨909277200, 0⟩, ⟨922582800, 3600⟩, ⟨941331600, 0⟩,
    ⟨954032400, 3600⟩, ⟨972781200, 0⟩, ⟨985482000, 3600⟩, ⟨1004230800, 0⟩, ⟨1017536400, 3600⟩,
    ⟨1035680400, 0⟩, ⟨1048986000, 3600⟩, ⟨1067130000, 0⟩, ⟨1080435600, 3600⟩, ⟨1099184400, 0⟩,
    ⟨1111885200, 3600⟩, ⟨1130634000, 0⟩, ⟨1143334800, 3600⟩, ⟨1162083600, 0⟩, ⟨1174784400, 3600⟩,
    ⟨1193533200, 0⟩, ⟨1206838800, 3600⟩, ⟨1224982800, 0⟩, ⟨1238288400, 3600⟩, ⟨1256432400, 0⟩,
    ⟨1269738000, 3600⟩, ⟨1288486800, 0⟩, ⟨1301187600, 3600⟩, ⟨1319936400, 0⟩, ⟨1332637200, 3600⟩,
    ⟨1351386000, 0⟩, ⟨1364691600, 3600⟩, ⟨1382835600, 0⟩, ⟨1396141200, 3600⟩, ⟨1414285200, 0⟩,
    ⟨1427590800, 3600⟩, ⟨1445734800, 0⟩, ⟨1459040400, 3600⟩, ⟨1477789200, 0⟩, ⟨1490490000, 3600⟩,
    ⟨1509238800, 0⟩, ⟨1521939600, 3600⟩, ⟨1540688400, 0⟩, ⟨1553994000, 3600⟩, ⟨1572138000, 0⟩,
    ⟨1585443600, 3600⟩, ⟨1603587600, 0⟩, ⟨1616893200, 3600⟩, ⟨1635642000, 0⟩, ⟨1648342800, 3600⟩,
    ⟨1667091600, 0⟩, ⟨1679792400, 3600⟩, ⟨1698541200, 0⟩, ⟨1711846800, 3600⟩, ⟨1729990800, 0⟩,
    ⟨1743296400, 3600⟩, ⟨1761440400, 0⟩, ⟨1774746000, 3600⟩, ⟨1792890000, 0⟩, ⟨1806195600, 3600⟩,
    ⟨1824944400, 0⟩, ⟨1837645200, 3600⟩, ⟨1856394000, 0⟩, ⟨1869094800, 3600⟩, ⟨1887843600, 0⟩,
    ⟨1901149200, 3600⟩, ⟨1919293200, 0⟩, ⟨1932598800, 3600⟩, ⟨1950742800, 0⟩, ⟨1964048400, 3600⟩,
    ⟨1982797200, 0⟩, ⟨1995498000, 3600⟩, ⟨2014246800, 0⟩, ⟨2026947600, 3600⟩, ⟨2045696400, 0⟩,
    ⟨2058397200, 3600⟩, ⟨2077146000, 0⟩, ⟨2090451600, 3600⟩, ⟨2108595600, 0⟩, ⟨2121901200, 3600⟩,
    ⟨2140045200, 0⟩, ⟨2153350800, 3600⟩, ⟨2172099600, 0⟩, ⟨2184800400, 3600⟩, ⟨2203549200, 0⟩,
    ⟨2216250000, 3600⟩, ⟨2234998800, 0⟩, ⟨2248304400, 3600⟩, ⟨2266448400, 0⟩, ⟨2279754000, 3600⟩,
    ⟨2297898000, 0⟩, ⟨2311203600, 3600⟩, ⟨2329347600, 0⟩, ⟨2342653200, 3600⟩, ⟨2361402000, 0⟩,
    ⟨2374102800, 3600⟩, ⟨2392851600, 0⟩, ⟨2405552400, 3600⟩, ⟨2424301200, 0⟩, ⟨2437606800, 3600⟩,
    ⟨2455750800, 0⟩, ⟨2469056400, 3600⟩, ⟨2487200400, 0⟩, ⟨2500506000, 3600⟩, ⟨2519254800, 0⟩,
    ⟨2531955600, 3600⟩, ⟨2550704400, 0⟩, ⟨2563405200, 3600⟩, ⟨2582154000, 0⟩, ⟨2595459600, 3600⟩,
    ⟨2613603600, 0⟩, ⟨2626909200, 3600⟩, ⟨2645053200, 0⟩, ⟨2658358800, 3600⟩, ⟨2676502800, 0⟩,
    ⟨2689808400, 3600⟩, ⟨2708557200, 0⟩, ⟨2721258000, 3600⟩, ⟨2740006800, 0⟩, ⟨2752707600, 3600⟩,
    ⟨2771456400, 0⟩, ⟨2784762000, 3600⟩, ⟨2802906000, 0⟩, ⟨2816211600, 3600⟩, ⟨2834355600, 0⟩,
    ⟨2847661200, 3600⟩, ⟨2866410000, 0⟩, ⟨2879110800, 3600⟩, ⟨2897859600, 0⟩, ⟨2910560400, 3600⟩,
    ⟨2929309200, 0⟩, ⟨2942010000, 3600⟩, ⟨2960758800, 0⟩, ⟨2974064400, 3600⟩, ⟨2992208400, 0⟩,
    ⟨3005514000, 3600⟩, ⟨3023658000, 0⟩, ⟨3036963600, 3600⟩, ⟨3055712400, 0⟩, ⟨3068413200, 3600⟩,
    ⟨3087162000, 0⟩, ⟨3099862800, 3600⟩, ⟨3118611600, 0⟩, ⟨3131917200, 3600⟩, ⟨3150061200, 0⟩,
    ⟨3163366800, 3600⟩, ⟨3181510800, 0⟩, ⟨3194816400, 3600⟩, ⟨3212960400, 0⟩, ⟨3226266000, 3600⟩,
    ⟨3245014800, 0⟩, ⟨3257715600, 3600⟩, ⟨3276464400, 0⟩, ⟨3289165200, 3600⟩, ⟨3307914000, 0⟩,
    ⟨3321219600, 3600⟩, ⟨3339363600, 0⟩, ⟨3352669200, 3600⟩, ⟨3370813200, 0⟩, ⟨3384118800, 3600⟩,
    ⟨3402867600, 0⟩, ⟨3415568400, 3600⟩, ⟨3434317200, 0⟩, ⟨3447018000, 3600⟩, ⟨3465766800, 0⟩,
    ⟨3479072400, 3600⟩, ⟨3497216400, 0⟩, ⟨3510522000, 3600⟩, ⟨3528666000, 0⟩, ⟨3541971600, 3600⟩,
    ⟨3560115600, 0⟩, ⟨3573421200, 3600⟩, ⟨3592170000, 0⟩, ⟨3604870800, 3600⟩, ⟨3623619600, 0⟩,
    ⟨3636320400, 3600⟩, ⟨3655069200, 0⟩, ⟨3668374800, 3600⟩, ⟨3686518800, 0⟩, ⟨3699824400, 3600⟩,
    ⟨3717968400, 0⟩, ⟨3731274000, 3600⟩, ⟨3750022800, 0⟩, ⟨3762723600, 3600⟩, ⟨3781472400, 0⟩,
    ⟨3794173200, 3600⟩, ⟨3812922000, 0⟩, ⟨3825622800, 3600⟩, ⟨3844371600, 0⟩, ⟨3857677200, 3600⟩,
    ⟨3875821200, 0⟩, ⟨3889126800, 3600⟩, ⟨3907270800, 0⟩, ⟨3920576400, 3600⟩, ⟨3939325200, 0⟩,
    ⟨3952026000, 3600⟩, ⟨3970774800, 0⟩, ⟨3983475600, 3600⟩, ⟨4002224400, 0⟩, ⟨4015530000, 3600⟩,
    ⟨4033674000, 0⟩, ⟨4046979600, 3600⟩, ⟨4065123600, 0⟩, ⟨4078429200, 3600⟩, ⟨4096573200, 0⟩]⟩

/-- The offsets of Europe/Paris. -/
def paris : OffsetTable :=
  ⟨561,
   [⟨-1855958961, 0⟩, ⟨-1689814800, 3600⟩, ⟨-1680397200, 0⟩, ⟨-1665363600, 3600⟩,
    ⟨-1648342800, 0⟩, ⟨-1635123600, 3600⟩, ⟨-1616893200, 0⟩, ⟨-1604278800, 3600⟩,
    ⟨-1585443600, 0⟩, ⟨-1574038800, 3600⟩, ⟨-1552266000, 0⟩, ⟨-1539997200, 3600⟩,
    ⟨-1520557200, 0⟩, ⟨-1507510800, 3600⟩, ⟨-1490576400, 0⟩, ⟨-1470618000, 3600⟩,
    ⟨-1459126800, 0⟩, ⟨-1444006800, 3600⟩, ⟨-1427677200, 0⟩, ⟨-1411952400, 3600⟩,
    ⟨-1396227600, 0⟩, ⟨-1379293200, 3600⟩, ⟨-1364778000, 0⟩, ⟨-1348448400, 3600⟩,
    ⟨-1333328400, 0⟩, ⟨-1316394000, 3600⟩, ⟨-1301274000, 0⟩, ⟨-1284339600, 3600⟩,
    ⟨-1269824400, 0⟩, ⟨-1253494800, 3600⟩, ⟨-1238374800, 0⟩, ⟨-1221440400, 3600⟩,
    ⟨-1206925200, 0⟩, ⟨-1191200400, 3600⟩, ⟨-1175475600, 0⟩, ⟨-1160355600, 3600⟩,
    ⟨-1143421200, 0⟩, ⟨-1127696400, 3600⟩, ⟨-1111971600, 0⟩, ⟨-1096851600, 3600⟩,
    ⟨-1080522000, 0⟩, ⟨-1063587600, 3600⟩, ⟨-1049072400, 0⟩, ⟨-1033347600, 3600⟩,
    ⟨-1017622800, 0⟩, ⟨-1002502800, 3600⟩, ⟨-986173200, 0⟩, ⟨-969238800, 3600⟩, ⟨-950490000, 0⟩,
    ⟨-942012000, 3600⟩, ⟨-932436000, 7200⟩, ⟨-857257200, 3600⟩, ⟨-844556400, 7200⟩,
    ⟨-828226800, 3600⟩, ⟨-812502000, 7200⟩, ⟨-796266000, 3600⟩, ⟨-781052400, 7200⟩,
    ⟨-766623600, 3600⟩, ⟨196819200, 7200⟩, ⟨212540400, 3600⟩, ⟨228877200, 7200⟩,
    ⟨243997200, 3600⟩, ⟨260326800, 7200⟩, ⟨276051600, 3600⟩, ⟨291776400, 7200⟩,
    ⟨307501200, 3600⟩, ⟨323830800, 7200⟩, ⟨338950800, 3600⟩, ⟨354675600, 7200⟩,
    ⟨370400400, 3600⟩, ⟨386125200, 7200⟩, ⟨401850000, 3600⟩, ⟨417574800, 7200⟩,
    ⟨433299600, 3600⟩, ⟨449024400, 7200⟩, ⟨465354000, 3600⟩, ⟨481078800, 7200⟩,
    ⟨496803600, 3600⟩, ⟨512528400, 7200⟩, ⟨528253200, 3600⟩, ⟨543978000, 7200⟩,
    ⟨559702800, 3600⟩, ⟨575427600, 7200⟩, ⟨591152400, 3600⟩, ⟨606877200, 7200⟩,
    ⟨622602000, 3600⟩, ⟨638326800, 7200⟩, ⟨654656400, 3600⟩, ⟨670381200, 7200⟩,
    ⟨686106000, 3600⟩, ⟨701830800, 7200⟩, ⟨717555600, 3600⟩, ⟨733280400, 7200⟩,
    ⟨749005200, 3600⟩, ⟨764730000, 7200⟩, ⟨780454800, 3600⟩, ⟨796179600, 7200⟩,
    ⟨811904400, 3600⟩, ⟨828234000, 7200⟩, ⟨846378000, 3600⟩, ⟨859683600, 7200⟩,
    ⟨877827600, 3600⟩, ⟨891133200, 7200⟩, ⟨909277200, 3600⟩, ⟨922582800, 7200⟩,
    ⟨941331600, 3600⟩, ⟨954032400, 7200⟩, ⟨972781200, 3600⟩, ⟨985482000, 7200⟩,
    ⟨1004230800, 3600⟩, ⟨1017536400, 7200⟩, ⟨1035680400, 3600⟩, ⟨1048986000, 7200⟩,
    ⟨1067130000, 3600⟩, ⟨1080435600, 7200⟩, ⟨1099184400, 3600⟩, ⟨1111885200, 7200⟩,
    ⟨1130634000, 3600⟩, ⟨1143334800, 7200⟩, ⟨1162083600, 3600⟩, ⟨1174784400, 7200⟩,
    ⟨1193533200, 3600⟩, ⟨1206838800, 7200⟩, ⟨1224982800, 3600⟩, ⟨1238288400, 7200⟩,
    ⟨1256432400, 3600⟩, ⟨1269738000, 7200⟩, ⟨1288486800, 3600⟩, ⟨1301187600, 7200⟩,
    ⟨1319936400, 3600⟩, ⟨1332637200, 7200⟩, ⟨1351386000, 3600⟩, ⟨1364691600, 7200⟩,
    ⟨1382835600, 3600⟩, ⟨1396141200, 7200⟩, ⟨1414285200, 3600⟩, ⟨1427590800, 7200⟩,
    ⟨1445734800, 3600⟩, ⟨1459040400, 7200⟩, ⟨1477789200, 3600⟩, ⟨1490490000, 7200⟩,
    ⟨1509238800, 3600⟩, ⟨1521939600, 7200⟩, ⟨1540688400, 3600⟩, ⟨1553994000, 7200⟩,
    ⟨1572138000, 3600⟩, ⟨1585443600, 7200⟩, ⟨1603587600, 3600⟩, ⟨1616893200, 7200⟩,
    ⟨1635642000, 3600⟩, ⟨1648342800, 7200⟩, ⟨1667091600, 3600⟩, ⟨1679792400, 7200⟩,
    ⟨1698541200, 3600⟩, ⟨1711846800, 7200⟩, ⟨1729990800, 3600⟩, ⟨1743296400, 7200⟩,
    ⟨1761440400, 3600⟩, ⟨1774746000, 7200⟩, ⟨1792890000, 3600⟩, ⟨1806195600, 7200⟩,
    ⟨1824944400, 3600⟩, ⟨1837645200, 7200⟩, ⟨1856394000, 3600⟩, ⟨1869094800, 7200⟩,
    ⟨1887843600, 3600⟩, ⟨1901149200, 7200⟩, ⟨1919293200, 3600⟩, ⟨1932598800, 7200⟩,
    ⟨1950742800, 3600⟩, ⟨1964048400, 7200⟩, ⟨1982797200, 3600⟩, ⟨1995498000, 7200⟩,
    ⟨2014246800, 3600⟩, ⟨2026947600, 7200⟩, ⟨2045696400, 3600⟩, ⟨2058397200, 7200⟩,
    ⟨2077146000, 3600⟩, ⟨2090451600, 7200⟩, ⟨2108595600, 3600⟩, ⟨2121901200, 7200⟩,
    ⟨2140045200, 3600⟩, ⟨2153350800, 7200⟩, ⟨2172099600, 3600⟩, ⟨2184800400, 7200⟩,
    ⟨2203549200, 3600⟩, ⟨2216250000, 7200⟩, ⟨2234998800, 3600⟩, ⟨2248304400, 7200⟩,
    ⟨2266448400, 3600⟩, ⟨2279754000, 7200⟩, ⟨2297898000, 3600⟩, ⟨2311203600, 7200⟩,
    ⟨2329347600, 3600⟩, ⟨2342653200, 7200⟩, ⟨2361402000, 3600⟩, ⟨2374102800, 7200⟩,
    ⟨2392851600, 3600⟩, ⟨2405552400, 7200⟩, ⟨2424301200, 3600⟩, ⟨2437606800, 7200⟩,
    ⟨2455750800, 3600⟩, ⟨2469056400, 7200⟩, ⟨2487200400, 3600⟩, ⟨2500506000, 7200⟩,
    ⟨2519254800, 3600⟩, ⟨2531955600, 7200⟩, ⟨2550704400, 3600⟩, ⟨2563405200, 7200⟩,
    ⟨2582154000, 3600⟩, ⟨2595459600, 7200⟩, ⟨2613603600, 3600⟩, ⟨2626909200, 7200⟩,
    ⟨2645053200, 3600⟩, ⟨2658358800, 7200⟩, ⟨2676502800, 3600⟩, ⟨2689808400, 7200⟩,
    ⟨2708557200, 3600⟩, ⟨2721258000, 7200⟩, ⟨2740006800, 3600⟩, ⟨2752707600, 7200⟩,
    ⟨2771456400, 3600⟩, ⟨2784762000, 7200⟩, ⟨2802906000, 3600⟩, ⟨2816211600, 7200⟩,
    ⟨2834355600, 3600⟩, ⟨2847661200, 7200⟩, ⟨2866410000, 3600⟩, ⟨2879110800, 7200⟩,
    ⟨2897859600, 3600⟩, ⟨2910560400, 7200⟩, ⟨2929309200, 3600⟩, ⟨2942010000, 7200⟩,
    ⟨2960758800, 3600⟩, ⟨2974064400, 7200⟩, ⟨2992208400, 3600⟩, ⟨3005514000, 7200⟩,
    ⟨3023658000, 3600⟩, ⟨3036963600, 7200⟩, ⟨3055712400, 3600⟩, ⟨3068413200, 7200⟩,
    ⟨3087162000, 3600⟩, ⟨3099862800, 7200⟩, ⟨3118611600, 3600⟩, ⟨3131917200, 7200⟩,
    ⟨3150061200, 3600⟩, ⟨3163366800, 7200⟩, ⟨3181510800, 3600⟩, ⟨3194816400, 7200⟩,
    ⟨3212960400, 3600⟩, ⟨3226266000, 7200⟩, ⟨3245014800, 3600⟩, ⟨3257715600, 7200⟩,
    ⟨3276464400, 3600⟩, ⟨3289165200, 7200⟩, ⟨3307914000, 3600⟩, ⟨3321219600, 7200⟩,
    ⟨3339363600, 3600⟩, ⟨3352669200, 7200⟩, ⟨3370813200, 3600⟩, ⟨3384118800, 7200⟩,
    ⟨3402867600, 3600⟩, ⟨3415568400, 7200⟩, ⟨3434317200, 3600⟩, ⟨3447018000, 7200⟩,
    ⟨3465766800, 3600⟩, ⟨3479072400, 7200⟩, ⟨3497216400, 3600⟩, ⟨3510522000, 7200⟩,
    ⟨3528666000, 3600⟩, ⟨3541971600, 7200⟩, ⟨3560115600, 3600⟩, ⟨3573421200, 7200⟩,
    ⟨3592170000, 3600⟩, ⟨3604870800, 7200⟩, ⟨3623619600, 3600⟩, ⟨3636320400, 7200⟩,
    ⟨3655069200, 3600⟩, ⟨3668374800, 7200⟩, ⟨3686518800, 3600⟩, ⟨3699824400, 7200⟩,
    ⟨3717968400, 3600⟩, ⟨3731274000, 7200⟩, ⟨3750022800, 3600⟩, ⟨3762723600, 7200⟩,
    ⟨3781472400, 3600⟩, ⟨3794173200, 7200⟩, ⟨3812922000, 3600⟩, ⟨3825622800, 7200⟩,
    ⟨3844371600, 3600⟩, ⟨3857677200, 7200⟩, ⟨3875821200, 3600⟩, ⟨3889126800, 7200⟩,
    ⟨3907270800, 3600⟩, ⟨3920576400, 7200⟩, ⟨3939325200, 3600⟩, ⟨3952026000, 7200⟩,
    ⟨3970774800, 3600⟩, ⟨3983475600, 7200⟩, ⟨4002224400, 3600⟩, ⟨4015530000, 7200⟩,
    ⟨4033674000, 3600⟩, ⟨4046979600, 7200⟩, ⟨4065123600, 3600⟩, ⟨4078429200, 7200⟩,
    ⟨4096573200, 3600⟩]⟩

end Recurrence.Zone.Tables
